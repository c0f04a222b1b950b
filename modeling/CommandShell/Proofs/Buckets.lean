import CommandShell.Proofs.Draws
import Mathlib.Algebra.BigOperators.Group.List.Basic
import Mathlib.Algebra.GroupWithZero.Nat

/-!
The buckets in which parameters draw. Marked parameters come first and advance
the cursor by a width that no positional value changes. The open ones follow:
scalars read the positional values one by one, and the first variadic takes all
that are left, so that the parameters after it find none.
-/
namespace CommandShell.Buckets

open Draws

variable (c : Classified)

/-- The parameters whose marker was given. -/
def marked (c : Classified) (ps : List Param) : List Param := ps.filter fun p => c.isNamed p

def required (c : Classified) (ps : List Param) : List Param :=
  ps.filter fun p => !c.isNamed p && !p.optional

def requiredScalars (c : Classified) (ps : List Param) : List Param :=
  (required c ps).filter fun p => !p.variadic

def requiredVariadics (c : Classified) (ps : List Param) : List Param :=
  (required c ps).filter fun p => p.variadic

def optionalScalars (c : Classified) (ps : List Param) : List Param :=
  ps.filter fun p => !c.isNamed p && p.optional && !p.variadic

def optionalVariadics (c : Classified) (ps : List Param) : List Param :=
  ps.filter fun p => !c.isNamed p && p.optional && p.variadic

/-- The parameters without a marker, in bucket order. -/
def unmarked (c : Classified) (ps : List Param) : List Param :=
  required c ps ++ (optionalScalars c ps ++ optionalVariadics c ps)

/-- How far the marker of a parameter moves the cursor. -/
def width (c : Classified) (p : Param) : Nat :=
  match c.named.lookup p.name with
  | some values => if p.variadic then values.length else 1
  | none => 0

def markedWidth (c : Classified) (ps : List Param) : Nat := (ps.map (width c)).sum

theorem order_eq (ps : List Param) : c.order ps = marked c ps ++ unmarked c ps := by
  simp only [Classified.order, marked, unmarked, required, optionalScalars, optionalVariadics,
    List.append_assoc]

theorem isNamed_of_mem_marked {ps : List Param} {p : Param} (h : p ∈ marked c ps) :
    c.isNamed p = true := (List.mem_filter.mp h).2

theorem mem_unmarked {ps : List Param} {p : Param} :
    p ∈ unmarked c ps ↔ p ∈ ps ∧ c.isNamed p = false := by
  cases hn : c.isNamed p <;> cases ho : p.optional <;> cases hv : p.variadic <;>
    simp [unmarked, required, optionalScalars, optionalVariadics, hn, ho, hv]

theorem mem_required {ps : List Param} {p : Param} :
    p ∈ required c ps ↔ p ∈ ps ∧ c.isNamed p = false ∧ p.optional = false := by
  simp [required]

theorem mem_requiredScalars {ps : List Param} {p : Param} :
    p ∈ requiredScalars c ps ↔
      p ∈ ps ∧ c.isNamed p = false ∧ p.optional = false ∧ p.variadic = false := by
  simp [requiredScalars, mem_required, and_assoc]

theorem mem_requiredVariadics {ps : List Param} {p : Param} :
    p ∈ requiredVariadics c ps ↔
      p ∈ ps ∧ c.isNamed p = false ∧ p.optional = false ∧ p.variadic = true := by
  simp [requiredVariadics, mem_required, and_assoc]

theorem mem_optionalScalars {ps : List Param} {p : Param} :
    p ∈ optionalScalars c ps ↔
      p ∈ ps ∧ c.isNamed p = false ∧ p.optional = true ∧ p.variadic = false := by
  simp [optionalScalars, and_assoc]

theorem mem_optionalVariadics {ps : List Param} {p : Param} :
    p ∈ optionalVariadics c ps ↔
      p ∈ ps ∧ c.isNamed p = false ∧ p.optional = true ∧ p.variadic = true := by
  simp [optionalVariadics, and_assoc]

/-- Bucket order neither loses nor repeats a parameter. -/
theorem order_perm (ps : List Param) : (c.order ps).Perm ps := by
  let others := ps.filter fun p => !c.isNamed p
  have hrequired : required c ps = others.filter fun p => !p.optional := by
    simp only [required, others, List.filter_filter, Bool.and_comm]
  have hscalars : optionalScalars c ps =
      (others.filter fun p => !!p.optional).filter fun p => !p.variadic := by
    simp only [optionalScalars, others, List.filter_filter, Bool.not_not, Bool.and_comm,
      Bool.and_left_comm]
  have hvariadics : optionalVariadics c ps =
      (others.filter fun p => !!p.optional).filter fun p => !!p.variadic := by
    simp only [optionalVariadics, others, List.filter_filter, Bool.not_not, Bool.and_comm,
      Bool.and_left_comm]
  have hothers : (unmarked c ps).Perm others := by
    rw [unmarked, hrequired, hscalars, hvariadics]
    exact ((List.filter_append_perm _ _).append_left _).trans (List.filter_append_perm _ _)
  rw [order_eq]
  exact (hothers.append_left _).trans (List.filter_append_perm _ _)

section Marked

theorem advance_marked {qs : List Param} (h : ∀ p ∈ qs, c.isNamed p = true) (k : Nat) :
    advance c k qs = k + markedWidth c qs := by
  induction qs generalizing k with
  | nil => rfl
  | cons p rest ih =>
    obtain ⟨hp, hrest⟩ := List.forall_mem_cons.mp h
    have hnext : (c.draw p k).2 = k + width c p := by
      obtain ⟨values, hvalues⟩ := Option.isSome_iff_exists.mp hp
      cases hv : p.variadic <;> cases values <;> simp [Classified.draw, width, hvalues, hv]
    rw [advance, ih hrest, hnext, markedWidth, markedWidth, List.map_cons, List.sum_cons]
    omega

/-- What a marked parameter draws does not depend on the cursor. -/
theorem draws_marked {qs : List Param} (h : ∀ p ∈ qs, c.isNamed p = true) (k : Nat) :
    draws c k qs = qs.map fun p => (p, (c.draw p 0).1) := by
  induction qs generalizing k with
  | nil => rfl
  | cons p rest ih =>
    obtain ⟨hp, hrest⟩ := List.forall_mem_cons.mp h
    have hdraw : (c.draw p k).1 = (c.draw p 0).1 := by
      obtain ⟨values, hvalues⟩ := Option.isSome_iff_exists.mp hp
      cases hv : p.variadic <;> cases values <;> simp [Classified.draw, hvalues, hv]
    rw [draws, ih hrest, hdraw, List.map_cons]

/-- Parameters without a marker add nothing to the width. -/
theorem markedWidth_marked (ps : List Param) : markedWidth c (marked c ps) = markedWidth c ps := by
  induction ps with
  | nil => rfl
  | cons p rest ih =>
    cases hn : c.isNamed p with
    | true => simpa [marked, markedWidth, hn] using ih
    | false =>
      have hw : width c p = 0 := by
        have hnone : c.named.lookup p.name = none := by simpa [Classified.isNamed] using hn
        simp [width, hnone]
      simpa [marked, markedWidth, hn, hw] using ih

/-- What the marked parameters draw, wherever the cursor stands. -/
def markedDraws (c : Classified) (ps : List Param) : List (Param × Draw) :=
  (marked c ps).map fun p => (p, (c.draw p 0).1)

/-- A marked parameter is never missing, though it may stay unbound. -/
theorem firstMissing_markedDraws (ps : List Param) : firstMissing (markedDraws c ps) = none := by
  rw [firstMissing, Option.map_eq_none_iff, List.find?_eq_none]
  intro e he
  obtain ⟨p, hp, rfl⟩ := List.mem_map.mp he
  obtain ⟨values, hvalues⟩ := Option.isSome_iff_exists.mp (isNamed_of_mem_marked c hp)
  cases hv : p.variadic <;> cases values <;> simp [isMissing, Classified.draw, hvalues, hv]

/-- In bucket order the marked parameters draw first, and the others behind their width. -/
theorem draws_order (ps : List Param) :
    draws c 0 (c.order ps) =
      markedDraws c ps ++ draws c (markedWidth c ps) (unmarked c ps) := by
  have hnamed : ∀ p ∈ marked c ps, c.isNamed p = true := fun p hp => isNamed_of_mem_marked c hp
  rw [order_eq, draws_append, draws_marked c hnamed, advance_marked c hnamed, Nat.zero_add,
    markedWidth_marked, markedDraws]

theorem advance_order (ps : List Param) :
    advance c 0 (c.order ps) = advance c (markedWidth c ps) (unmarked c ps) := by
  rw [order_eq, advance_append, advance_marked c fun p hp => isNamed_of_mem_marked c hp,
    Nat.zero_add, markedWidth_marked]

end Marked

/-- What an open scalar draws at a place where this value stands, or none. -/
def scalarDraw (p : Param) : Option String → Draw
  | some value => .raw (.one value)
  | none => if p.optional then .unbound else .missing

def OpenScalar (c : Classified) (p : Param) : Prop := c.isNamed p = false ∧ p.variadic = false

theorem draw_scalar {p : Param} (h : OpenScalar c p) (k : Nat) :
    c.draw p k = (scalarDraw p c.positional[k]?,
      if k < c.positional.length then k + 1 else k) := by
  have hnone : c.named.lookup p.name = none := by simpa [Classified.isNamed] using h.1
  by_cases hk : k < c.positional.length
  · simp [Classified.draw, hnone, h.2, scalarDraw, hk]
  · simp [Classified.draw, hnone, h.2, scalarDraw, hk]

theorem draw_variadic {p : Param} (hn : c.isNamed p = false) (hv : p.variadic = true) (k : Nat) :
    c.draw p k = (.raw (.many (c.positional.drop k)), c.positional.length) := by
  have hnone : c.named.lookup p.name = none := by simpa [Classified.isNamed] using hn
  simp [Classified.draw, hnone, hv]

section Scalars

variable {ss : List Param}

/-- A run of open scalars reads the positional values one by one. -/
theorem getElem?_draws_scalars (h : ∀ p ∈ ss, OpenScalar c p) (k i : Nat) :
    (draws c k ss)[i]? = ss[i]?.map fun p => (p, scalarDraw p c.positional[k + i]?) := by
  induction ss generalizing k i with
  | nil => rfl
  | cons p rest ih =>
    obtain ⟨hp, hrest⟩ := List.forall_mem_cons.mp h
    rw [draws, draw_scalar c hp]
    cases i with
    | zero => rfl
    | succ i =>
      rw [List.getElem?_cons_succ, List.getElem?_cons_succ, ih hrest]
      by_cases hk : k < c.positional.length
      · rw [if_pos hk, show k + 1 + i = k + (i + 1) by omega]
      · -- past the end the cursor stays, and nothing stands at either place
        rw [if_neg hk, List.getElem?_eq_none (show c.positional.length ≤ k + i by omega),
          List.getElem?_eq_none (show c.positional.length ≤ k + (i + 1) by omega)]

theorem advance_scalars (h : ∀ p ∈ ss, OpenScalar c p) (k : Nat) :
    advance c k ss =
      if k + ss.length ≤ c.positional.length then k + ss.length
      else max k c.positional.length := by
  induction ss generalizing k with
  | nil =>
    simp only [advance, List.length_nil, Nat.add_zero]
    split <;> omega
  | cons p rest ih =>
    obtain ⟨hp, hrest⟩ := List.forall_mem_cons.mp h
    rw [advance, draw_scalar c hp, ih hrest, List.length_cons]
    by_cases hk : k < c.positional.length
    · simp only [if_pos hk]
      split <;> split <;> omega
    · simp only [if_neg hk]
      split <;> split <;> omega

/-- After open scalars the same positional values are left as if each had read one. -/
theorem drop_advance_scalars (h : ∀ p ∈ ss, OpenScalar c p) (k : Nat) :
    c.positional.drop (advance c k ss) = c.positional.drop (k + ss.length) := by
  rw [advance_scalars c h]
  split
  · rfl
  · rw [List.drop_eq_nil_of_le (by omega), List.drop_eq_nil_of_le (by omega)]

end Scalars

section Open

variable {qs : List Param}

theorem advance_full (h : ∀ p ∈ qs, c.isNamed p = false) :
    advance c c.positional.length qs = c.positional.length := by
  induction qs with
  | nil => rfl
  | cons p rest ih =>
    obtain ⟨hp, hrest⟩ := List.forall_mem_cons.mp h
    cases hv : p.variadic with
    | true => rw [advance, draw_variadic c hp hv, ih hrest]
    | false => rw [advance, draw_scalar c ⟨hp, hv⟩, if_neg (Nat.lt_irrefl _), ih hrest]

/-- Behind the last positional value scalars find none and variadics take nothing. -/
theorem draws_full (h : ∀ p ∈ qs, c.isNamed p = false) :
    draws c c.positional.length qs = qs.map fun p =>
      (p, if p.variadic then .raw (.many []) else scalarDraw p none) := by
  induction qs with
  | nil => rfl
  | cons p rest ih =>
    obtain ⟨hp, hrest⟩ := List.forall_mem_cons.mp h
    cases hv : p.variadic with
    | true => rw [draws, draw_variadic c hp hv, ih hrest]; simp [hv]
    | false =>
      rw [draws, draw_scalar c ⟨hp, hv⟩, if_neg (Nat.lt_irrefl _), ih hrest]
      simp [hv]

/-- Once a variadic has drawn, the cursor is behind the last positional value. -/
theorem advance_of_variadic (h : ∀ p ∈ qs, c.isNamed p = false)
    (hv : ∃ p ∈ qs, p.variadic = true) (k : Nat) : advance c k qs = c.positional.length := by
  obtain ⟨p, hp, hvp⟩ := hv
  obtain ⟨before, after, rfl⟩ := List.append_of_mem hp
  rw [advance_append, advance, draw_variadic c (h p hp) hvp]
  exact advance_full c fun q hq => h q (by simp [hq])

variable {ss : List Param}

theorem mem_draws_scalar (hs : ∀ p ∈ ss, OpenScalar c p) (k : Nat) {i : Nat} {p : Param}
    (hi : ss[i]? = some p) : (p, scalarDraw p c.positional[k + i]?) ∈ draws c k (ss ++ qs) := by
  rw [draws_append]
  apply List.mem_append_left
  apply List.mem_of_getElem?
  rw [getElem?_draws_scalars c hs, hi, Option.map_some]

/-- The first variadic takes what the scalars before it left. -/
theorem mem_draws_first_variadic (hs : ∀ p ∈ ss, OpenScalar c p) {v : Param}
    (hn : c.isNamed v = false) (hv : v.variadic = true) (k : Nat) :
    (v, .raw (.many (c.positional.drop (k + ss.length)))) ∈ draws c k (ss ++ v :: qs) := by
  rw [draws_append, draws, draw_variadic c hn hv, drop_advance_scalars c hs]
  exact List.mem_append_right _ (List.mem_cons_self ..)

theorem mem_draws_after_variadic (h : ∀ p ∈ qs, c.isNamed p = false) {v : Param}
    (hn : c.isNamed v = false) (hv : v.variadic = true) (k : Nat) {q : Param} (hq : q ∈ qs) :
    (q, if q.variadic then .raw (.many []) else scalarDraw q none) ∈
      draws c k (ss ++ v :: qs) := by
  rw [draws_append, draws, draw_variadic c hn hv, draws_full c h]
  exact List.mem_append_right _
    (List.mem_cons_of_mem _ (List.mem_map.mpr ⟨q, hq, rfl⟩))

end Open

section Shift

variable {c d : Classified} {before : List String}
  (hpositional : c.positional = before ++ d.positional)

include hpositional

theorem draw_shift {p : Param} (hc : c.isNamed p = false) (hd : d.isNamed p = false) (k : Nat) :
    c.draw p (before.length + k) = ((d.draw p k).1, before.length + (d.draw p k).2) := by
  have hlength : c.positional.length = before.length + d.positional.length := by
    rw [hpositional, List.length_append]
  cases hv : p.variadic with
  | true =>
    have hdrop : c.positional.drop (before.length + k) = d.positional.drop k := by
      rw [hpositional, List.drop_length_add_append]
    rw [draw_variadic c hc hv, draw_variadic d hd hv, hdrop, hlength]
  | false =>
    have hvalue : c.positional[before.length + k]? = d.positional[k]? := by
      rw [hpositional, List.getElem?_append_right (Nat.le_add_right _ _), Nat.add_sub_cancel_left]
    rw [draw_scalar c ⟨hc, hv⟩, draw_scalar d ⟨hd, hv⟩, hvalue, hlength]
    by_cases hk : k < d.positional.length
    · rw [if_pos hk, if_pos (by omega), Nat.add_assoc]
    · rw [if_neg hk, if_neg (by omega)]

/-- Behind values that are used up, open parameters draw as if the rest stood alone. -/
theorem draws_shift {qs : List Param} (hc : ∀ p ∈ qs, c.isNamed p = false)
    (hd : ∀ p ∈ qs, d.isNamed p = false) (k : Nat) :
    draws c (before.length + k) qs = draws d k qs ∧
      advance c (before.length + k) qs = before.length + advance d k qs := by
  induction qs generalizing k with
  | nil => exact ⟨rfl, rfl⟩
  | cons p rest ih =>
    obtain ⟨hcp, hcrest⟩ := List.forall_mem_cons.mp hc
    obtain ⟨hdp, hdrest⟩ := List.forall_mem_cons.mp hd
    have hdraw := draw_shift hpositional hcp hdp k
    obtain ⟨hdraws, hadvance⟩ := ih hcrest hdrest (d.draw p k).2
    simp only [draws, advance, hdraw, hdraws, hadvance, and_self]

end Shift

end CommandShell.Buckets
