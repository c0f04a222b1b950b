import CommandShell.Proofs.Buckets
import Mathlib.Data.List.TakeWhile

/-!
When binding succeeds, for parsers that never refuse. Markers use up a width of
the positional values, whatever stands there. The open required scalars are then
served one by one, but none behind a required variadic. So counts alone decide
between acceptance, a missing value, and a cursor that ends at the wrong place.
-/
namespace CommandShell.Acceptance

open Draws Buckets

variable (c : Classified)

/-- The first open required scalar that is not served: there is no value for it,
or a required variadic before it takes all. -/
def unserved (c : Classified) (ps : List Param) : Option Param :=
  (requiredScalars c ps)[min ((required c ps).takeWhile fun p => !p.variadic).length
    (c.positional.length - markedWidth c ps)]?

/-- Why an overload is rejected when no parser refuses. -/
def verdict (c : Classified) (ps : List Param) : Rejection :=
  match unserved c ps with
  | some p => .missing p.name
  | none =>
      if c.positional.length < markedWidth c ps then
        .surplus (markedWidth c ps - c.positional.length)
      else .leftover
        (markedWidth c ps + (requiredScalars c ps).length + (optionalScalars c ps).length + 1)

section Missing

variable {qs : List Param}

theorem firstMissing_required (h : ∀ p ∈ qs, c.isNamed p = false ∧ p.optional = false) (k : Nat) :
    firstMissing (draws c k qs) =
      (qs.filter fun p => !p.variadic)[min (qs.takeWhile fun p => !p.variadic).length
        (c.positional.length - k)]? := by
  induction qs generalizing k with
  | nil => rfl
  | cons p rest ih =>
    obtain ⟨⟨hn, ho⟩, hrest⟩ := List.forall_mem_cons.mp h
    rw [draws, firstMissing_cons]
    cases hv : p.variadic with
    | true =>
      rw [draw_variadic c hn hv, ih hrest]
      simp [isMissing, hv]
    | false =>
      rw [draw_scalar c ⟨hn, hv⟩]
      by_cases hk : k < c.positional.length
      · have hserved : c.positional.length - k = c.positional.length - (k + 1) + 1 := by omega
        rw [if_pos hk, ih hrest, hserved]
        simp [isMissing, scalarDraw, hk, hv, Nat.add_min_add_right]
      · have hnone : c.positional.length - k = 0 := by omega
        simp [isMissing, scalarDraw, hk, hv, ho, hnone]

theorem firstMissing_optional (h : ∀ p ∈ qs, c.isNamed p = false ∧ p.optional = true) (k : Nat) :
    firstMissing (draws c k qs) = none := by
  induction qs generalizing k with
  | nil => rfl
  | cons p rest ih =>
    obtain ⟨⟨hn, ho⟩, hrest⟩ := List.forall_mem_cons.mp h
    rw [draws, firstMissing_cons, ih hrest]
    cases hv : p.variadic with
    | true => simp [draw_variadic c hn hv, isMissing]
    | false =>
      rw [draw_scalar c ⟨hn, hv⟩]
      cases hvalue : c.positional[k]? <;> simp [isMissing, scalarDraw, ho]

theorem firstMissing_order (ps : List Param) :
    firstMissing (draws c 0 (c.order ps)) = unserved c ps := by
  have hrequired : ∀ p ∈ required c ps, c.isNamed p = false ∧ p.optional = false :=
    fun p hp => ((mem_required c).mp hp).2
  have hoptional : ∀ p ∈ optionalScalars c ps ++ optionalVariadics c ps,
      c.isNamed p = false ∧ p.optional = true := by
    intro p hp
    rcases List.mem_append.mp hp with hp | hp
    · obtain ⟨_, hn, ho, _⟩ := (mem_optionalScalars c).mp hp
      exact ⟨hn, ho⟩
    · obtain ⟨_, hn, ho, _⟩ := (mem_optionalVariadics c).mp hp
      exact ⟨hn, ho⟩
  rw [draws_order, firstMissing_append, firstMissing_markedDraws, Option.none_or, unmarked,
    draws_append, firstMissing_append, firstMissing_optional c hoptional, Option.or_none,
    firstMissing_required c hrequired]
  rfl

theorem unserved_eq_none_iff (ps : List Param) :
    unserved c ps = none ↔
      (requiredScalars c ps).length ≤ ((required c ps).takeWhile fun p => !p.variadic).length ∧
      ((requiredScalars c ps).length = 0 ∨
        markedWidth c ps + (requiredScalars c ps).length ≤ c.positional.length) := by
  rw [unserved, List.getElem?_eq_none_iff]
  omega

end Missing

section Cursor

theorem advance_order_of_variadic {ps : List Param}
    (hv : ∃ p ∈ ps, c.isNamed p = false ∧ p.variadic = true) :
    advance c 0 (c.order ps) = c.positional.length := by
  obtain ⟨p, hp, hn, hvp⟩ := hv
  rw [advance_order]
  exact advance_of_variadic c (fun q hq => ((mem_unmarked c).mp hq).2)
    ⟨p, (mem_unmarked c).mpr ⟨hp, hn⟩, hvp⟩ _

theorem requiredScalars_eq_required {ps : List Param} (h : requiredVariadics c ps = []) :
    requiredScalars c ps = required c ps := by
  apply List.filter_eq_self.mpr
  intro p hp
  have hnot := List.filter_eq_nil_iff.mp h p hp
  simpa using hnot

theorem advance_order_of_scalars {ps : List Param}
    (hs : ∀ p ∈ ps, c.isNamed p = false → p.variadic = false) :
    advance c 0 (c.order ps) =
      if markedWidth c ps + (requiredScalars c ps).length + (optionalScalars c ps).length ≤
          c.positional.length
      then markedWidth c ps + (requiredScalars c ps).length + (optionalScalars c ps).length
      else max (markedWidth c ps) c.positional.length := by
  have hrequired : requiredVariadics c ps = [] := by
    apply List.eq_nil_iff_forall_not_mem.mpr
    intro p hp
    obtain ⟨hmem, hn, _, hv⟩ := (mem_requiredVariadics c).mp hp
    simp [hs p hmem hn] at hv
  have hoptional : optionalVariadics c ps = [] := by
    apply List.eq_nil_iff_forall_not_mem.mpr
    intro p hp
    obtain ⟨hmem, hn, _, hv⟩ := (mem_optionalVariadics c).mp hp
    simp [hs p hmem hn] at hv
  have hscalars : ∀ p ∈ unmarked c ps, OpenScalar c p := by
    intro p hp
    obtain ⟨hmem, hn⟩ := (mem_unmarked c).mp hp
    exact ⟨hn, hs p hmem hn⟩
  have hlength : (unmarked c ps).length =
      (requiredScalars c ps).length + (optionalScalars c ps).length := by
    rw [requiredScalars_eq_required c hrequired, unmarked, hoptional, List.append_nil,
      List.length_append]
  rw [advance_order, advance_scalars c hscalars, hlength, Nat.add_assoc]

end Cursor

section Outcome

variable {α : Type} {c : Classified} {o : Overload α}

theorem exists_bind_iff (h : ∀ p ∈ o.params, NeverRefuses p) :
    (∃ b, o.bind c = .ok b) ↔
      unserved c o.params = none ∧ advance c 0 (c.order o.params) = c.positional.length := by
  have hparses := parses_draws c (fun p hp => h p ((order_perm c o.params).mem_iff.mp hp)) 0
  simp only [bind_eq_ok_iff]
  rw [← firstMissing_order]
  constructor
  · rintro ⟨b, t, hsettle, hcursor, rfl⟩
    exact ⟨firstMissing_of_settle hsettle, hcursor⟩
  · rintro ⟨hnone, hcursor⟩
    obtain ⟨t, hsettle⟩ := exists_settle hparses hnone
    exact ⟨_, t, hsettle, hcursor, rfl⟩

theorem bind_eq_verdict (h : ∀ p ∈ o.params, NeverRefuses p) {m : Mismatch}
    (hm : o.bind c = .error m) : m = ⟨o.help, verdict c o.params⟩ := by
  have hparses := parses_draws c (fun p hp => h p ((order_perm c o.params).mem_iff.mp hp)) 0
  rcases bind_eq_error_iff.mp hm with ⟨r, hr, rfl⟩ | ⟨t, r, ht, hr, rfl⟩
  · cases hfirst : firstMissing (draws c 0 (c.order o.params)) with
    | none =>
      obtain ⟨t, ht⟩ := exists_settle hparses hfirst
      rw [hr] at ht
      cases ht
    | some p =>
      rw [settle_eq_missing hparses hfirst] at hr
      obtain rfl := Except.error.inj hr
      rw [firstMissing_order] at hfirst
      simp [verdict, hfirst]
  · have hnone : unserved c o.params = none := by
      rw [← firstMissing_order]
      exact firstMissing_of_settle ht
    have hserved := ((unserved_eq_none_iff c o.params).mp hnone).2
    -- a variadic would have taken all that was left
    have hscalars : ∀ p ∈ o.params, c.isNamed p = false → p.variadic = false := by
      intro p hp hn
      by_contra hv
      have hv : p.variadic = true := by simpa using hv
      rw [advance_order_of_variadic c ⟨p, hp, hn, hv⟩, checkCursor_eq_ok_iff.mpr rfl] at hr
      cases hr
    rw [advance_order_of_scalars c hscalars] at hr
    have hr' : r = verdict c o.params := by
      simp only [verdict, hnone]
      unfold Classified.checkCursor at hr
      split at hr
      · split at hr
        · obtain rfl := Except.error.inj hr
          rw [if_neg (by omega)]
        · split at hr
          · omega
          · cases hr
      · split at hr
        · omega
        · split at hr
          · obtain rfl := Except.error.inj hr
            rw [if_pos (by omega)]
            congr 1
            omega
          · cases hr
    rw [hr']

end Outcome

/-- When a line is accepted: no variadic lacks a marker, or all that lack one are
optional, or there is a first required one among them. -/
structure AcceptedBy (c : Classified) (ps : List Param) (accepted : Prop) : Prop where
  scalars_only : (∀ p ∈ ps, c.isNamed p = false → p.variadic = false) →
    (accepted ↔
      markedWidth c ps + (requiredScalars c ps).length ≤ c.positional.length ∧
      c.positional.length ≤
        markedWidth c ps + (requiredScalars c ps).length + (optionalScalars c ps).length)
  optional_variadic : (∃ p ∈ ps, c.isNamed p = false ∧ p.variadic = true) →
    (∀ p ∈ ps, c.isNamed p = false → p.variadic = true → p.optional = true) →
    (accepted ↔ (requiredScalars c ps).length = 0 ∨
      markedWidth c ps + (requiredScalars c ps).length ≤ c.positional.length)
  required_variadic : ∀ before v after, ps = before ++ v :: after →
    c.isNamed v = false → v.optional = false → v.variadic = true →
    (∀ p ∈ before, c.isNamed p = false → p.variadic = true → p.optional = true) →
    (accepted ↔
      (∀ p ∈ after, c.isNamed p = false → p.optional = false → p.variadic = true) ∧
      ((requiredScalars c before).length = 0 ∨
        markedWidth c ps + (requiredScalars c before).length ≤ c.positional.length))

theorem scalar_of_mem_required {ps : List Param}
    (h : ∀ p ∈ ps, c.isNamed p = false → p.variadic = true → p.optional = true) :
    ∀ p ∈ required c ps, (!p.variadic) = true := by
  intro p hp
  obtain ⟨hmem, hn, ho⟩ := (mem_required c).mp hp
  cases hv : p.variadic with
  | false => rfl
  | true => simp [h p hmem hn hv] at ho

theorem takeWhile_required {ps : List Param} (h : ∀ p ∈ required c ps, (!p.variadic) = true) :
    ((required c ps).takeWhile fun p => !p.variadic) = requiredScalars c ps := by
  rw [List.takeWhile_eq_self_iff.mpr h, requiredScalars, List.filter_eq_self.mpr h]

theorem acceptedBy_served (ps : List Param) :
    AcceptedBy c ps
      (unserved c ps = none ∧ advance c 0 (c.order ps) = c.positional.length) := by
  constructor
  case scalars_only =>
    intro hs
    have hall : ∀ p ∈ required c ps, (!p.variadic) = true :=
      scalar_of_mem_required c fun p hp hn hv => absurd (hs p hp hn) (by simp [hv])
    rw [unserved_eq_none_iff, takeWhile_required c hall, advance_order_of_scalars c hs]
    split <;> omega
  case optional_variadic =>
    intro hexists hoptional
    rw [unserved_eq_none_iff, takeWhile_required c (scalar_of_mem_required c hoptional),
      advance_order_of_variadic c hexists]
    omega
  case required_variadic =>
    intro before v after hps hn ho hv hbefore
    have hexists : ∃ p ∈ ps, c.isNamed p = false ∧ p.variadic = true :=
      ⟨v, by simp [hps], hn, hv⟩
    have hrequired : required c ps = required c before ++ v :: required c after := by
      simp [required, hps, hn, ho]
    have hscalars : requiredScalars c ps = requiredScalars c before ++ requiredScalars c after := by
      simp [requiredScalars, hrequired, hv]
    have hall : ∀ p ∈ required c before, (!p.variadic) = true := scalar_of_mem_required c hbefore
    have hprefix : ((required c ps).takeWhile fun p => !p.variadic) = requiredScalars c before := by
      rw [hrequired, List.takeWhile_append_of_pos hall, List.takeWhile_cons_of_neg (by simp [hv]),
        List.append_nil, requiredScalars, List.filter_eq_self.mpr hall]
    have hafter : (∀ p ∈ after, c.isNamed p = false → p.optional = false → p.variadic = true) ↔
        (requiredScalars c after).length = 0 := by
      rw [List.length_eq_zero_iff, requiredScalars, List.filter_eq_nil_iff]
      simp only [mem_required, and_imp, Bool.not_eq_true', Bool.not_eq_false]
    rw [unserved_eq_none_iff, hprefix, hscalars, List.length_append, hafter,
      advance_order_of_variadic c hexists]
    omega

end CommandShell.Acceptance
