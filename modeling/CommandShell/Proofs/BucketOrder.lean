import CommandShell.Proofs.Buckets
import Mathlib.Data.List.Induction
import Mathlib.Data.List.Nodup

/-!
Bucket order as a stable sort. Each parameter belongs to one of four buckets, and bucket order
is the only list that has the buckets one after the other and each of them in declaration
order. It is what four passes over the declaration grow, where a pass appends what it wants
and no earlier pass has taken: with distinct names a parameter is taken by the first pass that
wants it, and the last pass wants all, so none slips between two passes.
-/
namespace CommandShell.BucketOrder

open Draws

inductive Bucket where
  | marked
  | required
  | optionalScalar
  | optionalVariadic
deriving DecidableEq

def Bucket.place : Bucket → Nat
  | .marked => 0
  | .required => 1
  | .optionalScalar => 2
  | .optionalVariadic => 3

theorem Bucket.place_injective {a b : Bucket} (h : a.place = b.place) : a = b := by
  cases a <;> cases b <;> first | rfl | cases h

/-- The bucket of a parameter; a required one may be a scalar or a variadic. -/
def bucket (c : Classified) (p : Param) : Bucket :=
  if c.isNamed p then .marked
  else if !p.optional then .required
  else if !p.variadic then .optionalScalar
  else .optionalVariadic

/-- The parameters of one bucket, in the order of the list. -/
def inBucket (c : Classified) (ps : List Param) (b : Bucket) : List Param :=
  ps.filter fun p => bucket c p = b

/-- The parameters of a declaration, neither lost nor repeated, by buckets and in each bucket
as they were declared. -/
structure ByBuckets (c : Classified) (ps qs : List Param) : Prop where
  perm : qs.Perm ps
  sorted : qs.Pairwise fun p q => (bucket c p).place ≤ (bucket c q).place
  stable : ∀ b, inBucket c qs b = inBucket c ps b

/-- One pass appends what it wants and what is not taken yet; a parameter is known by its
name. -/
def pass (ps taken : List Param) (wants : Param → Bool) : List Param :=
  taken ++ ps.filter fun p => wants p && !taken.any fun q => q.name == p.name

def grown (ps : List Param) (passes : List (Param → Bool)) : List Param :=
  passes.foldl (pass ps) []

/-- The marked parameters, then the required ones, then the scalars, then the rest. -/
def passes (c : Classified) : List (Param → Bool) :=
  [fun p => c.isNamed p, fun p => !p.optional, fun p => !p.variadic, fun _ => true]

section Sorted

variable (c : Classified) {ps qs : List Param}

theorem mem_inBucket {b : Bucket} {p : Param} : p ∈ inBucket c ps b ↔ p ∈ ps ∧ bucket c p = b := by
  rw [inBucket, List.mem_filter, decide_eq_true_eq]

theorem bucket_eq_iff {p : Param} {b : Bucket} :
    bucket c p = b ↔ match b with
      | .marked => c.isNamed p = true
      | .required => c.isNamed p = false ∧ p.optional = false
      | .optionalScalar => c.isNamed p = false ∧ p.optional = true ∧ p.variadic = false
      | .optionalVariadic => c.isNamed p = false ∧ p.optional = true ∧ p.variadic = true := by
  cases hn : c.isNamed p <;> cases ho : p.optional <;> cases hv : p.variadic <;>
    cases b <;> simp [bucket, hn, ho, hv]

theorem order_eq_inBucket (ps : List Param) :
    c.order ps = inBucket c ps .marked ++ inBucket c ps .required ++
      inBucket c ps .optionalScalar ++ inBucket c ps .optionalVariadic := by
  simp only [Classified.order, inBucket, bucket_eq_iff, Bool.decide_and, Bool.decide_eq_true,
    Bool.decide_eq_false, Bool.and_assoc]

/-- A bucket of a bucket is itself or nothing. -/
theorem inBucket_inBucket (ps : List Param) (a b : Bucket) :
    inBucket c (inBucket c ps a) b = if a = b then inBucket c ps b else [] := by
  split
  case isTrue heq =>
    rw [heq, inBucket, List.filter_eq_self]
    exact fun p hp => decide_eq_true ((mem_inBucket c).mp hp).2
  case isFalse hne =>
    rw [inBucket, List.filter_eq_nil_iff]
    intro p hp hb
    exact hne (((mem_inBucket c).mp hp).2.symm.trans (of_decide_eq_true hb))

theorem byBuckets_order (ps : List Param) : ByBuckets c ps (c.order ps) := by
  constructor
  case perm => exact Buckets.order_perm c ps
  case sorted =>
    have hinner (b : Bucket) : (inBucket c ps b).Pairwise fun p q =>
        (bucket c p).place ≤ (bucket c q).place :=
      List.pairwise_of_forall_mem_list fun p hp q hq => by
        exact Nat.le_of_eq (by rw [((mem_inBucket c).mp hp).2, ((mem_inBucket c).mp hq).2])
    rw [order_eq_inBucket]
    simp only [List.pairwise_append, hinner, List.mem_append, mem_inBucket, true_and]
    grind [Bucket.place]
  case stable =>
    intro b
    have happend (xs ys : List Param) :
        inBucket c (xs ++ ys) b = inBucket c xs b ++ inBucket c ys b := List.filter_append ..
    rw [order_eq_inBucket]
    simp only [happend, inBucket_inBucket]
    cases b <;> simp

theorem mem_iff_of_inBucket_eq (h : ∀ b, inBucket c ps b = inBucket c qs b) (p : Param) :
    p ∈ ps ↔ p ∈ qs := by
  have hp : p ∈ inBucket c ps (bucket c p) ↔ p ∈ inBucket c qs (bucket c p) := by rw [h]
  simpa only [mem_inBucket, and_true] using hp

theorem inBucket_cons (p : Param) (ps : List Param) (b : Bucket) :
    inBucket c (p :: ps) b =
      if bucket c p = b then p :: inBucket c ps b else inBucket c ps b := by
  simp only [inBucket, List.filter_cons, decide_eq_true_eq]

/-- Lists that are sorted by buckets are equal when each of their buckets is. -/
theorem eq_of_inBucket_eq
    (hps : ps.Pairwise fun p q => (bucket c p).place ≤ (bucket c q).place)
    (hqs : qs.Pairwise fun p q => (bucket c p).place ≤ (bucket c q).place)
    (h : ∀ b, inBucket c ps b = inBucket c qs b) : ps = qs := by
  induction ps generalizing qs with
  | nil =>
    cases qs with
    | nil => rfl
    | cons q qs => cases (mem_iff_of_inBucket_eq c h q).mpr List.mem_cons_self
  | cons p ps ih =>
    cases qs with
    | nil => cases (mem_iff_of_inBucket_eq c h p).mp List.mem_cons_self
    | cons q qs =>
      obtain ⟨hp, hpsrest⟩ := List.pairwise_cons.mp hps
      obtain ⟨hq, hqsrest⟩ := List.pairwise_cons.mp hqs
      -- each head stands in the other list, behind its head or as its head
      have hle : (bucket c p).place ≤ (bucket c q).place := by
        rcases List.mem_cons.mp ((mem_iff_of_inBucket_eq c h q).mpr List.mem_cons_self) with
          rfl | hmem
        · exact Nat.le_refl _
        · exact hp q hmem
      have hge : (bucket c q).place ≤ (bucket c p).place := by
        rcases List.mem_cons.mp ((mem_iff_of_inBucket_eq c h p).mp List.mem_cons_self) with
          rfl | hmem
        · exact Nat.le_refl _
        · exact hq p hmem
      have hbucket : bucket c p = bucket c q := Bucket.place_injective (Nat.le_antisymm hle hge)
      have hfirst := h (bucket c q)
      rw [inBucket_cons, inBucket_cons, if_pos hbucket, if_pos rfl] at hfirst
      obtain rfl : p = q := (List.cons.inj hfirst).1
      have hrest (b : Bucket) : inBucket c ps b = inBucket c qs b := by
        have hb := h b
        rw [inBucket_cons, inBucket_cons] at hb
        split at hb
        · exact (List.cons.inj hb).2
        · exact hb
      rw [ih hpsrest hqsrest hrest]

theorem byBuckets_iff : ByBuckets c ps qs ↔ qs = c.order ps := by
  constructor
  · intro h
    have horder := byBuckets_order c ps
    exact eq_of_inBucket_eq c h.sorted horder.sorted
      fun b => (h.stable b).trans (horder.stable b).symm
  · rintro rfl
    exact byBuckets_order c ps

end Sorted

section Passes

variable {ps : List Param} (hnodup : (ps.map fun p => p.name).Nodup)

theorem grown_concat_eq_pass (before : List (Param → Bool)) (wants : Param → Bool) :
    grown ps (before ++ [wants]) = pass ps (grown ps before) wants := by
  rw [grown, List.foldl_concat, grown]

include hnodup

/-- Names tell whether a parameter is taken. -/
theorem any_name_iff {taken : List Param} (htaken : ∀ q ∈ taken, q ∈ ps) {p : Param}
    (hp : p ∈ ps) : (taken.any fun q => q.name == p.name) = true ↔ p ∈ taken := by
  simp only [List.any_eq_true, beq_iff_eq]
  constructor
  · rintro ⟨q, hq, hname⟩
    rwa [← List.inj_on_of_nodup_map hnodup (htaken q hq) hp hname]
  · exact fun hmem => ⟨p, hmem, rfl⟩

/-- After some passes the parameters that one of them wants are taken. -/
theorem mem_grown (before : List (Param → Bool)) (p : Param) :
    p ∈ grown ps before ↔ p ∈ ps ∧ (before.any fun wants => wants p) = true := by
  induction before using List.reverseRecOn generalizing p with
  | nil => simp [grown]
  | append_singleton before wants ih =>
    have htaken : ∀ q ∈ grown ps before, q ∈ ps := fun q hq => ((ih q).mp hq).1
    rw [grown_concat_eq_pass, pass, List.mem_append, List.mem_filter, List.any_append,
      List.any_cons, List.any_nil, Bool.or_false, Bool.or_eq_true, Bool.and_eq_true,
      Bool.not_eq_true', ← Bool.not_eq_true]
    constructor
    · rintro (hmem | ⟨hp, hwants, -⟩)
      · exact ⟨htaken p hmem, Or.inl ((ih p).mp hmem).2⟩
      · exact ⟨hp, Or.inr hwants⟩
    · rintro ⟨hp, hwanted⟩
      by_cases hmem : p ∈ grown ps before
      · exact Or.inl hmem
      · have hearlier : ¬ (before.any fun wants => wants p) = true :=
          fun hany => hmem ((ih p).mpr ⟨hp, hany⟩)
        refine Or.inr ⟨hp, hwanted.resolve_left hearlier, ?_⟩
        rwa [any_name_iff hnodup htaken hp]

/-- A pass adds what it wants and no pass before it did. -/
theorem grown_concat (before : List (Param → Bool)) (wants : Param → Bool) :
    grown ps (before ++ [wants]) =
      grown ps before ++ ps.filter fun p => wants p && !before.any fun wanted => wanted p := by
  rw [grown_concat_eq_pass, pass]
  congr 1
  apply List.filter_congr
  intro p hp
  congr 2
  rw [Bool.eq_iff_iff, any_name_iff hnodup (fun q hq => ((mem_grown hnodup before q).mp hq).1) hp,
    mem_grown hnodup, and_iff_right hp]

theorem order_eq_grown (c : Classified) : c.order ps = grown ps (passes c) := by
  have hsteps : passes c = [] ++ [fun p => c.isNamed p] ++ [fun p => !p.optional] ++
      [fun p => !p.variadic] ++ [fun _ => true] := rfl
  rw [hsteps]
  simp only [grown_concat hnodup]
  simp [grown, Classified.order, Bool.and_comm, Bool.and_left_comm, Bool.and_assoc]

end Passes

/-- Bucket order is what the passes grow, and the only list by buckets. -/
theorem order_by_buckets (c : Classified) {ps : List Param}
    (h : (ps.map fun p => p.name).Nodup) :
    c.order ps = grown ps (passes c) ∧ ∀ qs, ByBuckets c ps qs ↔ qs = c.order ps :=
  ⟨order_eq_grown h c, fun _ => byBuckets_iff c⟩

/-- A parameter for each bucket, and a second optional scalar. -/
def connection : List Param := [
  plain "relays" true true (by decide), plain "port" true false (by decide),
  plain "keys" true true (by decide), plain "user" true false (by decide),
  plain "host" false false (by decide)]

def keysLine : Classified := .ofTokens ["--keys", "old", "new"]

theorem connection_by_buckets :
    (connection.map fun p => p.name).Nodup ∧
      ((keysLine.order connection).map fun p => p.name) =
        ["keys", "host", "port", "user", "relays"] ∧
      keysLine.order connection = grown connection (passes keysLine) ∧
      ∀ qs, ByBuckets keysLine connection qs ↔ qs = keysLine.order connection := by
  have hnodup : (connection.map fun p => p.name).Nodup := by simp [connection, plain]
  exact ⟨hnodup, by decide, order_by_buckets keysLine hnodup⟩

end CommandShell.BucketOrder
