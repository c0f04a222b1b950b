import CommandShell.Proofs.Acceptance

/-!
Binding in closed form. Each open scalar reads the positional value at its rank
behind the width of the markers, the first variadic takes what the scalars leave,
and a later one takes nothing. With the counts that decide acceptance this gives
the outcome of binding without following the cursor.
-/
namespace CommandShell.ClosedForm

open Draws Buckets Acceptance

variable (c : Classified)

/-- The variadics without a marker, in bucket order. -/
def openVariadics (c : Classified) (ps : List Param) : List Param :=
  requiredVariadics c ps ++ optionalVariadics c ps

/-- What a scalar is bound to from a place where this value stands, or none. -/
def Reads (t : Table Value) (p : Param) : Option String → Prop
  | some value => Holds t p (.one value)
  | none => t.get? p.name = none

/-- Where the values of an accepted line go. -/
structure Placed (c : Classified) (ps : List Param) (t : Table Value) : Prop where
  marked_variadic : ∀ p ∈ ps, p.variadic = true → ∀ group,
    c.named.lookup p.name = some group → Holds t p (.many group)
  marked_scalar : ∀ p ∈ ps, p.variadic = false → ∀ group,
    c.named.lookup p.name = some group → Reads t p group.head?
  required_scalar : ∀ i p, (requiredScalars c ps)[i]? = some p →
    ∃ value, c.positional[markedWidth c ps + i]? = some value ∧ Holds t p (.one value)
  optional_scalar : requiredVariadics c ps = [] → ∀ j p, (optionalScalars c ps)[j]? = some p →
    Reads t p c.positional[markedWidth c ps + (requiredScalars c ps).length + j]?
  optional_starved : requiredVariadics c ps ≠ [] → ∀ p ∈ optionalScalars c ps,
    t.get? p.name = none
  first_variadic : ∀ v ∈ (openVariadics c ps).head?,
    Holds t v (.many (c.positional.drop (markedWidth c ps + (requiredScalars c ps).length +
      if requiredVariadics c ps = [] then (optionalScalars c ps).length else 0)))
  later_variadic : ∀ v ∈ (openVariadics c ps).tail, Holds t v (.many [])
  keys_order : t.keys.Sublist ((c.order ps).map fun p => p.name)

/-- A prefix as long as the filtered list is the filtered list. -/
theorem eq_filter_append_of_length_le {β : Type} (f : β → Bool) (l : List β)
    (h : (l.filter f).length ≤ (l.takeWhile f).length) :
    l = l.filter f ++ l.filter fun b => !f b := by
  induction l with
  | nil => rfl
  | cons b rest ih =>
    cases hb : f b with
    | true =>
      have hrest : (rest.filter f).length ≤ (rest.takeWhile f).length := by simpa [hb] using h
      simpa [hb] using ih hrest
    | false =>
      have hnone : rest.filter f = [] := by simpa [hb] using h
      have hall : (rest.filter fun b => !f b) = rest := by
        apply List.filter_eq_self.mpr
        intro d hd
        simpa using List.filter_eq_nil_iff.mp hnone d hd
      simp [hb, hnone, hall]

/-- When every required scalar is served, none stands behind a required variadic. -/
theorem required_eq_of_served {ps : List Param} (h : unserved c ps = none) :
    required c ps = requiredScalars c ps ++ requiredVariadics c ps := by
  have hle := ((unserved_eq_none_iff c ps).mp h).1
  simpa [requiredScalars, requiredVariadics] using
    eq_filter_append_of_length_le (fun p : Param => !p.variadic) (required c ps) hle

theorem mem_draws_order_marked {ps : List Param} {p : Param} (hp : p ∈ ps)
    (hn : c.isNamed p = true) : (p, (c.draw p 0).1) ∈ draws c 0 (c.order ps) := by
  rw [draws_order]
  exact List.mem_append_left _ (List.mem_map.mpr ⟨p, List.mem_filter.mpr ⟨hp, hn⟩, rfl⟩)

theorem mem_draws_order_open {ps : List Param} {e : Param × Draw}
    (he : e ∈ draws c (markedWidth c ps) (unmarked c ps)) : e ∈ draws c 0 (c.order ps) := by
  rw [draws_order]
  exact List.mem_append_right _ he

theorem openScalar_of_mem {ps : List Param} {p : Param}
    (hp : p ∈ requiredScalars c ps ++ optionalScalars c ps) : OpenScalar c p := by
  rcases List.mem_append.mp hp with hp | hp
  · obtain ⟨_, hn, _, hv⟩ := (mem_requiredScalars c).mp hp
    exact ⟨hn, hv⟩
  · obtain ⟨_, hn, _, hv⟩ := (mem_optionalScalars c).mp hp
    exact ⟨hn, hv⟩

theorem unmarked_eq_of_no_required_variadic {ps : List Param} (h : requiredVariadics c ps = []) :
    unmarked c ps = (requiredScalars c ps ++ optionalScalars c ps) ++ optionalVariadics c ps := by
  rw [unmarked, requiredScalars_eq_required c h, List.append_assoc]

theorem unmarked_eq_of_required_variadic {ps : List Param} (hserved : unserved c ps = none)
    {v : Param} {rest : List Param} (h : requiredVariadics c ps = v :: rest) :
    unmarked c ps = requiredScalars c ps ++
      v :: (rest ++ (optionalScalars c ps ++ optionalVariadics c ps)) := by
  rw [unmarked, required_eq_of_served c hserved, h, List.append_assoc, List.cons_append]

section Drawn

variable {ps : List Param}

theorem mem_draws_required (hserved : unserved c ps = none) {i : Nat} {p : Param}
    (hi : (requiredScalars c ps)[i]? = some p) :
    (p, scalarDraw p c.positional[markedWidth c ps + i]?) ∈ draws c 0 (c.order ps) := by
  apply mem_draws_order_open
  rw [unmarked, required_eq_of_served c hserved, List.append_assoc]
  exact mem_draws_scalar c (fun q hq => openScalar_of_mem c (List.mem_append_left _ hq)) _ hi

theorem mem_draws_optional (h : requiredVariadics c ps = []) {j : Nat} {p : Param}
    (hj : (optionalScalars c ps)[j]? = some p) :
    (p, scalarDraw p c.positional[markedWidth c ps + (requiredScalars c ps).length + j]?) ∈
      draws c 0 (c.order ps) := by
  apply mem_draws_order_open
  rw [unmarked_eq_of_no_required_variadic c h, Nat.add_assoc]
  apply mem_draws_scalar c fun q hq => openScalar_of_mem c hq
  rw [List.getElem?_append_right (Nat.le_add_right _ _), Nat.add_sub_cancel_left]
  exact hj

/-- Behind a required variadic nothing is left. -/
theorem mem_draws_behind_required (hserved : unserved c ps = none) {v : Param}
    {rest : List Param} (h : requiredVariadics c ps = v :: rest) {q : Param}
    (hq : q ∈ rest ++ (optionalScalars c ps ++ optionalVariadics c ps)) :
    (q, if q.variadic then .raw (.many []) else scalarDraw q none) ∈ draws c 0 (c.order ps) := by
  have hunmarked := unmarked_eq_of_required_variadic c hserved h
  obtain ⟨_, hn, _, hv⟩ := (mem_requiredVariadics c).mp (h ▸ List.mem_cons_self ..)
  have hopen : ∀ p ∈ rest ++ (optionalScalars c ps ++ optionalVariadics c ps),
      c.isNamed p = false := by
    intro p hp
    have hmem : p ∈ unmarked c ps := by
      rw [hunmarked]
      exact List.mem_append_right _ (List.mem_cons_of_mem _ hp)
    exact ((mem_unmarked c).mp hmem).2
  apply mem_draws_order_open
  rw [hunmarked]
  exact mem_draws_after_variadic c hopen hn hv _ hq

theorem mem_draws_first (hserved : unserved c ps = none) {v : Param}
    (hv : v ∈ (openVariadics c ps).head?) :
    (v, .raw (.many (c.positional.drop (markedWidth c ps + (requiredScalars c ps).length +
      if requiredVariadics c ps = [] then (optionalScalars c ps).length else 0)))) ∈
      draws c 0 (c.order ps) := by
  apply mem_draws_order_open
  cases hrequired : requiredVariadics c ps with
  | nil =>
    rw [openVariadics, hrequired, List.nil_append] at hv
    obtain ⟨rest, hrest⟩ := List.head?_eq_some_iff.mp hv
    obtain ⟨_, hn, _, hvariadic⟩ :=
      (mem_optionalVariadics c).mp (hrest ▸ List.mem_cons_self ..)
    rw [unmarked_eq_of_no_required_variadic c hrequired, hrest, if_pos rfl, Nat.add_assoc,
      ← List.length_append]
    exact mem_draws_first_variadic c (fun q hq => openScalar_of_mem c hq) hn hvariadic _
  | cons w rest =>
    rw [openVariadics, hrequired] at hv
    obtain rfl : w = v := by simpa using hv
    obtain ⟨_, hn, _, hvariadic⟩ :=
      (mem_requiredVariadics c).mp (hrequired ▸ List.mem_cons_self ..)
    rw [unmarked_eq_of_required_variadic c hserved hrequired, if_neg (List.cons_ne_nil _ _),
      Nat.add_zero]
    exact mem_draws_first_variadic c
      (fun q hq => openScalar_of_mem c (List.mem_append_left _ hq)) hn hvariadic _

theorem mem_draws_later (hserved : unserved c ps = none) {v : Param}
    (hv : v ∈ (openVariadics c ps).tail) :
    (v, .raw (.many [])) ∈ draws c 0 (c.order ps) := by
  cases hrequired : requiredVariadics c ps with
  | nil =>
    rw [openVariadics, hrequired, List.nil_append] at hv
    obtain ⟨w, rest, hrest⟩ := List.exists_cons_of_ne_nil
      (show optionalVariadics c ps ≠ [] by rintro hnil; simp [hnil] at hv)
    rw [hrest, List.tail_cons] at hv
    have hopen : ∀ q ∈ w :: rest, c.isNamed q = false ∧ q.variadic = true := by
      intro q hq
      obtain ⟨_, hn, _, hvariadic⟩ := (mem_optionalVariadics c).mp (hrest ▸ hq)
      exact ⟨hn, hvariadic⟩
    obtain ⟨hn, hvariadic⟩ := hopen w (List.mem_cons_self ..)
    have hrestOpen : ∀ q ∈ rest, c.isNamed q = false :=
      fun q hq => (hopen q (List.mem_cons_of_mem _ hq)).1
    apply mem_draws_order_open
    rw [unmarked_eq_of_no_required_variadic c hrequired, hrest]
    have hmem : (v, if v.variadic then .raw (.many []) else scalarDraw v none) ∈
        draws c (markedWidth c ps)
          ((requiredScalars c ps ++ optionalScalars c ps) ++ w :: rest) :=
      mem_draws_after_variadic c hrestOpen hn hvariadic _ hv
    rwa [if_pos (hopen v (List.mem_cons_of_mem _ hv)).2] at hmem
  | cons w rest =>
    rw [openVariadics, hrequired, List.cons_append, List.tail_cons] at hv
    have hvariadic : v.variadic = true := by
      rcases List.mem_append.mp hv with hv | hv
      · exact ((mem_requiredVariadics c).mp (hrequired ▸ List.mem_cons_of_mem _ hv)).2.2.2
      · exact ((mem_optionalVariadics c).mp hv).2.2.2
    have hbehind : v ∈ rest ++ (optionalScalars c ps ++ optionalVariadics c ps) := by
      simp only [List.mem_append] at hv ⊢
      rcases hv with hv | hv
      · exact Or.inl hv
      · exact Or.inr (Or.inr hv)
    have hmem := mem_draws_behind_required c hserved hrequired hbehind
    rwa [if_pos hvariadic] at hmem

end Drawn

theorem names_draws_order_nodup {ps : List Param} (h : (ps.map fun p => p.name).Nodup) :
    ((draws c 0 (c.order ps)).map fun e => e.1.name).Nodup := by
  rw [map_name_draws]
  exact ((order_perm c ps).map _).nodup_iff.mpr h

variable {ps : List Param} {t : Table Value}

theorem missing_notMem (h : settle (draws c 0 (c.order ps)) = .ok t) (p : Param) :
    (p, Draw.missing) ∉ draws c 0 (c.order ps) := by
  intro hmem
  have hnone := Option.map_eq_none_iff.mp (firstMissing_of_settle h)
  exact List.find?_eq_none.mp hnone _ hmem rfl

theorem reads_of_settle (hnodup : (ps.map fun p => p.name).Nodup)
    (h : settle (draws c 0 (c.order ps)) = .ok t) {p : Param} {value : Option String}
    (hmem : (p, scalarDraw p value) ∈ draws c 0 (c.order ps)) : Reads t p value := by
  cases value with
  | some value =>
    exact holds_of_settle (names_draws_order_nodup c hnodup) h hmem (isMany_of_mem_draws c hmem)
  | none =>
    cases ho : p.optional with
    | true =>
      rw [scalarDraw, ho] at hmem
      exact unbound_of_settle (names_draws_order_nodup c hnodup) h hmem
    | false =>
      rw [scalarDraw, ho] at hmem
      exact absurd hmem (missing_notMem c h p)

theorem holds_of_mem (hnodup : (ps.map fun p => p.name).Nodup)
    (h : settle (draws c 0 (c.order ps)) = .ok t) {p : Param} {raw : Raw}
    (hmem : (p, .raw raw) ∈ draws c 0 (c.order ps)) : Holds t p raw :=
  holds_of_settle (names_draws_order_nodup c hnodup) h hmem (isMany_of_mem_draws c hmem)

/-- Every value of a settled list stands where the buckets put it. -/
theorem placed_of_settle (hnodup : (ps.map fun p => p.name).Nodup)
    (h : settle (draws c 0 (c.order ps)) = .ok t) : Placed c ps t := by
  have hserved : unserved c ps = none := by
    rw [← firstMissing_order]
    exact firstMissing_of_settle h
  constructor
  case marked_variadic =>
    intro p hp hv group hgroup
    have hmem := mem_draws_order_marked c hp (by simp [Classified.isNamed, hgroup])
    simp only [Classified.draw, hgroup, hv, if_true] at hmem
    exact holds_of_mem c hnodup h hmem
  case marked_scalar =>
    intro p hp hv group hgroup
    have hmem := mem_draws_order_marked c hp (by simp [Classified.isNamed, hgroup])
    cases group with
    | nil =>
      simp only [Classified.draw, hgroup, hv] at hmem
      exact unbound_of_settle (names_draws_order_nodup c hnodup) h hmem
    | cons value rest =>
      simp only [Classified.draw, hgroup, hv] at hmem
      exact holds_of_mem c hnodup h hmem
  case required_scalar =>
    intro i p hi
    have hmem := mem_draws_required c hserved hi
    obtain ⟨_, _, ho, _⟩ := (mem_requiredScalars c).mp (List.mem_of_getElem? hi)
    cases hvalue : c.positional[markedWidth c ps + i]? with
    | none =>
      simp only [hvalue, scalarDraw, ho] at hmem
      exact absurd hmem (missing_notMem c h p)
    | some value =>
      rw [hvalue] at hmem
      exact ⟨value, rfl, holds_of_mem c hnodup h hmem⟩
  case optional_scalar =>
    intro hnone j p hj
    exact reads_of_settle c hnodup h (mem_draws_optional c hnone hj)
  case optional_starved =>
    intro hne p hp
    obtain ⟨v, rest, hrequired⟩ := List.exists_cons_of_ne_nil hne
    have hmem := mem_draws_behind_required c hserved hrequired
      (List.mem_append_right _ (List.mem_append_left _ hp))
    obtain ⟨_, _, ho, hv⟩ := (mem_optionalScalars c).mp hp
    simp only [hv, scalarDraw, ho] at hmem
    exact unbound_of_settle (names_draws_order_nodup c hnodup) h hmem
  case first_variadic =>
    intro v hv
    exact holds_of_mem c hnodup h (mem_draws_first c hserved hv)
  case later_variadic =>
    intro v hv
    exact holds_of_mem c hnodup h (mem_draws_later c hserved hv)
  case keys_order =>
    rw [keys_of_settle h, ← map_name_draws c 0 (c.order ps)]
    exact List.filter_sublist.map _

variable {α : Type}

/-- Binding is decided by counts, and every value has its place. -/
theorem bind_closed_form (o : Overload α) (c : Classified)
    (h : ∀ p ∈ o.params, NeverRefuses p) :
    AcceptedBy c o.params (∃ b, o.bind c = .ok b) ∧
      (∀ b, o.bind c = .ok b → Placed c o.params b.params) ∧
      ∀ m, o.bind c = .error m → m = ⟨o.help, verdict c o.params⟩ := by
  refine ⟨?_, ?_, ?_⟩
  · rw [exists_bind_iff h]
    exact acceptedBy_served c o.params
  · intro b hb
    obtain ⟨t, ht, _, rfl⟩ := bind_eq_ok_iff.mp hb
    exact placed_of_settle c o.params_nodup ht
  · intro m hm
    exact bind_eq_verdict h hm

/-- Copies files, the last of them in any number, in a mode that a marker may give. -/
def copy : Overload Unit where
  help := "Copies files."
  params := [
    plain "rest" true true (by decide +kernel), plain "source" false false (by decide +kernel),
    plain "target" true false (by decide +kernel), plain "mode" true false (by decide +kernel)]
  flags := []
  action := none
  params_nodup := by simp [plain]
  flags_nodup := List.nodup_nil

def copyLine : Classified := .ofTokens ["--mode", "fast", "x", "y", "z"]

theorem copy_closed_form :
    (∀ p ∈ copy.params, NeverRefuses p) ∧
      ∃ b, copy.bind copyLine = .ok b ∧ Placed copyLine copy.params b.params := by
  have hidentity : ∀ p ∈ copy.params, NeverRefuses p := by
    intro p hp
    apply neverRefuses_of_identity
    simp only [copy, List.mem_cons, List.not_mem_nil, or_false] at hp
    rcases hp with rfl | rfl | rfl | rfl <;> rfl
  have hoptional : ∀ p ∈ copy.params, copyLine.isNamed p = false → p.variadic = true →
      p.optional = true := by
    intro p hp _ hv
    simp only [copy, List.mem_cons, List.not_mem_nil, or_false] at hp
    rcases hp with rfl | rfl | rfl | rfl
    · rfl
    all_goals cases hv
  obtain ⟨haccepted, hplaced, _⟩ := bind_closed_form copy copyLine hidentity
  have hwidth : markedWidth copyLine copy.params + (requiredScalars copyLine copy.params).length ≤
      copyLine.positional.length := by decide +kernel
  obtain ⟨b, hb⟩ := (haccepted.optional_variadic
    ⟨_, List.mem_cons_self .., rfl, rfl⟩ hoptional).mpr (Or.inr hwidth)
  exact ⟨hidentity, b, hb, hplaced b hb⟩

end CommandShell.ClosedForm
