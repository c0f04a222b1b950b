import CommandShell.Proofs.Buckets

/-!
What parsers have a say in. An overload whose parameters all keep their raw values is
bound or rejected by the tokens alone. With parsers, every value still goes to the same
parameter: a parser may change what the parameter is bound to, or reject the overload,
but nothing else. The first parser that refuses in bucket order decides, provided that
no value was missing before it.
-/
namespace CommandShell.RawBindings

open Draws Buckets

/-- The parameter with the identity for its parser. -/
def unparsed (p : Param) : Param := { p with parser := Parser.identity }

variable {α : Type}

def withoutParsers (o : Overload α) : Overload α :=
  { o with
    params := o.params.map unparsed
    params_nodup := by
      rw [List.map_map]
      exact o.params_nodup }

/-- What each parameter finds, in bucket order. -/
def assignment (o : Overload α) (c : Classified) : List (Param × Draw) :=
  draws c 0 (c.order o.params)

/-- The raw values that are found, each under the name of its parameter. -/
def rawEntries (ds : List (Param × Draw)) : Table Value :=
  ds.filterMap fun e =>
    match e.2 with
    | .raw raw => some (e.1.name, raw.toValue)
    | _ => none

/-- The parser takes what its parameter finds, if that is a value. -/
def Accepts (e : Param × Draw) : Prop :=
  ∀ raw, e.2 = .raw raw → ∃ v, e.1.parser raw.toValue = .ok v

/-- The mismatch names the first parameter whose parser refuses, and says why it does. -/
def RefusedFirst (ds : List (Param × Draw)) (m : Mismatch) : Prop :=
  ∃ before p raw after failure, ds = before ++ (p, .raw raw) :: after ∧
    (∀ e ∈ before, Accepts e) ∧ p.parser raw.toValue = .error failure ∧
    m.code = .parserFailure ∧ m.param? = some p.name ∧ m.failure? = some failure

/-- An entry that a parser of one of these parameters makes of a raw entry. -/
def ParsedEntry (ps : List Param) (raw bound : String × Value) : Prop :=
  raw.1 = bound.1 ∧ ∃ p ∈ ps, p.name = raw.1 ∧ p.parser raw.2 = .ok bound.2

/-- What becomes of an overload, given what becomes of it without its parsers. -/
inductive Follows (o : Overload α) (c : Classified) :
    (raw parsed : Except Mismatch (Binding α)) → Prop
  | bound {b₀ b : Binding α} (found : b₀.params = rawEntries (assignment o c))
      (accepted : ∀ e ∈ assignment o c, Accepts e)
      (params : List.Forall₂ (ParsedEntry o.params) b₀.params b.params)
      (flags : b.flags = b₀.flags) (overload : b.overload = o) : Follows o c (.ok b₀) (.ok b)
  | refused {b₀ : Binding α} {m : Mismatch} (found : b₀.params = rawEntries (assignment o c))
      (first : RefusedFirst (assignment o c) m) : Follows o c (.ok b₀) (.error m)
  | missing {m₀ m : Mismatch} {before after : List (Param × Draw)} {p : Param}
      (code : m₀.code = .missingValue) (param : m₀.param? = some p.name)
      (stop : assignment o c = before ++ (p, .missing) :: after)
      (outcome : RefusedFirst before m ∨ (∀ e ∈ before, Accepts e) ∧ m = m₀) :
      Follows o c (.error m₀) (.error m)
  | leftover {m₀ m : Mismatch} (code : m₀.code = .unparsedTokens)
      (outcome : RefusedFirst (assignment o c) m ∨
        (∀ e ∈ assignment o c, Accepts e) ∧ m = m₀) :
      Follows o c (.error m₀) (.error m)

/-- Parameters take values of their own shape, one text or several. -/
def Shaped (ds : List (Param × Draw)) : Prop :=
  ∀ p raw, (p, .raw raw) ∈ ds → isMany raw = p.variadic

theorem shaped_assignment (o : Overload α) (c : Classified) : Shaped (assignment o c) :=
  fun _ _ he => isMany_of_mem_draws c he

section Routing

variable (c : Classified)

theorem order_unparsed (ps : List Param) :
    c.order (ps.map unparsed) = (c.order ps).map unparsed := by
  simp only [Classified.order, List.filter_map, List.map_append]
  rfl

/-- The entry of a parameter without its parser. -/
def strip (e : Param × Draw) : Param × Draw := (unparsed e.1, e.2)

/-- Where values go depends on names and kinds of parameters, which no parser changes. -/
theorem draws_unparsed (k : Nat) (ps : List Param) :
    draws c k (ps.map unparsed) = (draws c k ps).map strip := by
  induction ps generalizing k with
  | nil => rfl
  | cons p rest ih =>
    rw [List.map_cons, draws, draws, List.map_cons, ih]
    rfl

theorem advance_unparsed (k : Nat) (ps : List Param) :
    advance c k (ps.map unparsed) = advance c k ps := by
  induction ps generalizing k with
  | nil => rfl
  | cons p rest ih =>
    rw [List.map_cons, advance, advance, ih]
    rfl

theorem assignment_withoutParsers (o : Overload α) :
    assignment (withoutParsers o) c = (assignment o c).map strip := by
  rw [assignment, withoutParsers, order_unparsed, draws_unparsed, assignment]

end Routing

section Settle

variable {ds : List (Param × Draw)}

theorem parse_unparsed {p : Param} {raw : Raw} (h : isMany raw = p.variadic) :
    (unparsed p).parse raw.toValue = .ok raw.toValue :=
  parse_of_identity rfl h

theorem Shaped.tail {e : Param × Draw} (h : Shaped (e :: ds)) : Shaped ds :=
  fun p raw he => h p raw (List.mem_cons_of_mem e he)

theorem settle_strip (hshaped : Shaped ds) (hnone : firstMissing ds = none) :
    settle (ds.map strip) = .ok (rawEntries ds) := by
  induction ds with
  | nil => rfl
  | cons e rest ih =>
    obtain ⟨hpresent, hnonerest⟩ := firstMissing_cons_eq_none_iff.mp hnone
    have hrest := ih hshaped.tail hnonerest
    obtain ⟨p, d⟩ := e
    cases d with
    | missing => cases hpresent
    | unbound => exact hrest
    | raw raw =>
      have hparse := parse_unparsed (hshaped p raw List.mem_cons_self)
      exact settle_raw_eq_ok_iff.mpr ⟨_, _, hparse, hrest, rfl⟩

theorem RefusedFirst.cons {e : Param × Draw} {m : Mismatch} (h : RefusedFirst ds m)
    (he : Accepts e) : RefusedFirst (e :: ds) m := by
  obtain ⟨before, p, raw, after, failure, rfl, hbefore, hrest⟩ := h
  exact ⟨e :: before, p, raw, after, failure, rfl, List.forall_mem_cons.mpr ⟨he, hbefore⟩, hrest⟩

/-- Where nothing is missing, either every parser accepts or the first that refuses decides. -/
theorem settle_cases (hshaped : Shaped ds) (hnone : firstMissing ds = none) {ps : List Param}
    (hps : ∀ e ∈ ds, e.1 ∈ ps) :
    ((∀ e ∈ ds, Accepts e) ∧ ∃ t, settle ds = .ok t ∧
      List.Forall₂ (ParsedEntry ps) (rawEntries ds) t) ∨
    ∃ r, settle ds = .error r ∧ ∀ help, RefusedFirst ds ⟨help, r⟩ := by
  induction ds with
  | nil => exact Or.inl ⟨by simp, [], rfl, .nil⟩
  | cons e rest ih =>
    obtain ⟨hp, hpsrest⟩ := List.forall_mem_cons.mp hps
    obtain ⟨hpresent, hnonerest⟩ := firstMissing_cons_eq_none_iff.mp hnone
    have hrest := ih hshaped.tail hnonerest hpsrest
    obtain ⟨p, d⟩ := e
    cases d with
    | missing => cases hpresent
    | unbound =>
      have hself : Accepts (p, .unbound) := fun raw hraw => by cases hraw
      rcases hrest with ⟨haccepts, t, ht, hparsed⟩ | ⟨r, hr, hfirst⟩
      · exact Or.inl ⟨List.forall_mem_cons.mpr ⟨hself, haccepts⟩, t, ht, hparsed⟩
      · exact Or.inr ⟨r, hr, fun help => (hfirst help).cons hself⟩
    | raw raw =>
      have hparse := parse_of_shape (hshaped p raw List.mem_cons_self)
      cases hparser : p.parser raw.toValue with
      | error failure =>
        rw [hparser] at hparse
        refine Or.inr ⟨.refused p.name raw failure, by simp [settle, hparse], fun help => ?_⟩
        exact ⟨[], p, raw, rest, failure, rfl, by simp, hparser, rfl, rfl, rfl⟩
      | ok v =>
        rw [hparser] at hparse
        have hself : Accepts (p, .raw raw) := by
          intro other hother
          obtain rfl := Draw.raw.inj hother
          exact ⟨v, hparser⟩
        rcases hrest with ⟨haccepts, t, ht, hparsed⟩ | ⟨r, hr, hfirst⟩
        · refine Or.inl ⟨List.forall_mem_cons.mpr ⟨hself, haccepts⟩, (p.name, v) :: t, ?_, ?_⟩
          · exact settle_raw_eq_ok_iff.mpr ⟨v, t, hparse, ht, rfl⟩
          · exact .cons ⟨rfl, p, hp, rfl, hparser⟩ hparsed
        · exact Or.inr ⟨r, by simp [settle, hparse, hr, Except.map],
            fun help => (hfirst help).cons hself⟩

/-- The first missing value ends a list with parsers where it ends the list without them,
unless a parser refuses before it. -/
theorem settle_stop (hshaped : Shaped ds) {p : Param} (hmissing : firstMissing ds = some p) :
    ∃ before after, ds = before ++ (p, .missing) :: after ∧
      settle (ds.map strip) = .error (.missing p.name) ∧
      (((∀ e ∈ before, Accepts e) ∧ settle ds = .error (.missing p.name)) ∨
        ∃ r, settle ds = .error r ∧ ∀ help, RefusedFirst before ⟨help, r⟩) := by
  obtain ⟨⟨q, d⟩, hfind, hq⟩ := Option.map_eq_some_iff.mp hmissing
  obtain rfl : q = p := hq
  obtain ⟨hd, before, after, rfl, hbefore⟩ := List.find?_eq_some_iff_append.mp hfind
  obtain rfl : d = .missing := by cases d <;> simp [isMissing] at hd ⊢
  have hfront : Shaped before := fun p raw he => hshaped p raw (List.mem_append_left _ he)
  have hnone : firstMissing before = none := by
    rw [firstMissing, Option.map_eq_none_iff, List.find?_eq_none]
    intro e he
    simpa using hbefore e he
  refine ⟨before, after, rfl, ?_, ?_⟩
  · rw [List.map_append, settle_append_of_ok (settle_strip hfront hnone)]
    rfl
  · rcases settle_cases hfront hnone (fun e he => List.mem_map_of_mem he) with
      ⟨haccepts, t, ht, _⟩ | ⟨r, hr, hfirst⟩
    · refine Or.inl ⟨haccepts, ?_⟩
      rw [settle_append_of_ok ht]
      rfl
    · exact Or.inr ⟨r, settle_append_of_error hr, hfirst⟩

end Settle

section Bind

variable {o : Overload α} {c : Classified}

/-- The cursor behind all parameters. -/
def cursor (o : Overload α) (c : Classified) : Nat := advance c 0 (c.order o.params)

theorem cursor_withoutParsers (o : Overload α) (c : Classified) :
    cursor (withoutParsers o) c = cursor o c := by
  rw [cursor, withoutParsers, order_unparsed, advance_unparsed, cursor]

theorem bind_of_unsettled {r : Rejection} (h : settle (assignment o c) = .error r) :
    o.bind c = .error ⟨o.help, r⟩ :=
  bind_eq_error_iff.mpr (Or.inl ⟨r, h, rfl⟩)

theorem bind_of_uneven {t : Table Value} {r : Rejection} (h : settle (assignment o c) = .ok t)
    (hcursor : c.checkCursor (cursor o c) = .error r) : o.bind c = .error ⟨o.help, r⟩ :=
  bind_eq_error_iff.mpr (Or.inr ⟨t, r, h, hcursor, rfl⟩)

theorem bind_of_even {t : Table Value} (h : settle (assignment o c) = .ok t)
    (hcursor : c.checkCursor (cursor o c) = .ok ()) :
    o.bind c = .ok ⟨o, t, o.bindFlags c, .text "", []⟩ :=
  bind_eq_ok_iff.mpr ⟨t, h, checkCursor_eq_ok_iff.mp hcursor, rfl⟩

theorem code_of_checkCursor {k : Nat} {r : Rejection} (h : c.checkCursor k = .error r)
    (help : String) : (Mismatch.mk help r).code = .unparsedTokens := by
  unfold Classified.checkCursor at h
  split at h
  · obtain rfl := Except.error.inj h
    rfl
  · split at h
    · obtain rfl := Except.error.inj h
      rfl
    · cases h

theorem mem_params_of_mem_assignment {e : Param × Draw} (he : e ∈ assignment o c) :
    e.1 ∈ o.params :=
  (order_perm c o.params).mem_iff.mp (mem_of_mem_draws c he)

end Bind

end CommandShell.RawBindings
