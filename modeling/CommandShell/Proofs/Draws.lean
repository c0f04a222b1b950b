import CommandShell.Binding
import Mathlib.Data.List.Nodup

/-!
What parameters draw, apart from what their parsers make of it. `draws` follows
the cursor through a list of parameters, `advance` is the cursor after them, and
`settle` parses draws in order until one is missing or refused. Binding is
settling the draws, so where a value goes never depends on a parser. Both parts
split over appended lists; each bucket can be read from the cursor it starts at.
-/
namespace CommandShell.Draws

/-- The draws one after another. A missing value does not stop them. -/
def draws (c : Classified) : (cursor : Nat) → List Param → List (Param × Draw)
  | _, [] => []
  | cursor, p :: rest => (p, (c.draw p cursor).1) :: draws c (c.draw p cursor).2 rest

def advance (c : Classified) : (cursor : Nat) → List Param → Nat
  | cursor, [] => cursor
  | cursor, p :: rest => advance c (c.draw p cursor).2 rest

/-- Parses draws in order; the first that is missing or refused decides. -/
def settle : List (Param × Draw) → Except Rejection (Table Value)
  | [] => .ok []
  | (p, .missing) :: _ => .error (.missing p.name)
  | (_, .unbound) :: rest => settle rest
  | (p, .raw raw) :: rest =>
      match p.parse raw.toValue with
      | .error failure => .error (.refused p.name raw failure)
      | .ok v => (settle rest).map ((p.name, v) :: ·)

def isMissing (e : Param × Draw) : Bool :=
  match e.2 with
  | .missing => true
  | _ => false

def isRaw (e : Param × Draw) : Bool :=
  match e.2 with
  | .raw _ => true
  | _ => false

def isMany : Raw → Bool
  | .one _ => false
  | .many _ => true

/-- The parser accepts every raw value of the parameter's shape. -/
def NeverRefuses (p : Param) : Prop :=
  ∀ raw : Raw, isMany raw = p.variadic → ∃ v, p.parser raw.toValue = .ok v

/-- The parameter whose value is missing first. -/
def firstMissing (ds : List (Param × Draw)) : Option Param := (ds.find? isMissing).map (·.1)

/-- No raw value among the draws is refused by its parser. -/
def Parses (ds : List (Param × Draw)) : Prop :=
  ∀ e ∈ ds, ∀ raw, e.2 = .raw raw → ∃ v, e.1.parse raw.toValue = .ok v

section Identity

variable {p : Param}

/-- A raw value of the parameter's shape goes to the parser as it stands. -/
theorem parse_of_shape {raw : Raw} (hshape : isMany raw = p.variadic) :
    p.parse raw.toValue = p.parser raw.toValue := by
  cases raw with
  | one value =>
    have hv : p.variadic = false := hshape.symm
    simp [Param.parse, hv]
  | many values =>
    have hv : p.variadic = true := hshape.symm
    simp [Param.parse, hv, Raw.toValue, Value.texts, Value.iterate, Value.elements?]

theorem parse_of_identity (h : p.parser = Parser.identity) {raw : Raw}
    (hshape : isMany raw = p.variadic) : p.parse raw.toValue = .ok raw.toValue := by
  rw [parse_of_shape hshape, h]
  rfl

theorem neverRefuses_of_identity (h : p.parser = Parser.identity) : NeverRefuses p :=
  fun raw _ => ⟨raw.toValue, by rw [h]; rfl⟩

/-- A parameter that is bound to its raw value. -/
def plain (name : String) (optional variadic : Bool)
    (h : Descriptor.isName name.toList = true) : Param :=
  ⟨⟨name, none, h⟩, optional, variadic, Parser.identity⟩

end Identity

variable (c : Classified)

theorem bindFrom_eq_settle (k : Nat) (ps : List Param) :
    c.bindFrom k ps = (settle (draws c k ps)).map fun t => (t, advance c k ps) := by
  induction ps generalizing k with
  | nil => rfl
  | cons p rest ih =>
    cases hdraw : c.draw p k with
    | mk d next =>
      cases d with
      | missing => simp [Classified.bindFrom, draws, settle, hdraw, Except.map]
      | unbound => simp [Classified.bindFrom, draws, advance, settle, hdraw, ih]
      | raw raw =>
        cases hparse : p.parse raw.toValue with
        | error failure =>
          simp [Classified.bindFrom, draws, settle, hdraw, hparse, Except.map]
        | ok v =>
          simp only [Classified.bindFrom, draws, advance, settle, hdraw, hparse, ih]
          cases settle (draws c next rest) <;> rfl

theorem draws_append (k : Nat) (ps qs : List Param) :
    draws c k (ps ++ qs) = draws c k ps ++ draws c (advance c k ps) qs := by
  induction ps generalizing k with
  | nil => rfl
  | cons p rest ih => simp [draws, advance, ih]

theorem advance_append (k : Nat) (ps qs : List Param) :
    advance c k (ps ++ qs) = advance c (advance c k ps) qs := by
  induction ps generalizing k with
  | nil => rfl
  | cons p rest ih => simp [advance, ih]

theorem map_fst_draws (k : Nat) (ps : List Param) : (draws c k ps).map (·.1) = ps := by
  induction ps generalizing k with
  | nil => rfl
  | cons p rest ih => simp [draws, ih]

theorem map_name_draws (k : Nat) (ps : List Param) :
    ((draws c k ps).map fun e => e.1.name) = ps.map fun p => p.name := by
  conv_rhs => rw [← map_fst_draws c k ps, List.map_map]
  rfl

theorem mem_of_mem_draws {k : Nat} {ps : List Param} {e : Param × Draw}
    (he : e ∈ draws c k ps) : e.1 ∈ ps := by
  rw [← map_fst_draws c k ps]
  exact List.mem_map_of_mem he

/-- A parameter draws a value of its own shape. -/
theorem isMany_of_draw {p : Param} {k : Nat} {raw : Raw} (h : (c.draw p k).1 = .raw raw) :
    isMany raw = p.variadic := by
  unfold Classified.draw at h
  cases hv : p.variadic <;> simp only [hv] at h
  · repeat' split at h
    all_goals simp_all
    all_goals subst h; rfl
  · split at h <;> simp only [if_true, Draw.raw.injEq] at h <;> subst h <;> rfl

theorem isMany_of_mem_draws {k : Nat} {ps : List Param} {p : Param} {raw : Raw}
    (he : (p, .raw raw) ∈ draws c k ps) : isMany raw = p.variadic := by
  induction ps generalizing k with
  | nil => simp [draws] at he
  | cons q rest ih =>
    rcases List.mem_cons.mp he with heq | hrest
    · obtain ⟨rfl, hraw⟩ := Prod.mk.inj heq
      exact isMany_of_draw c hraw.symm
    · exact ih hrest

theorem parses_draws {ps : List Param} (h : ∀ p ∈ ps, NeverRefuses p) (k : Nat) :
    Parses (draws c k ps) := by
  rintro ⟨p, d⟩ he raw rfl
  have hshape := isMany_of_mem_draws c he
  rw [parse_of_shape hshape]
  exact h p (mem_of_mem_draws c he) raw hshape

section Settle

variable {ds es : List (Param × Draw)} {t : Table Value}

theorem settle_raw_eq_ok_iff {p : Param} {raw : Raw} :
    settle ((p, .raw raw) :: ds) = .ok t ↔
      ∃ v u, p.parse raw.toValue = .ok v ∧ settle ds = .ok u ∧ (p.name, v) :: u = t := by
  cases hparse : p.parse raw.toValue with
  | error failure => simp [settle, hparse]
  | ok v => cases hrest : settle ds <;> simp [settle, hparse, hrest, Except.map]

theorem settle_append_of_ok (h : settle ds = .ok t) :
    settle (ds ++ es) = (settle es).map (t ++ ·) := by
  induction ds generalizing t with
  | nil =>
    obtain rfl : [] = t := Except.ok.inj h
    cases hes : settle es <;> simp [hes, Except.map]
  | cons e rest ih =>
    obtain ⟨p, d⟩ := e
    cases d with
    | missing => simp [settle] at h
    | unbound => exact ih h
    | raw raw =>
      obtain ⟨v, u, hparse, hrest, rfl⟩ := settle_raw_eq_ok_iff.mp h
      simp only [List.cons_append, settle, hparse, ih hrest]
      cases settle es <;> rfl

theorem settle_append_of_error {r : Rejection} (h : settle ds = .error r) :
    settle (ds ++ es) = .error r := by
  induction ds with
  | nil => simp [settle] at h
  | cons e rest ih =>
    obtain ⟨p, d⟩ := e
    cases d with
    | missing => exact h
    | unbound => exact ih h
    | raw raw =>
      cases hparse : p.parse raw.toValue with
      | error failure => simpa [settle, hparse] using h
      | ok v =>
        cases hrest : settle rest with
        | error r' =>
          have hr : r' = r := by simpa [settle, hparse, hrest, Except.map] using h
          simp [settle, hparse, ih (hr ▸ hrest), Except.map]
        | ok u => simp [settle, hparse, hrest, Except.map] at h

theorem firstMissing_cons (e : Param × Draw) (ds : List (Param × Draw)) :
    firstMissing (e :: ds) = if isMissing e then some e.1 else firstMissing ds := by
  cases h : isMissing e <;> simp [firstMissing, h]

theorem firstMissing_cons_eq_none_iff {e : Param × Draw} :
    firstMissing (e :: ds) = none ↔ isMissing e = false ∧ firstMissing ds = none := by
  cases h : isMissing e <;> simp [firstMissing_cons, h]

theorem firstMissing_append (ds es : List (Param × Draw)) :
    firstMissing (ds ++ es) = (firstMissing ds).or (firstMissing es) := by
  cases h : ds.find? isMissing <;> simp [firstMissing, List.find?_append, h]

/-- A settled list was missing nothing. -/
theorem firstMissing_of_settle (h : settle ds = .ok t) : firstMissing ds = none := by
  induction ds generalizing t with
  | nil => rfl
  | cons e rest ih =>
    obtain ⟨p, d⟩ := e
    cases d with
    | missing => simp [settle] at h
    | unbound => exact firstMissing_cons_eq_none_iff.mpr ⟨rfl, ih h⟩
    | raw raw =>
      obtain ⟨v, u, hparse, hrest, rfl⟩ := settle_raw_eq_ok_iff.mp h
      exact firstMissing_cons_eq_none_iff.mpr ⟨rfl, ih hrest⟩

/-- Each raw value of a settled list stands, parsed, under its parameter's name. -/
theorem parsed_of_settle (h : settle ds = .ok t) {p : Param} {raw : Raw}
    (hmem : (p, .raw raw) ∈ ds) :
    ∃ v, p.parse raw.toValue = .ok v ∧ (p.name, v) ∈ t := by
  induction ds generalizing t with
  | nil => simp at hmem
  | cons e rest ih =>
    obtain ⟨q, d⟩ := e
    cases d with
    | missing => simp [settle] at h
    | unbound => exact ih h (by simpa using hmem)
    | raw other =>
      obtain ⟨w, u, hparse, hrest, rfl⟩ := settle_raw_eq_ok_iff.mp h
      rcases List.mem_cons.mp hmem with heq | htail
      · obtain ⟨rfl, hraw⟩ := Prod.mk.inj heq
        obtain rfl := Draw.raw.inj hraw
        exact ⟨w, hparse, List.mem_cons_self ..⟩
      · obtain ⟨v, hv, hin⟩ := ih hrest htail
        exact ⟨v, hv, List.mem_cons_of_mem _ hin⟩

/-- The keys of a settled table: the parameters that drew a raw value, in their order. -/
theorem keys_of_settle (h : settle ds = .ok t) :
    t.keys = (ds.filter isRaw).map fun e => e.1.name := by
  induction ds generalizing t with
  | nil =>
    obtain rfl : [] = t := Except.ok.inj h
    rfl
  | cons e rest ih =>
    obtain ⟨p, d⟩ := e
    cases d with
    | missing => simp [settle] at h
    | unbound => simpa [isRaw] using ih h
    | raw raw =>
      obtain ⟨v, u, hparse, hrest, rfl⟩ := settle_raw_eq_ok_iff.mp h
      rw [List.filter_cons_of_pos rfl, List.map_cons, ← ih hrest]
      rfl

theorem exists_draw_of_key (h : settle ds = .ok t) {key : String} (hkey : key ∈ t.keys) :
    ∃ e ∈ ds, e.1.name = key := by
  rw [keys_of_settle h] at hkey
  obtain ⟨e, he, hname⟩ := List.mem_map.mp hkey
  exact ⟨e, List.mem_of_mem_filter he, hname⟩

theorem settle_of_parses (h : Parses ds) :
    (∃ t, settle ds = .ok t) ∨
      ∃ p, firstMissing ds = some p ∧ settle ds = .error (.missing p.name) := by
  induction ds with
  | nil => exact Or.inl ⟨[], rfl⟩
  | cons e rest ih =>
    have hrest : Parses rest := fun e he => h e (List.mem_cons_of_mem _ he)
    obtain ⟨p, d⟩ := e
    cases d with
    | missing => exact Or.inr ⟨p, rfl, rfl⟩
    | unbound => simpa [firstMissing, isMissing, settle] using ih hrest
    | raw raw =>
      obtain ⟨v, hv⟩ := h _ (List.mem_cons_self ..) raw rfl
      rcases ih hrest with ⟨t, ht⟩ | ⟨q, hq, herr⟩
      · exact Or.inl ⟨_, settle_raw_eq_ok_iff.mpr ⟨v, t, hv, ht, rfl⟩⟩
      · exact Or.inr ⟨q, by simpa [firstMissing, isMissing] using hq,
          by simp [settle, hv, herr, Except.map]⟩

/-- When no parser refuses, a list settles exactly when nothing is missing. -/
theorem exists_settle (h : Parses ds) (hnone : firstMissing ds = none) :
    ∃ t, settle ds = .ok t := by
  rcases settle_of_parses h with hok | ⟨p, hp, _⟩
  · exact hok
  · rw [hnone] at hp
    cases hp

theorem settle_eq_missing (h : Parses ds) {p : Param} (hp : firstMissing ds = some p) :
    settle ds = .error (.missing p.name) := by
  rcases settle_of_parses h with ⟨t, ht⟩ | ⟨q, hq, herr⟩
  · rw [firstMissing_of_settle ht] at hp
    cases hp
  · obtain rfl := Option.some.inj (hq.symm.trans hp)
    exact herr

end Settle

/-- A parameter is bound to what its parser makes of a raw value. -/
def Holds (t : Table Value) (p : Param) (raw : Raw) : Prop :=
  ∃ v, p.parser raw.toValue = .ok v ∧ t.get? p.name = some v

section Names

variable {ds : List (Param × Draw)} {t : Table Value}
  (hnames : (ds.map fun e => e.1.name).Nodup) (h : settle ds = .ok t)

include hnames h

theorem keys_nodup_of_settle : t.keys.Nodup := by
  rw [keys_of_settle h]
  exact hnames.sublist (List.filter_sublist.map _)

theorem holds_of_settle {p : Param} {raw : Raw} (hmem : (p, .raw raw) ∈ ds)
    (hshape : isMany raw = p.variadic) : Holds t p raw := by
  obtain ⟨v, hv, hin⟩ := parsed_of_settle h hmem
  rw [parse_of_shape hshape] at hv
  exact ⟨v, hv, Table.get?_eq_some_of_mem (keys_nodup_of_settle hnames h) hin⟩

theorem unbound_of_settle {p : Param} (hmem : (p, .unbound) ∈ ds) : t.get? p.name = none := by
  apply Table.get?_eq_none_of_notMem
  rw [keys_of_settle h]
  intro hkey
  obtain ⟨e, he, hname⟩ := List.mem_map.mp hkey
  obtain ⟨hin, hraw⟩ := List.mem_filter.mp he
  have heq : e = (p, .unbound) := List.inj_on_of_nodup_map hnames hin hmem hname
  subst heq
  cases hraw

end Names

section Bind

variable {α : Type} {c : Classified} {o : Overload α}

theorem checkCursor_eq_ok_iff {k : Nat} : c.checkCursor k = .ok () ↔ k = c.positional.length := by
  unfold Classified.checkCursor
  split
  · simp; omega
  · split
    · simp; omega
    · simp; omega

theorem bindParams_eq (ps : List Param) :
    c.bindParams ps = match settle (draws c 0 (c.order ps)) with
      | .error r => .error r
      | .ok t => (c.checkCursor (advance c 0 (c.order ps))).map fun _ => t := by
  rw [Classified.bindParams, bindFrom_eq_settle]
  cases settle (draws c 0 (c.order ps)) <;> rfl

/-- An overload binds when its draws settle and the cursor ends behind the last
positional value. -/
theorem bind_eq_ok_iff {b : Binding α} :
    o.bind c = .ok b ↔ ∃ t, settle (draws c 0 (c.order o.params)) = .ok t ∧
      advance c 0 (c.order o.params) = c.positional.length ∧
      b = ⟨o, t, o.bindFlags c, .text "", []⟩ := by
  rw [← checkCursor_eq_ok_iff, Overload.bind, bindParams_eq]
  cases settle (draws c 0 (c.order o.params)) with
  | error r => simp
  | ok t =>
    simp only [Except.ok.injEq, exists_eq_left']
    cases c.checkCursor (advance c 0 (c.order o.params)) with
    | error r => simp [Except.map]
    | ok u => simp [Except.map, eq_comm]

/-- The draws decide a rejection when they do not settle, and the cursor else. -/
theorem bind_eq_error_iff {m : Mismatch} :
    o.bind c = .error m ↔
      (∃ r, settle (draws c 0 (c.order o.params)) = .error r ∧ m = ⟨o.help, r⟩) ∨
      (∃ t r, settle (draws c 0 (c.order o.params)) = .ok t ∧
        c.checkCursor (advance c 0 (c.order o.params)) = .error r ∧ m = ⟨o.help, r⟩) := by
  rw [Overload.bind, bindParams_eq]
  cases settle (draws c 0 (c.order o.params)) with
  | error r => simp [eq_comm]
  | ok t =>
    cases c.checkCursor (advance c 0 (c.order o.params)) with
    | error r => simp [Except.map, eq_comm]
    | ok u => simp [Except.map]

end Bind

end CommandShell.Draws
