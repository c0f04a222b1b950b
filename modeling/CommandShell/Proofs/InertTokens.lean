import CommandShell.Proofs.Buckets
import CommandShell.Proofs.Concatenation

/-!
Tokens that an overload does not declare. Binding looks at the positional values, at the
groups of the parameters and at the flags that are declared, and at nothing else. A marker
or a flag that is not declared adds to none of these, but where it is put in it can close
the group that is open there or lie in it. So it goes unnoticed wherever that group is no
parameter's or is replaced later; a marker also where the group is closed anyway.
-/
namespace CommandShell.InertTokens

open Spelling Classified Classification Concatenation Buckets

variable {α : Type}

/-- Two classifications do not differ in what an overload looks at. -/
structure Agrees (o : Overload α) (c d : Classified) : Prop where
  positional : c.positional = d.positional
  groups : ∀ p ∈ o.params, c.named.lookup p.name = d.named.lookup p.name
  flags : ∀ f ∈ o.flags, f.name ∈ c.flags ↔ f.name ∈ d.flags

/-- The group that is open between two parts of a line is no parameter's, or is replaced. -/
def SafeCut (o : Overload α) (front back : List String) : Prop :=
  ∀ t ∈ (markers front).getLast?, (∀ p ∈ o.params, t ≠ marker p.name) ∨ t ∈ back

section Binding

variable {o : Overload α} {c d : Classified}

theorem order_congr {ps : List Param}
    (h : ∀ p ∈ ps, c.named.lookup p.name = d.named.lookup p.name) : c.order ps = d.order ps := by
  have hnamed : ∀ p ∈ ps, c.isNamed p = d.isNamed p := by
    intro p hp
    rw [Classified.isNamed, Classified.isNamed, h p hp]
  have hbucket (f : Bool → Param → Bool) :
      ps.filter (fun p => f (c.isNamed p) p) = ps.filter fun p => f (d.isNamed p) p := by
    apply List.filter_congr
    intro p hp
    rw [hnamed p hp]
  simp only [Classified.order, hbucket fun named _ => named,
    hbucket fun named p => !named && !p.optional,
    hbucket fun named p => !named && p.optional && !p.variadic,
    hbucket fun named p => !named && p.optional && p.variadic]

theorem draw_congr {p : Param} (hpositional : c.positional = d.positional)
    (hgroup : c.named.lookup p.name = d.named.lookup p.name) (k : Nat) :
    c.draw p k = d.draw p k := by
  rw [Classified.draw, Classified.draw, hgroup, hpositional]

theorem bindFrom_congr {ps : List Param} (hpositional : c.positional = d.positional)
    (h : ∀ p ∈ ps, c.named.lookup p.name = d.named.lookup p.name) (k : Nat) :
    c.bindFrom k ps = d.bindFrom k ps := by
  induction ps generalizing k with
  | nil => rfl
  | cons p rest ih =>
    obtain ⟨hp, hrest⟩ := List.forall_mem_cons.mp h
    simp only [Classified.bindFrom, draw_congr hpositional hp, ih hrest]

theorem bindParams_congr (h : Agrees o c d) : c.bindParams o.params = d.bindParams o.params := by
  have hordered : ∀ p ∈ d.order o.params, c.named.lookup p.name = d.named.lookup p.name :=
    fun p hp => h.groups p ((order_perm d o.params).mem_iff.mp hp)
  have hcursor : c.checkCursor = d.checkCursor := by
    funext k
    rw [Classified.checkCursor, Classified.checkCursor, h.positional]
  rw [Classified.bindParams, Classified.bindParams, order_congr h.groups,
    bindFrom_congr h.positional hordered, hcursor]

theorem bindFlags_congr (h : Agrees o c d) : o.bindFlags c = o.bindFlags d := by
  apply List.map_congr_left
  intro f hf
  have hcontains : c.flags.contains f.name = d.flags.contains f.name := by
    rw [Bool.eq_iff_iff, List.contains_iff_mem, List.contains_iff_mem]
    exact h.flags f hf
  rw [hcontains]

theorem bind_congr (h : Agrees o c d) : o.bind c = o.bind d := by
  rw [Overload.bind, Overload.bind, bindParams_congr h, bindFlags_congr h]

end Binding

section Insert

variable {o : Overload α} {front back behind : List String} {name : String}

/-- A change behind the cut is not seen by a name whose group it leaves alone. -/
theorem lookup_append_congr
    (hback : (ofTokens behind).named.lookup name = (ofTokens back).named.lookup name)
    (hrun : (markers front).getLast? = some (marker name) → marker name ∉ back →
      preamble behind = preamble back) :
    (ofTokens (front ++ behind)).named.lookup name =
      (ofTokens (front ++ back)).named.lookup name := by
  rw [lookup_append, lookup_append, hback]
  cases hfound : (ofTokens back).named.lookup name with
  | some values => rfl
  | none =>
    have hfresh := lookup_ofTokens_eq_none_iff.mp hfound
    have hsame : runOn front (preamble behind) name = runOn front (preamble back) name := by
      funext values
      by_cases hlast : (markers front).getLast? = some (marker name)
      · rw [runOn, runOn, hrun hlast hfresh]
      · rw [runOn, runOn, if_neg hlast, if_neg hlast]
    rw [hsame]

theorem SafeCut.mem {p : Param} (h : SafeCut o front back) (hp : p ∈ o.params)
    (hlast : (markers front).getLast? = some (marker p.name)) : marker p.name ∈ back := by
  rcases h _ hlast with hother | hmem
  · exact absurd rfl (hother p hp)
  · exact hmem

theorem agrees_insert_marker (hname : ∀ p ∈ o.params, p.name ≠ name)
    (hcut : SafeCut o front back ∨ ∀ t ∈ back.head?, DoubleDashed t) :
    Agrees o (ofTokens (front ++ marker name :: back)) (ofTokens (front ++ back)) := by
  constructor
  case positional => simp [positional_append, ofTokens, shape_marker]
  case groups =>
    intro p hp
    apply lookup_append_congr
    · rw [lookup_ofTokens_marker, if_neg (hname p hp)]
    · intro hlast hfresh
      rcases hcut with hsafe | hclosed
      · exact absurd (hsafe.mem hp hlast) hfresh
      · rw [← group_eq_preamble, ← group_eq_preamble, group_marker_cons, group_eq_nil hclosed]
  case flags =>
    intro f _
    simp [flags_append, ofTokens, shape_marker]

theorem agrees_insert_flag (hplain : ¬ Dashed name) (hname : ∀ f ∈ o.flags, f.name ≠ name)
    (hcut : SafeCut o front back) :
    Agrees o (ofTokens (front ++ ("-" ++ name) :: back)) (ofTokens (front ++ back)) := by
  have hshape := shape_flag hplain
  constructor
  case positional => simp [positional_append, ofTokens, hshape]
  case groups =>
    intro p hp
    apply lookup_append_congr
    · simp [ofTokens, hshape]
    · intro hlast hfresh
      exact absurd (hcut.mem hp hlast) hfresh
  case flags =>
    intro f hf
    simp [flags_append, ofTokens, hshape, hname f hf]

end Insert

/-- Markers and flags that are not declared change neither a binding nor a rejection. -/
theorem bind_insert_undeclared (o : Overload α) (front back : List String) :
    (∀ name, (∀ p ∈ o.params, p.name ≠ name) →
      (SafeCut o front back ∨ ∀ t ∈ back.head?, DoubleDashed t) →
      o.bind (ofTokens (front ++ marker name :: back)) = o.bind (ofTokens (front ++ back))) ∧
    ∀ name, ¬ Dashed name → (∀ f ∈ o.flags, f.name ≠ name) → SafeCut o front back →
      o.bind (ofTokens (front ++ ("-" ++ name) :: back)) = o.bind (ofTokens (front ++ back)) := by
  constructor
  · intro name hname hcut
    exact bind_congr (agrees_insert_marker hname hcut)
  · intro name hplain hname hcut
    exact bind_congr (agrees_insert_flag hplain hname hcut)

def pattern : Param := Draws.plain "pattern" false false (by decide +kernel)

def folders : Param := Draws.plain "folders" true true (by decide +kernel)

/-- Searches folders for a pattern. -/
def search : Overload Unit where
  help := "Searches folders."
  params := [pattern, folders]
  flags := [⟨⟨"hidden", none, by decide +kernel⟩⟩]
  action := none
  params_nodup := by simp [pattern, folders, Draws.plain]
  flags_nodup := List.nodup_singleton _

/-- Both go unnoticed in the group of a marker that comes again. -/
theorem search_inert :
    SafeCut search ["--pattern", "old"] ["--pattern", "new", "src"] ∧
      (∀ p ∈ search.params, p.name ≠ "mode") ∧ ¬ Dashed "x" ∧
      (∀ f ∈ search.flags, f.name ≠ "x") ∧
      search.bind
          (ofTokens (["--pattern", "old"] ++ marker "mode" :: ["--pattern", "new", "src"])) =
        search.bind (ofTokens (["--pattern", "old"] ++ ["--pattern", "new", "src"])) ∧
      search.bind (ofTokens (["--pattern", "old"] ++ ("-" ++ "x") :: ["--pattern", "new", "src"])) =
        search.bind (ofTokens (["--pattern", "old"] ++ ["--pattern", "new", "src"])) := by
  have hcut : SafeCut search ["--pattern", "old"] ["--pattern", "new", "src"] := by
    have hlast : (markers ["--pattern", "old"]).getLast? = some "--pattern" := by decide
    intro t ht
    rw [hlast] at ht
    exact Or.inr (Option.mem_some_iff.mp ht ▸ List.mem_cons_self)
  have hmode : ∀ p ∈ search.params, p.name ≠ "mode" := by
    simp [search, pattern, folders, Draws.plain]
  have hplain : ¬ Dashed "x" := by decide
  have hflags : ∀ f ∈ search.flags, f.name ≠ "x" := by simp [search]
  obtain ⟨hmarker, hflag⟩ :=
    bind_insert_undeclared search ["--pattern", "old"] ["--pattern", "new", "src"]
  exact ⟨hcut, hmode, hplain, hflags, hmarker "mode" hmode (Or.inl hcut),
    hflag "x" hplain hflags hcut⟩

end CommandShell.InertTokens
