import CommandShell.ModuleTree
import Mathlib.Data.List.Basic

/-!
Loading modules changes what is loaded in two ways: modules come to be there, each taking the
attribute of its name from its package, and a module binds attributes of its own while its body
runs. So what was loaded before a load stays loaded, and its attributes are those it had, but
for the ones that modules have replaced. Bodies load modules in turn; a module counts as loaded
while its body runs, so no more bodies run inside each other than there are modules.
-/
namespace CommandShell.ModuleLoads

variable {α : Type}

def Has (l : Loaded α) (path : Path) : Prop := (l.lookup path).isSome = true

instance (l : Loaded α) : DecidablePred (Has l) :=
  fun path => inferInstanceAs (Decidable ((l.lookup path).isSome = true))

/-- The attributes that modules have not replaced between two states are still there. -/
def Took (l l' : Loaded α) (path : Path) : Prop :=
  l'.attributes path = (l.attributes path).filter fun e =>
    Has l' (path ++ [e.1]) → Has l (path ++ [e.1])

/-- Modules were loaded between two states. Each took its own attribute from its package. -/
structure Covers (l l' : Loaded α) : Prop where
  kept : ∀ path, Has l path → Has l' path
  attributes : ∀ path, Has l path → Took l l' path

/-- The body of a module ran between two states. It may have bound attributes of its own. -/
structure Runs (path : Path) (l l' : Loaded α) : Prop where
  kept : ∀ other, Has l other → Has l' other
  attributes : ∀ other, other ≠ path → Has l other → Took l l' other

def Covering (loader : Loader α) : Prop := ∀ path l, Covers l (loader path l).2

section States

variable {l l' l'' : Loaded α} {path other : Path} {name : String}

theorem lookup_update (l : Loaded α) (path other : Path)
    (change : Table (Command α) → Table (Command α)) : (l.update path change).lookup other =
      (l.lookup other).map fun t => if other = path then change t else t := by
  induction l with
  | nil => rfl
  | cons entry rest ih =>
    obtain ⟨key, members⟩ := entry
    rw [Loaded.update, List.map_cons, ← Loaded.update]
    by_cases hother : other = key
    · subst hother
      by_cases hkey : other = path
      · simp [hkey]
      · simp [hkey]
    · have hskip : (other == key) = false := by simpa using hother
      by_cases hkey : key = path
      · rw [if_pos hkey, List.lookup_cons, hskip, List.lookup_cons, hskip]
        exact ih
      · rw [if_neg hkey, List.lookup_cons, hskip, List.lookup_cons, hskip]
        exact ih

@[simp]
theorem has_update {change : Table (Command α) → Table (Command α)} :
    Has (l.update path change) other ↔ Has l other := by
  rw [Has, Has, lookup_update, Option.isSome_map]

theorem attributes_update_of_ne {change : Table (Command α) → Table (Command α)}
    (h : other ≠ path) : (l.update path change).attributes other = l.attributes other := by
  rw [Loaded.attributes, Loaded.attributes, lookup_update]
  simp only [if_neg h, Option.map_id_fun', id]

theorem attributes_hide (l : Loaded α) (package : Path) (name : String) :
    (l.hide package name).attributes package = (l.attributes package).erase name := by
  rw [Loaded.attributes, Loaded.attributes, Loaded.hide, lookup_update]
  cases l.lookup package with
  | none => rfl
  | some members => simp

@[simp]
theorem has_cons {members : Table (Command α)} :
    Has ((path, members) :: l) other ↔ other = path ∨ Has l other := by
  by_cases hother : other = path
  · simp [Has, hother]
  · have hskip : (other == path) = false := by simpa using hother
    simp [Has, List.lookup_cons, hskip, hother]

theorem attributes_cons_of_ne {members : Table (Command α)} (h : other ≠ path) :
    Loaded.attributes ((path, members) :: l) other = l.attributes other := by
  have hskip : (other == path) = false := by simpa using h
  rw [Loaded.attributes, Loaded.attributes, List.lookup_cons, hskip]

theorem lookup_drop_of_ne (l : Loaded α) (h : other ≠ path) :
    (l.drop path).lookup other = l.lookup other := by
  induction l with
  | nil => rfl
  | cons entry rest ih =>
    obtain ⟨key, members⟩ := entry
    by_cases hkey : key = path
    · have hskip : (other == key) = false := by simpa [hkey] using h
      rw [Loaded.drop, List.filter_cons_of_neg (by simpa using hkey), ← Loaded.drop, ih,
        List.lookup_cons, hskip]
    · rw [Loaded.drop, List.filter_cons_of_pos (by simpa using hkey), ← Loaded.drop,
        List.lookup_cons, List.lookup_cons, ih]

@[simp]
theorem has_drop : Has (l.drop path) other ↔ other ≠ path ∧ Has l other := by
  by_cases hother : other = path
  · subst hother
    have habsent : (l.drop other).lookup other = none := by
      rw [List.lookup_eq_none_iff]
      intro e he
      have hkey : e.1 ≠ other := by simpa using (List.mem_filter.mp he).2
      simpa using hkey.symm
    simp [Has, habsent]
  · rw [Has, Has, lookup_drop_of_ne l hother, and_iff_right hother]

theorem attributes_drop_of_ne (h : other ≠ path) :
    (l.drop path).attributes other = l.attributes other := by
  rw [Loaded.attributes, Loaded.attributes, lookup_drop_of_ne l h]

end States

section Order

variable {l l' l'' : Loaded α} {path : Path}

theorem Took.of_eq (hhas : ∀ other, Has l' other → Has l other)
    (hattributes : l'.attributes path = l.attributes path) : Took l l' path := by
  rw [Took, hattributes]
  symm
  apply List.filter_eq_self.mpr
  intro e _
  rw [decide_eq_true_eq]
  exact hhas _

theorem Took.trans (hkept : ∀ other, Has l other → Has l' other)
    (hkept' : ∀ other, Has l' other → Has l'' other) (h : Took l l' path)
    (h' : Took l' l'' path) : Took l l'' path := by
  rw [Took, h', h, List.filter_filter]
  apply List.filter_congr
  intro e _
  have hfirst := hkept (path ++ [e.1])
  have hsecond := hkept' (path ++ [e.1])
  rw [← Bool.decide_and, decide_eq_decide]
  constructor
  · exact fun hboth hlast => hboth.2 (hboth.1 hlast)
  · exact fun hdirect => ⟨fun hlast => hfirst (hdirect hlast), fun hmid => hdirect (hsecond hmid)⟩

theorem Covers.refl (l : Loaded α) : Covers l l := by
  constructor
  case kept => exact fun path h => h
  case attributes => exact fun path _ => Took.of_eq (fun other h => h) rfl

theorem Covers.trans (h : Covers l l') (h' : Covers l' l'') : Covers l l'' := by
  constructor
  case kept => exact fun path hpath => h'.kept path (h.kept path hpath)
  case attributes =>
    intro path hpath
    exact (h.attributes path hpath).trans h.kept h'.kept (h'.attributes path (h.kept path hpath))

theorem Covers.runs (h : Covers l l') (path : Path) : Runs path l l' :=
  ⟨h.kept, fun other _ => h.attributes other⟩

theorem Runs.refl (path : Path) (l : Loaded α) : Runs path l l := (Covers.refl l).runs path

theorem Runs.trans (h : Runs path l l') (h' : Runs path l' l'') : Runs path l l'' := by
  constructor
  case kept => exact fun other hother => h'.kept other (h.kept other hother)
  case attributes =>
    intro other hne hother
    exact (h.attributes other hne hother).trans h.kept h'.kept
      (h'.attributes other hne (h.kept other hother))

theorem runs_bind (path : Path) (name : String) (value : Option (Command α)) (l : Loaded α) :
    Runs path l (l.bind path name value) := by
  obtain ⟨change, hchange⟩ : ∃ change, l.bind path name value = l.update path change := by
    cases value with
    | none => exact ⟨fun t => t.erase name, rfl⟩
    | some c => exact ⟨fun t => t.set name c, rfl⟩
  rw [hchange]
  constructor
  case kept => exact fun other h => has_update.mpr h
  case attributes =>
    exact fun other hne _ => Took.of_eq (fun other h => has_update.mp h)
      (attributes_update_of_ne hne)

end Order

section Steps

variable {tree : ModuleTree α} {loader : Loader α} {l l' l₁ : Loaded α} {package path : Path}
  {name : String}

theorem runs_run (hloader : Covering loader) (path : Path) (body : ModuleBody α) (l : Loaded α) :
    Runs path l (body.run loader path l).2 := by
  induction body generalizing l with
  | done | fail stop => exact Runs.refl path l
  | bind name value rest ih => exact (runs_bind path name value l).trans (ih _)
  | load other next ih => exact ((hloader other l).runs path).trans (ih _ _)

theorem ne_of_has (hnew : ¬ Has l path) {other : Path} (h : Has l other) : other ≠ path := by
  rintro rfl
  exact hnew h

/-- A module is through, and takes its own attribute from its package. -/
theorem covers_hide {members : Table (Command α)} (hnew : ¬ Has l (package ++ [name]))
    (h : Runs (package ++ [name]) ((package ++ [name], members) :: l) l₁) :
    Covers l (l₁.hide package name) := by
  have hself : Has l₁ (package ++ [name]) := h.kept _ (has_cons.mpr (Or.inl rfl))
  constructor
  case kept => exact fun path hpath => has_update.mpr (h.kept path (has_cons.mpr (Or.inr hpath)))
  case attributes =>
    intro path hpath
    have hne := ne_of_has hnew hpath
    have htook := h.attributes path hne (has_cons.mpr (Or.inr hpath))
    rw [Took, attributes_cons_of_ne hne] at htook
    by_cases hpackage : path = package
    · subst hpackage
      rw [Took, attributes_hide, htook, Table.erase, List.filter_filter]
      apply List.filter_congr
      intro e _
      rw [← Bool.decide_and, decide_eq_decide, has_cons, Loaded.hide, has_update]
      constructor
      · rintro ⟨hname, hback⟩ hafter
        refine (hback hafter).resolve_left fun heq => hname ?_
        exact List.head_eq_of_cons_eq (List.append_cancel_left heq)
      · refine fun hback => ⟨?_, fun hafter => Or.inr (hback hafter)⟩
        intro hname
        exact hnew (hname ▸ hback (hname ▸ hself))
    · rw [Took, Loaded.hide, attributes_update_of_ne hpackage, htook]
      apply List.filter_congr
      intro e _
      have hother : path ++ [e.1] ≠ package ++ [name] :=
        fun heq => hpackage (List.append_inj_left' heq rfl)
      rw [decide_eq_decide, has_cons, has_update, or_iff_right hother]

/-- A module has failed, and is loaded no longer. -/
theorem covers_drop {members : Table (Command α)} (hnew : ¬ Has l path)
    (h : Runs path ((path, members) :: l) l₁) : Covers l (l₁.drop path) := by
  constructor
  case kept =>
    intro other hother
    exact has_drop.mpr ⟨ne_of_has hnew hother, h.kept other (has_cons.mpr (Or.inr hother))⟩
  case attributes =>
    intro other hother
    have hne := ne_of_has hnew hother
    have htook := h.attributes other hne (has_cons.mpr (Or.inr hother))
    rw [Took, attributes_drop_of_ne hne, htook, attributes_cons_of_ne hne]
    apply List.filter_congr
    intro e _
    rw [decide_eq_decide, has_cons, has_drop, and_imp, forall_comm]
    exact imp_congr_right fun _ => or_iff_not_imp_left

variable (tree) in
theorem covers_loadOne (hloader : Covering loader) (package : Path) (name : String)
    (l : Loaded α) : Covers l (tree.loadOne loader package name l).2 := by
  rw [ModuleTree.loadOne]
  split
  case isTrue => exact Covers.refl l
  case isFalse hnew =>
    split
    · exact Covers.refl l
    split
    · exact Covers.refl l
    · split
      · exact Covers.refl l
      · exact covers_hide hnew (Runs.refl _ _)
      all_goals
        rename_i m _
        have hruns := runs_run hloader (package ++ [name]) m.body ((package ++ [name], []) :: l)
        split
        case h_1 l₁ heq =>
          rw [heq] at hruns
          exact covers_drop hnew hruns
        case h_2 l₁ heq =>
          rw [heq] at hruns
          exact covers_hide hnew hruns

theorem has_of_loadOne (hloader : Covering loader)
    (h : tree.loadOne loader package name l = (.ok (), l')) : Has l' (package ++ [name]) := by
  rw [ModuleTree.loadOne] at h
  split at h
  case isTrue hhas =>
    obtain rfl := (Prod.mk.inj h).2
    exact hhas
  case isFalse =>
    split at h
    · cases (Prod.mk.inj h).1
    split at h
    · cases (Prod.mk.inj h).1
    · split at h
      · cases (Prod.mk.inj h).1
      · obtain rfl := (Prod.mk.inj h).2
        exact has_update.mpr (has_cons.mpr (Or.inl rfl))
      all_goals
        rename_i m _
        have hruns := runs_run hloader (package ++ [name]) m.body ((package ++ [name], []) :: l)
        split at h
        · cases (Prod.mk.inj h).1
        case h_2 l₁ heq =>
          rw [heq] at hruns
          obtain rfl := (Prod.mk.inj h).2
          exact has_update.mpr (hruns.kept _ (has_cons.mpr (Or.inl rfl)))

variable (tree) in
theorem covers_loadUp (hloader : Covering loader) (above : List String) (l : Loaded α) :
    Covers l (tree.loadUp loader above l).2 := by
  induction above with
  | nil => exact Covers.refl l
  | cons name above ih =>
    rw [ModuleTree.loadUp]
    split
    · exact Covers.refl l
    · rcases hup : tree.loadUp loader above l with ⟨stop | _, l₁⟩
      · rw [hup] at ih
        exact ih
      · rw [hup] at ih
        exact ih.trans (covers_loadOne tree hloader above.reverse name l₁)

theorem covering_loadWithin (tree : ModuleTree α) (depth : Nat) :
    Covering (tree.loadWithin depth) := by
  induction depth with
  | zero => exact fun path l => Covers.refl l
  | succ depth ih => exact fun path l => covers_loadUp tree ih path.reverse l

theorem covering_load (tree : ModuleTree α) : Covering tree.load :=
  covering_loadWithin tree (tree.length + 1)

end Steps

end CommandShell.ModuleLoads
