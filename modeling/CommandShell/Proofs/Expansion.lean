import CommandShell.Proofs.GlobRoots
import CommandShell.Proofs.NamedModules

/-!
The modules that a glob names. A search below the root of a glob misses nothing, as every name
that matches is the root or lies below it. It names the root and the modules met below it, as
far as they match, each once and in ascending order, unless a package that it meets raises
what is no failure to import: then the search ends with that.
-/
namespace CommandShell.Expansion

open ModuleVisits ModuleSearch NamedModules Globs GlobRoots
open CommandShell.Path (splitDots)

variable {α : Type}

/-- What a glob names in a tree whose modules at the root of the glob are loaded. The packages
that are visited below the root decide: what is inside those that open is found, and the first
of them that raises ends the search. There is none below a folder whose package has failed. -/
structure Expands (tree : ModuleTree α) (l : Loaded α) (source : String)
    (visits : List (Visit α)) (result : Except Stop (List String)) : Prop where
  root : (Glob.root source).toList = joined (concretes source)
  accepts : ∀ name, Glob.accepts source name = true ↔
    GlobMatches (splitDots source.toList) (splitDots name.toList)
  below : ∀ name, GlobMatches (splitDots source.toList) (splitDots name.toList) →
    name = Glob.root source ∨ ∃ rest, name = Glob.root source ++ "." ++ rest
  walked : Walks tree (Inside tree (Path.ofString (Glob.root source))) l visits
    (tree.descendants (Path.ofString (Glob.root source)))
  gone : ∀ package, tree.goneAbove l (Path.ofString (Glob.root source)).reverse = some package →
    result = .error (.gone package)
  listed : tree.goneAbove l (Path.ofString (Glob.root source)).reverse = none →
    (∀ v ∈ visits, ∀ stop, ¬ v.Raised tree stop) →
      ∃ names, result = .ok names ∧ names.Pairwise (· < ·) ∧ ∀ name, name ∈ names ↔
        (name = Glob.root source ∨ ∃ path,
          Meets tree (Inside tree (Path.ofString (Glob.root source))) visits path ∧
            path.dotted = name) ∧
        GlobMatches (splitDots source.toList) (splitDots name.toList)
  raised : tree.goneAbove l (Path.ofString (Glob.root source)).reverse = none →
    ∀ v ∈ visits, ∀ stop, v.Raised tree stop → visits.getLast? = some v ∧ result = .error stop

section Begins

variable {source : String}

/-- The first segment of a glob is an identifier. -/
def BeginsConcrete (source : String) : Prop :=
  (splitDots source.toList).head?.any Text.isIdentifier = true

theorem BeginsConcrete.exists_cons (h : BeginsConcrete source) :
    ∃ first rest, splitDots source.toList = first :: rest ∧ Text.isIdentifier first = true := by
  obtain ⟨first, rest, hsplit, -⟩ := exists_splitDots source.toList
  rw [BeginsConcrete, hsplit] at h
  exact ⟨first, rest, hsplit, h⟩

theorem root_ne_empty (hend : source.toList.getLast? ≠ some '\n') (h : BeginsConcrete source) :
    concretes source ≠ [] ∧ Glob.root source ≠ "" := by
  obtain ⟨first, rest, hsplit, hfirst⟩ := h.exists_cons
  have hcons : concretes source = first :: rest.takeWhile Text.isIdentifier := by
    rw [concretes, hsplit, List.takeWhile_cons, if_pos hfirst]
  refine ⟨by rw [hcons]; exact List.cons_ne_nil _ _, fun hempty => ?_⟩
  have hroot := toList_root hend
  rw [hempty, hcons, joined_cons] at hroot
  exact ne_nil_of_isIdentifier hfirst (List.append_eq_nil_iff.mp hroot.symm).1

theorem head?_ne_deep (h : BeginsConcrete source) :
    (splitDots source.toList).head? ≠ some ['*', '*'] := by
  have hstar : Text.isIdentifier ['*', '*'] = false := by decide +kernel
  intro hdeep
  rw [BeginsConcrete, hdeep, Option.any_some, hstar] at h
  cases h

end Begins

theorem expands_glob (tree : ModuleTree α) (s : String) (l l' : Loaded α)
    (hglob : Glob.isConcrete (Text.trim s) = false) (hfirst : BeginsConcrete (Text.trim s))
    (hload : tree.load (Path.ofString (Glob.root (Text.trim s))) l = (.ok (), l')) :
    ∃ visits, Expands tree l' (Text.trim s) visits (tree.expand (.text s) l).1 := by
  have hend := Text.getLast?_trim_ne s (by decide +kernel : Text.isBlank '\n' = true)
  obtain ⟨hne, hroot⟩ := root_ne_empty hend hfirst
  have htext : Text.trim s ≠ "" := by
    intro hempty
    rw [hempty] at hfirst
    cases hfirst
  obtain ⟨visits, hwalks⟩ :=
    exists_walks_descendants tree (Path.ofString (Glob.root (Text.trim s))) l'
  have hends := hwalks.ends
  have hnames := fun habove => congrArg Prod.fst (expandText_of_load hglob hroot hload habove)
  rw [expand_text htext]
  generalize (tree.descendants (Path.ofString (Glob.root (Text.trim s))) l').1 = r at hends hnames
  refine ⟨visits, ?_⟩
  constructor
  case root => exact toList_root hend
  case accepts => exact fun name => accepts_iff (head?_ne_deep hfirst)
  case below => exact fun name h => eq_root_or_below hend hne h
  case walked => exact hwalks
  case gone =>
    exact fun package hgone => congrArg Prod.fst (expandText_of_gone hglob hroot hload hgone)
  case listed =>
    intro habove hquiet
    cases hends with
    | raised last quiet raised =>
      exact absurd raised (hquiet _ (last ▸ List.mem_concat_self) _)
    | @found found quiet mem =>
      refine ⟨_, hnames habove, Registrations.pairwise_lt_mergeSort (nodup_eraseDups _), ?_⟩
      intro name
      rw [List.mem_mergeSort, List.mem_eraseDups, List.mem_filter, List.mem_cons, List.mem_map,
        accepts_iff (head?_ne_deep hfirst)]
      simp only [mem]
  case raised =>
    intro habove v hv stop hraised
    cases hends with
    | found quiet mem => exact absurd hraised (quiet v hv stop)
    | @raised before last stop' split quiet raised =>
      subst split
      rcases List.mem_append.mp hv with hbefore | hlast
      · exact absurd hraised (quiet v hbefore stop)
      · obtain rfl := List.mem_singleton.mp hlast
        obtain rfl : stop = stop' := Except.error.inj (hraised.1.symm.trans raised.1)
        exact ⟨List.getLast?_concat, hnames habove⟩

/-- A package with a module, and with a package that has a module of the same name. -/
def quiet : ModuleTree Unit := [
  ⟨["zp"], true, .done⟩, ⟨["zp", "a"], false, .done⟩, ⟨["zp", "sub"], true, .done⟩,
  ⟨["zp", "sub", "a"], false, .done⟩]

theorem expands_quiet :
    Glob.isConcrete (Text.trim "zp.**.a") = false ∧ BeginsConcrete (Text.trim "zp.**.a") ∧
      quiet.load (Path.ofString (Glob.root (Text.trim "zp.**.a"))) [] =
        (.ok (), [(["zp"], [])]) ∧
      ∃ visits, Expands quiet [(["zp"], [])] (Text.trim "zp.**.a") visits
        (quiet.expand (.text "zp.**.a") []).1 := by
  have htrim : Text.trim "zp.**.a" = "zp.**.a" := by decide +kernel
  have hroot : Path.ofString (Glob.root "zp.**.a") = ["zp"] := by decide +kernel
  have hglob : Glob.isConcrete (Text.trim "zp.**.a") = false := by
    rw [htrim]
    decide +kernel
  have hfirst : BeginsConcrete (Text.trim "zp.**.a") := by
    rw [htrim, BeginsConcrete]
    decide +kernel
  have hload : quiet.load (Path.ofString (Glob.root (Text.trim "zp.**.a"))) [] =
      (.ok (), [(["zp"], [])]) := by
    rw [htrim, hroot]
    rfl
  exact ⟨hglob, hfirst, hload, expands_glob quiet "zp.**.a" [] _ hglob hfirst hload⟩

/-- A package with a module, and with a package that raises. -/
def loud : ModuleTree Unit := [
  ⟨["zp"], true, .done⟩, ⟨["zp", "a"], false, .done⟩,
  ⟨["zp", "sub"], true, .fail (.failure (.ofText .badValue "loud package"))⟩]

theorem descendants_loud : loud.descendants ["zp"] [(["zp"], [])] =
    (.error (.failure (.ofText .badValue "loud package")), [(["zp"], [])]) := by cbv

/-- The root loads and a module below it matches, but no modules are named. -/
theorem loud_package_ends_search :
    Glob.isConcrete (Text.trim "zp.*") = false ∧ BeginsConcrete (Text.trim "zp.*") ∧
      loud.load (Path.ofString (Glob.root (Text.trim "zp.*"))) [] = (.ok (), [(["zp"], [])]) ∧
      Inside loud (Path.ofString (Glob.root (Text.trim "zp.*"))) ["zp", "a"] ∧
      Glob.accepts (Text.trim "zp.*") "zp.a" = true ∧
      (loud.expand (.text "zp.*") []).1 = .error (.failure (.ofText .badValue "loud package")) := by
  have htrim : Text.trim "zp.*" = "zp.*" := by decide +kernel
  have hglob : Glob.isConcrete "zp.*" = false := by decide +kernel
  have hne : Glob.root "zp.*" ≠ "" := by decide +kernel
  have hroot : Path.ofString (Glob.root "zp.*") = ["zp"] := by decide +kernel
  have hfirst : BeginsConcrete "zp.*" := by
    rw [BeginsConcrete]
    decide +kernel
  have hmatch : Glob.accepts "zp.*" "zp.a" = true := by decide +kernel
  have hload : loud.load (Path.ofString (Glob.root (Text.trim "zp.*"))) [] =
      (.ok (), [(["zp"], [])]) := by
    rw [htrim, hroot]
    rfl
  have htext : Text.trim "zp.*" ≠ "" := by
    rw [htrim]
    decide
  rw [htrim] at hload
  have hexpand := expandText_of_load hglob hne hload (by rw [hroot]; rfl)
  rw [hroot] at hload hexpand
  rw [expand_text htext, htrim, hroot, hexpand, descendants_loud]
  refine ⟨hglob, hfirst, hload, ?_, hmatch, rfl⟩
  exact ⟨by decide, ⟨_, List.mem_cons_of_mem _ List.mem_cons_self, rfl⟩, "a", rfl⟩

/-- A package that fails when a folder inside it is loaded. The folder stays loaded. -/
def orphaned : ModuleTree Unit := [
  ⟨["zp"], true, .load ["zp", "a"] fun _ => .fail .unimportable⟩, ⟨["zp", "a", "x"], false, .done⟩]

/-- The root is loaded and a module inside it matches, but the root cannot be searched. -/
theorem failed_package_ends_search :
    orphaned.load ["zp"] [] = (.error .unimportable, [(["zp", "a"], [])]) ∧
      orphaned.load (Path.ofString (Glob.root "zp.a.*")) [(["zp", "a"], [])] =
        (.ok (), [(["zp", "a"], [])]) ∧
      Inside orphaned (Path.ofString (Glob.root "zp.a.*")) ["zp", "a", "x"] ∧
      Glob.accepts "zp.a.*" "zp.a.x" = true ∧
      (orphaned.expand (.text "zp.a.*") [(["zp", "a"], [])]).1 = .error (.gone ["zp"]) := by
  have htrim : Text.trim "zp.a.*" = "zp.a.*" := by decide +kernel
  have hglob : Glob.isConcrete "zp.a.*" = false := by decide +kernel
  have hne : Glob.root "zp.a.*" ≠ "" := by decide +kernel
  have hroot : Path.ofString (Glob.root "zp.a.*") = ["zp", "a"] := by decide +kernel
  have hmatch : Glob.accepts "zp.a.*" "zp.a.x" = true := by decide +kernel
  have htext : Text.trim "zp.a.*" ≠ "" := by
    rw [htrim]
    decide
  have hload : orphaned.load (Path.ofString (Glob.root "zp.a.*")) [(["zp", "a"], [])] =
      (.ok (), [(["zp", "a"], [])]) := by
    rw [hroot]
    rfl
  have hexpand := expandText_of_gone hglob hne hload (by rw [hroot]; rfl)
  have hinside : Inside orphaned ["zp", "a"] ["zp", "a", "x"] :=
    ⟨rfl, ⟨_, List.mem_cons_of_mem _ List.mem_cons_self, rfl⟩, "x", rfl⟩
  rw [expand_text htext, htrim, hexpand]
  rw [hroot] at hload ⊢
  exact ⟨rfl, hload, hinside, hmatch, rfl⟩

end CommandShell.Expansion
