import CommandShell.Proofs.ModuleVisits

/-!
What a walk below a package finds. It visits the packages inside the package and inside the
packages that it entered, and lists everything inside these unless a visit raises. A module
lies no deeper than the walk goes.
-/
namespace CommandShell.ModuleSearch

open ModuleVisits

variable {α : Type}

section Walk

variable {tree : ModuleTree α} {l : Loaded α} {visits : List (Visit α)}
  {first second : Path → Prop} {package path : Path} {name : String} {names : List String}
  {f visit : Loaded α → Except Stop (List Path) × Loaded α}

theorem exists_walks_walkEach {visit : Path → Loaded α → Except Stop (List Path) × Loaded α}
    (hnames : names.Pairwise (· < ·))
    (hpackages : ∀ name ∈ names, IsPackage tree (package ++ [name]))
    (hvisit : ∀ name ∈ names, ∀ l, ∃ visits,
      Walks tree (Inside tree (package ++ [name])) l visits (visit (package ++ [name])))
    (l : Loaded α) :
    ∃ visits, Walks tree (fun path => ∃ name ∈ names, path = package ++ [name]) l visits
      (tree.walkEach visit (names.map fun name => package ++ [name])) := by
  induction names generalizing l with
  | nil => exact ⟨[], walks_nil l (by simp)⟩
  | cons name names ih =>
    obtain ⟨hbefore, hnames⟩ := List.pairwise_cons.mp hnames
    obtain ⟨hpackage, hpackages⟩ := List.forall_mem_cons.mp hpackages
    obtain ⟨hinside, hvisit⟩ := List.forall_mem_cons.mp hvisit
    obtain ⟨visits, hone⟩ := exists_walks_visitOne hpackage hinside l
    have hseparate : ∀ p q, p = package ++ [name] → (∃ name ∈ names, q = package ++ [name]) →
        ∀ path path', p <+: path → q <+: path' → path < path' := by
      rintro p q rfl ⟨name', hname', rfl⟩ path path' hpath hpath'
      exact lt_of_below (hbefore name' hname') hpath hpath'
    have hfirst (path : Path) :
        (path = package ++ [name] ∨ ∃ name ∈ names, path = package ++ [name]) ↔
          ∃ name' ∈ name :: names, path = package ++ [name'] := by
      rw [List.exists_mem_cons_iff]
    rw [List.map_cons, walkEach_cons]
    rcases hrun : visitOne tree (visit (package ++ [name])) (package ++ [name]) l with
      ⟨stop | found, l₁⟩
    · exact ⟨visits, (hone.append_of_error hrun hseparate).congr hfirst⟩
    · obtain ⟨visits', hrest⟩ := ih hnames hpackages hvisit l₁
      exact ⟨visits ++ visits', (hone.append_of_ok hrun hrest hseparate).congr hfirst⟩

/-- The names of the modules directly inside a package, as packages or as plain modules. -/
def childNames (tree : ModuleTree α) (package : Path) (packages : Bool) : List String :=
  (tree.filterMap fun m =>
    if m.package == packages && m.path.dropLast = package && !m.path.isEmpty then m.path.getLast?
    else none).eraseDups.mergeSort (· ≤ ·)

theorem children_eq (tree : ModuleTree α) (package : Path) (packages : Bool) :
    tree.children package packages =
      (childNames tree package packages).map fun name => package ++ [name] := rfl

theorem mem_childNames {packages : Bool} : name ∈ childNames tree package packages ↔
    ∃ m ∈ tree, m.package = packages ∧ m.path = package ++ [name] := by
  rw [childNames, List.mem_mergeSort, List.mem_eraseDups, List.mem_filterMap]
  apply exists_congr
  intro m
  rw [and_congr_right_iff]
  intro _
  rw [Option.ite_none_right_eq_some, Bool.and_eq_true, Bool.and_eq_true, beq_iff_eq,
    decide_eq_true_eq, and_assoc, and_assoc, and_congr_right_iff]
  intro _
  constructor
  · rintro ⟨hfront, -, hlast⟩
    obtain ⟨front, hpath⟩ := List.getLast?_eq_some_iff.mp hlast
    rw [hpath, List.dropLast_concat] at hfront
    rw [hpath, hfront]
  · intro hpath
    rw [hpath]
    exact ⟨List.dropLast_concat, by simp, List.getLast?_concat⟩

theorem length_le_depth {m : Module α} (h : m ∈ tree) : m.path.length ≤ tree.depth := by
  have hle (lengths : List Nat) (start : Nat) :
      start ≤ lengths.foldl max start ∧ ∀ n ∈ lengths, n ≤ lengths.foldl max start := by
    induction lengths generalizing start with
    | nil => exact ⟨Nat.le_refl _, List.forall_mem_nil _⟩
    | cons n lengths ih =>
      obtain ⟨hstart, hmem⟩ := ih (max start n)
      exact ⟨(Nat.le_max_left _ _).trans hstart,
        List.forall_mem_cons.mpr ⟨(Nat.le_max_right _ _).trans hstart, hmem⟩⟩
  exact (hle _ 0).2 _ (List.mem_map_of_mem h)

theorem inside_iff (hholds : tree.holdsModules package = true) : Inside tree package path ↔
    path ∈ tree.children package true ∨ path ∈ tree.children package false := by
  rw [children_eq, children_eq, List.mem_map, List.mem_map]
  constructor
  · rintro ⟨-, ⟨m, hmem, hpath⟩, name, rfl⟩
    cases hkind : m.package with
    | true => exact Or.inl ⟨name, mem_childNames.mpr ⟨m, hmem, hkind, hpath⟩, rfl⟩
    | false => exact Or.inr ⟨name, mem_childNames.mpr ⟨m, hmem, hkind, hpath⟩, rfl⟩
  · rintro (⟨name, hname, rfl⟩ | ⟨name, hname, rfl⟩)
    all_goals
      obtain ⟨m, hmem, -, hpath⟩ := mem_childNames.mp hname
      exact ⟨hholds, ⟨m, hmem, hpath⟩, name, rfl⟩

theorem holdsModules_of_package {m : Module α} (hmem : m ∈ tree) (hkind : m.package = true) :
    tree.holdsModules m.path = true := by
  have hsome : (tree.find? fun n => n.path = m.path && n.package).isSome = true := by
    rw [List.find?_isSome]
    exact ⟨m, hmem, by simp [hkind]⟩
  obtain ⟨n, hn⟩ := Option.isSome_iff_exists.mp hsome
  rw [ModuleTree.holdsModules, ModuleTree.site?, hn]

/-- The modules that are no packages are listed behind the packages and what is inside them. -/
theorem walks_withModules (hholds : tree.holdsModules package = true)
    (h : Walks tree (fun path => ∃ name ∈ childNames tree package true, path = package ++ [name])
      l visits f) :
    Walks tree (Inside tree package) l visits fun l =>
      ((f l).1.map (· ++ tree.children package false), (f l).2) := by
  have hchildren (path : Path) : path ∈ tree.children package true ↔
      ∃ name ∈ childNames tree package true, path = package ++ [name] := by
    rw [children_eq, List.mem_map]
    exact exists_congr fun name => and_congr_right fun _ => eq_comm
  have hfirst {path : Path} (hpath : ∃ name ∈ childNames tree package true,
      path = package ++ [name]) : Inside tree package path :=
    (inside_iff hholds).mpr (Or.inl ((hchildren path).mpr hpath))
  have hmeets (path : Path) : Meets tree (Inside tree package) visits path ↔
      Meets tree (fun path => ∃ name ∈ childNames tree package true, path = package ++ [name])
        visits path ∨ path ∈ tree.children package false := by
    rw [Meets, inside_iff hholds, hchildren, or_right_comm, Meets]
  constructor
  case states => exact h.states
  case below => exact fun v hv => (h.below v hv).imp fun _ hpath => hpath.imp_left hfirst
  case ascending => exact h.ascending
  case met =>
    exact fun v hv => (h.met v hv).imp_left fun hmet => (hmeets v.path).mpr (Or.inl hmet)
  case complete =>
    intro path hmet hpackage hbound
    refine h.complete path ?_ hpackage hbound
    rcases (hmeets path).mp hmet with hmet | hplain
    · exact hmet
    · -- a package and a plain module may have one name
      obtain ⟨m, hmem, hkind, hpath⟩ := hpackage
      obtain ⟨name, rfl⟩ := ((inside_iff hholds).mpr (Or.inr hplain)).path
      exact Or.inl ⟨name, mem_childNames.mpr ⟨m, hmem, hkind, hpath⟩, rfl⟩
  case ends =>
    have hends := h.ends
    generalize (f l).1 = r at hends
    cases hends with
    | found quiet mem =>
      refine .found quiet fun path => ?_
      rw [List.mem_append, mem, hmeets]
    | raised last quiet raised => exact .raised last quiet raised
  case again =>
    intro l' hsteady
    dsimp only
    rw [h.again l' hsteady]

/-- A walk that goes deep enough lists all modules that are met. -/
theorem exists_walks_walk {depth : Nat} (hdepth : tree.depth ≤ package.length + depth)
    (hholds : tree.holdsModules package = true) (l : Loaded α) :
    ∃ visits, Walks tree (Inside tree package) l visits (tree.walk depth package) := by
  induction depth generalizing package l with
  | zero =>
    refine ⟨[], walks_nil l fun path hinside => ?_⟩
    obtain ⟨-, ⟨m, hmem, rfl⟩, name, hpath⟩ := hinside
    have hlength := length_le_depth hmem
    rw [hpath, List.length_append, List.length_singleton] at hlength
    omega
  | succ depth ih =>
    have hpackages : ∀ name ∈ childNames tree package true, IsPackage tree (package ++ [name]) :=
      fun name hname => mem_childNames.mp hname
    have hascending : (childNames tree package true).Pairwise (· < ·) :=
      Registrations.pairwise_lt_mergeSort (nodup_eraseDups _)
    have hvisit : ∀ name ∈ childNames tree package true, ∀ l, ∃ visits,
        Walks tree (Inside tree (package ++ [name])) l visits
          (tree.walk depth (package ++ [name])) := by
      intro name hname
      obtain ⟨m, hmem, hkind, hpath⟩ := hpackages name hname
      apply ih
      · rw [List.length_append, List.length_singleton]
        omega
      · rw [← hpath]
        exact holdsModules_of_package hmem hkind
    obtain ⟨visits, hvisits⟩ := exists_walks_walkEach hascending hpackages hvisit l
    rw [← children_eq] at hvisits
    exact ⟨visits, walks_withModules hholds hvisits⟩

/-- A module that is no package and no folder has nothing below it. -/
theorem exists_walks_descendants (tree : ModuleTree α) (package : Path) (l : Loaded α) :
    ∃ visits, Walks tree (Inside tree package) l visits (tree.descendants package) := by
  by_cases hholds : tree.holdsModules package = true
  · have hwalk : tree.descendants package = tree.walk tree.depth package :=
      funext fun l => if_pos hholds
    rw [hwalk]
    exact exists_walks_walk (Nat.le_add_left _ _) hholds l
  · have hnothing : tree.descendants package = fun l => (.ok [], l) :=
      funext fun l => if_neg hholds
    rw [hnothing]
    exact ⟨[], walks_nil l fun path hinside => hholds hinside.holds⟩

end Walk

end CommandShell.ModuleSearch
