import CommandShell.Proofs.ModuleLoads

/-!
Bodies that run inside each other. A module counts as loaded while its body runs, so every body
runs with fewer modules to load than there were before, and no more run inside each other than
there are modules. So how deep they may go makes no difference, and loading a dotted name is
loading what is missing above it and then itself. What is loaded is loaded again without
changing anything.
-/
namespace CommandShell.NestedLoads

open ModuleLoads

variable {α : Type}

section Depth

variable {tree : ModuleTree α} {f g : Loader α} {l l' : Loaded α} {path : Path}

/-- The number of modules that are not loaded. -/
def pending (tree : ModuleTree α) (l : Loaded α) : Nat := tree.countP fun m => ¬ Has l m.path

theorem pending_le (h : ∀ path, Has l path → Has l' path) : pending tree l' ≤ pending tree l := by
  apply List.countP_mono_left
  intro m _ hm
  rw [decide_eq_true_eq] at hm ⊢
  exact fun hhas => hm (h m.path hhas)

theorem pending_cons_lt {m : Module α} {members : Table (Command α)} (hmem : m ∈ tree)
    (hnew : ¬ Has l m.path) : pending tree ((m.path, members) :: l) < pending tree l := by
  obtain ⟨before, after, rfl⟩ := List.append_of_mem hmem
  have hbefore : pending before ((m.path, members) :: l) ≤ pending before l :=
    pending_le fun path h => has_cons.mpr (Or.inr h)
  have hafter : pending after ((m.path, members) :: l) ≤ pending after l :=
    pending_le fun path h => has_cons.mpr (Or.inr h)
  rw [pending, pending, List.countP_append, List.countP_append,
    List.countP_cons_of_neg (by simp), List.countP_cons_of_pos (by simpa using hnew)]
  exact Nat.lt_succ_of_le (Nat.add_le_add hbefore hafter)

theorem mem_of_site? {m : Module α}
    (h : tree.site? path = some (.package m) ∨ tree.site? path = some (.plain m)) :
    m ∈ tree ∧ m.path = path := by
  rw [ModuleTree.site?] at h
  split at h
  case h_1 n hn =>
    rcases h with h | h <;> cases h
    have hpath := List.find?_some hn
    rw [Bool.and_eq_true, decide_eq_true_eq] at hpath
    exact ⟨List.mem_of_find?_eq_some hn, hpath.1⟩
  case h_2 =>
    split at h
    case h_1 n hn =>
      rcases h with h | h <;> cases h
      have hpath := List.find?_some hn
      exact ⟨List.mem_of_find?_eq_some hn, of_decide_eq_true hpath⟩
    case h_2 =>
      split at h <;> rcases h with h | h <;> cases h

theorem run_congr (hcovering : Covering f) (body : ModuleBody α)
    (h : ∀ other l', pending tree l' ≤ pending tree l → f other l' = g other l') :
    body.run f path l = body.run g path l := by
  induction body generalizing l with
  | done | fail stop => rfl
  | bind name value rest ih =>
    apply ih
    intro other l' hle
    exact h other l' (Nat.le_trans hle (pending_le (runs_bind path name value l).kept))
  | load other next ih =>
    rw [ModuleBody.run, ModuleBody.run, ← h other l (Nat.le_refl _)]
    apply ih
    intro deeper l' hle
    exact h deeper l' (Nat.le_trans hle (pending_le (hcovering other l).kept))

/-- A body runs in a state with fewer modules to load. -/
theorem loadOne_congr (hcovering : Covering f) (package : Path) (name : String)
    (h : ∀ other l', pending tree l' < pending tree l → f other l' = g other l') :
    tree.loadOne f package name l = tree.loadOne g package name l := by
  rw [ModuleTree.loadOne, ModuleTree.loadOne]
  split
  case isTrue => rfl
  case isFalse hnew =>
    have hrun {m : Module α} (hm : m ∈ tree ∧ m.path = package ++ [name]) :
        m.body.run f (package ++ [name]) ((package ++ [name], []) :: l) =
          m.body.run g (package ++ [name]) ((package ++ [name], []) :: l) := by
      obtain ⟨hmem, hpath⟩ := hm
      rw [← hpath] at hnew ⊢
      apply run_congr hcovering
      exact fun other l' hle => h other l' (Nat.lt_of_le_of_lt hle (pending_cons_lt hmem hnew))
    split
    · rfl
    split
    · rfl
    · cases hsite : tree.site? (package ++ [name]) with
      | none => rfl
      | some site =>
        cases site with
        | folder => rfl
        | package m => simp only [hrun (mem_of_site? (Or.inl hsite))]
        | plain m => simp only [hrun (mem_of_site? (Or.inr hsite))]

theorem loadUp_congr (hcovering : Covering f) (above : List String)
    (h : ∀ other l', pending tree l' < pending tree l → f other l' = g other l') :
    tree.loadUp f above l = tree.loadUp g above l := by
  induction above with
  | nil => rfl
  | cons name above ih =>
    rw [ModuleTree.loadUp, ModuleTree.loadUp, ← ih]
    split
    · rfl
    · have hcovers := covers_loadUp tree hcovering above l
      rcases hup : tree.loadUp f above l with ⟨stop | _, l₁⟩
      · rfl
      · rw [hup] at hcovers
        apply loadOne_congr hcovering
        exact fun other l' hlt => h other l' (Nat.lt_of_lt_of_le hlt (pending_le hcovers.kept))

/-- Bodies never run deeper inside each other than there are modules to load. -/
theorem loadWithin_congr {depth depth' : Nat} (h : pending tree l < depth)
    (h' : pending tree l < depth') (path : Path) :
    tree.loadWithin depth path l = tree.loadWithin depth' path l := by
  induction depth generalizing depth' path l with
  | zero => exact absurd h (Nat.not_lt_zero _)
  | succ depth ih =>
    cases depth' with
    | zero => exact absurd h' (Nat.not_lt_zero _)
    | succ depth' =>
      apply loadUp_congr (covering_loadWithin tree depth)
      intro other l' hlt
      exact ih (by omega) (by omega) other

/-- Loading a dotted name loads what is missing above it, then itself, and bodies load likewise. -/
theorem load_eq (tree : ModuleTree α) (path : Path) (l : Loaded α) :
    tree.load path l = tree.loadUp tree.load path.reverse l := by
  apply loadUp_congr (covering_loadWithin tree tree.length)
  intro other l' hlt
  have hle : pending tree l ≤ tree.length := List.countP_le_length
  exact loadWithin_congr (by omega) (by omega) other

/-- Binds a command of another module under the name it has there. -/
def imports (path : Path) (name : String) (rest : ModuleBody α) : ModuleBody α :=
  .load path fun
    | .error stop => .fail stop
    | .ok commands =>
        match commands.get? name with
        | none => .fail .unimportable
        | some c => .bind name c rest

/-- A package that imports a command from a package inside it, which has the same name. -/
def reexporting (c : Command α) : ModuleTree α := [
  ⟨["zp"], true, imports ["zp", "sub"] "sub" .done⟩, ⟨["zp", "sub"], true, .bind "sub" c .done⟩]

/-- The package inside was loaded first, so it does not hide the command. -/
example (c : Command α) : (reexporting c).load ["zp"] [] =
    (.ok (), [(["zp", "sub"], [("sub", c)]), (["zp"], [("sub", c)])]) := rfl

end Depth

section Load

variable {tree : ModuleTree α} {l l' : Loaded α} {path : Path}

theorem load_of_has (h : Has l path) : tree.load path l = (.ok (), l) := by
  rw [load_eq]
  cases hreverse : path.reverse with
  | nil => rfl
  | cons name above =>
    rw [List.reverse_eq_cons_iff] at hreverse
    rw [ModuleTree.loadUp, if_pos (hreverse ▸ h)]

theorem has_of_load (h : tree.load path l = (.ok (), l')) (hne : path ≠ []) : Has l' path := by
  rw [load_eq] at h
  cases hreverse : path.reverse with
  | nil => exact absurd (List.reverse_eq_nil_iff.mp hreverse) hne
  | cons name above =>
    rw [hreverse, ModuleTree.loadUp] at h
    rw [List.reverse_eq_cons_iff] at hreverse
    rw [hreverse]
    split at h
    case isTrue hhas =>
      obtain rfl := (Prod.mk.inj h).2
      exact hhas
    case isFalse =>
      split at h
      · cases (Prod.mk.inj h).1
      · exact has_of_loadOne (covering_load tree) h

theorem covers_enter (tree : ModuleTree α) (path : Path) (l : Loaded α) :
    Covers l (tree.enter path l).2 := by
  rw [ModuleTree.enter]
  have hload := covering_load tree path l
  rcases heq : tree.load path l with ⟨stop | _, l₁⟩
  · rw [heq] at hload
    exact hload
  · rw [heq] at hload
    exact hload.trans (covering_load tree (path.take 1) l₁)

/-- A package that was entered is entered again without loading anything. -/
theorem enter_of_enter {l'' : Loaded α} (h : tree.enter path l = (.ok (), l')) (hne : path ≠ [])
    (hcovers : Covers l' l'') : tree.enter path l'' = (.ok (), l'') := by
  have htop : path.take 1 ≠ [] := by simpa using hne
  have hhas : Has l' path ∧ Has l' (path.take 1) := by
    rw [ModuleTree.enter] at h
    rcases hload : tree.load path l with ⟨stop | _, l₁⟩
    · rw [hload] at h
      cases (Prod.mk.inj h).1
    · rw [hload] at h
      dsimp only at h
      have hkept := (covering_load tree (path.take 1) l₁).kept path (has_of_load hload hne)
      rw [h] at hkept
      exact ⟨hkept, has_of_load h htop⟩
  rw [ModuleTree.enter, load_of_has (hcovers.kept _ hhas.1)]
  exact load_of_has (hcovers.kept _ hhas.2)

end Load

end CommandShell.NestedLoads
