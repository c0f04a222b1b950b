import CommandShell.Proofs.NestedLoads
import CommandShell.Proofs.Registrations
import Mathlib

/-!
Walks below a package. A walk visits packages, each before what lies below it and otherwise by
ascending names, so its visits ascend in the order of dotted names segment by segment. Entering
a package can load other modules, so each visit comes with what was loaded before it. A visit
that raises what is no failure to import ends the walk; otherwise the walk lists everything that
it meets. A walk whose visits would end the same way again, loading nothing, can be repeated.
Walks from several paths are walks from each of them in turn.
-/
namespace CommandShell.ModuleVisits

open ModuleLoads NestedLoads

variable {α : Type}

/-- The tree has a module directly inside a package or a folder. -/
structure Inside (tree : ModuleTree α) (package path : Path) : Prop where
  holds : tree.holdsModules package = true
  mem : ∃ m ∈ tree, m.path = path
  path : ∃ name, path = package ++ [name]

def IsPackage (tree : ModuleTree α) (path : Path) : Prop :=
  ∃ m ∈ tree, m.package = true ∧ m.path = path

/-- A package that a walk met, and what was loaded then. -/
structure Visit (α : Type) where
  path : Path
  loaded : Loaded α

namespace Visit

def Opened (tree : ModuleTree α) (v : Visit α) : Prop := (tree.enter v.path v.loaded).1 = .ok ()

/-- The package could not be imported. -/
def Skipped (tree : ModuleTree α) (v : Visit α) : Prop :=
  ∃ stop, (tree.enter v.path v.loaded).1 = .error stop ∧ stop.isUnimportable = true

/-- Running the package raised what is no failure to import. -/
def Raised (tree : ModuleTree α) (v : Visit α) (stop : Stop) : Prop :=
  (tree.enter v.path v.loaded).1 = .error stop ∧ stop.isUnimportable = false

/-- A visit to the package with other modules loaded ends the same way and loads nothing. -/
def Steady (tree : ModuleTree α) (l : Loaded α) (v : Visit α) : Prop :=
  (tree.enter v.path l).2 = l ∧
    (v.Opened tree ∧ Opened tree ⟨v.path, l⟩ ∨ v.Skipped tree ∧ Skipped tree ⟨v.path, l⟩)

end Visit

/-- Packages are visited in turn, each with what the visits before it have loaded. -/
inductive Visits (tree : ModuleTree α) : Loaded α → List (Visit α) → Loaded α → Prop
  | done (l : Loaded α) : Visits tree l [] l
  | next {l l' : Loaded α} {visits : List (Visit α)} (path : Path)
      (rest : Visits tree (tree.enter path l).2 visits l') :
      Visits tree l (⟨path, l⟩ :: visits) l'

/-- What a walk meets: some paths to begin with, and what is inside the packages it entered. -/
def Meets (tree : ModuleTree α) (first : Path → Prop) (visits : List (Visit α)) (path : Path) :
    Prop :=
  first path ∨ ∃ v ∈ visits, v.Opened tree ∧ Inside tree v.path path

/-- A walk lists what it meets, unless its last visit raises. -/
inductive Ends (tree : ModuleTree α) (meets : Path → Prop) (visits : List (Visit α)) :
    Except Stop (List Path) → Prop where
  | found {found : List Path} (quiet : ∀ v ∈ visits, ∀ stop, ¬ v.Raised tree stop)
      (mem : ∀ path, path ∈ found ↔ meets path) : Ends tree meets visits (.ok found)
  | raised {before : List (Visit α)} {v : Visit α} {stop : Stop} (last : visits = before ++ [v])
      (quiet : ∀ u ∈ before, ∀ stop, ¬ u.Raised tree stop) (raised : v.Raised tree stop) :
      Ends tree meets visits (.error stop)

/-- A walk from some paths to begin with, and its visits. -/
structure Walks (tree : ModuleTree α) (first : Path → Prop) (l : Loaded α)
    (visits : List (Visit α)) (walk : Loaded α → Except Stop (List Path) × Loaded α) : Prop where
  states : Visits tree l visits (walk l).2
  below : ∀ v ∈ visits, ∃ path, first path ∧ path <+: v.path
  ascending : (visits.map Visit.path).Pairwise (· < ·)
  met : ∀ v ∈ visits, Meets tree first visits v.path ∧ IsPackage tree v.path
  complete : ∀ path, Meets tree first visits path → IsPackage tree path →
    (∀ v ∈ visits, ∀ stop, v.Raised tree stop → ¬ v.path < path) → ∃ v ∈ visits, v.path = path
  ends : Ends tree (Meets tree first visits) visits (walk l).1
  again : ∀ l', (∀ v ∈ visits, v.Steady tree l') → walk l' = ((walk l).1, l')

section Visits

variable {tree : ModuleTree α} {l l' l'' : Loaded α} {visits visits' : List (Visit α)}
  {first first' : Path → Prop} {path : Path}

theorem Visits.append (h : Visits tree l visits l') (h' : Visits tree l' visits' l'') :
    Visits tree l (visits ++ visits') l'' := by
  induction h with
  | done l => exact h'
  | next path rest ih => exact Visits.next path (ih h')

/-- Each visit covers what was loaded at the end. -/
theorem Visits.covers (h : Visits tree l visits l') :
    Covers l l' ∧ ∀ v ∈ visits, Covers (tree.enter v.path v.loaded).2 l' := by
  induction h with
  | done l => exact ⟨Covers.refl l, List.forall_mem_nil _⟩
  | next path rest ih =>
    exact ⟨(covers_enter tree path _).trans ih.1, List.forall_mem_cons.mpr ih⟩

theorem Meets.mono (h : Meets tree first visits path) (hfirst : first path → first' path)
    (hvisits : visits ⊆ visits') : Meets tree first' visits' path :=
  h.imp hfirst fun ⟨v, hv, hopened⟩ => ⟨v, hvisits hv, hopened⟩

theorem Visit.not_raised_of_opened {v : Visit α} (h : v.Opened tree) (stop : Stop) :
    ¬ v.Raised tree stop := by
  rintro ⟨hraised, -⟩
  rw [Visit.Opened, hraised] at h
  cases h

theorem Visit.not_raised_of_skipped {v : Visit α} (h : v.Skipped tree) (stop : Stop) :
    ¬ v.Raised tree stop := by
  obtain ⟨other, hother, hskipped⟩ := h
  rintro ⟨hraised, hloud⟩
  obtain rfl := Except.error.inj (hother.symm.trans hraised)
  rw [hskipped] at hloud
  cases hloud

end Visits

section Order

theorem nodup_eraseDups {β : Type} [BEq β] [LawfulBEq β] (l : List β) : l.eraseDups.Nodup := by
  induction hlength : l.length using Nat.strong_induction_on generalizing l with
  | _ n ih =>
    cases l with
    | nil => exact List.nodup_nil
    | cons a rest =>
      have hshorter : (rest.filter fun b => !b == a).length < n := by
        rw [← hlength, List.length_cons]
        exact Nat.lt_succ_of_le (List.length_filter_le _ rest)
      rw [List.eraseDups_cons, List.nodup_cons]
      exact ⟨by simp [List.mem_eraseDups], ih _ hshorter _ rfl⟩

variable {package path path' rest : Path} {name name' : String}

theorem lt_of_below (hlt : name < name') (h : package ++ [name] <+: path)
    (h' : package ++ [name'] <+: path') : path < path' := by
  obtain ⟨rest, rfl⟩ := h
  obtain ⟨rest', rfl⟩ := h'
  rw [List.append_assoc, List.append_assoc]
  exact List.append_left_lt (List.cons_lt_cons_iff.mpr (Or.inl hlt))

theorem lt_of_inside (h : path ++ [name] <+: path') : path < path' := by
  obtain ⟨rest, rfl⟩ := h
  have hlt : path ++ [] < path ++ name :: rest := List.append_left_lt (List.nil_lt_cons name rest)
  rwa [List.append_nil, List.append_cons] at hlt

end Order

section Walk

variable {tree : ModuleTree α} {l l' l₁ : Loaded α} {visits visits' : List (Visit α)}
  {first second : Path → Prop} {package path : Path} {name : String} {names : List String}
  {f g visit : Loaded α → Except Stop (List Path) × Loaded α}

/-- Goes on with another walk unless the first one raised. -/
def andThen (f g : Loaded α → Except Stop (List Path) × Loaded α) (l : Loaded α) :
    Except Stop (List Path) × Loaded α :=
  match f l with
  | (.error stop, l) => (.error stop, l)
  | (.ok found, l) => ((g l).1.map (found ++ ·), (g l).2)

/-- Visits one package, and walks inside when it opens. -/
def visitOne (tree : ModuleTree α) (visit : Loaded α → Except Stop (List Path) × Loaded α)
    (path : Path) (l : Loaded α) : Except Stop (List Path) × Loaded α :=
  match tree.enter path l with
  | (.error stop, l) => (if stop.isUnimportable then .ok [path] else .error stop, l)
  | (.ok (), l) => ((visit l).1.map (path :: ·), (visit l).2)

theorem walkEach_cons (visit : Path → Loaded α → Except Stop (List Path) × Loaded α)
    (path : Path) (rest : List Path) :
    tree.walkEach visit (path :: rest) =
      andThen (visitOne tree (visit path) path) (tree.walkEach visit rest) := by
  funext l
  rw [ModuleTree.walkEach, andThen, visitOne]
  rcases tree.enter path l with ⟨stop | _, l₁⟩
  · by_cases hskip : stop.isUnimportable = true
    · simp only [if_pos hskip]
      rfl
    · simp only [if_neg hskip]
  · dsimp only
    rcases visit path l₁ with ⟨stop | inside, l₂⟩ <;> rfl

/-- What two walks meet is what either meets. -/
theorem meets_append : Meets tree (fun path => first path ∨ second path) (visits ++ visits') path ↔
    Meets tree first visits path ∨ Meets tree second visits' path := by
  simp only [Meets, List.mem_append, or_and_right, exists_or]
  exact or_or_or_comm

/-- A walk whose last visit raised is not gone on with. -/
theorem Walks.append_of_error {stop : Stop} (h : Walks tree first l visits f)
    (hraised : f l = (.error stop, l₁)) (hseparate : ∀ p q, first p → second q →
      ∀ path path', p <+: path → q <+: path' → path < path') :
    Walks tree (fun path => first path ∨ second path) l visits (andThen f g) := by
  have hrun : andThen f g l = (.error stop, l₁) := by rw [andThen, hraised]
  have hends := h.ends
  constructor
  case states =>
    rw [hrun, ← congrArg Prod.snd hraised]
    exact h.states
  case below => exact fun v hv => (h.below v hv).imp fun _ hpath => ⟨Or.inl hpath.1, hpath.2⟩
  case ascending => exact h.ascending
  case met =>
    exact fun v hv => (h.met v hv).imp_left fun hmet => hmet.mono Or.inl (List.Subset.refl _)
  case complete =>
    rintro path ((hfirst | hsecond) | hinside) hpackage hbound
    · exact h.complete path (Or.inl hfirst) hpackage hbound
    · -- the visit that raised comes before everything else
      rw [hraised] at hends
      cases hends with
      | @raised before v stop last quiet raised =>
        have hv : v ∈ visits := last ▸ List.mem_append_right _ (List.mem_singleton_self v)
        obtain ⟨p, hp, hbelow⟩ := h.below v hv
        exact absurd (hseparate p path hp hsecond _ _ hbelow (List.prefix_refl _))
          (hbound v hv _ raised)
    · exact h.complete path (Or.inr hinside) hpackage hbound
  case ends =>
    rw [hraised] at hends
    rw [hrun]
    cases hends with
    | raised last quiet raised => exact .raised last quiet raised
  case again =>
    intro l' hsteady
    have hagain := h.again l' hsteady
    rw [hraised] at hagain
    rw [hrun, andThen, hagain]

/-- A walk that raised nothing is gone on with behind it. -/
theorem Walks.append_of_ok {found : List Path} (h : Walks tree first l visits f)
    (hfound : f l = (.ok found, l₁)) (h' : Walks tree second l₁ visits' g)
    (hseparate : ∀ p q, first p → second q →
      ∀ path path', p <+: path → q <+: path' → path < path') :
    Walks tree (fun path => first path ∨ second path) l (visits ++ visits') (andThen f g) := by
  have hrun : andThen f g l = ((g l₁).1.map (found ++ ·), (g l₁).2) := by rw [andThen, hfound]
  have hends := h.ends
  have hends' := h'.ends
  rw [hfound] at hends
  constructor
  case states =>
    rw [hrun]
    have hstates := h.states
    rw [hfound] at hstates
    exact hstates.append h'.states
  case below =>
    intro v hv
    rcases List.mem_append.mp hv with hv | hv
    · exact (h.below v hv).imp fun _ hpath => ⟨Or.inl hpath.1, hpath.2⟩
    · exact (h'.below v hv).imp fun _ hpath => ⟨Or.inr hpath.1, hpath.2⟩
  case ascending =>
    rw [List.map_append, List.pairwise_append]
    refine ⟨h.ascending, h'.ascending, ?_⟩
    intro path hpath path' hpath'
    obtain ⟨v, hv, rfl⟩ := List.mem_map.mp hpath
    obtain ⟨v', hv', rfl⟩ := List.mem_map.mp hpath'
    obtain ⟨p, hp, hbelow⟩ := h.below v hv
    obtain ⟨q, hq, hbelow'⟩ := h'.below v' hv'
    exact hseparate p q hp hq _ _ hbelow hbelow'
  case met =>
    intro v hv
    rw [meets_append]
    rcases List.mem_append.mp hv with hv | hv
    · exact (h.met v hv).imp_left Or.inl
    · exact (h'.met v hv).imp_left Or.inr
  case complete =>
    intro path hmet hpackage hbound
    obtain ⟨hbound, hbound'⟩ := List.forall_mem_append.mp hbound
    rcases meets_append.mp hmet with hmet | hmet
    · obtain ⟨v, hv, hpath⟩ := h.complete path hmet hpackage hbound
      exact ⟨v, List.mem_append_left _ hv, hpath⟩
    · obtain ⟨v, hv, hpath⟩ := h'.complete path hmet hpackage hbound'
      exact ⟨v, List.mem_append_right _ hv, hpath⟩
  case ends =>
    rw [hrun]
    cases hends with
    | found quiet mem =>
      generalize (g l₁).1 = r at hends'
      cases hends' with
      | found quiet' mem' =>
        refine .found (List.forall_mem_append.mpr ⟨quiet, quiet'⟩) fun path => ?_
        rw [List.mem_append, mem, mem', meets_append]
      | raised last quiet' raised =>
        refine .raised ?_ (List.forall_mem_append.mpr ⟨quiet, quiet'⟩) raised
        rw [last, List.append_assoc]
  case again =>
    intro l' hsteady
    obtain ⟨hsteady, hsteady'⟩ := List.forall_mem_append.mp hsteady
    have hagain := h.again l' hsteady
    rw [hfound] at hagain
    rw [hrun, andThen, hagain]
    dsimp only
    rw [h'.again l' hsteady']

/-- A package that does not open is listed, and nothing inside it is met. -/
theorem walks_of_not_opened (hpackage : IsPackage tree path)
    (hclosed : ¬ Visit.Opened tree ⟨path, l⟩) :
    Walks tree (· = path) l [⟨path, l⟩] (visitOne tree visit path) := by
  rcases henter : tree.enter path l with ⟨stop | _, l₁⟩
  case ok => exact absurd (congrArg Prod.fst henter) hclosed
  have hmeets (other : Path) : Meets tree (· = path) [⟨path, l⟩] other ↔ other = path := by
    rw [Meets, or_iff_left]
    rintro ⟨v, hv, hopened, -⟩
    exact hclosed (List.mem_singleton.mp hv ▸ hopened)
  have hrun : visitOne tree visit path l =
      (if stop.isUnimportable then .ok [path] else .error stop, l₁) := by rw [visitOne, henter]
  constructor
  case states =>
    rw [hrun, ← congrArg Prod.snd henter]
    exact .next path (.done _)
  case below => exact List.forall_mem_singleton.mpr ⟨path, rfl, List.prefix_refl path⟩
  case ascending => exact List.pairwise_singleton _ _
  case met => exact List.forall_mem_singleton.mpr ⟨Or.inl rfl, hpackage⟩
  case complete =>
    exact fun other hother _ _ => ⟨_, List.mem_singleton_self _, ((hmeets other).mp hother).symm⟩
  case ends =>
    rw [hrun]
    by_cases hskip : stop.isUnimportable = true
    · rw [if_pos hskip]
      refine .found (List.forall_mem_singleton.mpr ?_) fun other => ?_
      · exact Visit.not_raised_of_skipped ⟨stop, congrArg Prod.fst henter, hskip⟩
      · rw [List.mem_singleton, hmeets]
    · rw [if_neg hskip]
      exact .raised (List.nil_append _).symm (List.forall_mem_nil _)
        ⟨congrArg Prod.fst henter, eq_false_of_ne_true hskip⟩
  case again =>
    intro l' hsteady
    obtain ⟨hloads, ⟨hopened, -⟩ | ⟨hskipped, hskipped'⟩⟩ := List.forall_mem_singleton.mp hsteady
    · exact absurd hopened hclosed
    · obtain ⟨stop', hstop', hskip'⟩ := hskipped'
      obtain ⟨other, hother, hskip⟩ := hskipped
      obtain rfl : stop = other := Except.error.inj ((congrArg Prod.fst henter).symm.trans hother)
      have hagain : tree.enter path l' = (.error stop', l') := Prod.ext hstop' hloads
      rw [hrun, if_pos hskip, visitOne, hagain]
      dsimp only
      rw [if_pos hskip']

/-- A package that opens is listed before what is met inside it. -/
theorem walks_of_opened (hpackage : IsPackage tree path) (henter : tree.enter path l = (.ok (), l₁))
    (h : Walks tree (Inside tree path) l₁ visits visit) :
    Walks tree (· = path) l (⟨path, l⟩ :: visits) (visitOne tree visit path) := by
  have hopened : Visit.Opened tree ⟨path, l⟩ := congrArg Prod.fst henter
  have hrun : visitOne tree visit path l = ((visit l₁).1.map (path :: ·), (visit l₁).2) := by
    rw [visitOne, henter]
  have hmeets (other : Path) : Meets tree (· = path) (⟨path, l⟩ :: visits) other ↔
      other = path ∨ Meets tree (Inside tree path) visits other := by
    rw [Meets, List.exists_mem_cons_iff, and_iff_right hopened, Meets]
  have hbelow {v : Visit α} (hv : v ∈ visits) : ∃ name, path ++ [name] <+: v.path := by
    obtain ⟨_, hinside, hprefix⟩ := h.below v hv
    obtain ⟨name, rfl⟩ := hinside.path
    exact ⟨name, hprefix⟩
  constructor
  case states =>
    rw [hrun]
    refine .next path ?_
    rw [henter]
    exact h.states
  case below =>
    refine List.forall_mem_cons.mpr ⟨⟨path, rfl, List.prefix_refl path⟩, fun v hv => ?_⟩
    obtain ⟨name, hname⟩ := hbelow hv
    exact ⟨path, rfl, (List.prefix_append path [name]).trans hname⟩
  case ascending =>
    refine List.pairwise_cons.mpr ⟨fun other hother => ?_, h.ascending⟩
    obtain ⟨v, hv, rfl⟩ := List.mem_map.mp hother
    obtain ⟨name, hname⟩ := hbelow hv
    exact lt_of_inside hname
  case met =>
    refine List.forall_mem_cons.mpr ⟨⟨Or.inl rfl, hpackage⟩, fun v hv => ?_⟩
    exact (h.met v hv).imp_left fun hmet => (hmeets v.path).mpr (Or.inr hmet)
  case complete =>
    intro other hmet hother hbound
    rcases (hmeets other).mp hmet with rfl | hmet
    · exact ⟨_, List.mem_cons_self, rfl⟩
    · obtain ⟨v, hv, hpath⟩ := h.complete other hmet hother (List.forall_mem_cons.mp hbound).2
      exact ⟨v, List.mem_cons_of_mem _ hv, hpath⟩
  case ends =>
    have hquiet := Visit.not_raised_of_opened hopened
    have hends := h.ends
    rw [hrun]
    generalize (visit l₁).1 = r at hends
    cases hends with
    | found quiet mem =>
      refine .found (List.forall_mem_cons.mpr ⟨hquiet, quiet⟩) fun other => ?_
      rw [List.mem_cons, mem, hmeets]
    | @raised before _ _ last quiet raised =>
      refine .raised ?_ (List.forall_mem_cons.mpr ⟨hquiet, quiet⟩) raised
      rw [last, List.cons_append]
  case again =>
    intro l' hsteady
    obtain ⟨⟨hloads, hopens⟩, hsteady⟩ := List.forall_mem_cons.mp hsteady
    have hagain : tree.enter path l' = (.ok (), l') := by
      rcases hopens with ⟨-, hagain⟩ | ⟨⟨_, hskipped, -⟩, -⟩
      · exact Prod.ext hagain hloads
      · rw [henter] at hskipped
        cases hskipped
    rw [hrun, visitOne, hagain]
    dsimp only
    rw [h.again l' hsteady]

theorem exists_walks_visitOne (hpackage : IsPackage tree path)
    (h : ∀ l, ∃ visits, Walks tree (Inside tree path) l visits visit) (l : Loaded α) :
    ∃ visits, Walks tree (· = path) l visits (visitOne tree visit path) := by
  by_cases hopened : Visit.Opened tree ⟨path, l⟩
  · obtain ⟨visits, hvisits⟩ := h (tree.enter path l).2
    exact ⟨_, walks_of_opened hpackage (Prod.ext hopened rfl) hvisits⟩
  · exact ⟨_, walks_of_not_opened hpackage hopened⟩

theorem Walks.congr (h : Walks tree first l visits f) (heq : ∀ path, first path ↔ second path) :
    Walks tree second l visits f := by
  rwa [funext fun path => propext (heq path)] at h

/-- A walk that has nothing to begin with. -/
theorem walks_nil (l : Loaded α) (h : ∀ path, ¬ first path) :
    Walks tree first l [] fun l => (.ok [], l) := by
  have hmeets (path : Path) : ¬ Meets tree first [] path := by simpa [Meets] using h path
  constructor
  case states => exact .done l
  case below => exact List.forall_mem_nil _
  case ascending => exact List.Pairwise.nil
  case met => exact List.forall_mem_nil _
  case complete => exact fun path hpath => absurd hpath (hmeets path)
  case ends =>
    exact .found (List.forall_mem_nil _) fun path => iff_of_false List.not_mem_nil (hmeets path)
  case again => exact fun l' _ => rfl

end Walk

end CommandShell.ModuleVisits
