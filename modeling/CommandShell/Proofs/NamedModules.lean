import CommandShell.Proofs.ModuleSearch

/-!
The modules that a source names. A source that is not concrete names the modules at and below
its root that match, each once and in ascending order, unless the root does not load or has
lost its package. With these modules loaded the source names them again and loads none, as far
as what could not be imported cannot be imported then: what opened opens again.
-/
namespace CommandShell.NamedModules

open ModuleLoads NestedLoads ModuleVisits ModuleSearch

variable {α : Type}

section Expand

variable {tree : ModuleTree α} {s : String} {l l' l'' : Loaded α}

/-- The packages above a folder are loaded still when more modules are. -/
theorem goneAbove_of_kept (hkept : ∀ path, Has l path → Has l' path) {above : List String}
    (h : tree.goneAbove l above = none) : tree.goneAbove l' above = none := by
  fun_induction ModuleTree.goneAbove tree l above with
  | case1 | case2 => rfl
  | case3 name above hne hfolder hhas ih =>
    rw [ModuleTree.goneAbove, hfolder]
    · exact (if_pos (hkept _ hhas)).trans (ih h)
    · exact hne
  | case4 => cases h
  | case5 name above hne hother =>
    rw [ModuleTree.goneAbove]
    · split
      case h_1 hfolder => exact absurd hfolder hother
      case h_2 => rfl
    · exact hne

theorem expand_text (htext : Text.trim s ≠ "") (l : Loaded α) :
    tree.expand (.text s) l = tree.expandText (Text.trim s) l := by
  rw [ModuleTree.expand, if_neg htext]

/-- A glob that is not concrete names the modules at and below its root that match. -/
theorem expandText_of_load (hglob : Glob.isConcrete s = false) (hne : Glob.root s ≠ "")
    (hload : tree.load (Path.ofString (Glob.root s)) l = (.ok (), l'))
    (habove : tree.goneAbove l' (Path.ofString (Glob.root s)).reverse = none) :
    tree.expandText s l =
      ((tree.descendants (Path.ofString (Glob.root s)) l').1.map fun found =>
        ((Glob.root s :: found.map Path.dotted).filter (Glob.accepts s)).eraseDups
          |>.mergeSort (· ≤ ·),
        (tree.descendants (Path.ofString (Glob.root s)) l').2) := by
  rw [ModuleTree.expandText]
  dsimp only
  rw [if_neg (ne_true_of_eq_false hglob), if_neg hne, hload]
  dsimp only
  rw [habove]

/-- Below a folder whose package has failed nothing is found. -/
theorem expandText_of_gone {gone : Path} (hglob : Glob.isConcrete s = false)
    (hne : Glob.root s ≠ "")
    (hload : tree.load (Path.ofString (Glob.root s)) l = (.ok (), l'))
    (hgone : tree.goneAbove l' (Path.ofString (Glob.root s)).reverse = some gone) :
    tree.expandText s l = (.error (.gone gone), l') := by
  rw [ModuleTree.expandText]
  dsimp only
  rw [if_neg (ne_true_of_eq_false hglob), if_neg hne, hload]
  dsimp only
  rw [hgone]

theorem expand_of_descendants {found : List Path}
    (root : String) (path : Path) (htext : Text.trim s ≠ "")
    (hglob : Glob.isConcrete (Text.trim s) = false) (hroot : Glob.root (Text.trim s) = root)
    (hne : root ≠ "") (hpath : Path.ofString root = path) (hload : tree.load path l = (.ok (), l'))
    (habove : tree.goneAbove l' path.reverse = none)
    (hfound : tree.descendants path l' = (.ok found, l'')) :
    tree.expand (.text s) l =
      (.ok (((root :: found.map Path.dotted).filter (Glob.accepts (Text.trim s)))
        |>.eraseDups.mergeSort (· ≤ ·)), l'') := by
  subst hpath hroot
  rw [expand_text htext, expandText_of_load hglob hne hload habove, hfound]
  rfl

end Expand

section Named

variable {tree : ModuleTree α}

/-- A source names itself, or nothing, or the modules at and below its root that match. -/
inductive Names (tree : ModuleTree α) (source : String) (l : Loaded α) :
    List String → Loaded α → Prop
  | concrete (h : Glob.isConcrete source = true) : Names tree source l [source] l
  | missing {stop : Stop} {l' : Loaded α} (glob : Glob.isConcrete source = false)
      (begins : Glob.root source ≠ "")
      (fails : tree.load (Path.ofString (Glob.root source)) l = (.error stop, l'))
      (skipped : stop.isUnimportable = true) : Names tree source l [] l'
  | searched {found : List Path} {l₁ l' : Loaded α} (glob : Glob.isConcrete source = false)
      (begins : Glob.root source ≠ "")
      (loads : tree.load (Path.ofString (Glob.root source)) l = (.ok (), l₁))
      (above : tree.goneAbove l₁ (Path.ofString (Glob.root source)).reverse = none)
      (finds : tree.descendants (Path.ofString (Glob.root source)) l₁ = (.ok found, l')) :
      Names tree source l
        (((Glob.root source :: found.map Path.dotted).filter (Glob.accepts source)).eraseDups
          |>.mergeSort (· ≤ ·)) l'

theorem names_of_expandText {source : String} {l l' : Loaded α} {names : List String}
    (h : tree.expandText source l = (.ok names, l')) : Names tree source l names l' := by
  rw [ModuleTree.expandText] at h
  dsimp only at h
  split at h
  case isTrue hconcrete =>
    obtain ⟨hnames, rfl⟩ := Prod.mk.inj h
    cases hnames
    exact .concrete hconcrete
  case isFalse hglob =>
    have hglob := eq_false_of_ne_true hglob
    split at h
    · cases (Prod.mk.inj h).1
    case isFalse hroot =>
      rcases hload : tree.load (Path.ofString (Glob.root source)) l with ⟨stop | _, l₁⟩
      · rw [hload] at h
        obtain ⟨hnames, rfl⟩ := Prod.mk.inj h
        split at hnames
        case isTrue hskip =>
          cases hnames
          exact .missing hglob hroot hload hskip
        case isFalse => cases hnames
      · rw [hload] at h
        dsimp only at h
        split at h
        · cases (Prod.mk.inj h).1
        rename_i habove
        rcases hfound : tree.descendants (Path.ofString (Glob.root source)) l₁ with
          ⟨stop | found, l₂⟩
        · rw [hfound] at h
          cases (Prod.mk.inj h).1
        · rw [hfound] at h
          obtain ⟨hnames, rfl⟩ := Prod.mk.inj h
          cases hnames
          exact .searched hglob hroot hload habove hfound

theorem Names.expandText {source : String} {l l' : Loaded α} {names : List String}
    (h : Names tree source l names l') : tree.expandText source l = (.ok names, l') := by
  cases h with
  | concrete h => exact if_pos h
  | missing glob begins fails skipped =>
    rw [ModuleTree.expandText, if_neg (ne_true_of_eq_false glob), if_neg begins, fails]
    dsimp only
    rw [if_pos skipped]
  | searched glob begins loads above finds =>
    rw [expandText_of_load glob begins loads above, finds]
    rfl

/-- A source names each module once, in ascending order. -/
theorem increasing_of_expandText {source : String} {l l' : Loaded α} {names : List String}
    (h : tree.expandText source l = (.ok names, l')) : names.Pairwise (· < ·) := by
  cases names_of_expandText h with
  | concrete => exact List.pairwise_singleton _ source
  | missing => exact List.Pairwise.nil
  | searched => exact Registrations.pairwise_lt_mergeSort (nodup_eraseDups _)

theorem increasing_of_expand {source : Value} {l l' : Loaded α} {names : List String}
    (h : tree.expand source l = (.ok names, l')) : names.Pairwise (· < ·) := by
  cases source with
  | text s =>
    rw [ModuleTree.expand] at h
    split at h
    case isTrue => cases (Prod.mk.inj h).1
    case isFalse => exact increasing_of_expandText h
  | _ => cases (Prod.mk.inj h).1

theorem splitDots_ne_nil (cs : List Char) : Path.splitDots cs ≠ [] := by
  cases cs with
  | nil => exact List.cons_ne_nil _ _
  | cons c rest =>
    rw [Path.splitDots]
    split
    · exact List.cons_ne_nil _ _
    · split <;> exact List.cons_ne_nil _ _

theorem ofString_ne_nil (name : String) : Path.ofString name ≠ [] :=
  fun hnil => splitDots_ne_nil _ (List.map_eq_nil_iff.mp hnil)

/-- What a search for modules could not import cannot be imported when it is made again. -/
structure SkipsAgain (tree : ModuleTree α) (root : Path) (l l' : Loaded α) : Prop where
  missing : ∀ stop l₁, tree.load root l = (.error stop, l₁) →
    ∃ again, again.isUnimportable = true ∧ tree.load root l' = (.error again, l')
  packages : ∀ l₁ visits, tree.load root l = (.ok (), l₁) →
    Walks tree (Inside tree root) l₁ visits (tree.descendants root) →
      ∀ v ∈ visits, v.Skipped tree → v.Steady tree l'

/-- Packages that opened open again, so only those that were skipped can change a search. -/
theorem descendants_again {root : Path} {l₁ l₂ : Loaded α} {found : List Path}
    {visits : List (Visit α)} (hfound : tree.descendants root l₁ = (.ok found, l₂))
    (hwalks : Walks tree (Inside tree root) l₁ visits (tree.descendants root))
    (hcovers : Covers l₂ l') (hskipped : ∀ v ∈ visits, v.Skipped tree → v.Steady tree l') :
    tree.descendants root l' = (.ok found, l') := by
  have hstates := hwalks.states
  have hends := hwalks.ends
  have hagain := hwalks.again l'
  rw [hfound] at hstates hends hagain
  cases hends with
  | found quiet mem =>
    apply hagain
    intro v hv
    rcases henter : tree.enter v.path v.loaded with ⟨stop | _, l₃⟩
    · by_cases hskip : stop.isUnimportable = true
      · exact hskipped v hv ⟨stop, congrArg Prod.fst henter, hskip⟩
      · exact absurd ⟨congrArg Prod.fst henter, eq_false_of_ne_true hskip⟩ (quiet v hv stop)
    · have hpath : v.path ≠ [] := by
        obtain ⟨_, hinside, hprefix⟩ := hwalks.below v hv
        obtain ⟨name, rfl⟩ := hinside.path
        rintro hnil
        rw [hnil] at hprefix
        simpa using List.prefix_nil.mp hprefix
      have hlast := hstates.covers.2 v hv
      rw [henter] at hlast
      have hreopened := enter_of_enter henter hpath (hlast.trans hcovers)
      exact ⟨congrArg Prod.snd hreopened,
        Or.inl ⟨congrArg Prod.fst henter, congrArg Prod.fst hreopened⟩⟩

/-- With all its modules loaded a source names the same modules again, and loads none. -/
theorem Names.again {source : String} {l l₁ : Loaded α} {names : List String}
    (h : Names tree source l names l₁) (hcovers : Covers l₁ l')
    (hskips : Glob.isConcrete source = false →
      SkipsAgain tree (Path.ofString (Glob.root source)) l l') :
    Names tree source l' names l' := by
  cases h with
  | concrete h => exact .concrete h
  | missing glob begins fails skipped =>
    obtain ⟨again, hskipped, hfails⟩ := (hskips glob).missing _ _ fails
    exact .missing glob begins hfails hskipped
  | @searched _ l₂ _ glob begins loads above finds =>
    obtain ⟨visits, hwalks⟩ := exists_walks_descendants tree (Path.ofString (Glob.root source)) l₂
    have hkept := hwalks.states.covers.1
    rw [finds] at hkept
    have hroot := hkept.kept _ (has_of_load loads (ofString_ne_nil _))
    exact .searched glob begins (load_of_has (hcovers.kept _ hroot))
      (goneAbove_of_kept (hkept.trans hcovers).kept above)
      (descendants_again finds hwalks hcovers ((hskips glob).packages _ _ loads hwalks))

theorem expand_again {s : String} {l l₁ : Loaded α} {names : List String}
    (h : tree.expand (.text s) l = (.ok names, l₁)) (hcovers : Covers l₁ l')
    (hskips : Glob.isConcrete (Text.trim s) = false →
      SkipsAgain tree (Path.ofString (Glob.root (Text.trim s))) l l') :
    tree.expand (.text s) l' = (.ok names, l') := by
  rw [ModuleTree.expand] at h ⊢
  split at h
  case isTrue => cases (Prod.mk.inj h).1
  case isFalse htext =>
    rw [if_neg htext]
    exact ((names_of_expandText h).again hcovers hskips).expandText

end Named

end CommandShell.NamedModules
