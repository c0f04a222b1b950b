import CommandShell.Proofs.Inclusion

/-!
Including the same modules again. The modules of an inclusion are loaded, so they are only read
again, and nothing but loading changes what is read. A module that was loaded after its package
was read has taken the member of its name from the package: that command is not found a second
time. If no member was lost so, the second inclusion stores the same commands in the same order
and changes neither table; in any case the third does not differ from the second. All of this
supposes that the glob names the same modules again, and loads none. It does when no package
was skipped on the way that opens afterwards: two packages can import each other so that the
one visited first fails, and has opened when the other was visited.
-/
namespace CommandShell.Reinclusion

open Registrations OwnNames ModuleLoads NestedLoads NamedModules Inclusion

section Sorting

variable {β : Type}

/-- What has a property and stands in front of what has not is found again. -/
theorem takeWhile_append_of_split {p : β → Bool} {before after : List β}
    (hbefore : ∀ b ∈ before, p b = true) (hafter : ∀ b ∈ after, p b = false) :
    (before ++ after).takeWhile p = before := by
  rw [List.takeWhile_append_of_pos hbefore]
  cases after with
  | nil => exact List.append_nil before
  | cons b rest =>
    have hstop : ¬ p b = true := ne_true_of_eq_false (hafter b List.mem_cons_self)
    rw [List.takeWhile_cons_of_neg hstop, List.append_nil]

/-- In a stable order, elements may be left out before sorting or afterwards. -/
theorem filter_mergeSort {le : β → β → Bool} (p : β → Bool)
    (htrans : ∀ a b c, le a b = true → le b c = true → le a c = true)
    (htotal : ∀ a b, (le a b || le b a) = true) (l : List β) :
    (l.filter p).mergeSort le = (l.mergeSort le).filter p := by
  have hbehind {a : β} {rest before after : List β}
      (hsort : (a :: rest).mergeSort le = before ++ a :: after) : ∀ b ∈ after, le a b = true := by
    have hsorted := List.pairwise_mergeSort htrans htotal (a :: rest)
    rw [hsort] at hsorted
    exact (List.pairwise_cons.mp (List.pairwise_append.mp hsorted).2.1).1
  induction l with
  | nil => rw [List.filter_nil, List.mergeSort_nil, List.filter_nil]
  | cons a rest ih =>
    obtain ⟨before, after, hsort, hrest, hfront⟩ := List.mergeSort_cons htrans htotal a rest
    have hkept : (rest.filter p).mergeSort le = before.filter p ++ after.filter p := by
      rw [ih, hrest, List.filter_append]
    by_cases ha : p a = true
    · obtain ⟨before', after', hsort', hrest', hfront'⟩ :=
        List.mergeSort_cons htrans htotal a (rest.filter p)
      have hsame : before' ++ after' = before.filter p ++ after.filter p := hrest'.symm.trans hkept
      -- both are split in front of the first element that `a` may precede
      have hbefore : before' = before.filter p := by
        calc
          before' = (before' ++ after').takeWhile fun b => !le a b :=
            (takeWhile_append_of_split hfront' fun b hb => by rw [hbehind hsort' b hb]; rfl).symm
          _ = (before.filter p ++ after.filter p).takeWhile fun b => !le a b := by rw [hsame]
          _ = before.filter p :=
            takeWhile_append_of_split (fun b hb => hfront b (List.mem_filter.mp hb).1)
              fun b hb => by rw [hbehind hsort b (List.mem_filter.mp hb).1]; rfl
      have hafter : after' = after.filter p := by
        rw [hbefore] at hsame
        exact List.append_cancel_left hsame
      rw [List.filter_cons_of_pos ha, hsort', hsort, hbefore, hafter, List.filter_append,
        List.filter_cons_of_pos ha]
    · rw [List.filter_cons_of_neg ha, hkept, hsort, List.filter_append,
        List.filter_cons_of_neg ha]

theorem append_eq_append_iff_of_sublist {a b c d : List β} (hleft : a.Sublist c)
    (hright : b.Sublist d) : a ++ b = c ++ d ↔ a = c ∧ b = d := by
  constructor
  · intro h
    have hlengths := congrArg List.length h
    rw [List.length_append, List.length_append] at hlengths
    have hfirst := hleft.length_le
    have hsecond := hright.length_le
    exact List.append_inj h (by omega)
  · rintro ⟨rfl, rfl⟩
    rfl

end Sorting

variable {α : Type}

/-- The turns of modules that are read again, with more modules loaded. -/
def reread (turns : List (Turn α)) (l : Loaded α) : List (Turn α) :=
  turns.map fun t => ⟨t.module, l⟩

/-- No member was replaced, since it was read, by a module of its name. -/
def Kept (t : Turn α) (l : Loaded α) : Prop :=
  ∀ e ∈ t.members, Has l (t.path ++ [e.1]) → Has t.loaded (t.path ++ [e.1])

section Reread

variable {tree : ModuleTree α} {names : List String} {l l' l'' : Loaded α} {turns : List (Turn α)}

theorem covers_of_reads (h : Reads tree names l turns l') :
    Covers l l' ∧ ∀ t ∈ turns, Covers t.loaded l' ∧ Has t.loaded t.path := by
  induction h with
  | done l => exact ⟨Covers.refl l, List.forall_mem_nil _⟩
  | @next module names l l₁ l' turns loads rest ih =>
    have hstep : Covers l l₁ := by
      have hcovers := covering_load tree (Path.ofString module) l
      rwa [loads] at hcovers
    refine ⟨hstep.trans ih.1, ?_⟩
    exact List.forall_mem_cons.mpr ⟨⟨ih.1, has_of_load loads (ofString_ne_nil module)⟩, ih.2⟩

/-- Modules that are loaded are read again without loading any. -/
theorem reads_again (h : Reads tree names l turns l') (hcovers : Covers l' l'') :
    Reads tree names l'' (reread turns l'') l'' := by
  induction h with
  | done l => exact Reads.done l''
  | @next module names l l₁ l' turns loads rest ih =>
    have hafter : Covers l₁ l'' := (covers_of_reads rest).1.trans hcovers
    have hhas : Has l₁ (Path.ofString module) := has_of_load loads (ofString_ne_nil module)
    exact Reads.next (load_of_has (hafter.kept _ hhas)) (ih hcovers)

theorem members_pairwise (t : Turn α) : t.members.Pairwise fun e f => e.1 ≤ f.1 :=
  pairwise_le_mergeSort_entries _

/-- What is read again is what was read, but for members that modules have replaced. -/
theorem members_reread {t : Turn α} (hcovers : Covers t.loaded l)
    (hhas : Has t.loaded t.path) :
    Turn.members ⟨t.module, l⟩ = t.members.filter fun e =>
      Has l (t.path ++ [e.1]) → Has t.loaded (t.path ++ [e.1]) := by
  rw [Turn.members, Turn.members, ← filter_mergeSort _ entry_trans entry_total,
    ← hcovers.attributes t.path hhas]
  rfl

theorem commands_reread_sublist {t : Turn α} (hcovers : Covers t.loaded l)
    (hhas : Has t.loaded t.path) : (Turn.commands ⟨t.module, l⟩).Sublist t.commands := by
  rw [Turn.commands, members_reread hcovers hhas]
  exact List.filter_sublist.map _

theorem commands_reread_eq_iff {t : Turn α} (hcovers : Covers t.loaded l)
    (hhas : Has t.loaded t.path) : Turn.commands ⟨t.module, l⟩ = t.commands ↔ Kept t l := by
  rw [Turn.commands, Turn.commands, members_reread hcovers hhas]
  constructor
  · intro h e he
    have hlength := congrArg List.length h
    rw [List.length_map, List.length_map] at hlength
    have hall := List.filter_eq_self.mp (List.filter_sublist.eq_of_length hlength)
    exact of_decide_eq_true (hall e he)
  · intro h
    rw [List.filter_eq_self.mpr fun e he => decide_eq_true (h e he)]

theorem stored_reread_sublist (h : ∀ t ∈ turns, Covers t.loaded l ∧ Has t.loaded t.path) :
    (stored (reread turns l)).Sublist (stored turns) := by
  rw [stored, stored, reread, List.flatMap_map]
  exact List.Sublist.flatMap_right turns fun t ht => commands_reread_sublist (h t ht).1 (h t ht).2

/-- The same commands are read again unless a member was replaced. -/
theorem stored_reread_eq_iff (h : ∀ t ∈ turns, Covers t.loaded l ∧ Has t.loaded t.path) :
    stored (reread turns l) = stored turns ↔ ∀ t ∈ turns, Kept t l := by
  induction turns with
  | nil => exact ⟨fun _ => List.forall_mem_nil _, fun _ => rfl⟩
  | cons t rest ih =>
    obtain ⟨⟨hcovers, hhas⟩, hrest⟩ := List.forall_mem_cons.mp h
    rw [List.forall_mem_cons, ← ih hrest, ← commands_reread_eq_iff hcovers hhas]
    exact append_eq_append_iff_of_sublist (commands_reread_sublist hcovers hhas)
      (stored_reread_sublist hrest)

end Reread

/-- The world after an inclusion. -/
def included (source : Value) (w : World α) : World α := (w.includeMatching source).2

section Again

variable {names : List String} {l l' : Loaded α} {turns : List (Turn α)} {source : Value}

theorem module_of_reads {tree : ModuleTree α} (h : Reads tree names l turns l') :
    turns.map Turn.module = names := by
  induction h with
  | done l => rfl
  | next loads rest ih => rw [List.map_cons, ih]

/-- Modules that load are all read, and their commands are stored. -/
theorem includeModules_of_reads {tree : ModuleTree α} (h : Reads tree names l turns l')
    {w : World α} (hmodules : w.modules = tree) (hloaded : w.loaded = l) :
    ∃ w', w.includeModules names = (.ok (stored turns), w') ∧ Stores w w' turns l' := by
  induction h generalizing w with
  | done l => exact ⟨w, rfl, rfl, hloaded, rfl, rfl⟩
  | @next module names l l₁ l' turns loads rest ih =>
    subst hmodules hloaded
    have hturn := stores_afterTurn w ⟨module, l₁⟩
    obtain ⟨w', hrest, hstores⟩ := ih hturn.modules hturn.loaded
    refine ⟨w', ?_, hturn.trans hstores⟩
    rw [includeModules_of_load loads, hrest]
    rfl

/-- Once its modules are loaded, a source that names them again is included by reading them. -/
theorem stores_included {tree : ModuleTree α} (hreads : Reads tree names l turns l')
    {v : World α} (hmodules : v.modules = tree) (hloaded : v.loaded = l')
    (hnames : tree.expand source l' = (.ok names, l')) :
    (v.includeMatching source).1 = .ok (stored (reread turns l')) ∧
      Stores v (included source v) (reread turns l') l' := by
  subst hmodules hloaded
  have hloads := reads_again hreads (Covers.refl v.loaded)
  cases source with
  | text s =>
    obtain ⟨v', hrun, hstores⟩ := includeModules_of_reads hloads rfl rfl
    have heq : v.includeMatching (.text s) = (.ok (stored (reread turns v.loaded)), v') :=
      (includeMatching_of_expand hnames).trans hrun
    rw [included, heq]
    exact ⟨rfl, hstores⟩
  | _ => cases (Prod.mk.inj hnames).1

end Again

/-- What an inclusion that succeeds has read, and what the registry holds afterwards. -/
structure Included (w w' : World α) (source : Value) (list : List (Command α))
    (turns : List (Turn α)) : Prop where
  named : ∃ l, w.modules.expand source w.loaded = (.ok (turns.map Turn.module), l) ∧
    Reads w.modules (turns.map Turn.module) l turns w'.loaded
  increasing : (turns.map Turn.module).Pairwise (· < ·)
  sorted : ∀ t ∈ turns, t.members.Perm (t.loaded.attributes t.path) ∧
    t.members.Pairwise fun e f => e.1 ≤ f.1
  listed : list = stored turns
  registered : w'.registry = registerAll w.registry list
  found : ∀ c ∈ list, ∃ d, IsLast (Named c.name) (own list) ⟨d.name, d⟩ ∧
    w'.registry.lookup c.name = .ok d
  aliased : ∀ c ∈ list, ∀ a ∈ c.aliases, ∃ d, IsLast (Declaring a) (own list) ⟨d.name, d⟩ ∧
    w'.registry.aliases.get? a = some d

/-- The source names the modules of an inclusion again, and loads none. -/
def NamesAgain (w' : World α) (source : Value) (turns : List (Turn α)) : Prop :=
  w'.modules.expand source w'.loaded = (.ok (turns.map Turn.module), w'.loaded)

/-- What comes of including the same source again, once and ever after. -/
structure Repeated (w' : World α) (source : Value) (list : List (Command α))
    (turns : List (Turn α)) : Prop where
  succeeds : (w'.includeMatching source).1 = .ok (stored (reread turns w'.loaded))
  registered : (included source w').registry =
    registerAll w'.registry (stored (reread turns w'.loaded))
  sublist : (stored (reread turns w'.loaded)).Sublist list
  same : stored (reread turns w'.loaded) = list ↔ ∀ t ∈ turns, Kept t w'.loaded
  unchanged : (∀ t ∈ turns, Kept t w'.loaded) → (included source w').registry = w'.registry
  steady : ∀ n,
    (((included source)^[n + 1] w').includeMatching source).1 =
        .ok (stored (reread turns w'.loaded)) ∧
      ((included source)^[n + 2] w').registry = ((included source)^[n + 1] w').registry

theorem lookup_eq_ok_of_commands {r : Registry α} {name : String} {c : Command α}
    (h : r.commands.get? name = some c) : r.lookup name = .ok c := by
  rw [Registry.lookup, Registry.find?, h]

theorem included_of_reads {w w' : World α} {source : Value} {names : List String} {l : Loaded α}
    {turns : List (Turn α)} (hexpand : w.modules.expand source w.loaded = (.ok names, l))
    (hreads : Reads w.modules names l turns w'.loaded)
    (hregistry : w'.registry = registerAll w.registry (stored turns)) :
    Included w w' source (stored turns) turns := by
  have hsettled : Settled w'.registry (stored turns) := by
    rw [hregistry]
    exact settled_registerAll w.registry (stored turns)
  have hmodules := module_of_reads hreads
  constructor
  case named =>
    rw [hmodules]
    exact ⟨l, hexpand, hreads⟩
  case increasing =>
    rw [hmodules]
    exact increasing_of_expand hexpand
  case sorted => exact fun t _ => ⟨List.mergeSort_perm _ _, members_pairwise t⟩
  case listed => rfl
  case registered => exact hregistry
  case found =>
    intro c hc
    obtain ⟨d, hlast⟩ := exists_isLast_own (P := Named c.name) hc rfl
    exact ⟨d, hlast, lookup_eq_ok_of_commands (hsettled.named c.name _ hlast)⟩
  case aliased =>
    intro c hc a ha
    obtain ⟨d, hlast⟩ := exists_isLast_own (P := Declaring a) hc ha
    exact ⟨d, hlast, hsettled.aliased a _ hlast⟩

theorem namesAgain_of_reads {w w' : World α} {source : Value} {names : List String}
    {l : Loaded α} {turns : List (Turn α)}
    (hexpand : w.modules.expand source w.loaded = (.ok names, l))
    (hreads : Reads w.modules names l turns w'.loaded) (hmodules : w'.modules = w.modules)
    (hskips : ∀ s, source = .text s → Glob.isConcrete (Text.trim s) = false →
      SkipsAgain w.modules (Path.ofString (Glob.root (Text.trim s))) w.loaded w'.loaded) :
    NamesAgain w' source turns := by
  rw [NamesAgain, hmodules, module_of_reads hreads]
  cases source with
  | text s => exact expand_again hexpand (covers_of_reads hreads).1 (hskips s rfl)
  | _ => cases (Prod.mk.inj hexpand).1

theorem repeated_of_reads {w w' : World α} {source : Value} {names : List String} {l : Loaded α}
    {turns : List (Turn α)} (hreads : Reads w.modules names l turns w'.loaded)
    (hmodules : w'.modules = w.modules)
    (hregistry : w'.registry = registerAll w.registry (stored turns))
    (hagain : NamesAgain w' source turns) : Repeated w' source (stored turns) turns := by
  rw [NamesAgain, hmodules, module_of_reads hreads] at hagain
  have hcovers := (covers_of_reads hreads).2
  have hsame := stored_reread_eq_iff hcovers
  obtain ⟨hsucceeds, hstores⟩ := stores_included hreads hmodules rfl hagain
  -- further inclusions keep the modules, and what is loaded
  have hkept (n : ℕ) : ((included source)^[n] w').modules = w.modules ∧
      ((included source)^[n] w').loaded = w'.loaded := by
    induction n with
    | zero => exact ⟨hmodules, rfl⟩
    | succ n ih =>
      have hnext := (stores_included hreads ih.1 ih.2 hagain).2
      rw [Function.iterate_succ_apply']
      exact ⟨hnext.modules.trans ih.1, hnext.loaded⟩
  have hstep (n : ℕ) : ((included source)^[n + 1] w').registry =
      registerAll ((included source)^[n] w').registry (stored (reread turns w'.loaded)) := by
    rw [Function.iterate_succ_apply']
    exact (stores_included hreads (hkept n).1 (hkept n).2 hagain).2.registry
  constructor
  case succeeds => exact hsucceeds
  case registered => exact hstores.registry
  case sublist => exact stored_reread_sublist hcovers
  case same => exact hsame
  case unchanged =>
    intro hall
    rw [hstores.registry, hsame.mpr hall, hregistry, registerAll_registerAll]
  case steady =>
    intro n
    refine ⟨(stores_included hreads (hkept (n + 1)).1 (hkept (n + 1)).2 hagain).1, ?_⟩
    rw [hstep (n + 1), hstep n, registerAll_registerAll]

/-- An inclusion stores the commands it reads. It names the same modules again unless something
was skipped that can be imported now, and then it can be repeated. What it finds again are the
same commands, unless a module that it loaded took the place of one. -/
theorem repeated_includeMatching (w w' : World α) (source : Value) (list : List (Command α))
    (hincludes : w.includeMatching source = (.ok list, w')) :
    ∃ turns, Included w w' source list turns ∧
      ((∀ s, source = .text s → Glob.isConcrete (Text.trim s) = false →
        SkipsAgain w.modules (Path.ofString (Glob.root (Text.trim s))) w.loaded w'.loaded) →
          NamesAgain w' source turns) ∧
      (NamesAgain w' source turns → Repeated w' source list turns) := by
  rcases includeMatching_cases w source with ⟨stop, l, _, heq⟩ | ⟨names, l, hexpand, heq⟩
  · rw [heq] at hincludes
    cases (Prod.mk.inj hincludes).1
  · rw [heq] at hincludes
    have hends := ends_includeModules names { w with loaded := l }
    rw [hincludes] at hends
    cases hends with
    | complete reads stores =>
      rename_i turns l'
      obtain rfl : w'.loaded = l' := stores.loaded
      exact ⟨turns, included_of_reads hexpand reads stores.registry,
        namesAgain_of_reads hexpand reads stores.modules,
        repeated_of_reads reads stores.modules stores.registry⟩

section Replacing

/-- A command that greets, with an overload that does nothing. -/
def greet (help : String) : Command Unit where
  name := "greet"
  first := ⟨help, [], [], none, List.nodup_nil, List.nodup_nil⟩
  others := []
  aliases := []
  hidden := false
  names_valid := by decide
  names_nodup := by decide

def plainly : Command Unit := greet "Greets."

def warmly : Command Unit := greet "Greets warmly."

/-- A package with two commands of one name. A module has the name of the second attribute. -/
def replacing : World Unit :=
  { World.initial with
    modules := [⟨["zp"], true, .ofCommands [("Z", plainly), ("a", warmly)]⟩,
      ⟨["zp", "a"], false, .done⟩] }

/-- What is loaded when the modules are named, and what is loaded after they were included. -/
def packageLoaded : Loaded Unit := [(["zp"], [("Z", plainly), ("a", warmly)])]

def moduleLoaded : Loaded Unit := [(["zp", "a"], []), (["zp"], [("Z", plainly)])]

theorem expand_replacing :
    replacing.modules.expand (.text "zp.**") [] = (.ok ["zp", "zp.a"], packageLoaded) := by
  have hfound : replacing.modules.descendants ["zp"] packageLoaded =
      (.ok [["zp", "a"]], packageLoaded) := by cbv
  rw [expand_of_descendants "zp" ["zp"] (by cbv) (by cbv) (by cbv) (by decide) (by cbv)
    (by cbv) rfl hfound]
  cbv

theorem expand_replaced :
    replacing.modules.expand (.text "zp.**") moduleLoaded =
      (.ok ["zp", "zp.a"], moduleLoaded) := by
  have hfound : replacing.modules.descendants ["zp"] moduleLoaded =
      (.ok [["zp", "a"]], moduleLoaded) := by cbv
  rw [expand_of_descendants "zp" ["zp"] (by cbv) (by cbv) (by cbv) (by decide) (by cbv)
    (by cbv) rfl hfound]
  cbv

theorem includeMatching_replacing :
    replacing.includeMatching (.text "zp.**") =
      World.includeModules ["zp", "zp.a"] { replacing with loaded := packageLoaded } :=
  includeMatching_of_expand expand_replacing

theorem replacing_includes :
    replacing.includeMatching (.text "zp.**") =
      (.ok [plainly, warmly], included (.text "zp.**") replacing) := by
  rw [included, includeMatching_replacing]
  cbv

theorem modules_replacing :
    (included (.text "zp.**") replacing).modules = replacing.modules := by
  rw [included, includeMatching_replacing]
  cbv

theorem loaded_replacing : (included (.text "zp.**") replacing).loaded = moduleLoaded := by
  rw [included, includeMatching_replacing]
  cbv

theorem includeMatching_replaced :
    (included (.text "zp.**") replacing).includeMatching (.text "zp.**") =
      World.includeModules ["zp", "zp.a"]
        { included (.text "zp.**") replacing with loaded := moduleLoaded } := by
  apply includeMatching_of_expand
  rw [modules_replacing, loaded_replacing]
  exact expand_replaced

theorem replacing_repeated :
    replacing.includeMatching (.text "zp.**") =
        (.ok [plainly, warmly], included (.text "zp.**") replacing) ∧
      ∃ turns, Included replacing (included (.text "zp.**") replacing) (.text "zp.**")
          [plainly, warmly] turns ∧
        NamesAgain (included (.text "zp.**") replacing) (.text "zp.**") turns ∧
        Repeated (included (.text "zp.**") replacing) (.text "zp.**") [plainly, warmly] turns := by
  obtain ⟨turns, hincluded, -, hrepeated⟩ := repeated_includeMatching _ _ _ _ replacing_includes
  obtain ⟨l, hnames, -⟩ := hincluded.named
  have hturns : turns.map Turn.module = ["zp", "zp.a"] :=
    Except.ok.inj (congrArg Prod.fst (hnames.symm.trans expand_replacing))
  have hagain : NamesAgain (included (.text "zp.**") replacing) (.text "zp.**") turns := by
    rw [NamesAgain, modules_replacing, loaded_replacing, hturns]
    exact expand_replaced
  exact ⟨replacing_includes, turns, hincluded, hagain, hrepeated hagain⟩

/-- Two packages import a command from each other. The first fails when it is loaded first, since
the other one needs what it does not have yet; the second opens, and loads the first. -/
def circular : World Unit :=
  { World.initial with
    modules := [⟨["zp"], true, .done⟩,
      ⟨["zp", "a"], true, imports ["zp", "b"] "f" (.bind "g" warmly .done)⟩,
      ⟨["zp", "a", "x"], false, .bind "h" warmly .done⟩,
      ⟨["zp", "b"], true, .bind "f" plainly (imports ["zp", "a"] "g" .done)⟩] }

def circleLoaded : Loaded Unit := [(["zp", "a"], [("f", plainly), ("g", warmly)]),
  (["zp", "b"], [("f", plainly), ("g", warmly)]), (["zp"], [])]

/-- What the first inclusion of the modules `x` leaves: it found none. -/
def circled : World Unit := { circular with loaded := circleLoaded }

theorem includeMatching_circular :
    circular.includeMatching (.text "zp.*.x") = (.ok [], circled) := by
  have hfound : circular.modules.descendants ["zp"] [(["zp"], [])] =
      (.ok [["zp", "a"], ["zp", "b"]], circleLoaded) := by cbv
  have hexpand : circular.modules.expand (.text "zp.*.x") [] = (.ok [], circleLoaded) := by
    rw [expand_of_descendants "zp" ["zp"] (by cbv) (by cbv) (by cbv) (by decide) (by cbv)
      (by cbv) rfl hfound]
    cbv
  rw [includeMatching_of_expand hexpand, World.includeModules, circled]

theorem includeMatching_circled : (circled.includeMatching (.text "zp.*.x")).1 = .ok [warmly] := by
  have hfound : circled.modules.descendants ["zp"] circled.loaded =
      (.ok [["zp", "a"], ["zp", "a", "x"], ["zp", "b"]], circled.loaded) := by cbv
  have hexpand : circled.modules.expand (.text "zp.*.x") circled.loaded =
      (.ok ["zp.a.x"], circled.loaded) := by
    rw [expand_of_descendants "zp" ["zp"] (by cbv) (by cbv) (by cbv) (by decide) (by cbv)
      (by cbv) rfl hfound]
    cbv
  have hpath : Path.ofString "zp.a.x" = ["zp", "a", "x"] := by decide
  have hload : circled.modules.load (Path.ofString "zp.a.x") circled.loaded =
      (.ok (), (["zp", "a", "x"], [("h", warmly)]) :: circleLoaded) := by
    rw [hpath]
    rfl
  have hcommands : Turn.commands
      ⟨"zp.a.x", (["zp", "a", "x"], [("h", warmly)]) :: circleLoaded⟩ = [warmly] := by
    rw [Turn.commands, Turn.members, Turn.path, hpath]
    exact congrArg (List.map Prod.snd) (List.mergeSort_singleton ("h", warmly))
  rw [includeMatching_of_expand hexpand, includeModules_of_load hload, hcommands]
  rfl

/-- The second inclusion finds one command less, and the name stands for the other one again.
With packages that import each other it finds a command more. -/
theorem second_inclusion_differs :
    (replacing.includeMatching (.text "zp.**")).1 = .ok [plainly, warmly] ∧
      (included (.text "zp.**") replacing).registry.lookup "greet" = .ok warmly ∧
      ((included (.text "zp.**") replacing).includeMatching (.text "zp.**")).1 = .ok [plainly] ∧
      (included (.text "zp.**") (included (.text "zp.**") replacing)).registry.lookup "greet" =
        .ok plainly ∧
      plainly.first.help ≠ warmly.first.help ∧
      (circular.includeMatching (.text "zp.*.x")).1 = .ok [] ∧
      ((included (.text "zp.*.x") circular).includeMatching (.text "zp.*.x")).1 = .ok [warmly] := by
  refine ⟨by rw [replacing_includes], ?_, ?_, ?_, by decide, ?_, ?_⟩
  · rw [included, includeMatching_replacing]
    cbv
  · rw [includeMatching_replaced, included, includeMatching_replacing]
    cbv
  · rw [included, includeMatching_replaced, included, includeMatching_replacing]
    cbv
  · rw [includeMatching_circular]
  · rw [included, includeMatching_circular]
    exact includeMatching_circled

end Replacing

end CommandShell.Reinclusion
