import CommandShell.Proofs.NamedModules
import CommandShell.Proofs.OwnNames
import Mathlib

/-!
Including the modules of a glob. They are loaded one after the other, and the commands of
each are stored before the next one is loaded. So an inclusion that stops at a module that
does not load has stored the commands of the modules in front of it, and nothing takes them
back. The registry is as it was exactly when all of them stood there already.
-/
namespace CommandShell.Inclusion

open Registrations OwnNames ModuleLoads NestedLoads NamedModules

variable {α : Type}

/-- A module of an inclusion, with what is loaded when its commands are read. -/
structure Turn (α : Type) where
  module : String
  loaded : Loaded α

namespace Turn

def path (t : Turn α) : Path := Path.ofString t.module

/-- The commands of the module by ascending attribute. -/
def members (t : Turn α) : Table (Command α) :=
  (t.loaded.attributes t.path).mergeSort fun e f => e.1 ≤ f.1

def commands (t : Turn α) : List (Command α) := t.members.map (·.2)

end Turn

def stored (turns : List (Turn α)) : List (Command α) := turns.flatMap Turn.commands

/-- Modules load one after the other. -/
inductive Reads (tree : ModuleTree α) : List String → Loaded α → List (Turn α) → Loaded α → Prop
  | done (l : Loaded α) : Reads tree [] l [] l
  | next {module : String} {names : List String} {l l' l'' : Loaded α} {turns : List (Turn α)}
      (loads : tree.load (Path.ofString module) l = (.ok (), l'))
      (rest : Reads tree names l' turns l'') :
      Reads tree (module :: names) l (⟨module, l'⟩ :: turns) l''

/-- The commands of the modules read so far are stored, and the modules are loaded. -/
structure Stores (w w' : World α) (turns : List (Turn α)) (l : Loaded α) : Prop where
  registry : w'.registry = registerAll w.registry (stored turns)
  loaded : w'.loaded = l
  modules : w'.modules = w.modules
  host : w'.host = w.host

/-- What stops an inclusion at a module that does not load. -/
def notLoaded (module : String) (stop : Stop) : Stop :=
  if stop.isUnimportable then
    .failure (.wrongType ("unable to import module " ++ Text.quote module)) else stop

/-- How an inclusion ends: every module was read, or one did not load. -/
inductive Ends (w : World α) (names : List String) :
    Except Stop (List (Command α)) × World α → Prop
  | complete {turns : List (Turn α)} {l : Loaded α} {w' : World α}
      (reads : Reads w.modules names w.loaded turns l) (stores : Stores w w' turns l) :
      Ends w names (.ok (stored turns), w')
  | broken {before after : List String} {module : String} {turns : List (Turn α)}
      {l l' : Loaded α} {stop : Stop} {w' : World α} (split : names = before ++ module :: after)
      (reads : Reads w.modules before w.loaded turns l)
      (fails : w.modules.load (Path.ofString module) l = (.error stop, l'))
      (stores : Stores w w' turns l') : Ends w names (.error (notLoaded module stop), w')

section Step

theorem registry_includeCommands (module : String) (commands : List (Command α)) (w : World α) :
    (w.includeCommands module commands).registry = registerAll w.registry commands := by
  induction commands generalizing w with
  | nil => rfl
  | cons c rest ih => exact ih ((w.register c.name c).log [World.includedEntry c.name module])

/-- Storing commands touches the registry alone, apart from the records. -/
theorem frame_includeCommands (module : String) (commands : List (Command α)) (w : World α) :
    (w.includeCommands module commands).loaded = w.loaded ∧
      (w.includeCommands module commands).modules = w.modules ∧
      (w.includeCommands module commands).host = w.host := by
  induction commands generalizing w with
  | nil => exact ⟨rfl, rfl, rfl⟩
  | cons c rest ih => exact ih ((w.register c.name c).log [World.includedEntry c.name module])

theorem Stores.trans {w w' w'' : World α} {first second : List (Turn α)} {l l' : Loaded α}
    (h : Stores w w' first l) (h' : Stores w' w'' second l') :
    Stores w w'' (first ++ second) l' := by
  constructor
  case registry =>
    rw [h'.registry, h.registry, ← registerAll_append, stored, stored, stored,
      List.flatMap_append]
  case loaded => exact h'.loaded
  case modules => exact h'.modules.trans h.modules
  case host => exact h'.host.trans h.host

/-- What an inclusion goes on with after a module. -/
def afterTurn (w : World α) (turn : Turn α) : World α :=
  World.includeCommands turn.module turn.commands { w with loaded := turn.loaded }

theorem stores_afterTurn (w : World α) (turn : Turn α) :
    Stores w (afterTurn w turn) [turn] turn.loaded := by
  have hstored : stored [turn] = turn.commands := List.flatMap_singleton ..
  obtain ⟨hloaded, hmodules, hhost⟩ :=
    frame_includeCommands turn.module turn.commands { w with loaded := turn.loaded }
  constructor
  case registry => rw [afterTurn, registry_includeCommands, hstored]
  case loaded => exact hloaded
  case modules => exact hmodules
  case host => exact hhost

theorem includeModules_of_load {w : World α} {module : String} {l : Loaded α}
    (hload : w.modules.load (Path.ofString module) w.loaded = (.ok (), l)) (rest : List String) :
    w.includeModules (module :: rest) =
      (((afterTurn w ⟨module, l⟩).includeModules rest).1.map (Turn.commands ⟨module, l⟩ ++ ·),
        ((afterTurn w ⟨module, l⟩).includeModules rest).2) := by
  rw [World.includeModules, hload]
  rfl

theorem includeModules_of_error {w : World α} {module : String} {l : Loaded α} {stop : Stop}
    (hload : w.modules.load (Path.ofString module) w.loaded = (.error stop, l))
    (rest : List String) : w.includeModules (module :: rest) =
      (.error (notLoaded module stop), { w with loaded := l }) := by
  rw [World.includeModules, hload]
  rfl

end Step

theorem ends_includeModules (names : List String) (w : World α) :
    Ends w names (w.includeModules names) := by
  induction names generalizing w with
  | nil => exact Ends.complete (Reads.done w.loaded) ⟨rfl, rfl, rfl, rfl⟩
  | cons module rest ih =>
    rcases hload : w.modules.load (Path.ofString module) w.loaded with ⟨stop | _, l⟩
    · rw [includeModules_of_error hload]
      have hsplit : module :: rest = [] ++ module :: rest := rfl
      exact Ends.broken hsplit (Reads.done w.loaded) hload ⟨rfl, rfl, rfl, rfl⟩
    · have hturn := stores_afterTurn w ⟨module, l⟩
      have hrest := ih (afterTurn w ⟨module, l⟩)
      rw [includeModules_of_load hload]
      generalize (afterTurn w ⟨module, l⟩).includeModules rest = outcome at hrest
      cases hrest with
      | complete reads stores =>
        rw [hturn.modules, hturn.loaded] at reads
        exact Ends.complete (Reads.next hload reads) (hturn.trans stores)
      | broken split reads fails stores =>
        rw [hturn.modules, hturn.loaded] at reads
        rw [hturn.modules] at fails
        exact Ends.broken (congrArg (module :: ·) split) (Reads.next hload reads) fails
          (hturn.trans stores)

/-- Where an inclusion stops: before it has modules to read, or at the first that does not load. -/
inductive Stopped (w : World α) (source : Value) : Stop → List (Turn α) → Prop
  | notText (h : ∀ s, source ≠ .text s) :
      Stopped w source (.failure (.wrongType "include() argument must be a string")) []
  | unnamed {stop : Stop} {l : Loaded α}
      (fails : w.modules.expand source w.loaded = (.error stop, l)) : Stopped w source stop []
  | broken {before after : List String} {module : String} {turns : List (Turn α)}
      {l l' l'' : Loaded α} {stop : Stop}
      (names : w.modules.expand source w.loaded = (.ok (before ++ module :: after), l))
      (reads : Reads w.modules before l turns l')
      (fails : w.modules.load (Path.ofString module) l' = (.error stop, l'')) :
      Stopped w source (notLoaded module stop) turns

/-- Commands were stored, and nothing else that a question to the registry can tell changed. -/
structure Interrupted (w w' : World α) (commands : List (Command α)) : Prop where
  registry : w'.registry = registerAll w.registry commands
  answers : ∀ request, (serve w' request).1 = (serve (replay (own commands) w) request).1
  untouched : w'.registry = w.registry ↔ Settled w.registry commands
  settled : Settled w.registry commands → ∀ request, (serve w' request).1 = (serve w request).1

section Answers

variable {w w' : World α}

/-- What is asked of the registry depends on it and on the host alone. -/
theorem answer_congr (hregistry : w'.registry = w.registry) (hhost : w'.host = w.host)
    (request : Request α) : (serve w' request).1 = (serve w request).1 := by
  cases request with
  | register name command =>
    rw [serve, serve]
    cases Registry.checkRegistration name command <;> rfl
  | _ => simp only [serve, hregistry, hhost]

theorem registry_replay_own (commands : List (Command α)) (w : World α) :
    (replay (own commands) w).registry = registerAll w.registry commands := by
  induction commands generalizing w with
  | nil => rfl
  | cons c rest ih => exact ih (w.register c.name c)

theorem host_replay (history : List (Registration α)) (w : World α) :
    (replay history w).host = w.host := by
  induction history generalizing w with
  | nil => rfl
  | cons e rest ih => exact ih (w.register e.name e.command)

theorem interrupted_of_registerAll {commands : List (Command α)}
    (hregistry : w'.registry = registerAll w.registry commands) (hhost : w'.host = w.host) :
    Interrupted w w' commands := by
  have huntouched : w'.registry = w.registry ↔ Settled w.registry commands := by
    rw [hregistry]
    exact registerAll_eq_self_iff w.registry commands
  constructor
  case registry => exact hregistry
  case answers =>
    apply answer_congr
    · rw [hregistry, registry_replay_own]
    · rw [hhost, host_replay]
  case untouched => exact huntouched
  case settled => exact fun hsettled => answer_congr (huntouched.mpr hsettled) hhost

end Answers

theorem includeMatching_of_expand {w : World α} {s : String} {names : List String} {l : Loaded α}
    (h : w.modules.expand (.text s) w.loaded = (.ok names, l)) :
    w.includeMatching (.text s) = World.includeModules names { w with loaded := l } := by
  rw [World.includeMatching, h]

/-- Either nothing is named, or modules are named and read in turn. -/
theorem includeMatching_cases (w : World α) (source : Value) :
    (∃ stop l, Stopped w source stop [] ∧
      w.includeMatching source = (.error stop, { w with loaded := l })) ∨
    (∃ names l, w.modules.expand source w.loaded = (.ok names, l) ∧
      w.includeMatching source = World.includeModules names { w with loaded := l }) := by
  cases source with
  | text s =>
    rcases hexpand : w.modules.expand (.text s) w.loaded with ⟨stop | names, l⟩
    · exact Or.inl ⟨stop, l, Stopped.unnamed hexpand, by rw [World.includeMatching, hexpand]⟩
    · exact Or.inr ⟨names, l, rfl, includeMatching_of_expand hexpand⟩
  | _ => exact Or.inl ⟨_, w.loaded, Stopped.notText (by rintro s ⟨⟩), rfl⟩

/-- An inclusion that fails stores the commands of the modules in front of the one that stops
it, and takes none of them back. -/
theorem interrupted_includeMatching (w : World α) (source : Value) (stop : Stop)
    (hfails : (w.includeMatching source).1 = .error stop) :
    ∃ turns, Stopped w source stop turns ∧
      Interrupted w (w.includeMatching source).2 (stored turns) := by
  rcases includeMatching_cases w source with ⟨stop', l, hstopped, heq⟩ | ⟨names, l, hexpand, heq⟩
  · rw [heq] at hfails ⊢
    obtain rfl := Except.error.inj hfails
    exact ⟨[], hstopped, interrupted_of_registerAll rfl rfl⟩
  · rw [heq] at hfails ⊢
    have hends := ends_includeModules names { w with loaded := l }
    generalize World.includeModules names { w with loaded := l } = outcome at hends hfails
    cases hends with
    | complete reads stores => cases hfails
    | broken split reads fails stores =>
      obtain rfl := Except.error.inj hfails
      rw [split] at hexpand
      exact ⟨_, Stopped.broken hexpand reads fails,
        interrupted_of_registerAll stores.registry stores.host⟩

section HalfBroken

/-- A command that greets, with an overload that does nothing. -/
def hail : Command Unit where
  name := "hail"
  first := ⟨"Hails.", [], [], none, List.nodup_nil, List.nodup_nil⟩
  others := []
  aliases := []
  hidden := false
  names_valid := by decide
  names_nodup := by decide

/-- A package of two modules. One declares a command, and the one after it does not load. -/
def halfBroken : World Unit :=
  { World.initial with
    modules := [⟨["zp"], true, .done⟩, ⟨["zp", "a"], false, .bind "hail" hail .done⟩,
      ⟨["zp", "b"], false, .fail .unimportable⟩] }

theorem expand_halfBroken :
    halfBroken.modules.expand (.text "zp.*") [] = (.ok ["zp.a", "zp.b"], [(["zp"], [])]) := by
  have hfound : halfBroken.modules.descendants ["zp"] [(["zp"], [])] =
      (.ok [["zp", "a"], ["zp", "b"]], [(["zp"], [])]) := by cbv
  rw [expand_of_descendants "zp" ["zp"] (by cbv) (by cbv) (by cbv) (by decide) (by cbv)
    (by cbv) rfl hfound]
  cbv

theorem includeMatching_halfBroken :
    halfBroken.includeMatching (.text "zp.*") =
      World.includeModules ["zp.a", "zp.b"] { halfBroken with loaded := [(["zp"], [])] } :=
  includeMatching_of_expand expand_halfBroken

theorem halfBroken_fails :
    (halfBroken.includeMatching (.text "zp.*")).1 =
      .error (.failure (.wrongType "unable to import module 'zp.b'")) := by
  rw [includeMatching_halfBroken]
  cbv

theorem halfBroken_interrupted :
    (halfBroken.includeMatching (.text "zp.*")).1 =
        .error (.failure (.wrongType "unable to import module 'zp.b'")) ∧
      ∃ turns, Stopped halfBroken (.text "zp.*")
          (.failure (.wrongType "unable to import module 'zp.b'")) turns ∧
        Interrupted halfBroken (halfBroken.includeMatching (.text "zp.*")).2 (stored turns) :=
  ⟨halfBroken_fails, interrupted_includeMatching _ _ _ halfBroken_fails⟩

/-- The registry was empty, and the inclusion that fails leaves a command in it. -/
theorem failed_inclusion_leaves_commands :
    (halfBroken.includeMatching (.text "zp.*")).1 =
        .error (.failure (.wrongType "unable to import module 'zp.b'")) ∧
      halfBroken.registry.size = 0 ∧ halfBroken.registry.names = [] ∧
      halfBroken.registry.contains "hail" = false ∧
      (halfBroken.includeMatching (.text "zp.*")).2.registry.size = 1 ∧
      (halfBroken.includeMatching (.text "zp.*")).2.registry.names = ["hail"] ∧
      (halfBroken.includeMatching (.text "zp.*")).2.registry.contains "hail" = true := by
  refine ⟨halfBroken_fails, rfl, by cbv, rfl, ?_⟩
  have hregistry : (halfBroken.includeMatching (.text "zp.*")).2.registry =
      Registry.empty.register "hail" hail := by
    rw [includeMatching_halfBroken]
    cbv
  have hfound : ((Registry.empty.register "hail" hail).find? "hail").isSome = true := by
    rw [Registry.find?_register_self, Option.isSome_some]
  rw [hregistry]
  exact ⟨rfl, List.mergeSort_singleton "hail", hfound⟩

end HalfBroken

end CommandShell.Inclusion
