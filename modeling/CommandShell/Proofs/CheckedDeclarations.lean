import CommandShell.Proofs.CommandChecks
import CommandShell.Proofs.OverloadDeclarations

/-!
What the constructors of overloads and commands accept, and which error the rest gives. A
declaration is built exactly if it is well formed, and what is built holds what was declared.
Any other declaration gives the error of its first check that fails, at the first element of a
list that is at fault.
-/
namespace CommandShell.CheckedDeclarations

open Readings OverloadDeclarations CommandChecks

section Commands

variable {α : Type} {name aliases hidden : Value} {overloads : List (Option (Overload α))}

/-- What a command holds: everything as it was given. -/
structure DeclaredCommand (name : Value) (overloads : List (Option (Overload α)))
    (aliases hidden : Value) (c : Command α) : Prop where
  name : name = .text c.name
  overloads : overloads = c.overloads.map some
  aliases : Lists aliases (c.aliases.map .text)
  hidden : c.hidden = hidden.truthy

/-- Names that fit together with the name of the command. -/
def AliasesGiven (name : String) (aliases : Value) : Prop :=
  ∃ names, Lists aliases (names.map .text) ∧ (∀ n ∈ names, WellNamed n) ∧ (name :: names).Nodup

structure WellFormedCommand (name : Value) (overloads : List (Option (Overload α)))
    (aliases : Value) : Prop where
  named : ∃ s, name = .text s ∧ WellNamed s ∧ AliasesGiven s aliases
  not_empty : overloads ≠ []
  only_overloads : none ∉ overloads

/-- The name is checked first, then the overloads and the aliases. -/
inductive RefusedCommand (name : Value) (overloads : List (Option (Overload α)))
    (aliases : Value) : Command.Error → Prop where
  | name {e : Command.Error} (h : NameRefused name e) : RefusedCommand name overloads aliases e
  | overloads {s : String} {e : Command.Error} (hname : name = .text s) (hwell : WellNamed s)
      (h : OverloadsRefused overloads e) : RefusedCommand name overloads aliases e
  | aliases {s : String} {e : Command.Error} (hname : name = .text s) (hwell : WellNamed s)
      (hne : overloads ≠ []) (honly : none ∉ overloads) (h : AliasesRefused s aliases e) :
      RefusedCommand name overloads aliases e

theorem exists_checkOverloads_iff :
    (∃ p, Command.checkOverloads overloads = .ok p) ↔ overloads ≠ [] ∧ none ∉ overloads := by
  rw [← exists_map_some_iff]
  constructor
  · rintro ⟨⟨first, others⟩, h⟩
    have hmap := checkOverloads_eq_ok_iff.mp h
    exact ⟨by simp [hmap], first :: others, hmap⟩
  · rintro ⟨hne, kept, hmap⟩
    cases kept with
    | nil => exact absurd hmap hne
    | cons first others => exact ⟨(first, others), checkOverloads_eq_ok_iff.mpr hmap⟩

theorem command_make_eq_ok_iff {c : Command α} :
    Command.make name overloads aliases hidden = .ok c ↔
      DeclaredCommand name overloads aliases hidden c := by
  simp only [Command.make, bind_eq_ok_iff, checkName_eq_ok_iff, checkAliases_eq_ok_iff]
  constructor
  · rintro ⟨n, hname, ⟨first, others⟩, hoverloads, names, haliases, hc⟩
    cases hc
    exact ⟨hname, checkOverloads_eq_ok_iff.mp hoverloads, haliases, rfl⟩
  · rintro ⟨hname, hoverloads, haliases, hhidden⟩
    obtain ⟨hfresh, hnodup⟩ := List.nodup_cons.mp c.names_nodup
    refine ⟨⟨c.name, c.names_valid _ List.mem_cons_self⟩, hname, (c.first, c.others),
      checkOverloads_eq_ok_iff.mpr hoverloads,
      ⟨c.aliases, fun n hn => c.names_valid n (List.mem_cons_of_mem _ hn), hnodup, ?_⟩,
      haliases, ?_⟩
    · intro n hn hmem
      obtain rfl := List.mem_singleton.mp hmem
      exact hfresh hn
    · rw [← hhidden]
      rfl

theorem exists_command_iff : (∃ c : Command α, DeclaredCommand name overloads aliases hidden c) ↔
    WellFormedCommand name overloads aliases := by
  constructor
  · rintro ⟨c, hname, hoverloads, haliases, _⟩
    have hwell : ∀ n ∈ c.name :: c.aliases, WellNamed n :=
      fun n hn => Command.isName_iff.mp (c.names_valid n hn)
    obtain ⟨hne, honly⟩ := exists_checkOverloads_iff.mp
      ⟨(c.first, c.others), checkOverloads_eq_ok_iff.mpr hoverloads⟩
    exact ⟨⟨c.name, hname, hwell _ List.mem_cons_self, c.aliases, haliases,
      fun n hn => hwell n (List.mem_cons_of_mem _ hn), c.names_nodup⟩, hne, honly⟩
  · rintro ⟨⟨s, hname, hs, names, haliases, hnames, hnodup⟩, hne, honly⟩
    obtain ⟨⟨first, others⟩, h⟩ := exists_checkOverloads_iff.mpr ⟨hne, honly⟩
    refine ⟨⟨s, first, others, names, hidden.truthy, ?_, hnodup⟩, hname,
      checkOverloads_eq_ok_iff.mp h, haliases, rfl⟩
    intro n hn
    rcases List.mem_cons.mp hn with rfl | hn
    · exact Command.isName_iff.mpr hs
    · exact Command.isName_iff.mpr (hnames n hn)

theorem command_make_eq_error_iff {e : Command.Error} :
    Command.make name overloads aliases hidden = .error e ↔
      RefusedCommand name overloads aliases e := by
  simp only [Command.make, bind_eq_error_iff, checkName_eq_error_iff, checkName_eq_ok_iff,
    checkOverloads_eq_error_iff, checkAliases_eq_error_iff]
  constructor
  · rintro (h | ⟨⟨s, hs⟩, hname, h | ⟨p, hp, h | ⟨_, _, h⟩⟩⟩)
    · exact .name h
    · exact .overloads hname (Command.isName_iff.mp hs) h
    · obtain ⟨hne, honly⟩ := exists_checkOverloads_iff.mp ⟨p, hp⟩
      exact .aliases hname (Command.isName_iff.mp hs) hne honly h
    · cases h
  · intro h
    cases h with
    | name h => exact Or.inl h
    | overloads hname hwell h =>
      exact Or.inr ⟨⟨_, Command.isName_iff.mpr hwell⟩, hname, Or.inl h⟩
    | aliases hname hwell hne honly h =>
      obtain ⟨p, hp⟩ := exists_checkOverloads_iff.mpr ⟨hne, honly⟩
      exact Or.inr ⟨⟨_, Command.isName_iff.mpr hwell⟩, hname, Or.inr ⟨p, hp, Or.inl h⟩⟩

/-- What becomes of the declaration of a command. -/
structure CheckedCommand (name : Value) (overloads : List (Option (Overload α)))
    (aliases hidden : Value) : Prop where
  accepted : (∃ c, Command.make name overloads aliases hidden = .ok c) ↔
    WellFormedCommand name overloads aliases
  built : ∀ c, Command.make name overloads aliases hidden = .ok c ↔
    DeclaredCommand name overloads aliases hidden c
  refused : ∀ e, Command.make name overloads aliases hidden = .error e ↔
    RefusedCommand name overloads aliases e

end Commands

/-- Overloads and commands are built exactly from well formed declarations, and any other
declaration is refused by the first of its checks that fails, for the first element at fault. -/
theorem checked_declarations (α : Type) :
    (∀ (help : Value) (params flags : Members) (action : Slot α),
      CheckedOverload help params flags action) ∧
    ∀ (name : Value) (overloads : List (Option (Overload α))) (aliases hidden : Value),
      CheckedCommand name overloads aliases hidden := by
  constructor
  · intro help params flags action
    refine ⟨?_, fun o => overload_make_eq_ok_iff, fun e => overload_make_eq_error_iff⟩
    simp only [overload_make_eq_ok_iff]
    exact exists_overload_iff
  · intro name overloads aliases hidden
    refine ⟨?_, fun c => command_make_eq_ok_iff, fun e => command_make_eq_error_iff⟩
    simp only [command_make_eq_ok_iff]
    exact exists_command_iff

end CommandShell.CheckedDeclarations
