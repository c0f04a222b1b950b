import CommandShell.Proofs.Registrations
import CommandShell.Table.Overrides

/-!
Commands stored under their own names, one after the other. Each table is overridden with
what the commands give it: the names with the last command of each name, the aliases with the
last command that declares each. So the registry stays as it is exactly when all of them
stand there already, and storing the same commands again changes nothing.
-/
namespace CommandShell.OwnNames

open Registrations

variable {α : Type}

/-- What commands store under their own names. -/
def own (commands : List (Command α)) : List (Registration α) := commands.map fun c => ⟨c.name, c⟩

def registerAll (r : Registry α) (commands : List (Command α)) : Registry α :=
  commands.foldl (fun r c => r.register c.name c) r

/-- Every name and every alias stands for the command that takes it last. -/
structure Settled (r : Registry α) (commands : List (Command α)) : Prop where
  named : ∀ query e, IsLast (Named query) (own commands) e →
    r.commands.get? query = some e.command
  aliased : ∀ query e, IsLast (Declaring query) (own commands) e →
    r.aliases.get? query = some e.command

section Tables

variable (r : Registry α)

theorem registerAll_append (first second : List (Command α)) :
    registerAll r (first ++ second) = registerAll (registerAll r first) second :=
  List.foldl_append

theorem registerAll_concat (commands : List (Command α)) (c : Command α) :
    registerAll r (commands ++ [c]) = (registerAll r commands).register c.name c :=
  registerAll_append r commands [c]

theorem commands_registerAll (commands : List (Command α)) :
    (registerAll r commands).commands = r.commands.merge (commands.map fun c => (c.name, c)) := by
  induction commands generalizing r with
  | nil => rfl
  | cons c rest ih => exact ih (r.register c.name c)

theorem aliases_registerAll (commands : List (Command α)) :
    (registerAll r commands).aliases =
      r.aliases.merge (commands.flatMap fun c => c.aliases.map fun a => (a, c)) := by
  induction commands generalizing r with
  | nil => rfl
  | cons c rest ih =>
    have hfirst : (r.register c.name c).aliases =
        r.aliases.merge (c.aliases.map fun a => (a, c)) := by
      rw [Table.merge, List.foldl_map]
      rfl
    rw [List.flatMap_cons, Table.merge_append, ← hfirst]
    exact ih (r.register c.name c)

theorem own_concat (commands : List (Command α)) (c : Command α) :
    own (commands ++ [c]) = own commands ++ [⟨c.name, c⟩] := List.map_append

end Tables

/-- Of the commands that take an entry one is the last. -/
theorem exists_isLast_own {P : Registration α → Prop} {commands : List (Command α)}
    {c : Command α} (hmem : c ∈ commands) (hc : P ⟨c.name, c⟩) :
    ∃ d, IsLast P (own commands) ⟨d.name, d⟩ := by
  have hown : ⟨c.name, c⟩ ∈ own commands := List.mem_map.mpr ⟨c, hmem, rfl⟩
  obtain ⟨e, hlast⟩ := exists_isLast_iff.mpr ⟨_, hown, hc⟩
  obtain ⟨d, _, rfl⟩ := List.mem_map.mp (mem_of_isLast hlast).1
  exact ⟨d, hlast⟩

section Read

variable (read : Registry α → Option (Command α)) {P : Registration α → Prop} [DecidablePred P]
  (hregister : ∀ (r : Registry α) (e : Registration α),
    read (r.register e.name e.command) = if P e then some e.command else read r)

include hregister

/-- What the commands overwrite holds the last of them, whatever stood there. -/
theorem read_registerAll_of_isLast (r : Registry α) {commands : List (Command α)}
    {e : Registration α} (hlast : IsLast P (own commands) e) :
    read (registerAll r commands) = some e.command := by
  induction commands using List.reverseRecOn with
  | nil => cases (mem_of_isLast hlast).1
  | append_singleton commands c ih =>
    rw [registerAll_concat, hregister _ ⟨c.name, c⟩]
    rw [own_concat] at hlast
    rcases isLast_concat.mp hlast with ⟨hc, rfl⟩ | ⟨hc, hearlier⟩
    · exact if_pos hc
    · rw [if_neg hc]
      exact ih hearlier

end Read

section Settled

variable (r : Registry α) (commands : List (Command α))

theorem settled_registerAll : Settled (registerAll r commands) commands := by
  constructor
  case named =>
    intro query e hlast
    exact read_registerAll_of_isLast (fun r => r.commands.get? query) (commands_register query) r
      hlast
  case aliased =>
    intro query e hlast
    exact read_registerAll_of_isLast (fun r => r.aliases.get? query)
      (fun r e => Registry.get?_aliases_register r e.name query e.command) r hlast

/-- Storing commands leaves the registry as it is when all of it stands there already. -/
theorem registerAll_eq_self_iff : registerAll r commands = r ↔ Settled r commands := by
  constructor
  · intro h
    rw [← h]
    exact settled_registerAll r commands
  · intro h
    have hstored := settled_registerAll r commands
    have hcommands : (registerAll r commands).commands = r.commands := by
      rw [commands_registerAll]
      apply Table.merge_eq_self_iff.mpr
      intro query hquery
      simp only [Table.keys, List.mem_map, exists_exists_and_eq_and] at hquery
      obtain ⟨c, hc, hname⟩ := hquery
      obtain ⟨d, hlast⟩ := exists_isLast_own (P := Named query) hc hname
      rw [← commands_registerAll, hstored.named query _ hlast, h.named query _ hlast]
    have haliases : (registerAll r commands).aliases = r.aliases := by
      rw [aliases_registerAll]
      apply Table.merge_eq_self_iff.mpr
      intro query hquery
      simp only [Table.keys, List.mem_map, List.mem_flatMap] at hquery
      obtain ⟨entry, ⟨c, hc, a, ha, rfl⟩, rfl⟩ := hquery
      obtain ⟨d, hlast⟩ := exists_isLast_own (P := Declaring a) hc ha
      rw [← aliases_registerAll, hstored.aliased a _ hlast, h.aliased a _ hlast]
    calc
      registerAll r commands =
          ⟨(registerAll r commands).commands, (registerAll r commands).aliases⟩ := rfl
      _ = r := by rw [hcommands, haliases]

theorem registerAll_registerAll :
    registerAll (registerAll r commands) commands = registerAll r commands :=
  (registerAll_eq_self_iff _ commands).mpr (settled_registerAll r commands)

end Settled

end CommandShell.OwnNames
