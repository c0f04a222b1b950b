import CommandShell.Proofs.Registrations

/-!
Which commands stay within reach when names are registered again. The name table keeps
the last command of each name, but the aliases of the command it replaces stay where they
are until another command declares them. So a command that lost all its names is reached
by those of its aliases that no later command declares, as long as none of them is itself
a name, and by nothing else. Where each command declares the aliases of the one that it
replaces, nothing is left over and only stored commands are found.
-/
namespace CommandShell.LeftoverAliases

open Registrations
open Registry (lookup_eq_ok_iff)

variable {α : Type}

/-- Some name stands for the command. -/
def Stored (r : Registry α) (c : Command α) : Prop := ∃ name, r.commands.get? name = some c

/-- Every name of the command was registered again, for another command. -/
def Overwritten (history : List (Registration α)) (c : Command α) : Prop :=
  ∀ name, ⟨name, c⟩ ∈ history → ∃ d, d ≠ c ∧ IsLast (Named name) history ⟨name, d⟩

/-- The text is no name, and the command is the last that was stored with it as an alias. -/
def Leftover (history : List (Registration α)) (query : String) (c : Command α) : Prop :=
  (∀ e ∈ history, ¬ Named query e) ∧ ∃ name, IsLast (Declaring query) history ⟨name, c⟩

section Reach

variable {history : List (Registration α)} {query : String} {c : Command α}

theorem stored_iff :
    Stored (ofHistory history) c ↔ ∃ name, IsLast (Named name) history ⟨name, c⟩ := by
  simp only [Stored, get?_commands_ofHistory]

/-- A command is no longer stored exactly when all its names went to others. -/
theorem not_stored_iff : ¬ Stored (ofHistory history) c ↔ Overwritten history c := by
  rw [stored_iff]
  constructor
  · intro hgone name hmem
    have hnamed : Named name ⟨name, c⟩ := rfl
    obtain ⟨⟨last, d⟩, hlast⟩ := exists_isLast_iff.mpr ⟨_, hmem, hnamed⟩
    obtain rfl : last = name := (mem_of_isLast hlast).2
    refine ⟨d, ?_, hlast⟩
    rintro rfl
    exact hgone ⟨last, hlast⟩
  · rintro hover ⟨name, hlast⟩
    obtain ⟨d, hne, hother⟩ := hover name (mem_of_isLast hlast).1
    have heq : (⟨name, d⟩ : Registration α) = ⟨name, c⟩ := isLast_unique hother hlast
    exact hne (congrArg Registration.command heq)

/-- A text finds the command that it names, or else the one left under it as an alias. -/
theorem lookup_ofHistory_iff :
    (ofHistory history).lookup query = .ok c ↔
      (ofHistory history).commands.get? query = some c ∨ Leftover history query c := by
  rw [lookup_eq_ok_iff, find?_ofHistory, get?_commands_ofHistory, Leftover]

end Reach

/-- A registration that declares all aliases of the command that it replaces. -/
def Redeclares (r : Registry α) (e : Registration α) : Prop :=
  ∀ d, r.commands.get? e.name = some d → ∀ a ∈ d.aliases, a ∈ e.command.aliases

section Linked

variable {history : List (Registration α)}

/-- Every alias stands for a command that declares it and has a name. -/
def Linked (r : Registry α) : Prop :=
  ∀ a c, r.aliases.get? a = some c → Stored r c ∧ a ∈ c.aliases

theorem linked_register {r : Registry α} {e : Registration α} (hlinked : Linked r)
    (hdeclares : Redeclares r e) : Linked (r.register e.name e.command) := by
  intro a c hc
  rw [Registry.get?_aliases_register] at hc
  split at hc
  case isTrue ha =>
    obtain rfl := Option.some.inj hc
    exact ⟨⟨e.name, by rw [Registry.get?_commands_register, if_pos rfl]⟩, ha⟩
  case isFalse ha =>
    obtain ⟨⟨name, hname⟩, hmem⟩ := hlinked a c hc
    -- the name that was replaced would have handed its alias on
    have hkept : name ≠ e.name := by
      rintro rfl
      exact ha (hdeclares c hname a hmem)
    refine ⟨⟨name, ?_⟩, hmem⟩
    rw [Registry.get?_commands_register, if_neg hkept]
    exact hname

theorem linked_ofHistory
    (h : ∀ before e after, history = before ++ e :: after → Redeclares (ofHistory before) e) :
    Linked (ofHistory history) := by
  induction history using List.reverseRecOn with
  | nil =>
    intro a c hc
    cases hc
  | append_singleton history e ih =>
    rw [ofHistory_concat]
    apply linked_register
    · apply ih
      intro before d after hsplit
      exact h before d (after ++ [e]) (by rw [hsplit, List.append_assoc, List.cons_append])
    · exact h history e [] rfl

theorem stored_of_linked {r : Registry α} (hlinked : Linked r) {query : String} {c : Command α}
    (h : r.lookup query = .ok c) : Stored r c := by
  rw [lookup_eq_ok_iff, Registry.find?] at h
  cases hname : r.commands.get? query with
  | some d =>
    rw [hname] at h
    obtain rfl := Option.some.inj h
    exact ⟨query, hname⟩
  | none =>
    rw [hname] at h
    exact (hlinked query c h).1

end Linked

/-- What still leads to a command after registrations. -/
structure Reach (history : List (Registration α)) (r : Registry α) : Prop where
  found : ∀ query c, r.lookup query = .ok c →
    Stored r c ∨ (Overwritten history c ∧ Leftover history query c)
  gone : ∀ c, ¬ Stored r c ↔ Overwritten history c
  leftover : ∀ query c, Overwritten history c →
    (r.lookup query = .ok c ↔ Leftover history query c)
  kept : (∀ before e after, history = before ++ e :: after → Redeclares (ofHistory before) e) →
    ∀ query c, r.lookup query = .ok c → Stored r c

/-- An overwritten command is reached by its leftover aliases and by them only. -/
theorem reach_session (w : World α) (requests : List (Request α)) :
    Reach (accepted requests) (run requests (fresh w)).2.registry := by
  rw [world_run, registry_replay]
  constructor
  case found =>
    intro query c hlookup
    by_cases hstored : Stored (ofHistory (accepted requests)) c
    · exact Or.inl hstored
    · rcases lookup_ofHistory_iff.mp hlookup with hnamed | hleftover
      · exact absurd ⟨query, hnamed⟩ hstored
      · exact Or.inr ⟨not_stored_iff.mp hstored, hleftover⟩
  case gone => exact fun c => not_stored_iff
  case leftover =>
    intro query c hover
    rw [lookup_ofHistory_iff, or_iff_right]
    exact fun hnamed => not_stored_iff.mpr hover ⟨query, hnamed⟩
  case kept =>
    intro hdeclares query c hlookup
    exact stored_of_linked (linked_ofHistory hdeclares) hlookup

/-- A command that echoes, with an overload that does nothing. -/
def echo (help : String) (aliases : List String)
    (hvalid : ∀ n ∈ "echo" :: aliases, Command.isName n = true)
    (hnodup : ("echo" :: aliases).Nodup) : Command Unit where
  name := "echo"
  first := ⟨help, [], [], none, List.nodup_nil, List.nodup_nil⟩
  others := []
  aliases := aliases
  hidden := false
  names_valid := hvalid
  names_nodup := hnodup

def oldEcho : Command Unit := echo "Old." ["print"] (by decide) (by decide)

def newEcho : Command Unit := echo "New." [] (by decide) (by decide)

/-- Both are registered as `echo`, the old one first. -/
def renewed : Registry Unit :=
  (run [.register (.text "echo") (some oldEcho), .register (.text "echo") (some newEcho)]
    (fresh World.initial)).2.registry

/-- The alias still finds the old command, which no name stands for. -/
theorem alias_survives : renewed.lookup "print" = .ok oldEcho ∧ ¬ Stored renewed oldEcho := by
  refine ⟨rfl, ?_⟩
  rintro ⟨name, hname⟩
  have hcommands : renewed.commands = [("echo", newEcho)] := rfl
  rw [hcommands, Table.get?_cons] at hname
  split at hname
  · have haliases : newEcho.aliases = oldEcho.aliases :=
      congrArg Command.aliases (Option.some.inj hname)
    cases haliases
  · cases hname

end CommandShell.LeftoverAliases
