import CommandShell.Command
import CommandShell.Host
import CommandShell.Journal
import CommandShell.Text.Similarity

/-!
The table of commands. A command is stored under the name it is registered
with and under each of its aliases; the last registration wins on any
collision. Looking up tries the names first and the aliases then; a miss
reports close matches among both.
-/
namespace CommandShell

structure Registry (α : Type) where
  commands : Table (Command α)
  aliases : Table (Command α)

/-- A name that no command has, with the close matches among those that exist. -/
structure UnknownCommand where
  input : Value
  name : Value
  suggestions : List String

namespace UnknownCommand

def hint (e : UnknownCommand) : String :=
  match e.suggestions with
  | best :: _ =>
      "did you mean " ++ Text.quote best ++ "? you can also run 'help' to see all commands"
  | [] => "run 'help' to see all available commands"

def toFault (host : Host) (e : UnknownCommand) : Fault where
  kind := .unknownCommand
  message := some ("command " ++ e.name.literal ++ " does not exist")
  options := [
    ("title", .text "unknown command"),
    ("code", .code .unknownCommand),
    ("input", e.input),
    ("suggestions", .list (e.suggestions.map .text)),
    ("hint", .text e.hint),
    ("docs", host.doc .unknownCommand)]

end UnknownCommand

namespace Registry

variable {α : Type}

def empty : Registry α := ⟨[], []⟩

def overwrittenEntry (name : String) : Journal.Entry :=
  ⟨.registry, "command name " ++ Text.quote name ++ " re-registered, previous entry overwritten"⟩

def shadowedEntry (name : String) : Journal.Entry :=
  ⟨.registry, "command alias " ++ Text.quote name ++ " re-registered, previous entry shadowed"⟩

def register (r : Registry α) (name : String) (c : Command α) : Registry α :=
  ⟨r.commands.set name c, c.aliases.foldl (fun t a => t.set a c) r.aliases⟩

/-- The records of a registration. The aliases of one command are distinct, so
each is compared with the table as it was before. -/
def registerEntries (r : Registry α) (name : String) (c : Command α) : Journal :=
  (if (r.commands.get? name).isSome then [overwrittenEntry name] else []) ++
    (c.aliases.filter fun a => (r.aliases.get? a).isSome).map shadowedEntry

def find? (r : Registry α) (name : String) : Option (Command α) :=
  match r.commands.get? name with
  | some c => some c
  | none => r.aliases.get? name

def known (r : Registry α) : List String := r.commands.keys ++ r.aliases.keys

def suggestions (r : Registry α) (name : String) : List String := Text.closeMatches name r.known

def lookup (r : Registry α) (name : String) : Except UnknownCommand (Command α) :=
  match r.find? name with
  | some c => .ok c
  | none => .error ⟨.text name, .text name, r.suggestions name⟩

def contains (r : Registry α) (name : String) : Bool := (r.find? name).isSome

def size (r : Registry α) : Nat := r.commands.length

/-- The registered names in ascending order, without the aliases. -/
def names (r : Registry α) : List String := r.commands.keys.mergeSort (· ≤ ·)

/-- What iterating over a registry yields: the names that it has when the iteration begins. -/
def iterate (r : Registry α) : List String := r.names

/-- The commands that summaries list, by ascending name. -/
def visible (r : Registry α) : List (String × Command α) :=
  (r.commands.filter fun e => !e.2.hidden).mergeSort fun e f => e.1 ≤ f.1

def literal (r : Registry α) : String :=
  "registry(commands=" ++ (Value.list (r.names.map .text)).literal ++ ")"

theorem get?_commands_register (r : Registry α) (name query : String) (c : Command α) :
    (r.register name c).commands.get? query =
      if query = name then some c else r.commands.get? query := by
  exact Table.get?_set r.commands name query c

/-- A registration reaches exactly the aliases of its command. -/
theorem get?_aliases_register (r : Registry α) (name query : String) (c : Command α) :
    (r.register name c).aliases.get? query =
      if query ∈ c.aliases then some c else r.aliases.get? query := by
  have hfold (aliases : List String) (t : Table (Command α)) :
      (aliases.foldl (fun t a => t.set a c) t).get? query =
        if query ∈ aliases then some c else t.get? query := by
    induction aliases generalizing t with
    | nil => simp
    | cons a rest ih =>
      rw [List.foldl_cons, ih, Table.get?_set]
      by_cases hrest : query ∈ rest
      · simp [hrest]
      · by_cases ha : query = a <;> simp [hrest, ha]
  exact hfold c.aliases r.aliases

theorem lookup_eq_ok_iff (r : Registry α) (query : String) (c : Command α) :
    r.lookup query = .ok c ↔ r.find? query = some c := by
  rw [lookup]
  cases r.find? query with
  | some d => simp
  | none => simp

theorem find?_register_self (r : Registry α) (name : String) (c : Command α) :
    (r.register name c).find? name = some c := by
  simp [register, find?, Table.get?_set]

/-- What a name stands for after a registration: the registered command, under its name or an
alias, or what the name stood for before. -/
theorem find?_register_cases {r : Registry α} {name query : String} {c d : Command α}
    (h : (r.register name c).find? query = some d) :
    (d = c ∧ (query = name ∨ query ∈ c.aliases)) ∨ r.find? query = some d := by
  rw [find?, get?_commands_register, get?_aliases_register] at h
  by_cases hname : query = name
  · rw [if_pos hname] at h
    exact Or.inl ⟨(Option.some.inj h).symm, Or.inl hname⟩
  · rw [if_neg hname] at h
    rw [find?]
    cases hcommand : r.commands.get? query with
    | some e =>
      rw [hcommand] at h
      exact Or.inr h
    | none =>
      rw [hcommand] at h
      by_cases halias : query ∈ c.aliases
      · simp only [if_pos halias] at h
        exact Or.inl ⟨(Option.some.inj h).symm, Or.inr halias⟩
      · simp only [if_neg halias] at h
        exact Or.inr h

end Registry

end CommandShell
