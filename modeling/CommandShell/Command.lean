import CommandShell.Overload

/-!
A named command: overloads in the order in which they are tried, aliases, and
whether summaries leave it out. The name and the aliases are distinct texts
that are not empty and hold no blank, and there is at least one overload.
-/
namespace CommandShell

namespace Command

open Text

/-- Can be typed as one token of a line. -/
def isName (name : String) : Bool := name ≠ "" && name.toList.all fun c => !isBlank c

theorem isName_iff {name : String} :
    isName name = true ↔ name ≠ "" ∧ ∀ c ∈ name.toList, isBlank c = false := by
  simp [isName]

end Command

structure Command (α : Type) where
  name : String
  first : Overload α
  others : List (Overload α)
  aliases : List String
  hidden : Bool
  names_valid : ∀ n ∈ name :: aliases, Command.isName n = true
  names_nodup : (name :: aliases).Nodup

inductive Command.Error where
  | nameNotText
  | nameMalformed
  | noOverload
  | foreignOverload
  | aliasesText
  | aliasesNotIterable (failure : Failure)
  | aliasNotText
  | aliasMalformed
  | aliasDuplicated (name : String)

namespace Command

variable {α : Type}

def overloads (c : Command α) : List (Overload α) := c.first :: c.others

def Error.toFailure : Error → Failure
  | .nameNotText => .wrongType "command 'name' must be a string"
  | .nameMalformed =>
      .ofText .badValue "command 'name' must be a non-empty string without whitespace"
  | .noOverload => .wrongType "command must declare at least one overload"
  | .foreignOverload => .wrongType "command overloads must be overload objects"
  | .aliasesText => .wrongType "command 'aliases' must be an iterable of strings, not a string"
  | .aliasesNotIterable failure => failure
  | .aliasNotText => .wrongType "command aliases must be strings"
  | .aliasMalformed =>
      .ofText .badValue "command aliases must be non-empty strings without whitespace"
  | .aliasDuplicated name => .ofText .badValue
      ("command alias " ++ Text.quote name ++ " is duplicated or equal to the name")

def checkName : Value → Except Error { name : String // isName name = true }
  | .text s => if h : isName s = true then .ok ⟨s, h⟩ else .error .nameMalformed
  | _ => .error .nameNotText

/-- The overloads of a command; `none` stands for anything else in their place. -/
def checkOverloads (overloads : List (Option (Overload α))) :
    Except Error (Overload α × List (Overload α)) :=
  if overloads.isEmpty then .error .noOverload
  else match overloads.mapM id with
    | some (first :: others) => .ok (first, others)
    | _ => .error .foreignOverload

/-- Aliases that are well formed and distinct from each other and from the
names seen before. -/
def checkAliasesFrom : (seen : List String) → List Value →
    Except Error { names : List String //
      (∀ n ∈ names, isName n = true) ∧ names.Nodup ∧ ∀ n ∈ names, n ∉ seen }
  | _, [] => .ok ⟨[], by simp⟩
  | seen, v :: rest =>
      match v with
      | .text s =>
          if hs : isName s = true then
            if hseen : s ∈ seen then .error (.aliasDuplicated s)
            else match checkAliasesFrom (s :: seen) rest with
              | .error e => .error e
              | .ok ⟨names, hvalid, hnodup, hfresh⟩ => .ok ⟨s :: names, by
                  refine ⟨?_, ?_, ?_⟩
                  · intro n hn
                    rcases List.mem_cons.mp hn with rfl | hn
                    · exact hs
                    · exact hvalid n hn
                  · exact List.nodup_cons.mpr ⟨fun h => hfresh s h (by simp), hnodup⟩
                  · intro n hn
                    rcases List.mem_cons.mp hn with rfl | hn
                    · exact hseen
                    · exact fun h => hfresh n hn (List.mem_cons_of_mem _ h)⟩
          else .error .aliasMalformed
      | _ => .error .aliasNotText

def checkAliases (name : String) (aliases : Value) :
    Except Error { names : List String //
      (∀ n ∈ names, isName n = true) ∧ names.Nodup ∧ ∀ n ∈ names, n ∉ [name] } :=
  match aliases with
  | .text _ => .error .aliasesText
  | v =>
      match v.iterate with
      | .error failure => .error (.aliasesNotIterable failure)
      | .ok items => checkAliasesFrom [name] items

def make (name : Value) (overloads : List (Option (Overload α))) (aliases hidden : Value) :
    Except Error (Command α) := do
  let name ← checkName name
  let (first, others) ← checkOverloads overloads
  let aliases ← checkAliases name.1 aliases
  return {
    name := name.1
    first := first
    others := others
    aliases := aliases.1
    hidden := hidden.truthy
    names_valid := by
      intro n hn
      rcases List.mem_cons.mp hn with rfl | hn
      · exact name.2
      · exact aliases.2.1 n hn
    names_nodup := List.nodup_cons.mpr
      ⟨fun h => aliases.2.2.2 _ h (by simp), aliases.2.2.1⟩ }

def toValue (c : Command α) : Value := .command c.name c.first.help

def literal (c : Command α) : String :=
  bracketed "command" [("name", Text.quote c.name),
    ("overloads", literalTuple (c.overloads.map Overload.literal)),
    ("aliases", (Value.texts c.aliases).literal), ("hidden", (Value.bool c.hidden).literal)]

end Command

end CommandShell
