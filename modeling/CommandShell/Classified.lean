/-!
Classified arguments. A token `--name` opens the group of the tokens up to the
next one that begins with `--`; a token `-name` is a flag; every other token is
positional. A marker does not use up its group, whose tokens are classified
as well, and a repeated marker keeps its last group at its first place. The
laws below read the positional values and the flags off the tokens.
-/
namespace CommandShell

inductive Shape where
  | marker (name : String)
  | flag (name : String)
  | plain

structure Classified where
  named : List (String × List String)
  flags : List String
  positional : List String

def Shape.of (token : String) : Shape :=
  match token.toList with
  | '-' :: '-' :: name => .marker (String.ofList name)
  | '-' :: name => .flag (String.ofList name)
  | _ => .plain

def Shape.isMarker : Shape → Bool
  | .marker _ => true
  | _ => false

def Shape.isPlain : Shape → Bool
  | .plain => true
  | _ => false

def Shape.flag? : Shape → Option String
  | .flag name => some name
  | _ => none

namespace Classified

/-- The values that may follow a marker: everything up to the next marker. -/
def group (tokens : List String) : List String := tokens.takeWhile fun t => !(Shape.of t).isMarker

/-- Puts a marker in front; the group of a later one of that name wins. -/
def openGroup (name : String) (values : List String) (named : List (String × List String)) :
    List (String × List String) :=
  (name, (named.lookup name).getD values) :: named.filter (·.1 ≠ name)

def ofTokens : List String → Classified
  | [] => ⟨[], [], []⟩
  | token :: rest =>
      let c := ofTokens rest
      match Shape.of token with
      | .marker name => { c with named := openGroup name (group rest) c.named }
      | .flag name => { c with flags := name :: c.flags }
      | .plain => { c with positional := token :: c.positional }

/-- The flag names once each, in ascending order. -/
def flagNames (c : Classified) : List String := c.flags.eraseDups.mergeSort (· ≤ ·)

theorem positional_ofTokens (tokens : List String) :
    (ofTokens tokens).positional = tokens.filter fun t => (Shape.of t).isPlain := by
  induction tokens with
  | nil => rfl
  | cons token rest ih =>
    cases hshape : Shape.of token <;> simp [ofTokens, hshape, ih, Shape.isPlain]

theorem flags_ofTokens (tokens : List String) :
    (ofTokens tokens).flags = tokens.filterMap fun t => (Shape.of t).flag? := by
  induction tokens with
  | nil => rfl
  | cons token rest ih =>
    cases hshape : Shape.of token <;> simp [ofTokens, hshape, ih, Shape.flag?]

theorem lookup_filter_ne {name other : String} (h : other ≠ name)
    (named : List (String × List String)) :
    (named.filter (·.1 ≠ name)).lookup other = named.lookup other := by
  induction named with
  | nil => rfl
  | cons entry rest ih =>
    obtain ⟨key, values⟩ := entry
    by_cases hkey : key = name
    · have hskip : (other == key) = false := by simpa [hkey] using h
      rw [List.filter_cons_of_neg (by simp [hkey]), ih, List.lookup_cons, hskip]
    · rw [List.filter_cons_of_pos (by simp [hkey]), List.lookup_cons, List.lookup_cons, ih]

theorem lookup_openGroup (name other : String) (values : List String)
    (named : List (String × List String)) :
    (openGroup name values named).lookup other =
      if other = name then some ((named.lookup name).getD values) else named.lookup other := by
  by_cases h : other = name
  · simp [openGroup, h]
  · have hskip : (other == name) = false := by simpa using h
    rw [openGroup, List.lookup_cons, hskip, if_neg h]
    exact lookup_filter_ne h named

end Classified

end CommandShell
