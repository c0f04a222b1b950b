import CommandShell.Fault.Basic
import CommandShell.Text.Blank
import CommandShell.Text.Case
import CommandShell.ValueSet

/-!
The English plural of a label. Only the last word changes: it is lowered, a
sibilant ending takes `es`, a `y` after anything but a vowel becomes `ies`, and
every other ending takes `s`. An upper case word gives an upper case plural,
and a word with an upper case first letter a plural with one.
-/
namespace CommandShell.Text

def vowels : List Char := ['a', 'e', 'i', 'o', 'u']

/-- The plural of a lowered word that is given from its last letter backwards. -/
def pluralReversed : List Char → List Char
  | 's' :: rest => 's' :: 'e' :: 's' :: rest
  | 'x' :: rest => 's' :: 'e' :: 'x' :: rest
  | 'z' :: rest => 's' :: 'e' :: 'z' :: rest
  | 'h' :: 's' :: rest => 's' :: 'e' :: 'h' :: 's' :: rest
  | 'h' :: 'c' :: rest => 's' :: 'e' :: 'h' :: 'c' :: rest
  | 'y' :: c :: rest =>
      if vowels.contains c then 's' :: 'y' :: c :: rest else 's' :: 'e' :: 'i' :: c :: rest
  | word => 's' :: word

/-- The text before its last word, that word, and the blanks after it. -/
def splitLastWord (text : List Char) : List Char × List Char × List Char :=
  let body := trimRight text
  let last := (body.reverse.takeWhile (!isBlank ·)).reverse
  (body.take (body.length - last.length), last, text.drop body.length)

def capitalize : List Char → List Char
  | [] => []
  | c :: rest => upperChar c ++ rest

theorem capitalize_append {front : List Char} (h : front ≠ []) (rest : List Char) :
    capitalize (front ++ rest) = capitalize front ++ rest := by
  cases front with
  | nil => exact absurd rfl h
  | cons c front => exact (List.append_assoc ..).symm

def pluralWord (word : List Char) : List Char :=
  let plural := (pluralReversed (lower word).reverse).reverse
  if isUpperText word then upper plural
  else if word.head?.any isUpper then capitalize plural
  else plural

def pluralize (text : String) : String :=
  let (before, last, trail) := splitLastWord text.toList
  if last.isEmpty then text else String.ofList (before ++ pluralWord last ++ trail)

/-- Only texts have a plural. A value that is no key is refused as such. -/
def pluralizeValue : Value → Except Failure String
  | .text s => .ok (pluralize s)
  | v => do
      v.checkKey
      .error (.wrongType "pluralize() argument must be a string")

end CommandShell.Text
