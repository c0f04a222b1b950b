import CommandShell.Text.Expression

/-!
Globs over dotted names. A segment `**` stands for any number of segments
that are identifiers; inside a segment `*` stands for any run of characters,
`?` for one character, and every other character for itself. A glob is matched
by one regular expression over the whole name. The concrete segments at the
front of a glob are its root, where a search begins.
-/
namespace CommandShell

/-- The segments of a dotted name. -/
abbrev Path := List String

namespace Path

def splitDots : List Char → List (List Char)
  | [] => [[]]
  | c :: rest =>
      if c = '.' then [] :: splitDots rest
      else match splitDots rest with
        | [] => [[c]]
        | segment :: segments => (c :: segment) :: segments

def ofString (name : String) : Path := (splitDots name.toList).map String.ofList

def dotted (path : Path) : String := ".".intercalate path

end Path

namespace Glob

open Text (Expression)

def dot : Expression := .one (.only '.')

/-- A word that does not begin with a decimal digit. -/
def identifier : Expression := .seq (.notAt .decimal) (.seq (.one .word) (.many (.one .word)))

/-- Identifiers, each with a dot in front of it. -/
def dottedIdentifiers : Expression := .many (.seq dot identifier)

/-- A name without wildcards. -/
def concrete : Expression := .seq identifier dottedIdentifiers

/-- Identifiers that end with a dot or with the glob. -/
def front : Expression := .many (.seq identifier (.either dot .ending))

def part (c : Char) : Expression :=
  if c = '*' then .many (.one (.except '.'))
  else if c = '?' then .one (.except '.')
  else .one (.only c)

/-- A segment behind a dot; `**` brings the dots of its own segments. -/
def segment (s : List Char) : List Expression :=
  if s = ['*', '*'] then [dottedIdentifiers] else dot :: s.map part

/-- No dot stands in front of the first segment. -/
def withoutDot : List Expression → List Expression
  | .one (.only '.') :: rest => rest
  | es => es

def expression (source : String) : Expression :=
  .sequence (withoutDot ((Path.splitDots source.toList).flatMap segment))

def accepts (source name : String) : Bool := (expression source).fullMatch name.toList

def isConcrete (source : String) : Bool := concrete.fullMatch source.toList

def trimDots (text : List Char) : List Char := (text.reverse.dropWhile (· == '.')).reverse

/-- The dotted name of the concrete segments at the front. -/
def root (source : String) : String :=
  String.ofList (trimDots ((front.taken? source.toList).getD []))

end Glob

end CommandShell
