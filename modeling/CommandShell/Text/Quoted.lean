import CommandShell.Text.Printable

/-!
The quoted form of a text in messages. Single quotes surround it unless it
holds a single quote and no double one. The surrounding quote and the
backslash are escaped by a backslash, tab, line feed and carriage return have
short escapes, and a character that cannot be printed is given by its code
point in two, four or eight hexadecimal digits.
-/
namespace CommandShell.Text

def hexDigit (n : Nat) : Char := (Nat.digitChar (n % 16))

/-- The last `width` hexadecimal digits of `code`. -/
def hexDigits : (width : Nat) → (code : Nat) → List Char
  | 0, _ => []
  | width + 1, code => hexDigits width (code / 16) ++ [hexDigit code]

def escapeHidden (c : Char) : List Char :=
  if c.toNat < 0x100 then '\\' :: 'x' :: hexDigits 2 c.toNat
  else if c.toNat < 0x10000 then '\\' :: 'u' :: hexDigits 4 c.toNat
  else '\\' :: 'U' :: hexDigits 8 c.toNat

def quoteChar (mark c : Char) : List Char :=
  if c = mark || c = '\\' then ['\\', c]
  else if c = '\t' then ['\\', 't']
  else if c = '\n' then ['\\', 'n']
  else if c = '\r' then ['\\', 'r']
  else if isPrintable c then [c]
  else escapeHidden c

/-- The quote that surrounds a text. -/
def quoteMark (text : List Char) : Char :=
  if text.contains '\'' && !text.contains '"' then '"' else '\''

def quote (text : String) : String :=
  let mark := quoteMark text.toList
  String.ofList (mark :: text.toList.flatMap (quoteChar mark) ++ [mark])

end CommandShell.Text
