import CommandShell.Sequence
import CommandShell.Text.Word

/-!
Parsers turn the raw value of a parameter, a text or a tuple of texts, into
the value it is bound to, or refuse it. The stock parser `identifier` accepts
names of variables. Where a parser or something else that can be run is
expected, a slot may hold it, be left unset or hold something else.
-/
namespace CommandShell

/-- A parser refuses by a failure. It is assumed to raise no interruption,
which matching would let pass. -/
abbrev Parser := Value → Except Failure Value

inductive Slot (β : Type) where
  | unset
  | callable (f : β)
  | other

namespace Parser

open Text

def identity : Parser := fun v => .ok v

def isIdentifierValue : Value → Bool
  | .text s => isIdentifier s.toList
  | _ => false

def identifier : Parser := fun v =>
  if isIdentifierValue v then .ok v
  else .error (.ofText .badValue ("invalid identifier " ++ v.literal))

def digitsValue (digits : List Char) : Nat :=
  digits.foldl (fun n d => 10 * n + (d.toNat - '0'.toNat)) 0

def digits? (text : List Char) : Option Nat :=
  if !text.isEmpty && text.all Char.isDigit then some (digitsValue text) else none

/-- An optional sign and decimal digits. -/
def integer? : List Char → Option Int
  | '-' :: rest => (digits? rest).map fun n => -(n : Int)
  | '+' :: rest => (digits? rest).map Int.ofNat
  | text => (digits? text).map Int.ofNat

def int : Parser := fun v =>
  let refused := .error (.ofText .badValue ("not an integer: " ++ v.literal))
  match v with
  | .text s => ((integer? s.toList).map fun n => .ok (.int n)).getD refused
  | _ => refused

def ints : Parser := fun v => do
  let items ← v.iterate
  return .tuple (← items.mapM int)

def length : Parser := fun v => v.size.map fun n => .int n

def joined : Parser := fun v => (v.join "+").map .text

def nothing : Parser := fun _ => .ok .none

def notGiven : Parser := fun _ => .ok .unset

def refuse : Parser := fun _ => .error (.ofText .runtime "never accepted")

end Parser

end CommandShell
