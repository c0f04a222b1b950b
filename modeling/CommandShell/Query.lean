import CommandShell.Registry
import CommandShell.Resolution
import CommandShell.ValueSet

/-!
Looking a command up by any value. Only texts name commands. A value that
cannot be a key is refused by its type, and of the others only a tuple can be
compared with the names that exist, letter by item.
-/
namespace CommandShell

/-- The letter that an item of a tuple is compared as, if it is one letter. -/
def Value.letter? : Value → Option Char
  | .text s =>
      match s.toList with
      | [c] => some c
      | _ => Option.none
  | _ => Option.none

namespace Registry

variable {α : Type}

/-- The miss of a value that is no text. -/
def missValue (r : Registry α) (v : Value) : Except Failure UnknownCommand := do
  let items ← v.iterate
  let name ← v.single
  return ⟨v, name, Text.closeMatchesBy some (items.map Value.letter?) r.known⟩

def lookupValue (r : Registry α) (host : Host) (v : Value) : Except Failure (Command α) :=
  match v with
  | .text name => (r.lookup name).mapError fun e => .fault (e.toFault host)
  | v => do
      v.checkKey
      let e ← r.missValue v
      .error (.fault (e.toFault host))

def containsValue (r : Registry α) (v : Value) : Except Failure Bool :=
  match v with
  | .text name => .ok (r.contains name)
  | v => v.checkKey.map fun _ => false

/-- Registers a command under a value, which has to be a text. -/
def checkRegistration (name : Value) (command : Option (Command α)) :
    Except Failure (String × Command α) :=
  match name, command with
  | .text name, some c => .ok (name, c)
  | .text _, none => .error (.wrongType "register() second argument must be a command")
  | _, _ => .error (.wrongType "register() first argument must be a string")

end Registry

end CommandShell
