import CommandShell.Fault.Basic

/-!
Operations that some values refuse. Values are read as sequences: their
elements, their size, and their texts joined by a separator; what has no
elements is refused with the name of its type. The value that stands for "not
provided" has no union with another value, unless that is a type, and its type
cannot be extended.
-/
namespace CommandShell.Value

/-- Whether a value is a text or was left out. -/
def isTextOrUnset (v : Value) : Bool := v.isText || v.isUnset

def unionFailure (left right : Value) : Failure :=
  .wrongType ("unsupported operand type(s) for |: '" ++ left.typeName ++ "' and '" ++
    right.typeName ++ "'")

def extensionFailure : Failure := .wrongType "type 'UnsetType' is not an acceptable base type"

def iterate (v : Value) : Except Failure (List Value) :=
  match v.elements? with
  | some items => .ok items
  | Option.none => .error (.notIterable v)

def size (v : Value) : Except Failure Nat :=
  match v.elements? with
  | some items => .ok items.length
  | Option.none => .error (.wrongType ("object of type '" ++ v.typeName ++ "' has no len()"))

/-- The texts of a sequence; `position` counts the items before it. -/
def textsFrom (position : Nat) : List Value → Except Failure (List String)
  | [] => .ok []
  | .text s :: rest => (textsFrom (position + 1) rest).map (s :: ·)
  | v :: _ => .error (.wrongType ("sequence item " ++ toString position ++
      ": expected str instance, " ++ v.typeName ++ " found"))

def join (separator : String) (v : Value) : Except Failure String :=
  match v.elements? with
  | some items => (textsFrom 0 items).map (String.intercalate separator)
  | Option.none => .error (.wrongType "can only join an iterable")

/-- A value in the one place of a message. A tuple gives its only item to the
place, and any other number of items is refused. -/
def single : Value → Except Failure Value
  | .tuple [item] => .ok item
  | .tuple [] => .error (.wrongType "not enough arguments for format string")
  | .tuple _ => .error (.wrongType "not all arguments converted during string formatting")
  | v => .ok v

theorem textsFrom_map_text (position : Nat) (items : List String) :
    textsFrom position (items.map .text) = .ok items := by
  induction items generalizing position with
  | nil => rfl
  | cons s rest ih => simp [textsFrom, ih, Except.map]

theorem join_texts (separator : String) (items : List String) :
    (texts items).join separator = .ok (separator.intercalate items) := by
  simp [texts, join, elements?, textsFrom_map_text, Except.map]

end CommandShell.Value
