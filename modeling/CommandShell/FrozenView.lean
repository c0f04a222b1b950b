import CommandShell.ValueSet

/-!
Read-only views of stored fields. A list is served as a tuple and a table or a
set as its frozen form; every other value is served as it is.
-/
namespace CommandShell

structure FrozenView where
  field : String
  value : Value

namespace FrozenView

/-- The view that a field with this name serves over a value. -/
def make (field value : Value) : Except Failure FrozenView :=
  match field with
  | .text name => .ok ⟨name, value⟩
  | _ => .error (.wrongType "mirror() argument must be a string")

def served (v : FrozenView) : Value :=
  match v.value with
  | .list items => .tuple items
  | other => other

/-- What is served, with the items of a set in ascending order. -/
def listed (v : FrozenView) : Except Failure Value :=
  match v.served with
  | .set items => (Value.sorted items).map .set
  | other => .ok other

def typeName (v : FrozenView) : String :=
  match v.served with
  | .record _ => "mappingproxy"
  | .set _ => "frozenset"
  | other => other.typeName

end FrozenView

end CommandShell
