import CommandShell.Fault.Basic

/-!
What the host application configures: the label in fault headers, style
overrides, labels for fault codes and their documentation.
-/
namespace CommandShell

structure Host where
  prog : Option Value
  styles : Table String
  codes : List (FaultCode × Value)
  docs : List (FaultCode × Value)

namespace Host

def empty : Host := ⟨none, [], [], []⟩

/-- The host's label for a code, or its number. -/
def codeLabel (h : Host) (code : FaultCode) : String :=
  match h.codes.lookup code with
  | some label => label.display
  | none => toString code.number

def doc (h : Host) (code : FaultCode) : Value := (h.docs.lookup code).getD .none

/-- The documentation of a value, which has to be a code. -/
def docOf (h : Host) : Value → Except Failure Value
  | .code c => .ok (h.doc c)
  | _ => .error (.wrongType "getdoc() argument must be a fault-code")

/-- The style of a key: the host's, or the built-in one, or no style. -/
def style (h : Host) (builtin : Table String) (key : String) : String :=
  (h.styles.get? key).getD ((builtin.get? key).getD "")

end Host

end CommandShell
