/-!
The kinds of failure. A cause says why a parser or an action gave up; a fault
kind says at which stage of a line a fault arose. Each has the label under
which it is written. Hosts may derive kinds and causes of their own, which
have just a label.
-/
namespace CommandShell

inductive Cause where
  | badValue
  | wrongType
  | runtime
  | missingKey
  | divisionByZero
  | unimportable
  | missingAttribute
  | brokenAssertion
  | tooDeep
  | derived (label : String)
  deriving DecidableEq

inductive FaultKind where
  | command
  | unknownCommand
  | noMatchingOverload
  | delegated
  | derived (label : String)
  deriving DecidableEq

def Cause.label : Cause → String
  | .badValue => "ValueError"
  | .wrongType => "TypeError"
  | .runtime => "RuntimeError"
  | .missingKey => "KeyError"
  | .divisionByZero => "ZeroDivisionError"
  | .unimportable => "ImportError"
  | .missingAttribute => "AttributeError"
  | .brokenAssertion => "AssertionError"
  | .tooDeep => "RecursionError"
  | .derived label => label

def FaultKind.label : FaultKind → String
  | .command => "CommandException"
  | .unknownCommand => "UnknownCommandError"
  | .noMatchingOverload => "NoMatchingOverloadError"
  | .delegated => "DelegatedCommandError"
  | .derived label => label

/-- The causes that are not derived by a host. -/
def Cause.stock : List Cause :=
  [.badValue, .wrongType, .runtime, .missingKey, .divisionByZero, .unimportable,
    .missingAttribute, .brokenAssertion, .tooDeep]

def FaultKind.stock : List FaultKind := [.command, .unknownCommand, .noMatchingOverload, .delegated]

def Cause.ofLabel? (label : String) : Option Cause := Cause.stock.find? (·.label == label)

def FaultKind.ofLabel? (label : String) : Option FaultKind :=
  FaultKind.stock.find? (·.label == label)

theorem Cause.ofLabel?_label : ∀ c ∈ Cause.stock, Cause.ofLabel? c.label = some c := by
  decide

theorem FaultKind.ofLabel?_label :
    ∀ k ∈ FaultKind.stock, FaultKind.ofLabel? k.label = some k := by
  decide

end CommandShell
