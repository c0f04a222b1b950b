import CommandShell.Value

/-!
Faults and the other ways to stop. A fault is what a user is told: a kind, a
message that may be missing, and options that hold its presentation and its
payload. A failure is a fault or a plain error; a stop is a failure or an
interruption. Handlers catch failures and let interruptions pass.
-/
namespace CommandShell

structure Fault where
  kind : FaultKind
  message : Option String
  options : Table Value

inductive Failure where
  | error (cause : Cause) (message : Value)
  | fault (f : Fault)

inductive Stop where
  | failure (f : Failure)
  | interrupt (message : Value)

namespace Failure

def ofText (cause : Cause) (message : String) : Failure := .error cause (.text message)

def wrongType (message : String) : Failure := ofText .wrongType message

def notIterable (v : Value) : Failure := wrongType ("'" ++ v.typeName ++ "' object is not iterable")

/-- A field that a value lacks. A fault, whose fields may be payload, names just the field. -/
def missingField (v : Value) (field : String) : Failure :=
  match v with
  | .fault .. => ofText .missingAttribute field
  | v => ofText .missingAttribute
      ("'" ++ v.typeName ++ "' object has no attribute '" ++ field ++ "'")

end Failure

namespace Fault

def toValue (f : Fault) : Value := .fault f.kind f.message f.options

/-- A message is a text or not given at all. -/
def make (kind : FaultKind) (message : Value) (options : Table Value) : Except Failure Fault :=
  match message with
  | .text s => .ok ⟨kind, some s, options⟩
  | .unset => .ok ⟨kind, none, options⟩
  | _ => .error (.ofText .brokenAssertion "")

def messageValue (f : Fault) : Value :=
  match f.message with
  | some s => .text s
  | none => .unset

def option? (f : Fault) (name : String) : Option Value := f.options.get? name

/-- Whether an option is given and holds a true value. -/
def enabled (f : Fault) (name : String) : Bool := (f.option? name).any Value.truthy

/-- Reads a field of the fault, or else a payload option of that name. -/
def field (f : Fault) (name : String) : Except Failure Value :=
  if name = "message" then .ok f.messageValue
  else if name = "options" then .ok (.record f.options)
  else if name = "args" then .ok (.tuple [.text (f.message.getD "")])
  else match f.option? name with
    | some v => .ok v
    | none => .error (.missingField f.toValue name)

/-- Reads a field by a value, which has to be a text. -/
def fieldOf (f : Fault) (name : Value) : Except Failure Value :=
  match name with
  | .text s => f.field s
  | v => .error (.wrongType ("attribute name must be string, not '" ++ v.typeName ++ "'"))

/-- Copies a fault with further options. The copy has the kind and the message of
the fault: a derived kind is assumed to keep the way in which faults are made. -/
def withOptions (f : Fault) (overrides : Table Value) : Fault :=
  { f with options := f.options.merge overrides }

/-- A changed fault; the name under which the fault itself is passed is taken. -/
def replace (f : Fault) (overrides : Table Value) : Except Failure Fault :=
  if (overrides.get? "self").isSome then
    .error (.wrongType
      "CommandException.__replace__() got multiple values for argument 'self'")
  else .ok (f.withOptions overrides)

/-- Changes are given by name only. -/
def replaceUnnamed (_ : Fault) (_ : Value) : Except Failure Fault :=
  .error (.ofText .brokenAssertion "unused arguments are not allowed")

end Fault

def Failure.toValue : Failure → Value
  | .error cause message => .error cause message
  | .fault f => f.toValue

def Stop.toValue : Stop → Value
  | .failure f => f.toValue
  | .interrupt message => .interrupt message

def Failure.display (f : Failure) : String := f.toValue.display

/-- The failure or interruption that a value holds, to be raised again. -/
def Value.toStop? : Value → Option Stop
  | .error cause message => Option.some (.failure (.error cause message))
  | .fault kind message options => Option.some (.failure (.fault ⟨kind, message, options⟩))
  | .interrupt message => Option.some (.interrupt message)
  | _ => Option.none

/-- What a label stands for; a fault cannot be made with a malformed message. -/
def Stop.ofLabel? (label : String) (message : Value) (options : Table Value) :
    Option (Except Failure Stop) :=
  match FaultKind.ofLabel? label, Cause.ofLabel? label with
  | some kind, _ => some ((Fault.make kind message options).map fun f => .failure (.fault f))
  | none, some cause => some (.ok (.failure (.error cause message)))
  | none, none =>
      if label = Value.interruptLabel then some (.ok (.interrupt message)) else none

/-- The code with a number, which has to be one that is in use. -/
def FaultCode.ofValue (v : Value) : Except Failure FaultCode :=
  match v with
  | .int n =>
      match FaultCode.ofNumber? n with
      | some code => .ok code
      | none => .error (invalid v)
  | v => .error (invalid v)
where
  invalid (v : Value) : Failure :=
    .ofText .badValue (v.literal ++ " is not a valid FaultCode")

theorem Value.toStop?_toValue (s : Stop) : s.toValue.toStop? = some s := by
  match s with
  | .failure (.error _ _) => rfl
  | .failure (.fault _) => rfl
  | .interrupt _ => rfl

end CommandShell
