import CommandShell.Fault.Rendering
import CommandShell.World

/-!
A shell around a registry. Each line is first substituted; the rest is as in a
dispatch. In shell mode faults are shown and the line gives nothing, and any
other failure of an action is wrapped in a fault; otherwise everything is
raised. Interruptions pass in both modes.
-/
namespace CommandShell

structure Shell where
  substitute : Option (Value → Except Stop Value)
  prog : Value
  shell : Bool
  fancy : Bool
  colorful : Bool

namespace Shell

variable {α : Type}

def make (substitute : Slot (Value → Except Stop Value)) (prog shell fancy colorful : Value) :
    Except Failure Shell :=
  let build (f : Option (Value → Except Stop Value)) : Shell :=
    ⟨f, prog, shell.truthy, fancy.truthy, colorful.truthy⟩
  match substitute with
  | .unset => .ok (build none)
  | .callable f => .ok (build (some f))
  | .other => .error (.wrongType "shell 'substitute' must be callable")

/-- The options that this shell gives to every fault it surfaces. -/
def presentation (s : Shell) : Table Value := [
  ("prog", s.prog), ("shell", .bool s.shell), ("fancy", .bool s.fancy),
  ("colorful", .bool s.colorful)]

def faultEntry (f : Fault) : Journal.Entry :=
  ⟨.shell, "fault raised while executing a line: " ++ f.messageValue.display⟩

def failedEntry (name : String) : Journal.Entry :=
  ⟨.shell, "command " ++ Text.quote name ++ " failed"⟩

/-- Surfaces a fault with this shell's presentation. -/
def surface (s : Shell) (f : Fault) (w : World α) : Outcome × World α :=
  let w := w.log [faultEntry f]
  match (f.withOptions s.presentation).surface w.host with
  | .ok rendering => (.ok .none, w.print (.fault rendering))
  | .error f => (.error (.failure (.fault f)), w)

/-- The fault that wraps the failure of an action. -/
def delegated (host : Host) (name : String) (failure : Failure) : Fault where
  kind := .delegated
  message := some ("command " ++ Text.quote name ++ " failed: " ++ failure.display)
  options := [
    ("title", .text "command failed"),
    ("code", .code .delegatedError),
    ("hint", .text ("check the command arguments or try 'help " ++ name ++ "'")),
    ("docs", host.doc .delegatedError),
    ("exception", failure.toValue)]

/-- What becomes of an action's outcome. -/
def settle (s : Shell) (name : String) : Outcome × World α → Outcome × World α
  | (.error (.failure failure), w) =>
      if s.shell then
        match failure with
        | .fault f => s.surface f w
        | .error _ _ => s.surface (delegated w.host name failure) (w.log [failedEntry name])
      else (.error (.failure failure), w)
  | result => result

def executeText (runner : Runner α) (s : Shell) (text : String) (w : World α) :
    Outcome × World α :=
  match Token.tokenize text with
  | [] => (.ok .none, w)
  | name :: arguments =>
      match w.route text name arguments with
      | (.error fault, w) => s.surface fault w
      | (.ok b, w) => s.settle name (w.execute runner b)

def substituted (s : Shell) (line : Value) : Except Stop Value :=
  match s.substitute with
  | none => .ok line
  | some f => f line

def execute (runner : Runner α) (s : Shell) (line : Value) (w : World α) : Outcome × World α :=
  match s.substituted line with
  | .error stop => (.error stop, w)
  | .ok (.text text) => s.executeText runner text w
  | .ok line =>
      match Token.ofValue line with
      | .error failure => (.error (.failure failure), w)
      | .ok _ => (.ok .none, w)

end Shell

end CommandShell
