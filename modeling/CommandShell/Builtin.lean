import CommandShell.World

/-!
The commands a shell starts with: printing text, setting, unsetting and
listing variables, a command that shows what it was bound to, and help. Their
actions need nothing of the runner, so they work in every world.
-/
namespace CommandShell

inductive Builtin where
  | echo
  | assign
  | unassign
  | listing
  | probe
  | summary (colorful : Bool)
  | details (colorful : Bool)

variable {α : Type}

/-- A parameter that an action reads has to be bound. -/
def Call.param (call : Call) (name : String) : Except Stop Value :=
  match call.params.get? name with
  | some v => .ok v
  | none => .error (.failure (.ofText .missingKey name))

def Call.flag (call : Call) (name : String) : Except Stop Value :=
  match call.flags.get? name with
  | some v => .ok v
  | none => .error (.failure (.ofText .missingKey name))

/-- The texts of a parameter, separated by single spaces. -/
def Call.joined (call : Call) (name : String) : Except Stop String := do
  let v ← call.param name
  (v.join " ").mapError .failure

namespace Builtin

/-- All variables, one per line or in one line. -/
def listVariables (environment : Table String) (lines : Bool) : String :=
  let shown := (if lines then "\n" else ", ").intercalate
    (environment.map fun e => e.1 ++ " = " ++ e.2)
  if shown = "" then "No variables are set." else shown

def probeRecord (call : Call) : Table Value :=
  Table.set (call.params.filter fun e => e.1 ≠ Binding.rawKey && e.1 ≠ Binding.tokensKey)
    "flags" (.record call.flags)

/-- What an action shows or changes, if it can read its parameters. -/
def effect (b : Builtin) (call : Call) (w : World α) : Except Stop (World α) :=
  match b with
  | .echo => do
      return w.print (.printed (← call.joined "text"))
  | .assign => do
      let value ← call.joined "value"
      let name ← call.param "variable"
      return { w with environment := w.environment.set name.display value }
  | .unassign => do
      let name ← call.param "variable"
      return { w with environment := w.environment.erase name.display }
  | .listing => do
      let lines ← call.flag "l"
      return w.print (.printed (listVariables w.environment lines.truthy))
  | .probe => return w.print (.record (probeRecord call))
  | .summary colorful =>
      return w.print (.screen (Help.summary (Help.paint w.host colorful) w.registry))
  | .details colorful => do
      let name ← call.param "command"
      let c ← (w.registry.lookupValue w.host name).mapError .failure
      return w.print (.screen (Help.details (Help.paint w.host colorful) name.display c))

def run (b : Builtin) (call : Call) (w : World α) : Outcome × World α :=
  match b.effect call w with
  | .ok w => (.ok .none, w)
  | .error stop => (.error stop, w)

def required (name description : String) (h : Descriptor.isName name.toList = true)
    (variadic : Bool := false) (parser : Parser := Parser.identity) : Param :=
  ⟨⟨name, some (.plain description), h⟩, false, variadic, parser⟩

def optional (name description : String) (h : Descriptor.isName name.toList = true)
    (variadic : Bool := false) : Param :=
  ⟨⟨name, some (.plain description), h⟩, true, variadic, Parser.identity⟩

def flag (name description : String) (h : Descriptor.isName name.toList = true) : Flag :=
  ⟨⟨name, some (.plain description), h⟩⟩

def echoCommand (embed : Builtin → α) : Command α where
  name := "echo"
  first := {
    help := "Outputs the provided text into the terminal."
    params := [required "text" "The text to echo." (by decide) true]
    flags := []
    action := some (embed .echo)
    params_nodup := by decide
    flags_nodup := by decide }
  others := []
  aliases := ["say"]
  hidden := false
  names_valid := by decide
  names_nodup := by decide

def variableParam (purpose : String) : Param :=
  required "variable" purpose (by decide) false Parser.identifier

def setCommand (embed : Builtin → α) : Command α where
  name := "set"
  first := {
    help := "Sets a variable with the specified name and value."
    params := [variableParam "The name of the variable to set.",
      required "value" "The value to assign to the variable." (by decide) true]
    flags := []
    action := some (embed .assign)
    params_nodup := by decide
    flags_nodup := by decide }
  others := []
  aliases := []
  hidden := false
  names_valid := by decide
  names_nodup := by decide

def unsetCommand (embed : Builtin → α) : Command α where
  name := "unset"
  first := {
    help := "Unsets the specified variable."
    params := [variableParam "The name of the variable to unset."]
    flags := []
    action := some (embed .unassign)
    params_nodup := by decide
    flags_nodup := by decide }
  others := []
  aliases := []
  hidden := false
  names_valid := by decide
  names_nodup := by decide

def envCommand (embed : Builtin → α) : Command α where
  name := "env"
  first := {
    help := "Lists all currently defined variables."
    params := []
    flags := [flag "l" "One variable per line." (by decide)]
    action := some (embed .listing)
    params_nodup := by decide
    flags_nodup := by decide }
  others := []
  aliases := []
  hidden := false
  names_valid := by decide
  names_nodup := by decide

def testCommand (embed : Builtin → α) : Command α where
  name := "test"
  first := {
    help := "Test command."
    params := [
      optional "ov" "optional variadic" (by decide) true,
      required "p" "required positional" (by decide),
      required "v" "required variadic" (by decide) true,
      optional "op" "optional positional" (by decide)]
    flags := [flag "v" "test flag 1" (by decide), flag "x" "test flag 2" (by decide)]
    action := some (embed .probe)
    params_nodup := by decide
    flags_nodup := by decide }
  others := []
  aliases := []
  hidden := true
  names_valid := by decide
  names_nodup := by decide

/-- The commands in the order in which they are registered. -/
def commands (embed : Builtin → α) : List (Command α) :=
  [echoCommand embed, setCommand embed, unsetCommand embed, envCommand embed, testCommand embed]

def summaryOverload (embed : Builtin → α) (colorful : Bool) : Overload α where
  help := "Displays this help menu."
  params := []
  flags := []
  action := some (embed (.summary colorful))
  params_nodup := by decide
  flags_nodup := by decide

def detailsOverload (embed : Builtin → α) (colorful : Bool) : Overload α where
  help := "Displays detailed help information for the specified command."
  params := [required "command" "The name of the command to get detailed help for." (by decide)]
  flags := []
  action := some (embed (.details colorful))
  params_nodup := by decide
  flags_nodup := by decide

/-- A help command under a name of choice. -/
def helpCommand (embed : Builtin → α) (name : Value) (colorful : Bool) :
    Except Command.Error (Command α) :=
  Command.make name [some (summaryOverload embed colorful), some (detailsOverload embed colorful)]
    (.tuple []) (.bool false)

/-- Forgets all variables and registers the commands a shell starts with. -/
def install (embed : Builtin → α) (w : World α) : World α :=
  (commands embed).foldl (fun w c => w.register c.name c) { w with environment := [] }

end Builtin

end CommandShell
