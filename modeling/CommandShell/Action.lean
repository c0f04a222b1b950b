import CommandShell.Builtin
import CommandShell.Declaration

/-!
A small language of actions. An action returns a value, shows or reads its
parameters, raises, or uses the registry: it may dispatch a further line, look
a command up, or register a command that it declares. Dispatching from within
an action is bounded in depth.
-/
namespace CommandShell

inductive Action where
  | value (v : Value)
  | echo
  | join (param : String)
  | get (param : String)
  | raise (stop : Stop)
  | dispatch (line : Value)
  | lookup (param : String)
  | register (name : Value) (decl : CommandDecl Action)
  | builtin (b : Builtin)

namespace Action

def pairs (entries : Table Value) : Value :=
  .list (entries.map fun e => .list [.text e.1, e.2])

/-- Registers a declared command and returns it. -/
def runRegister (name : Value) (decl : CommandDecl Action) (w : World Action) :
    Outcome × World Action :=
  match (do Registry.checkRegistration name (← decl.build) : Except Failure _) with
  | .error failure => (.error (.failure failure), w)
  | .ok (name, c) => (.ok c.toValue, w.register name c)

/-- The result of an action that changes nothing. -/
def runPure (call : Call) (w : World Action) : Action → Outcome
  | .value v => .ok v
  | .echo => .ok (.record [("params", pairs call.params), ("flags", pairs call.flags)])
  | .join param => (call.joined param).map .text
  | .get param => call.param param
  | .raise stop => .error stop
  | .lookup param => do
      let name ← call.param param
      let c ← (w.registry.lookupValue w.host name).mapError .failure
      return c.toValue
  | _ => .ok .none

def tooDeep : Stop := .failure (.ofText .tooDeep "maximum recursion depth exceeded")

/-- Runs an action in which lines may be dispatched `depth` levels deep. -/
def runWithin : (depth : Nat) → Runner Action
  | 0, _, _, w => (.error tooDeep, w)
  | depth + 1, action, call, w =>
      match action with
      | .dispatch line => w.dispatch (runWithin depth) line
      | .register name decl => runRegister name decl w
      | .builtin b => b.run call w
      | action => (runPure call w action, w)

/-- A value that cannot be read by a name. -/
def notSubscriptable (v : Value) : Failure :=
  match v with
  | .list _ => .wrongType "list indices must be integers or slices, not str"
  | .tuple _ => .wrongType "tuple indices must be integers or slices, not str"
  | .text _ => .wrongType "string indices must be integers, not 'str'"
  | .styled _ => .missingField (.text "") "indices"
  | v => .wrongType ("'" ++ v.typeName ++ "' object is not subscriptable")

/-- What an action receives when it is called with any two values: it minds
only those that it reads. -/
def callOf (a : Action) (params flags : Value) : Except Failure Call :=
  match a, params, flags with
  | _, .record params, .record flags => .ok ⟨params, flags⟩
  | .echo, .record _, flags => .error (.missingField flags "items")
  | .echo, params, _ => .error (.missingField params "items")
  | _, .record params, _ => .ok ⟨params, []⟩
  | .join _, params, _ | .get _, params, _ | .lookup _, params, _ =>
      .error (notSubscriptable params)
  | _, _, _ => .ok ⟨[], []⟩

def maxDepth : Nat := 200

def run : Runner Action := runWithin maxDepth

end Action

end CommandShell
