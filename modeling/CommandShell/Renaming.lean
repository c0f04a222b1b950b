import CommandShell.Fault.Basic

/-!
Giving functions a stable name. Two arguments rename a function at once; one
argument makes a decorator that renames what it is applied to, and is itself
named. A function whose name is fixed cannot be renamed.
-/
namespace CommandShell

/-- An argument of a renaming: a function, a function with a fixed name, or some value. -/
inductive Renaming.Argument where
  | function (name : String)
  | fixed
  | value (v : Value)

/-- What a renaming gives: the function under its new name, or a decorator that
waits for a function. -/
inductive Renaming where
  | renamed (name : String)
  | decorator (name : String)

namespace Renaming

def Argument.isFunction : Argument → Bool
  | .value _ => false
  | _ => true

def decoratorName : String := "rename"

def ofTwo (target name : Argument) : Except Failure Renaming :=
  if !target.isFunction then .error (.wrongType "rename() first argument must be callable")
  else match name, target with
    | .value (.text _), .fixed =>
        .error (.wrongType "rename() first argument must be a updatable callable")
    | .value (.text s), _ => .ok (.renamed s)
    | _, _ => .error (.wrongType "rename() second argument must be a string")

def make : List Argument → Except Failure Renaming
  | [target, name] => ofTwo target name
  | [.value (.text s)] => .ok (.decorator s)
  | [_] => .error (.wrongType "@rename() argument must be a string")
  | arguments => .error (.wrongType ("rename takes 1 to 2 arguments but " ++
      toString arguments.length ++ " were given"))

/-- The name that the result of a renaming itself has. -/
def ownName : Renaming → String
  | .renamed name => name
  | .decorator _ => decoratorName

/-- Applies a decorator; the name of what it was applied to afterwards. -/
def apply : Renaming → Argument → Except Failure String
  | .renamed name, _ => .ok name
  | .decorator name, target =>
      if target.isFunction then (ofTwo target (.value (.text name))).map ownName
      else .error (.wrongType "@rename() must be applied to a callable")

end Renaming

end CommandShell
