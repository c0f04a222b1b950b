import CommandShell.Command

/-!
Declarations of commands before they are checked. A part may be given as a
value that cannot even be made. Building goes depth first: all parameters in
order, all flags, then the overload; all overloads, then the command. The
first violation is reported.
-/
namespace CommandShell

/-- A value as it was given, which may be one that cannot be made. -/
abbrev Given := Except Failure Value

structure ParamDecl where
  name : Given
  description : Given
  optional : Given
  variadic : Given
  parser : Except Failure (Slot Parser)

structure FlagDecl where
  name : Given
  description : Given

/-- A declared member of a list of parameters or flags, or some other value in its place. -/
inductive MemberDecl where
  | param (d : ParamDecl)
  | flag (d : FlagDecl)
  | other (v : Given)

inductive MembersDecl where
  | items (members : List MemberDecl)
  | value (v : Given)

inductive OverloadDecl (α : Type) where
  | overload (help : Given) (params flags : MembersDecl) (action : Except Failure (Slot α))
      (decorated : Bool)
  | other (v : Given)

inductive CommandDecl (α : Type) where
  | command (name : Given) (overloads : List (OverloadDecl α)) (aliases hidden : Given)
  | other (v : Given)

variable {α : Type}

def ParamDecl.build (d : ParamDecl) : Except Failure Param := do
  (Param.make (← d.name) (← d.description) (← d.optional) (← d.variadic) (← d.parser)).mapError
    Param.Error.toFailure

def FlagDecl.build (d : FlagDecl) : Except Failure Flag := do
  (Flag.make (← d.name) (← d.description)).mapError fun e => .ofText e.cause (e.message .flag)

namespace MembersDecl

/-- Any value in place of a list; its elements are no parameters and no flags. -/
def membersOf (v : Value) : Members :=
  match v.elements? with
  | some elements => .items (elements.map fun _ => .other)
  | none => .notIterable

def buildMember : MemberDecl → Except Failure Member
  | .param d => d.build.map .param
  | .flag d => d.build.map .flag
  | .other v => v.map fun _ => .other

def build : MembersDecl → Except Failure Members
  | .items members => (members.mapM buildMember).map .items
  | .value v => v.map membersOf

end MembersDecl

/-- Builds an overload; `none` stands for some other value in its place. -/
def OverloadDecl.build : OverloadDecl α → Except Failure (Option (Overload α))
  | .overload help params flags action decorated => do
      let help ← help
      let params ← params.build
      let flags ← flags.build
      let make := if decorated then Overload.decorate else Overload.make
      let o ← (make help params flags (← action)).mapError Overload.Error.toFailure
      return some o
  | .other v => v.map fun _ => none

def CommandDecl.build : CommandDecl α → Except Failure (Option (Command α))
  | .command name overloads aliases hidden => do
      let name ← name
      let overloads ← overloads.mapM OverloadDecl.build
      let c ← (Command.make name overloads (← aliases) (← hidden)).mapError Command.Error.toFailure
      return some c
  | .other v => v.map fun _ => none

end CommandShell
