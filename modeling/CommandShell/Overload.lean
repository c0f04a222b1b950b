import CommandShell.Param

/-!
One signature of a command: a help text, parameters and flags in declaration
order, and the action to run when it wins. The type of actions is a parameter
of this library. Names are distinct among the parameters and among the flags;
`make` checks a declaration in the order help, parameters, flags, action and
reports the first violation.
-/
namespace CommandShell

structure Overload (α : Type) where
  help : String
  params : List Param
  flags : List Flag
  action : Option α
  params_nodup : (params.map fun p => p.name).Nodup
  flags_nodup : (flags.map fun f => f.name).Nodup

/-- What may stand in a list of parameters or flags. -/
inductive Member where
  | param (p : Param)
  | flag (f : Flag)
  | other

inductive Members where
  | items (members : List Member)
  | notIterable

inductive Overload.Error where
  | helpNotText
  | helpEmpty
  | membersNotIterable (kind : DescriptorKind)
  | foreignMember (kind : DescriptorKind)
  | duplicateMember (kind : DescriptorKind) (name : String)
  | actionNotCallable
  | decoratedNotCallable

namespace Member

def param? : Member → Option Param
  | .param p => some p
  | _ => none

def flag? : Member → Option Flag
  | .flag f => some f
  | _ => none

end Member

namespace Overload

variable {α : Type}

def Error.toFailure : Error → Failure
  | .helpNotText => .wrongType "overload 'help' must be a string"
  | .helpEmpty => .ofText .badValue "overload 'help' cannot be empty"
  | .membersNotIterable kind => .wrongType ("overload '" ++ kind.label ++ "s' must be iterable")
  | .foreignMember kind => .wrongType
      ("overload '" ++ kind.label ++ "s' must only contain " ++ kind.label ++ " objects")
  | .duplicateMember kind name => .ofText .badValue
      ("overload " ++ kind.label ++ " name " ++ Text.quote name ++ " is duplicated")
  | .actionNotCallable => .wrongType "overload 'executor' must be callable"
  | .decoratedNotCallable => .wrongType "@overload() must be applied to a callable"

/-- Picks the members of one kind out of a list; any other member and any name
that was seen before is refused. -/
def checkMembers {β : Type} (kind : DescriptorKind) (pick : Member → Option β) (name : β → String) :
    (seen : List String) → List Member →
      Except Error { ms : List β // (ms.map name).Nodup ∧ ∀ m ∈ ms, name m ∉ seen }
  | _, [] => .ok ⟨[], by simp⟩
  | seen, member :: rest =>
      match pick member with
      | none => .error (.foreignMember kind)
      | some b =>
          if hb : name b ∈ seen then .error (.duplicateMember kind (name b))
          else match checkMembers kind pick name (name b :: seen) rest with
            | .error e => .error e
            | .ok ⟨bs, hnodup, hseen⟩ => .ok ⟨b :: bs, by
                constructor
                · simp only [List.map_cons, List.nodup_cons, List.mem_map, not_exists, not_and]
                  exact ⟨fun c hc heq => hseen c hc (by simp [heq]), hnodup⟩
                · intro m hm
                  rcases List.mem_cons.mp hm with rfl | hm
                  · exact hb
                  · exact fun h => hseen m hm (List.mem_cons_of_mem _ h)⟩

def checkHelp : Value → Except Error String
  | .text s => if Text.trim s = "" then .error .helpEmpty else .ok (Text.trim s)
  | _ => .error .helpNotText

def checkAll {β : Type} (kind : DescriptorKind) (pick : Member → Option β) (name : β → String) :
    Members → Except Error { ms : List β // (ms.map name).Nodup }
  | .notIterable => .error (.membersNotIterable kind)
  | .items members => (checkMembers kind pick name [] members).map fun ms => ⟨ms.1, ms.2.1⟩

def checkAction : Slot α → Except Error (Option α)
  | .unset => .ok none
  | .callable f => .ok (some f)
  | .other => .error .actionNotCallable

def make (help : Value) (params flags : Members) (action : Slot α) : Except Error (Overload α) := do
  let help ← checkHelp help
  let params ← checkAll .param Member.param? (fun p => p.name) params
  let flags ← checkAll .flag Member.flag? (fun f => f.name) flags
  let action ← checkAction action
  return ⟨help, params.1, flags.1, action, params.2, flags.2⟩

/-- Declares an overload around an action, which has to be there. -/
def decorate (help : Value) (params flags : Members) (action : Slot α) :
    Except Error (Overload α) :=
  match action with
  | .callable f => make help params flags (.callable f)
  | _ => .error .decoratedNotCallable

/-- An overload is called with its parameters and its flags. -/
def checkArity : (arguments : List Value) → Except Failure (Value × Value)
  | [params, flags] => .ok (params, flags)
  | [] => .error (.wrongType
      "Overload.__call__() missing 2 required positional arguments: 'params' and 'flags'")
  | [_] => .error (.wrongType
      "Overload.__call__() missing 1 required positional argument: 'flags'")
  | arguments => .error (.wrongType ("Overload.__call__() takes 3 positional arguments but " ++
      toString (arguments.length + 1) ++ " were given"))

def literal (o : Overload α) : String :=
  bracketed "overload" [("help", Text.quote o.help),
    ("params", literalTuple (o.params.map Param.literal)),
    ("flags", literalTuple (o.flags.map Flag.literal))]

end Overload

end CommandShell
