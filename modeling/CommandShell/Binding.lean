import CommandShell.Classified
import CommandShell.Overload
import CommandShell.Text.Ordinal

/-!
Matching one overload against classified arguments. Parameters draw their raw
values in bucket order: the named ones, then the required ones, the optional
scalars and the optional variadics. One cursor runs over the positional
values; a named parameter advances it by the values written after its marker,
because those are positional values too. The overload is accepted when every
parser accepts and the cursor ends exactly at the number of positional values.
-/
namespace CommandShell

/-- The raw value of a scalar or of a variadic parameter. -/
inductive Raw where
  | one (value : String)
  | many (values : List String)

/-- What a parameter finds: a raw value, nothing although it is needed, or nothing at all. -/
inductive Draw where
  | raw (value : Raw)
  | missing
  | unbound

inductive Rejection where
  | missing (param : String)
  | refused (param : String) (raw : Raw) (failure : Failure)
  | leftover (position : Nat)
  | surplus (count : Nat)

/-- The rejection of the overload with this help text. -/
structure Mismatch where
  help : String
  rejection : Rejection

structure Binding (α : Type) where
  overload : Overload α
  params : Table Value
  flags : List (String × Bool)
  text : Value
  tokens : List Value

def Raw.toValue : Raw → Value
  | .one value => .text value
  | .many values => Value.texts values

namespace Mismatch

def code (m : Mismatch) : FaultCode :=
  match m.rejection with
  | .missing _ => .missingValue
  | .refused .. => .parserFailure
  | .leftover _ | .surplus _ => .unparsedTokens

def reason (m : Mismatch) : String :=
  match m.rejection with
  | .missing param => "missing value for required parameter " ++ Text.quote param
  | .refused param raw _ =>
      "value " ++ raw.toValue.literal ++ " rejected by parameter " ++ Text.quote param
  | .leftover position =>
      "unexpected positional value from " ++ Text.ordinal position ++ " position"
  | .surplus count =>
      toString count ++ " named value(s) counted beyond the positional input"

def param? (m : Mismatch) : Option String :=
  match m.rejection with
  | .missing param | .refused param _ _ => some param
  | .leftover _ | .surplus _ => none

def failure? (m : Mismatch) : Option Failure :=
  match m.rejection with
  | .refused _ _ failure => some failure
  | _ => none

def toValue (m : Mismatch) : Value :=
  .mismatch m.help m.code m.reason m.param? ((m.failure?.map Failure.toValue).getD .none)

end Mismatch

namespace Classified

def isNamed (c : Classified) (p : Param) : Bool := (c.named.lookup p.name).isSome

/-- Bucket order; each bucket keeps the order of declaration. -/
def order (c : Classified) (params : List Param) : List Param :=
  params.filter (fun p => c.isNamed p) ++
    params.filter (fun p => !c.isNamed p && !p.optional) ++
    params.filter (fun p => !c.isNamed p && p.optional && !p.variadic) ++
    params.filter (fun p => !c.isNamed p && p.optional && p.variadic)

/-- What a parameter draws at a cursor, and the cursor after it. -/
def draw (c : Classified) (p : Param) (cursor : Nat) : Draw × Nat :=
  match c.named.lookup p.name with
  | some values =>
      if p.variadic then (.raw (.many values), cursor + values.length)
      else match values with
        | [] => (.unbound, cursor + 1)
        | value :: _ => (.raw (.one value), cursor + 1)
  | none =>
      if p.variadic then (.raw (.many (c.positional.drop cursor)), c.positional.length)
      else match c.positional[cursor]? with
        | some value => (.raw (.one value), cursor + 1)
        | none => (if p.optional then .unbound else .missing, cursor)

/-- Binds parameters in the given order; the first that lacks a value or
refuses it decides. -/
def bindFrom (c : Classified) : (cursor : Nat) → List Param → Except Rejection (Table Value × Nat)
  | cursor, [] => .ok ([], cursor)
  | cursor, p :: rest =>
      match c.draw p cursor with
      | (.missing, _) => .error (.missing p.name)
      | (.unbound, next) => c.bindFrom next rest
      | (.raw raw, next) =>
          match p.parse raw.toValue with
          | .error failure => .error (.refused p.name raw failure)
          | .ok v => (c.bindFrom next rest).map fun (bound, last) => ((p.name, v) :: bound, last)

/-- Every positional value has to be used, and none may be counted twice. -/
def checkCursor (c : Classified) (cursor : Nat) : Except Rejection Unit :=
  if cursor < c.positional.length then .error (.leftover (cursor + 1))
  else if c.positional.length < cursor then .error (.surplus (cursor - c.positional.length))
  else .ok ()

def bindParams (c : Classified) (params : List Param) : Except Rejection (Table Value) :=
  match c.bindFrom 0 (c.order params) with
  | .error r => .error r
  | .ok (bound, cursor) => (c.checkCursor cursor).map fun _ => bound

end Classified

namespace Overload

variable {α : Type}

def bindFlags (o : Overload α) (c : Classified) : List (String × Bool) :=
  o.flags.map fun f => (f.name, c.flags.contains f.name)

/-- Tries to bind an overload; the line itself is filled in when it wins. -/
def bind (o : Overload α) (c : Classified) : Except Mismatch (Binding α) :=
  match c.bindParams o.params with
  | .error r => .error ⟨o.help, r⟩
  | .ok bound => .ok ⟨o, bound, o.bindFlags c, .text "", []⟩

end Overload

end CommandShell
