import CommandShell.Descriptor
import CommandShell.Parser

/-!
Parameters and flags of an overload. A parameter is bound by a marker or by
position, may be optional and may be variadic, and its parser turns the raw
value into the bound one. A flag is present or absent.
-/
namespace CommandShell

structure Param extends Descriptor where
  optional : Bool
  variadic : Bool
  parser : Parser

structure Flag extends Descriptor where

inductive Param.Error where
  | descriptor (e : Descriptor.Error)
  | parserNotCallable

namespace Param

def Error.toFailure : Error → Failure
  | .descriptor e => .ofText e.cause (e.message .param)
  | .parserNotCallable => .wrongType "param 'parser' must be callable"

def make (name description optional variadic : Value) (parser : Slot Parser) :
    Except Error Param :=
  match Descriptor.make name description with
  | .error e => .error (.descriptor e)
  | .ok d =>
      match parser with
      | .unset => .ok ⟨d, optional.truthy, variadic.truthy, Parser.identity⟩
      | .callable f => .ok ⟨d, optional.truthy, variadic.truthy, f⟩
      | .other => .error .parserNotCallable

/-- Parses a raw value; a variadic parameter first takes its elements as a tuple. -/
def parse (p : Param) (v : Value) : Except Failure Value :=
  if p.variadic then
    match v.iterate with
    | .ok items => p.parser (.tuple items)
    | .error failure => .error failure
  else p.parser v

def fields (p : Param) : Table Value := [
  ("name", .text p.name), ("descr", p.descriptionValue), ("optional", .bool p.optional),
  ("variadic", .bool p.variadic)]

end Param

namespace Flag

def make (name description : Value) : Except Descriptor.Error Flag :=
  (Descriptor.make name description).map fun d => ⟨d⟩

def fields (f : Flag) : Table Value := [("name", .text f.name), ("descr", f.descriptionValue)]

end Flag

/-- A label followed by named parts in brackets. -/
def bracketed (label : String) (parts : Table String) : String :=
  label ++ "(" ++ Value.commas (parts.map fun e => e.1 ++ "=" ++ e.2) ++ ")"

def literalFields (fields : Table Value) : Table String := fields.map fun e => (e.1, e.2.literal)

def Param.literal (p : Param) : String := bracketed "param" (literalFields p.fields)

def Flag.literal (f : Flag) : String := bracketed "flag" (literalFields f.fields)

/-- Parts in brackets, a single part with a comma after it. -/
def literalTuple (parts : List String) : String :=
  match parts with
  | [part] => "(" ++ part ++ ",)"
  | parts => "(" ++ Value.commas parts ++ ")"

end CommandShell
