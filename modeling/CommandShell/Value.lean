import CommandShell.Fault.Code
import CommandShell.Fault.Kind
import CommandShell.Table
import CommandShell.Text.Quoted
import CommandShell.Toolkit

/-!
Values that parsers produce, actions return and faults carry as options. Each
has a display form for messages, a literal form that quotes texts, a truth
value, and, for the containers and texts, elements. `unset` stands for a value
that was not given and differs from `none`.
-/
namespace CommandShell

inductive Value where
  | unset
  | none
  | bool (b : Bool)
  | int (n : Int)
  | text (s : String)
  | styled (t : TextView)
  | code (c : FaultCode)
  | list (items : List Value)
  | tuple (items : List Value)
  | set (items : List Value)
  | record (entries : List (String × Value))
  | error (cause : Cause) (message : Value)
  | interrupt (message : Value)
  | fault (kind : FaultKind) (message : Option String) (options : List (String × Value))
  | command (name : String) (help : String)
  | mismatch (help : String) (code : FaultCode) (reason : String)
      (param : Option String) (failure : Value)

namespace Value

open Text

/-- The label of an interruption, which no handler of failures catches. -/
def interruptLabel : String := "KeyboardInterrupt"

def typeName : Value → String
  | .unset => "UnsetType"
  | .none => "NoneType"
  | .bool _ => "bool"
  | .int _ => "int"
  | .text _ => "str"
  | .styled _ => "Text"
  | .code _ => "FaultCode"
  | .list _ => "list"
  | .tuple _ => "tuple"
  | .set _ => "set"
  | .record _ => "dict"
  | .error cause _ => cause.label
  | .interrupt _ => interruptLabel
  | .fault kind _ _ => kind.label
  | .command _ _ => "Command"
  | .mismatch .. => "Mismatch"

def commas (parts : List String) : String := ", ".intercalate parts

mutual
def literal : Value → String
  | .unset => "Unset"
  | .none => "None"
  | .bool b => if b then "True" else "False"
  | .int n => toString n
  | .text s => quote s
  | .styled t => t.literal
  | .code c => "<FaultCode." ++ c.label ++ ": " ++ toString c.number ++ ">"
  | .list items => "[" ++ commas (literals items) ++ "]"
  | .tuple [item] => "(" ++ literal item ++ ",)"
  | .tuple items => "(" ++ commas (literals items) ++ ")"
  | .set [] => "set()"
  | .set items => "\x7b" ++ commas (literals items) ++ "\x7d"
  | .record entries => "\x7b" ++ commas (literalEntries entries) ++ "\x7d"
  | .error cause message => cause.label ++ "(" ++ literal message ++ ")"
  | .interrupt message => interruptLabel ++ "(" ++ literal message ++ ")"
  | .fault kind message _ => kind.label ++ "(" ++ quote (message.getD "") ++ ")"
  | .command name _ => "command(name=" ++ quote name ++ ")"
  | .mismatch _ _ reason _ _ => "mismatch(reason=" ++ quote reason ++ ")"

def literals : List Value → List String
  | [] => []
  | item :: rest => literal item :: literals rest

def literalEntries : List (String × Value) → List String
  | [] => []
  | (key, item) :: rest => (quote key ++ ": " ++ literal item) :: literalEntries rest
end

@[simp] theorem literal_text (s : String) : literal (text s) = quote s := rfl

theorem literals_map_text (items : List String) : literals (items.map .text) = items.map quote := by
  induction items with
  | nil => rfl
  | cons item rest ih => exact congrArg (literal (text item) :: ·) ih

theorem literal_list_text (items : List String) :
    literal (list (items.map .text)) = "[" ++ commas (items.map quote) ++ "]" :=
  congrArg (fun shown => "[" ++ commas shown ++ "]") (literals_map_text items)

/-- Texts and styled texts show their characters and failures their message,
where a missing key is quoted; everything else shows its literal form. -/
def display : Value → String
  | .text s => s
  | .styled t => t.plain
  | .code c => toString c.number
  | .error .missingKey message => literal message
  | .error _ message => display message
  | .interrupt message => display message
  | .fault _ message _ => message.getD ""
  | v => literal v

def truthy : Value → Bool
  | .unset | .none => false
  | .bool b => b
  | .int n => n ≠ 0
  | .text s => s ≠ ""
  | .styled t => t.truth
  | .list items | .tuple items | .set items => !items.isEmpty
  | .record entries => !entries.isEmpty
  | _ => true

def isText : Value → Bool
  | .text _ => true
  | _ => false

def isUnset : Value → Bool
  | .unset => true
  | _ => false

/-- The value, or `fallback` where none was given. -/
def coalesce (v fallback : Value) : Value := if v.isUnset then fallback else v

/-- What iterating over a value yields: characters, items or keys. -/
def elements? : Value → Option (List Value)
  | .text s => some (s.toList.map fun c => .text (String.singleton c))
  | .styled t => some (t.letters.map fun letter => .styled letter.view)
  | .list items | .tuple items | .set items => some items
  | .record entries => some (entries.map fun e => .text e.1)
  | _ => Option.none

def texts (items : List String) : Value := .tuple (items.map .text)

end Value

end CommandShell
