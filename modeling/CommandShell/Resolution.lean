import CommandShell.Binding
import CommandShell.Command
import CommandShell.Host
import CommandShell.Journal
import CommandShell.Token

/-!
Resolving a line: the overloads of a command are tried in declaration order
against the tokens after the first, and the first that binds wins. It receives
two further entries, the raw text of the line and the tuple of its tokens.
When all reject, the rejections are reported in declaration order. One record
is written for each overload that was tried.
-/
namespace CommandShell

/-- A line as resolution sees it: its text, token 0 if there is one, and the
tokens after it. -/
structure Line where
  text : Value
  head : Option Value
  arguments : List String

/-- No overload of a command accepts a line. -/
structure NoMatch (α : Type) where
  command : Command α
  line : Line
  mismatches : List Mismatch

/-- The tokens of a line, which has to be a text. -/
def Token.ofValue : Value → Except Failure (List String)
  | .text line => .ok (Token.tokenize line)
  | _ => .error (.wrongType "tokenize() argument must be a string")

namespace Line

def ofTokens (text : Value) : List String → Line
  | [] => ⟨text, none, []⟩
  | token :: rest => ⟨text, some (.text token), rest⟩

/-- The tokens of a line are texts, except that token 0 may be any value. -/
def ofValues (text : Value) (tokens : List Value) : Except Failure Line :=
  match tokens with
  | [] => .ok ⟨text, none, []⟩
  | head :: rest => (argumentsOf rest).map fun arguments => ⟨text, some head, arguments⟩
where
  argumentsOf : List Value → Except Failure (List String)
    | [] => .ok []
    | .text s :: rest => (argumentsOf rest).map (s :: ·)
    | v :: _ => .error (.missingField v "startswith")

/-- A text with its tokens, which are taken from the text when they are not given. -/
def ofInput (text tokens : Value) : Except Failure Line :=
  match tokens with
  | .unset => (Token.ofValue text).map (ofTokens text)
  | given => do ofValues text (← given.iterate)

/-- A text with tokens that have to be given. -/
def ofGiven (text tokens : Value) : Except Failure Line := do ofValues text (← tokens.iterate)

/-- The tokens are missing where `action` needs them. -/
def missingTokens (action : String) : Failure :=
  .wrongType (action ++ "() missing 1 required positional argument: 'tokens'")

def tokens (line : Line) : List Value := line.head.toList ++ line.arguments.map .text

end Line

/-- The texts of a list of values that are to be classified. -/
def Classified.ofValues (tokens : List Value) : Except Failure Classified :=
  (Line.ofValues.argumentsOf tokens).map Classified.ofTokens

namespace NoMatch

variable {α : Type}

/-- The fault that reports, under the name that was typed, a line no overload accepts. -/
def toFault (host : Host) (name : Value) (e : NoMatch α) : Fault where
  kind := .noMatchingOverload
  message := some ("no overload of command " ++ name.literal ++ " matches the provided parameters")
  options := [
    ("title", .text "no matching overload"),
    ("code", .code .noMatchingOverload),
    ("hint", .text ("try 'help " ++ name.display ++ "' to see every accepted form")),
    ("docs", host.doc .noMatchingOverload),
    ("command", e.command.toValue),
    ("input", e.line.text),
    ("mismatches", .tuple (e.mismatches.map Mismatch.toValue))]

/-- A line without tokens is reported under the command's own name. -/
def toFailure (host : Host) (e : NoMatch α) : Failure :=
  match (e.line.head.getD (.text e.command.name)).single with
  | .error failure => failure
  | .ok name => .fault (e.toFault host name)

end NoMatch

namespace Binding

variable {α : Type}

def rawKey : String := "__raw__"

def tokensKey : String := "__tokens__"

/-- Fills in the line that a binding was made from. -/
def withLine (b : Binding α) (line : Line) : Binding α :=
  { b with
    params := (b.params.set rawKey line.text).set tokensKey (.tuple line.tokens)
    text := line.text
    tokens := line.tokens }

end Binding

namespace Command

variable {α : Type}

def acceptedEntry (name : String) (position : Nat) : Journal.Entry :=
  ⟨.resolver, "command " ++ Text.quote name ++ " matched its " ++ Text.ordinal position ++
    " overload"⟩

def rejectedEntry (name : String) (position : Nat) (m : Mismatch) : Journal.Entry :=
  ⟨.resolver, "command " ++ Text.quote name ++ " " ++ Text.ordinal position ++
    " overload rejected: " ++ m.reason⟩

/-- Tries overloads from `position` on. -/
def tryFrom (name : String) (c : Classified) :
    (position : Nat) → List (Overload α) → Except (List Mismatch) (Binding α) × Journal
  | _, [] => (.error [], [])
  | position, o :: rest =>
      match o.bind c with
      | .ok b => (.ok b, [acceptedEntry name position])
      | .error m =>
          let (result, entries) := tryFrom name c (position + 1) rest
          (result.mapError (m :: ·), rejectedEntry name position m :: entries)

/-- The binding of the first overload that accepts a line, and the records of the attempts. -/
def resolve (command : Command α) (line : Line) : Except (NoMatch α) (Binding α) × Journal :=
  let (result, entries) :=
    tryFrom command.name (Classified.ofTokens line.arguments) 1 command.overloads
  match result with
  | .ok b => (.ok (b.withLine line), entries)
  | .error mismatches => (.error ⟨command, line, mismatches⟩, entries)

end Command

end CommandShell
