import CommandShell.Registry
import CommandShell.Text.Plural

/-!
Help texts rendered from declarations: the syntax line of an overload, the
summary of the visible commands, and the details of one command. A paint gives
each piece its style; without colour every style is empty.
-/
namespace CommandShell

/-- The style that each piece of a help text receives, by palette key. -/
abbrev Paint := String → String

namespace Help

variable {α : Type}

def palette : Table String := [
  ("program-name", "bold #FF4D94"),
  ("usage-section", "bold #36C5F0"),
  ("help-text", "#9CA3AF"),
  ("heading", "bold underline #FFFFFF"),
  ("section-label", "underline #FFFFFF"),
  ("param-name", "bold #FFD600"),
  ("flag-name", "bold #22C55E"),
  ("optional-mark", "bold #F97316"),
  ("aliases-label", "bold #00E6FF"),
  ("empty", "italic #737373")]

def paint (host : Host) (colorful : Bool) : Paint := fun key =>
  if colorful then host.style palette key else ""

def piece (paint : Paint) (text key : String) : Styled := .make text (paint key)

def space : Styled := .make " " ""

/-- `<name>` for a required and `[name]` for an optional parameter, with dots
inside the brackets of a variadic one. -/
def placeholder (p : Param) : String :=
  let label := p.name ++ (if p.variadic then "..." else "")
  if p.optional then "[" ++ label ++ "]" else "<" ++ label ++ ">"

def usage (paint : Paint) (name : String) (o : Overload α) : Styled :=
  .join space (piece paint name "program-name" ::
    o.params.map fun p => piece paint (placeholder p) "usage-section")

def line (paint : Paint) (name : String) (o : Overload α) : Styled :=
  .assemble [.text (usage paint name o), .text (piece paint " | " "usage-section"),
    .text (piece paint o.help "help-text")]

/-- A summary shows at most this many overloads of a command. -/
def summaryLimit : Nat := 3

def summaryLines (paint : Paint) (r : Registry α) : List Styled :=
  r.visible.flatMap fun (name, c) => (c.overloads.take summaryLimit).map (line paint name)

/-- The description of a parameter or a flag; one that counts as false is left out. -/
def description (d : Descriptor) : Part Styled :=
  match d.description with
  | some (.plain text) => .words text
  | some (.styled text) => if text.truth then .text (.given text) else .words ""
  | none => .words ""

def paramLine (paint : Paint) (p : Param) : Styled :=
  let line := .assemble [.text (piece paint ("--" ++ p.name) "param-name"), .words ": ",
    description p.toDescriptor]
  if p.optional then .append line (piece paint " (OPTIONAL)" "optional-mark") else line

def flagLine (paint : Paint) (f : Flag) : Styled :=
  .assemble [.text (piece paint ("-" ++ f.name) "flag-name"), .words ": ",
    description f.toDescriptor]

/-- A labelled section that says `None.` when it has no lines. -/
def labelled (paint : Paint) (label : String) (lines : List Styled) : List Styled :=
  piece paint label "section-label" ::
    (if lines.isEmpty then [piece paint "None." "empty"] else lines)

def overloadLines (paint : Paint) (name : String) (o : Overload α) : List Styled :=
  .make "" "" :: line paint name o ::
    (labelled paint "Parameters" (o.params.map (paramLine paint)) ++
      labelled paint "Flags" (o.flags.map (flagLine paint)))

def aliasesLabel (aliases : List String) : String :=
  if aliases.length > 1 then Text.pluralize "Alias" else "Alias"

def aliasLines (paint : Paint) (aliases : List String) : List Styled :=
  if aliases.isEmpty then []
  else [.assemble [.text (piece paint (aliasesLabel aliases ++ ": ") "aliases-label"),
    .words (Value.commas aliases)]]

def heading (paint : Paint) (name : String) : Styled :=
  piece paint ("HELP FOR: " ++ name) "heading"

def bodyLines (paint : Paint) (name : String) (c : Command α) : List Styled :=
  aliasLines paint c.aliases ++ c.overloads.flatMap (overloadLines paint name)

def detailLines (paint : Paint) (name : String) (c : Command α) : List Styled :=
  heading paint name :: bodyLines paint name c

def summary (paint : Paint) (r : Registry α) : Rendering :=
  .group ((summaryLines paint r).map .text)

def details (paint : Paint) (name : String) (c : Command α) : Rendering :=
  .group ((detailLines paint name c).map .text)

/-- The heading of details under any value, which has to fit its one place. -/
def headingOf (paint : Paint) (name : Value) : Except Failure Styled := do
  return heading paint (← name.single).display

/-- Details under any value. -/
def detailsOf (paint : Paint) (name : Value) (c : Command α) : Except Failure Rendering := do
  let first ← headingOf paint name
  return .group ((first :: bodyLines paint name.display c).map .text)

end Help

end CommandShell
