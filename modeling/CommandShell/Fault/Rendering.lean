import CommandShell.Fault.Basic
import CommandShell.Host
import CommandShell.Text.Case

/-!
How a fault is shown. A fault has a header, a message and, where its hint
option is true, a hint; the options decide only their styles and whether the
header is the first part of a group or the title of a panel.
-/
namespace CommandShell.Fault

def palette : Table String := [
  ("prog-name", "bold #E6E6F0"),
  ("code", "bold #00E5FF"),
  ("error-title", "bold #FF4DA6"),
  ("error-message", "#C8C8D0"),
  ("hint-arrow", "#9CE19C dim"),
  ("hint", "italic #9CE19C")]

/-- A piece of a rendering: nothing for a false value, no style without colour,
and a styled text as it is. -/
def fragment (host : Host) (colorful : Bool) (v : Value) (key : String) : Styled :=
  if !v.truthy then .make "" ""
  else if !colorful then .make v.display ""
  else match v with
    | .styled t => .given t
    | v => .make v.display (host.style palette key)

structure Parts where
  header : Styled
  message : Styled
  hint : Option Styled

def codeText (host : Host) (f : Fault) : String :=
  match f.option? "code" with
  | some (.code c) => host.codeLabel c
  | _ => "?"

def titleText (f : Fault) : String :=
  String.ofList (Text.title ((f.option? "title").getD (.text "error")).display.toList)

def progValue (host : Host) (f : Fault) : Value :=
  host.prog.getD ((f.option? "prog").getD (.text "overture"))

def parts (host : Host) (f : Fault) : Parts :=
  let piece := fragment host (f.enabled "colorful")
  { header := .assemble [.words "[ ", .text (piece (f.progValue host) "prog-name"),
      .words " — ", .text (piece (.text (f.codeText host)) "code"), .words " | ",
      .text (piece (.text f.titleText) "error-title"), .words " ]"]
    message := piece (.text (f.message.getD "")) "error-message"
    hint := ((f.option? "hint").filter Value.truthy).map fun hint =>
      .assemble [.text (piece (.text " → ") "hint-arrow"), .text (piece hint "hint")] }

def render (host : Host) (f : Fault) : Rendering :=
  let p := f.parts host
  let body := .text p.message :: (p.hint.toList.map .text)
  if f.enabled "fancy" then .panel (.group body) p.header else .group (.text p.header :: body)

/-- Surfaces a fault: it is shown where its shell option is true and raised
otherwise. -/
def surface (host : Host) (f : Fault) : Except Fault Rendering :=
  if f.enabled "shell" then .ok (f.render host) else .error f

/-- Surfaces whatever stands in a value, with further options. -/
def trigger (host : Host) (v : Value) (overrides : Table Value) : Except Failure Rendering :=
  match v with
  | .fault kind message options =>
      match (Fault.mk kind message options).replace overrides with
      | .ok f => (f.surface host).mapError .fault
      | .error failure => .error failure
  | _ => .error (.wrongType "trigger() argument must have a __trigger__ and __replace__ methods")

end CommandShell.Fault
