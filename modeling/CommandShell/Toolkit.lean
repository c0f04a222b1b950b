/-!
Styled texts and what is shown on a console. A toolkit makes them, and it is a parameter of
this library: the library decides which calls it makes, and a call tree can be built with any
toolkit. A text that a caller hands in is known by the answers it gives. The laws say what the
calls of a toolkit do to the characters, to the styles and to the order of what is shown.
-/
namespace CommandShell

/-- A range of characters with a style. Nothing keeps it within the text that has it. -/
structure Span where
  start : Int
  stop : Int
  style : String

namespace Span

def shift (offset : Int) (s : Span) : Span := ⟨s.start + offset, s.stop + offset, s.style⟩

end Span

/-- What a text answers: its characters, its base style and its spans, whether it counts as
true, and its literal form. -/
structure TextFace where
  plain : String
  style : String
  spans : List Span
  truth : Bool
  literal : String

/-- A text that a caller hands in, with the letters that it is iterated by. -/
structure TextView extends TextFace where
  letters : List TextFace

namespace TextFace

/-- A letter is iterated by itself. -/
def view (f : TextFace) : TextView := { f with letters := [f] }

end TextFace

/-- A part of a row: characters without a style, or a text. -/
inductive Part (τ : Type) where
  | words (s : String)
  | text (t : τ)

namespace Part

def map {σ τ : Type} (f : σ → τ) : Part σ → Part τ
  | .words s => .words s
  | .text t => .text (f t)

@[simp]
theorem map_words {σ τ : Type} (f : σ → τ) (s : String) : (words s).map f = words s := rfl

@[simp]
theorem map_text {σ τ : Type} (f : σ → τ) (t : σ) : (text t).map f = text (f t) := rfl

end Part

/-- The calls that make a text. -/
inductive Styled where
  | given (t : TextView)
  | make (text style : String)
  | assemble (parts : List (Part Styled))
  | append (t next : Styled)
  | join (separator : Styled) (parts : List Styled)

/-- The calls that make what is shown on a console: a text, a group of renderings one below the
other, or a panel with a title around a rendering. -/
inductive Rendering where
  | text (content : Styled)
  | group (parts : List Rendering)
  | panel (content : Rendering) (title : Styled)

structure Toolkit where
  Text : Type
  Screen : Type
  view : Text → TextView
  /-- The text that gave these answers. -/
  given : TextView → Text
  make : (text style : String) → Text
  /-- Parts in a row. -/
  assemble : List (Part Text) → Text
  append : (t next : Text) → Text
  join : (separator : Text) → List Text → Text
  screen : Text → Screen
  group : List Screen → Screen
  panel : Screen → (title : Text) → Screen
  /-- The texts that are shown, from the top, a title before what it stands over. -/
  texts : Screen → List Text

namespace Toolkit

/-- The control codes that a terminal would act on: bell, backspace, vertical tab, form feed and
carriage return. -/
def controls : List Char := ['\x07', '\x08', '\x0b', '\x0c', '\r']

def isShown (c : Char) : Bool := !controls.contains c

/-- The characters of which a text can be made. -/
def shown (text : String) : String := String.ofList (text.toList.filter isShown)

variable (R : Toolkit)

def plain (t : R.Text) : String := (R.view t).plain

def style (t : R.Text) : String := (R.view t).style

def spans (t : R.Text) : List Span := (R.view t).spans

def plainPart : Part R.Text → String
  | .words s => shown s
  | .text t => R.plain t

/-- The spans of a text that stands at `offset`, its base style first. -/
def placed (offset : Int) (t : R.Text) : List Span :=
  (if R.style t = "" then [] else [⟨offset, offset + (R.plain t).length, R.style t⟩]) ++
    (R.spans t).map (Span.shift offset)

/-- The spans of parts that stand one behind the other. -/
def placedRow : (offset : Int) → List (Part R.Text) → List Span
  | _, [] => []
  | offset, .words s :: rest => placedRow (offset + (shown s).length) rest
  | offset, .text t :: rest => R.placed offset t ++ placedRow (offset + (R.plain t).length) rest

/-- Whether a part has characters. -/
def fills (part : Part R.Text) : Bool := R.plainPart part ≠ ""

/-- What texts read as. A text holds no control codes, however it was made. -/
class LawfulPlain : Prop where
  view_given (t : R.Text) : R.view (R.given (R.view t)) = R.view t
  shown_plain (t : R.Text) : shown (R.plain t) = R.plain t
  plain_make (text style : String) : R.plain (R.make text style) = shown text
  plain_assemble (parts : List (Part R.Text)) :
    R.plain (R.assemble parts) = String.join (parts.map R.plainPart)
  plain_append (t next : R.Text) : R.plain (R.append t next) = R.plain t ++ R.plain next
  plain_join (separator : R.Text) (parts : List R.Text) :
    R.plain (R.join separator parts) = (R.plain separator).intercalate (parts.map R.plain)

/-- Which styles texts have. The parts of a row bring theirs, but for those without characters;
a text that is appended or joined brings its own in any case, and so does a separator that has
characters. -/
class LawfulStyles : Prop where
  style_make (text style : String) : R.style (R.make text style) = style
  spans_make (text style : String) : R.spans (R.make text style) = []
  style_assemble (parts : List (Part R.Text)) : R.style (R.assemble parts) = ""
  spans_assemble (parts : List (Part R.Text)) :
    R.spans (R.assemble parts) = R.placedRow 0 (parts.filter R.fills)
  style_append (t next : R.Text) : R.style (R.append t next) = R.style t
  spans_append (t next : R.Text) :
    R.spans (R.append t next) = R.spans t ++ R.placed (R.plain t).length next
  style_join (separator : R.Text) (parts : List R.Text) :
    R.style (R.join separator parts) = R.style separator
  spans_join (separator : R.Text) (parts : List R.Text) (h : R.plain separator ≠ "") :
    R.spans (R.join separator parts) = R.placedRow 0 ((parts.intersperse separator).map .text)

/-- What is shown of a text, of a group and of a panel. -/
class LawfulScreens : Prop where
  texts_screen (t : R.Text) : R.texts (R.screen t) = [t]
  texts_group (parts : List R.Screen) : R.texts (R.group parts) = parts.flatMap R.texts
  texts_panel (content : R.Screen) (title : R.Text) :
    R.texts (R.panel content title) = title :: R.texts content

end Toolkit

namespace Styled

variable (R : Toolkit)

mutual

/-- Makes the calls with a toolkit. -/
def build : Styled → R.Text
  | .given t => R.given t
  | .make text style => R.make text style
  | .assemble parts => R.assemble (buildParts parts)
  | .append t next => R.append t.build next.build
  | .join separator parts => R.join separator.build (buildAll parts)

def buildParts : List (Part Styled) → List (Part R.Text)
  | [] => []
  | .words s :: rest => .words s :: buildParts rest
  | .text t :: rest => .text t.build :: buildParts rest

def buildAll : List Styled → List R.Text
  | [] => []
  | t :: rest => t.build :: buildAll rest

end

theorem buildParts_eq_map (parts : List (Part Styled)) :
    buildParts R parts = parts.map (Part.map (build R)) := by
  induction parts with
  | nil => rfl
  | cons part rest ih =>
    cases part with
    | words s => rw [buildParts, ih, List.map_cons, Part.map_words]
    | text t => rw [buildParts, ih, List.map_cons, Part.map_text]

theorem buildAll_eq_map (parts : List Styled) : buildAll R parts = parts.map (build R) := by
  induction parts with
  | nil => rfl
  | cons t rest ih => rw [buildAll, ih, List.map_cons]

@[simp]
theorem build_given (t : TextView) : (given t).build R = R.given t := by
  rw [build]

@[simp]
theorem build_make (text style : String) : (make text style).build R = R.make text style := by
  rw [build]

@[simp]
theorem build_assemble (parts : List (Part Styled)) :
    (assemble parts).build R = R.assemble (parts.map (Part.map (build R))) := by
  rw [build, buildParts_eq_map]

@[simp]
theorem build_append (t next : Styled) :
    (append t next).build R = R.append (t.build R) (next.build R) := by
  rw [build]

@[simp]
theorem build_join (separator : Styled) (parts : List Styled) :
    (join separator parts).build R = R.join (separator.build R) (parts.map (build R)) := by
  rw [build, buildAll_eq_map]

end Styled

namespace Rendering

variable (R : Toolkit)

mutual

def build : Rendering → R.Screen
  | .text content => R.screen (content.build R)
  | .group parts => R.group (buildAll parts)
  | .panel content title => R.panel content.build (title.build R)

def buildAll : List Rendering → List R.Screen
  | [] => []
  | part :: rest => part.build :: buildAll rest

end

theorem buildAll_eq_map (parts : List Rendering) : buildAll R parts = parts.map (build R) := by
  induction parts with
  | nil => rfl
  | cons part rest ih => rw [buildAll, ih, List.map_cons]

theorem build_text (content : Styled) :
    (text content).build R = R.screen (content.build R) := by
  rw [build]

theorem build_group (parts : List Rendering) :
    (group parts).build R = R.group (parts.map (build R)) := by
  rw [build, buildAll_eq_map]

theorem build_panel (content : Rendering) (title : Styled) :
    (panel content title).build R = R.panel (content.build R) (title.build R) := by
  rw [build]

end Rendering

end CommandShell
