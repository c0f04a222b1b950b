import CommandShell.Text.Quoted
import CommandShell.Toolkit

/-!
A toolkit that keeps the characters, the base style and the spans of each text, and the parts of
what is shown. The programs of this library run with it.
-/
namespace CommandShell

structure TextRecord where
  plain : String
  style : String
  spans : List Span
  clean : Toolkit.shown plain = plain

namespace TextRecord

open Toolkit

theorem shown_append (s t : String) : shown (s ++ t) = shown s ++ shown t := by
  simp [shown]

theorem shown_shown (s : String) : shown (shown s) = shown s := by
  simp [shown]

def make (text style : String) : TextRecord := ⟨shown text, style, [], shown_shown text⟩

def literalSpan (s : Span) : String :=
  "Span(" ++ ", ".intercalate [toString s.start, toString s.stop, Text.quote s.style] ++ ")"

def literal (t : TextRecord) : String :=
  "<text " ++ Text.quote t.plain ++ " [" ++ ", ".intercalate (t.spans.map literalSpan) ++ "] " ++
    Text.quote t.style ++ ">"

def face (t : TextRecord) : TextFace where
  plain := t.plain
  style := t.style
  spans := t.spans
  truth := t.plain ≠ ""
  literal := t.literal

/-- The styles of the spans that cover a place, on a text of one character. -/
def stylesAt (t : TextRecord) (place : Int) : List Span :=
  (t.spans.filter fun s => s.start ≤ place && place < s.stop).map fun s => ⟨0, 1, s.style⟩

def letters (t : TextRecord) : List TextFace :=
  t.plain.toList.zipIdx.map fun (c, place) =>
    face { make (String.singleton c) "" with spans := t.stylesAt place }

def view (t : TextRecord) : TextView := { t.face with letters := t.letters }

def given (t : TextView) : TextRecord := ⟨shown t.plain, t.style, t.spans, shown_shown t.plain⟩

def empty : TextRecord := make "" ""

/-- The spans of a text that stands at `offset`, its base style first. -/
def placed (offset : Int) (t : TextRecord) : List Span :=
  (if t.style = "" then [] else [⟨offset, offset + t.plain.length, t.style⟩]) ++
    t.spans.map (Span.shift offset)

def append (t next : TextRecord) : TextRecord where
  plain := t.plain ++ next.plain
  style := t.style
  spans := t.spans ++ next.placed t.plain.length
  clean := by rw [shown_append, t.clean, next.clean]

def ofPart : Part TextRecord → TextRecord
  | .words s => make s ""
  | .text t => t

/-- Parts in a row, without the empty ones. -/
def assemble (parts : List (Part TextRecord)) : TextRecord :=
  ((parts.map ofPart).filter (·.plain ≠ "")).foldl append empty

/-- A separator without characters is left out. -/
def join (separator : TextRecord) (parts : List TextRecord) : TextRecord :=
  (if separator.plain = "" then parts else parts.intersperse separator).foldl append
    { empty with style := separator.style }

/-- What is shown: the parts of a group and the title of a panel are kept. -/
inductive Screen where
  | single (t : TextRecord)
  | group (parts : List Screen)
  | panel (content : Screen) (title : TextRecord)

namespace Screen

mutual

def texts : Screen → List TextRecord
  | .single t => [t]
  | .group parts => textsOfAll parts
  | .panel content title => title :: texts content

def textsOfAll : List Screen → List TextRecord
  | [] => []
  | part :: rest => texts part ++ textsOfAll rest

end

theorem textsOfAll_eq_flatMap (parts : List Screen) : textsOfAll parts = parts.flatMap texts := by
  induction parts with
  | nil => rfl
  | cons part rest ih => rw [textsOfAll, ih, List.flatMap_cons]

end Screen

abbrev toolkit : Toolkit where
  Text := TextRecord
  Screen := Screen
  view := view
  given := given
  make := make
  assemble := assemble
  append := append
  join := join
  screen := .single
  group := .group
  panel := .panel
  texts := Screen.texts

section Laws

variable (t : TextRecord) (parts : List TextRecord)

theorem given_view : given (view t) = t := by
  cases t with
  | mk plain style spans clean => simp [given, view, face, clean]

theorem plain_foldl_append :
    (parts.foldl append t).plain = t.plain ++ String.join (parts.map (·.plain)) := by
  induction parts generalizing t with
  | nil => simp [String.join]
  | cons part rest ih =>
    rw [List.foldl_cons, ih]
    simp [append, String.append_assoc]

theorem style_foldl_append : (parts.foldl append t).style = t.style := by
  induction parts generalizing t with
  | nil => rfl
  | cons part rest ih => rw [List.foldl_cons, ih, append]

theorem spans_foldl_append : (parts.foldl append t).spans =
    t.spans ++ toolkit.placedRow t.plain.length (parts.map .text) := by
  induction parts generalizing t with
  | nil => exact (List.append_nil _).symm
  | cons part rest ih =>
    have hrow : toolkit.placedRow t.plain.length ((part :: rest).map .text) =
        part.placed t.plain.length ++ toolkit.placedRow (t.append part).plain.length
          (rest.map .text) := by
      simp only [append, String.length_append, Int.natCast_add]
      rfl
    rw [List.foldl_cons, ih, hrow, append, List.append_assoc]

theorem plain_ofPart (part : Part TextRecord) : (ofPart part).plain = toolkit.plainPart part := by
  cases part <;> rfl

/-- The parts that are left out have no characters. -/
theorem plain_assemble (parts : List (Part TextRecord)) :
    (assemble parts).plain = String.join (parts.map toolkit.plainPart) := by
  have hempty : empty.plain = "" := rfl
  rw [assemble, plain_foldl_append, hempty, String.empty_append]
  induction parts with
  | nil => rfl
  | cons part rest ih =>
    rw [List.map_cons, List.map_cons, String.join_cons, ← ih, ← plain_ofPart, List.filter_cons]
    split
    case isTrue => rw [List.map_cons, String.join_cons]
    case isFalse h => rw [Decidable.of_not_not (mt decide_eq_true h), String.empty_append]

/-- Plain characters bring no spans. -/
theorem placedRow_ofPart (offset : Int) (parts : List (Part TextRecord)) :
    toolkit.placedRow offset (parts.map fun part => .text (ofPart part)) =
      toolkit.placedRow offset parts := by
  induction parts generalizing offset with
  | nil => rfl
  | cons part rest ih =>
    cases part with
    | words s => exact ih _
    | text t => exact congrArg (toolkit.placed offset t ++ ·) (ih _)

theorem spans_assemble (parts : List (Part TextRecord)) :
    (assemble parts).spans = toolkit.placedRow 0 (parts.filter toolkit.fills) := by
  have hfills : (fun t : TextRecord => decide (t.plain ≠ "")) ∘ ofPart = toolkit.fills := by
    funext part
    rw [Function.comp_apply, plain_ofPart]
    rfl
  rw [assemble, spans_foldl_append, List.filter_map, hfills, List.map_map]
  exact placedRow_ofPart 0 _

theorem plain_join (separator : TextRecord) :
    (join separator parts).plain = separator.plain.intercalate (parts.map (·.plain)) := by
  have hempty : empty.plain = "" := rfl
  rw [join, plain_foldl_append, hempty, String.empty_append]
  induction parts with
  | nil => simp
  | cons part rest ih =>
    cases rest with
    | nil => simp
    | cons next rest =>
      rw [List.map_cons, List.map_cons, String.intercalate_cons_cons, ← List.map_cons, ← ih]
      split
      case isTrue hseparator =>
        rw [List.map_cons, String.join_cons, hseparator, String.append_empty]
      case isFalse =>
        rw [List.intersperse_cons_cons, List.map_cons, List.map_cons, String.join_cons,
          String.join_cons, String.append_assoc]

end Laws

instance : toolkit.LawfulPlain where
  view_given t := congrArg view (given_view t)
  shown_plain t := t.clean
  plain_make _ _ := rfl
  plain_assemble := plain_assemble
  plain_append _ _ := rfl
  plain_join separator parts := plain_join parts separator

instance : toolkit.LawfulStyles where
  style_make _ _ := rfl
  spans_make _ _ := rfl
  style_assemble _ := style_foldl_append _ _
  spans_assemble := spans_assemble
  style_append _ _ := rfl
  spans_append _ _ := rfl
  style_join _ _ := style_foldl_append _ _
  spans_join separator parts h := by
    have hjoin : join separator parts =
        (parts.intersperse separator).foldl append { empty with style := separator.style } :=
      congrArg (List.foldl append _) (if_neg h)
    exact (congrArg TextRecord.spans hjoin).trans (spans_foldl_append _ _)

instance : toolkit.LawfulScreens where
  texts_screen _ := rfl
  texts_group := Screen.textsOfAll_eq_flatMap
  texts_panel _ _ := rfl

end TextRecord

end CommandShell
