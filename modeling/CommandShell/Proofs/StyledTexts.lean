import CommandShell.Toolkit
import Mathlib

/-!
What the laws of a toolkit say of the texts that it puts together. Spans that lie within the
parts of a row lie within the row; where no part with characters has a style, the row has none;
and a row has the spans of its front, and then those that its last part brings. Which texts a
rendering shows can be read off its call tree.
-/
namespace CommandShell.StyledTexts

open Toolkit

theorem eq_or_mem_of_mem_intersperse {β : Type} {separator b : β} {parts : List β}
    (h : b ∈ parts.intersperse separator) : b = separator ∨ b ∈ parts := by
  induction parts with
  | nil => cases h
  | cons part rest ih =>
    cases rest with
    | nil => exact Or.inr h
    | cons next rest =>
      rw [List.intersperse_cons_cons] at h
      rcases List.mem_cons.mp h with rfl | h
      · exact Or.inr List.mem_cons_self
      · rcases List.mem_cons.mp h with rfl | h
        · exact Or.inl rfl
        · exact (ih h).imp_right (List.mem_cons_of_mem part)

section Screens

variable (R : Toolkit) [R.LawfulScreens]

theorem texts_group (lines : List Styled) :
    R.texts ((Rendering.group (lines.map .text)).build R) = lines.map (Styled.build R) := by
  rw [Rendering.build_group, LawfulScreens.texts_group, List.map_map]
  induction lines with
  | nil => rfl
  | cons line rest ih =>
    rw [List.map_cons, List.flatMap_cons, ih, Function.comp_apply, Rendering.build_text,
      LawfulScreens.texts_screen, List.singleton_append, List.map_cons]

theorem texts_panel (lines : List Styled) (title : Styled) :
    R.texts ((Rendering.panel (.group (lines.map .text)) title).build R) =
      (title :: lines).map (Styled.build R) := by
  rw [Rendering.build_panel, LawfulScreens.texts_panel, texts_group, List.map_cons]

end Screens

/-- What a text reads as. -/
def reading (R : Toolkit) (t : Styled) : String := R.plain (t.build R)

section Reading

variable (R : Toolkit)

theorem plainPart_text (t : Styled) :
    R.plainPart ((Part.text t).map (Styled.build R)) = reading R t := rfl

theorem plainPart_words (s : String) :
    R.plainPart ((Part.words s).map (Styled.build R)) = shown s := rfl

variable [R.LawfulPlain]

theorem reading_make (text style : String) : reading R (.make text style) = shown text := by
  rw [reading, Styled.build_make, LawfulPlain.plain_make]

/-- A text of the toolkit that is handed in reads as it did. -/
theorem reading_given (t : R.Text) : reading R (.given (R.view t)) = R.plain t := by
  rw [reading, Styled.build_given, plain, LawfulPlain.view_given, plain]

theorem reading_assemble (parts : List (Part Styled)) : reading R (.assemble parts) =
    String.join (parts.map fun part => R.plainPart (part.map (Styled.build R))) := by
  rw [reading, Styled.build_assemble, LawfulPlain.plain_assemble, List.map_map]
  rfl

theorem reading_append (t next : Styled) :
    reading R (.append t next) = reading R t ++ reading R next := by
  rw [reading, Styled.build_append, LawfulPlain.plain_append, reading, reading]

theorem reading_join (separator : Styled) (parts : List Styled) :
    reading R (.join separator parts) =
      (reading R separator).intercalate (parts.map (reading R)) := by
  rw [reading, Styled.build_join, LawfulPlain.plain_join, List.map_map]
  rfl

end Reading

/-- A text without control codes is made as it stands. -/
theorem shown_eq_self {text : String} (h : text.toList.all isShown = true) :
    shown text = text := by
  rw [shown, List.filter_eq_self.mpr (List.all_eq_true.mp h), String.ofList_toList]

section Rows

variable (R : Toolkit)

/-- How many characters parts have together. -/
def rowLength (parts : List (Part R.Text)) : Nat :=
  (parts.map fun part => (R.plainPart part).length).sum

theorem length_assemble [R.LawfulPlain] (parts : List (Part R.Text)) :
    (R.plain (R.assemble parts)).length = rowLength R parts := by
  rw [LawfulPlain.plain_assemble, String.length_join, List.map_map]
  rfl

theorem length_join [R.LawfulPlain] (separator : R.Text) (parts : List R.Text) :
    (R.plain (R.join separator parts)).length =
      rowLength R ((parts.intersperse separator).map .text) := by
  rw [LawfulPlain.plain_join]
  induction parts with
  | nil => rfl
  | cons part rest ih =>
    cases rest with
    | nil => simp [rowLength, plainPart]
    | cons next rest =>
      rw [List.map_cons, List.map_cons, String.intercalate_cons_cons, String.length_append,
        String.length_append, ← List.map_cons, ih]
      simp only [rowLength, List.intersperse_cons_cons, List.map_cons, List.sum_cons, plainPart,
        Nat.add_assoc]

/-- Parts without characters are of no length. -/
theorem rowLength_fills (parts : List (Part R.Text)) :
    rowLength R (parts.filter R.fills) = rowLength R parts := by
  induction parts with
  | nil => rfl
  | cons part rest ih =>
    rw [List.filter_cons]
    split
    case isTrue => rw [rowLength, rowLength, List.map_cons, List.map_cons, List.sum_cons,
      List.sum_cons, ← rowLength, ← rowLength, ih]
    case isFalse hempty =>
      have hplain : R.plainPart part = "" := not_not.mp (mt decide_eq_true hempty)
      rw [ih, rowLength, rowLength, List.map_cons, List.sum_cons, hplain, String.length_empty,
        Nat.zero_add]

theorem placedRow_append (offset : Int) (front back : List (Part R.Text)) :
    R.placedRow offset (front ++ back) =
      R.placedRow offset front ++ R.placedRow (offset + rowLength R front) back := by
  induction front generalizing offset with
  | nil => simp [placedRow, rowLength]
  | cons part rest ih =>
    cases part with
    | words s =>
      rw [List.cons_append, placedRow, ih, placedRow, Int.add_assoc, ← Int.natCast_add]
      rfl
    | text t =>
      rw [List.cons_append, placedRow, ih, placedRow, List.append_assoc, Int.add_assoc,
        ← Int.natCast_add]
      rfl

/-- The last part of a row adds its spans to those of the row in front of it. -/
theorem spans_assemble_concat [R.LawfulPlain] [R.LawfulStyles] (front : List (Part R.Text))
    (last : Part R.Text) : R.spans (R.assemble (front ++ [last])) =
      R.spans (R.assemble front) ++
        R.placedRow (R.plain (R.assemble front)).length ([last].filter R.fills) := by
  rw [LawfulStyles.spans_assemble, LawfulStyles.spans_assemble, List.filter_append,
    placedRow_append, rowLength_fills, length_assemble, Int.zero_add]

end Rows

section Within

variable {R : Toolkit}

/-- Whether a span lies within a text of a length. -/
def Fits (length : Nat) (s : Span) : Prop := 0 ≤ s.start ∧ s.start ≤ s.stop ∧ s.stop ≤ length

def Within (t : R.Text) : Prop := ∀ s ∈ R.spans t, Fits (R.plain t).length s

theorem fits_mono {length length' : Nat} {s : Span} (h : Fits length s) (hle : length ≤ length') :
    Fits length' s := ⟨h.1, h.2.1, h.2.2.trans (Int.ofNat_le.mpr hle)⟩

/-- A text that stands behind others has the spans of these others in front. -/
theorem fits_shift {length : Nat} {s : Span} (h : Fits length s) (offset : Nat) :
    Fits (offset + length) (s.shift offset) := by
  obtain ⟨hstart, horder, hstop⟩ := h
  simp only [Fits, Span.shift, Int.natCast_add]
  omega

/-- The base style ends where the text does. -/
theorem fits_or_shifted_of_mem_placed {offset : Nat} {t : R.Text} {s : Span}
    (hs : s ∈ R.placed offset t) :
    Fits (offset + (R.plain t).length) s ∨ ∃ own ∈ R.spans t, s = own.shift offset := by
  rcases List.mem_append.mp hs with hbase | hspan
  · split at hbase
    · cases hbase
    · rw [List.mem_singleton.mp hbase]
      refine Or.inl ⟨?_, ?_, ?_⟩ <;> simp only [Int.natCast_add] <;> omega
  · obtain ⟨own, hown, rfl⟩ := List.mem_map.mp hspan
    exact Or.inr ⟨own, hown, rfl⟩

theorem fits_of_mem_placed {offset : Nat} {t : R.Text} {s : Span} (h : Within t)
    (hs : s ∈ R.placed offset t) : Fits (offset + (R.plain t).length) s := by
  rcases fits_or_shifted_of_mem_placed hs with hbase | ⟨own, hown, rfl⟩
  · exact hbase
  · exact fits_shift (h own hown) offset

theorem fits_of_mem_placedRow (offset : Nat) {parts : List (Part R.Text)} {s : Span}
    (h : ∀ t, .text t ∈ parts → Within t) (hs : s ∈ R.placedRow offset parts) :
    Fits (offset + rowLength R parts) s := by
  induction parts generalizing offset with
  | nil => cases hs
  | cons part rest ih =>
    have hrest : ∀ t, .text t ∈ rest → Within t := fun t ht => h t (List.mem_cons_of_mem _ ht)
    have hlength : offset + (R.plainPart part).length + rowLength R rest =
        offset + rowLength R (part :: rest) := by
      rw [rowLength, rowLength, List.map_cons, List.sum_cons, Nat.add_assoc]
    cases part with
    | words _ =>
      rw [placedRow, ← Int.natCast_add] at hs
      exact hlength ▸ ih _ hrest hs
    | text t =>
      rw [placedRow, ← Int.natCast_add] at hs
      rcases List.mem_append.mp hs with hfirst | hlater
      · apply fits_mono (fits_of_mem_placed (h t List.mem_cons_self) hfirst)
        exact hlength ▸ Nat.le_add_right _ _
      · exact hlength ▸ ih _ hrest hlater

variable [R.LawfulStyles]

theorem within_make (text style : String) : Within (R.make text style) := by
  intro s hs
  rw [LawfulStyles.spans_make] at hs
  cases hs

variable [R.LawfulPlain]

theorem within_assemble (parts : List (Part R.Text)) (h : ∀ t, .text t ∈ parts → Within t) :
    Within (R.assemble parts) := by
  intro s hs
  rw [LawfulStyles.spans_assemble] at hs
  have hfits := fits_of_mem_placedRow 0
    (fun t ht => h t (List.mem_of_mem_filter ht)) hs
  rwa [rowLength_fills, Nat.zero_add, ← length_assemble] at hfits

theorem within_join (separator : R.Text) (parts : List R.Text) (hne : R.plain separator ≠ "")
    (hseparator : Within separator) (h : ∀ t ∈ parts, Within t) :
    Within (R.join separator parts) := by
  intro s hs
  rw [LawfulStyles.spans_join separator parts hne] at hs
  have hparts : ∀ t, .text t ∈ (parts.intersperse separator).map Part.text → Within t := by
    intro t ht
    obtain ⟨_, hmem, heq⟩ := List.mem_map.mp ht
    obtain rfl := Part.text.inj heq
    rcases eq_or_mem_of_mem_intersperse hmem with rfl | hpart
    · exact hseparator
    · exact h _ hpart
  have hfits := fits_of_mem_placedRow 0 hparts hs
  rwa [Nat.zero_add, ← length_join] at hfits

end Within

section Unstyled

variable {R : Toolkit}

def Unstyled (t : R.Text) : Prop := R.style t = "" ∧ R.spans t = []

theorem placed_of_unstyled {t : R.Text} (h : Unstyled t) (offset : Int) :
    R.placed offset t = [] := by
  rw [placed, if_pos h.1, h.2]
  rfl

theorem unstyled_of_placed_eq_nil {t : R.Text} {offset : Int} (h : R.placed offset t = []) :
    Unstyled t := by
  obtain ⟨hbase, hspans⟩ := List.append_eq_nil_iff.mp h
  refine ⟨?_, List.map_eq_nil_iff.mp hspans⟩
  by_contra hstyle
  rw [if_neg hstyle] at hbase
  cases hbase

theorem placedRow_of_unstyled {parts : List (Part R.Text)}
    (h : ∀ t, .text t ∈ parts → Unstyled t) (offset : Int) : R.placedRow offset parts = [] := by
  induction parts generalizing offset with
  | nil => rfl
  | cons part rest ih =>
    have hrest : ∀ t, .text t ∈ rest → Unstyled t := fun t ht => h t (List.mem_cons_of_mem _ ht)
    cases part with
    | words s => exact ih hrest _
    | text t =>
      rw [placedRow, placed_of_unstyled (h t List.mem_cons_self), List.nil_append]
      exact ih hrest _

variable [R.LawfulStyles]

theorem unstyled_make (text : String) : Unstyled (R.make text "") :=
  ⟨LawfulStyles.style_make text "", LawfulStyles.spans_make text ""⟩

theorem unstyled_assemble (parts : List (Part R.Text)) (h : ∀ t, .text t ∈ parts → Unstyled t) :
    Unstyled (R.assemble parts) := by
  refine ⟨LawfulStyles.style_assemble parts, ?_⟩
  rw [LawfulStyles.spans_assemble]
  exact placedRow_of_unstyled (fun t ht => h t (List.mem_of_mem_filter ht)) 0

theorem unstyled_join (separator : R.Text) (parts : List R.Text) (hne : R.plain separator ≠ "")
    (hseparator : Unstyled separator) (h : ∀ t ∈ parts, Unstyled t) :
    Unstyled (R.join separator parts) := by
  refine ⟨(LawfulStyles.style_join separator parts).trans hseparator.1, ?_⟩
  rw [LawfulStyles.spans_join separator parts hne]
  apply placedRow_of_unstyled
  intro t ht
  obtain ⟨_, hmem, heq⟩ := List.mem_map.mp ht
  obtain rfl := Part.text.inj heq
  rcases eq_or_mem_of_mem_intersperse hmem with rfl | hpart
  · exact hseparator
  · exact h _ hpart

end Unstyled

end CommandShell.StyledTexts
