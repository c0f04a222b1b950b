import CommandShell.Help
import CommandShell.Proofs.StyledTexts

/-!
The lines of help texts. A paint decides about the styles of pieces and nothing else, so what
a line reads as does not depend on it. Lines are put together from pieces, and a line that
describes a parameter or a flag from pieces and the description: what every piece has, and
putting texts together keeps, holds of every line but for those. The spans of a line that
describes are those of its front, and behind them what the description brings.
-/
namespace CommandShell.HelpLines

open StyledTexts Help Toolkit

variable {α : Type}

/-- The line of a parameter or a flag: its marker, then its description. -/
def entry (paint : Paint) (marker key : String) (d : Descriptor) : Styled :=
  .assemble [.text (piece paint (marker ++ d.name) key), .words ": ", description d]

theorem flagLine_eq (paint : Paint) (f : Flag) :
    flagLine paint f = entry paint "-" "flag-name" f.toDescriptor := rfl

theorem paramLine_eq (paint : Paint) (p : Param) :
    paramLine paint p =
      if p.optional then
        .append (entry paint "--" "param-name" p.toDescriptor)
          (piece paint " (OPTIONAL)" "optional-mark")
      else entry paint "--" "param-name" p.toDescriptor := rfl

section Reading

variable (R : Toolkit) [R.LawfulPlain] (paint paint' : Paint)

theorem reading_piece (text key : String) : reading R (piece paint text key) = shown text :=
  reading_make R text (paint key)

theorem reading_usage (name : String) (o : Overload α) : reading R (usage paint name o) =
    " ".intercalate (shown name :: o.params.map fun p => shown (placeholder p)) := by
  have hspace : reading R space = " " := (reading_make R " " "").trans (by decide)
  rw [usage, reading_join, hspace, List.map_cons, reading_piece, List.map_map]
  congr 2
  exact List.map_congr_left fun p _ => reading_piece R paint (placeholder p) _

theorem reading_line (name : String) (o : Overload α) : reading R (line paint name o) =
    reading R (usage paint name o) ++ " | " ++ shown o.help := by
  have hbar : shown " | " = " | " := by decide
  simp only [line, reading_assemble, List.map_cons, List.map_nil, plainPart_text, reading_piece,
    hbar, String.join_cons, String.join_nil, String.append_empty, String.append_assoc]

theorem reading_summaryLines (r : Registry α) :
    (summaryLines paint r).map (reading R) = (summaryLines paint' r).map (reading R) := by
  rw [summaryLines, summaryLines, List.map_flatMap, List.map_flatMap]
  apply List.flatMap_congr
  rintro ⟨name, c⟩ _
  rw [List.map_map, List.map_map]
  apply List.map_congr_left
  intro o _
  simp only [Function.comp_apply, reading_line, reading_usage]

theorem reading_entry (marker key : String) (d : Descriptor) :
    reading R (entry paint marker key d) = reading R (entry paint' marker key d) := by
  simp only [entry, reading_assemble, List.map_cons, plainPart_text, reading_piece]

theorem reading_paramLine (p : Param) :
    reading R (paramLine paint p) = reading R (paramLine paint' p) := by
  rw [paramLine_eq, paramLine_eq]
  split
  · rw [reading_append, reading_append, reading_entry R paint paint', reading_piece, reading_piece]
  · exact reading_entry R paint paint' _ _ _

theorem reading_labelled {lines lines' : List Styled}
    (h : lines.map (reading R) = lines'.map (reading R)) (label : String) :
    (labelled paint label lines).map (reading R) =
      (labelled paint' label lines').map (reading R) := by
  have hempty : lines.isEmpty = lines'.isEmpty := by
    rw [← List.isEmpty_map, h, List.isEmpty_map]
  rw [labelled, labelled, List.map_cons, List.map_cons, hempty, reading_piece, reading_piece]
  split
  · rw [List.map_singleton, List.map_singleton, reading_piece, reading_piece]
  · rw [h]

theorem reading_overloadLines (name : String) (o : Overload α) :
    (overloadLines paint name o).map (reading R) =
      (overloadLines paint' name o).map (reading R) := by
  have hparams : (o.params.map (paramLine paint)).map (reading R) =
      (o.params.map (paramLine paint')).map (reading R) := by
    rw [List.map_map, List.map_map]
    exact List.map_congr_left fun p _ => reading_paramLine R paint paint' p
  have hflags : (o.flags.map (flagLine paint)).map (reading R) =
      (o.flags.map (flagLine paint')).map (reading R) := by
    rw [List.map_map, List.map_map]
    exact List.map_congr_left fun f _ => reading_entry R paint paint' _ _ f.toDescriptor
  simp only [overloadLines, List.map_cons, List.map_append, reading_line, reading_usage,
    reading_labelled R paint paint' hparams, reading_labelled R paint paint' hflags]

theorem reading_bodyLines (name : String) (c : Command α) :
    (bodyLines paint name c).map (reading R) = (bodyLines paint' name c).map (reading R) := by
  have haliases : (aliasLines paint c.aliases).map (reading R) =
      (aliasLines paint' c.aliases).map (reading R) := by
    rw [aliasLines, aliasLines]
    split
    · rfl
    · simp only [List.map_cons, reading_assemble, plainPart_text, reading_piece]
  rw [bodyLines, bodyLines, List.map_append, List.map_append, haliases, List.map_flatMap,
    List.map_flatMap]
  congr 1
  exact List.flatMap_congr fun o _ => reading_overloadLines R paint paint' name o

end Reading

/-- What every piece has and putting texts together keeps. -/
structure Kept (R : Toolkit) (paint : Paint) (P : R.Text → Prop) : Prop where
  unpainted : ∀ text, P (R.make text "")
  painted : ∀ text key, P (R.make text (paint key))
  assembled : ∀ parts, (∀ t, .text t ∈ parts → P t) → P (R.assemble parts)
  joined : ∀ separator parts, R.plain separator ≠ "" → P separator → (∀ t ∈ parts, P t) →
    P (R.join separator parts)

namespace Kept

variable {R : Toolkit} {paint : Paint} {P : R.Text → Prop} (h : Kept R paint P)

include h

theorem piece (text key : String) : P ((Help.piece paint text key).build R) := by
  rw [Help.piece, Styled.build_make]
  exact h.painted text key

theorem aliasLines {aliases : List String} :
    ∀ t ∈ Help.aliasLines paint aliases, P (t.build R) := by
  intro t ht
  rw [Help.aliasLines] at ht
  split at ht
  · cases ht
  · rw [List.mem_singleton.mp ht, Styled.build_assemble]
    apply h.assembled
    intro part hpart
    simp only [List.map_cons, List.map_nil, Part.map_text, Part.map_words, List.mem_cons,
      Part.text.injEq, reduceCtorEq, List.not_mem_nil, or_false] at hpart
    exact hpart ▸ h.piece _ _

theorem labelled {label : String} {lines : List Styled} {t : Styled}
    (ht : t ∈ Help.labelled paint label lines) : P (t.build R) ∨ t ∈ lines := by
  rw [Help.labelled] at ht
  rcases List.mem_cons.mp ht with rfl | ht
  · exact Or.inl (h.piece _ _)
  · split at ht
    · rw [List.mem_singleton.mp ht]
      exact Or.inl (h.piece _ _)
    · exact Or.inr ht

variable [R.LawfulPlain]

theorem usage (name : String) (o : Overload α) : P ((Help.usage paint name o).build R) := by
  have hspace : R.plain (R.make " " "") ≠ "" := by
    rw [LawfulPlain.plain_make]
    decide
  rw [Help.usage, Styled.build_join, space, Styled.build_make]
  apply h.joined _ _ hspace (h.unpainted " ")
  rw [List.forall_mem_map, List.forall_mem_cons, List.forall_mem_map]
  exact ⟨h.piece _ _, fun p _ => h.piece _ _⟩

theorem line (name : String) (o : Overload α) : P ((Help.line paint name o).build R) := by
  rw [Help.line, Styled.build_assemble]
  apply h.assembled
  intro t ht
  simp only [List.map_cons, List.map_nil, Part.map_text, List.mem_cons, Part.text.injEq,
    List.not_mem_nil, or_false] at ht
  rcases ht with rfl | rfl | rfl
  · exact h.usage name o
  · exact h.piece _ _
  · exact h.piece _ _

theorem summaryLines (r : Registry α) : ∀ t ∈ Help.summaryLines paint r, P (t.build R) := by
  intro t ht
  obtain ⟨⟨name, c⟩, _, hline⟩ := List.mem_flatMap.mp ht
  obtain ⟨o, _, rfl⟩ := List.mem_map.mp hline
  exact h.line name o

/-- Every line has it, but perhaps for those which describe a parameter or a flag. -/
theorem overloadLines {name : String} {o : Overload α} {t : Styled}
    (ht : t ∈ Help.overloadLines paint name o) : P (t.build R) ∨
      (∃ p ∈ o.params, t = paramLine paint p) ∨ ∃ f ∈ o.flags, t = flagLine paint f := by
  rw [Help.overloadLines, List.mem_cons, List.mem_cons, List.mem_append] at ht
  rcases ht with rfl | rfl | hparams | hflags
  · rw [Styled.build_make]
    exact Or.inl (h.unpainted "")
  · exact Or.inl (h.line name o)
  · refine (h.labelled hparams).imp_right fun hmem => Or.inl ?_
    obtain ⟨p, hp, rfl⟩ := List.mem_map.mp hmem
    exact ⟨p, hp, rfl⟩
  · refine (h.labelled hflags).imp_right fun hmem => Or.inr ?_
    obtain ⟨f, hf, rfl⟩ := List.mem_map.mp hmem
    exact ⟨f, hf, rfl⟩

theorem bodyLines {name : String} {c : Command α} {t : Styled}
    (ht : t ∈ Help.bodyLines paint name c) : P (t.build R) ∨ ∃ o ∈ c.overloads,
      (∃ p ∈ o.params, t = paramLine paint p) ∨ ∃ f ∈ o.flags, t = flagLine paint f := by
  rw [Help.bodyLines, List.mem_append] at ht
  rcases ht with haliases | hoverloads
  · exact Or.inl (h.aliasLines t haliases)
  · obtain ⟨o, ho, hline⟩ := List.mem_flatMap.mp hoverloads
    exact (h.overloadLines hline).imp_right fun hdescribes => ⟨o, ho, hdescribes⟩

end Kept

section Described

variable (R : Toolkit)

/-- The text that a caller handed in as a description, if it shows anything. -/
def styledDescription (d : Descriptor) : Option R.Text :=
  match d.description with
  | some (.styled t) => if t.truth && R.plain (R.given t) ≠ "" then some (R.given t) else none
  | _ => none

/-- Where a description stands in its line: behind a marker, the name and a colon. -/
def place (marker : String) (d : Descriptor) : Nat := marker.length + d.name.length + 2

/-- The spans that a description brings to its line. -/
def brought (marker : String) (d : Descriptor) : List Span :=
  ((styledDescription R d).map (R.placed (place marker d))).getD []

theorem placedRow_words (offset : Int) (s : String) :
    R.placedRow offset ([.words s].filter R.fills) = [] := by
  rw [List.filter_singleton]
  cases R.fills (.words s) <;> rfl

theorem placedRow_description (offset : Int) (d : Descriptor) :
    R.placedRow offset ([(description d).map (Styled.build R)].filter R.fills) =
      ((styledDescription R d).map (R.placed offset)).getD [] := by
  rw [description, styledDescription]
  rcases d.description with _ | ⟨text | t⟩
  · exact placedRow_words R offset ""
  · exact placedRow_words R offset text
  · cases htruth : t.truth with
    | false => simpa [htruth] using placedRow_words R offset ""
    | true =>
      by_cases hplain : R.plain (R.given t) = ""
      · simp [htruth, fills, plainPart, hplain, placedRow]
      · simp [htruth, fills, plainPart, hplain, placedRow]

/-- The characters of a name are all shown: none of the control codes is a word character. -/
theorem isShown_of_isName {name : String} (h : Descriptor.isName name.toList = true) :
    name.toList.all isShown = true := by
  have hcontrols : (controls.all fun c => !(Text.isWord c || c == '-')) = true := by
    decide
  rw [List.all_eq_true]
  intro c hc
  rw [isShown, Bool.not_eq_true', List.contains_eq_mem, decide_eq_false_iff_not]
  intro hmem
  have hnot := List.all_eq_true.mp hcontrols c hmem
  rw [Descriptor.isWord_or_hyphen_of_isName h hc] at hnot
  cases hnot

/-- What stands in front of a description. -/
def front (paint : Paint) (marker key : String) (d : Descriptor) : R.Text :=
  R.assemble [.text (R.make (marker ++ d.name) (paint key)), .words ": "]

variable {marker : String} (paint : Paint) (key : String) (d : Descriptor)

theorem isShown_marker (hmarker : marker ∈ ["--", "-"]) : marker.toList.all isShown = true := by
  have hshown : (["--", "-"].all fun marker => marker.toList.all isShown) = true := by
    decide
  exact List.all_eq_true.mp hshown marker hmarker

/-- A marker with a name after it is shown as it stands. -/
theorem length_front [R.LawfulPlain] (hmarker : marker.toList.all isShown = true) :
    (R.plain (front R paint marker key d)).length = place marker d := by
  have hname : (marker ++ d.name).toList.all isShown = true := by
    rw [String.toList_append, List.all_append, hmarker, isShown_of_isName d.name_valid]
    rfl
  have hcolon : shown ": " = ": " := by decide
  simp only [front, length_assemble, rowLength, List.map_cons, List.map_nil, plainPart,
    LawfulPlain.plain_make, shown_eq_self hname, hcolon, String.length_append, List.sum_cons,
    List.sum_nil, place]
  rfl

/-- The spans of a line that describes: those in front, and those of the description. -/
theorem spans_entry [R.LawfulPlain] [R.LawfulStyles] (hmarker : marker.toList.all isShown = true) :
    R.spans ((entry paint marker key d).build R) =
      R.spans (front R paint marker key d) ++ brought R marker d := by
  have hentry : (entry paint marker key d).build R = R.assemble
      ([.text (R.make (marker ++ d.name) (paint key)), .words ": "] ++
        [(description d).map (Styled.build R)]) := by
    rw [entry, piece, Styled.build_assemble, List.map_cons, List.map_cons, List.map_singleton,
      Part.map_text, Part.map_words, Styled.build_make]
    rfl
  rw [hentry, spans_assemble_concat, ← front, placedRow_description, length_front R paint key d
    hmarker]
  rfl

theorem style_entry [R.LawfulStyles] (marker : String) :
    R.style ((entry paint marker key d).build R) = "" := by
  rw [entry, Styled.build_assemble, LawfulStyles.style_assemble]

end Described

end CommandShell.HelpLines
