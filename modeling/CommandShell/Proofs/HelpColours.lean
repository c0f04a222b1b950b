import CommandShell.Proofs.HelpLines
import CommandShell.TextRecord

/-!
Colours in help texts. Two paints show the same characters, line by line. Every span lies within
its line, but for those that a description brings which a caller handed in with spans beyond its
own ends.
-/
namespace CommandShell.HelpColours

open StyledTexts HelpLines Help Toolkit

variable {α : Type}

/-- The parameters and flags that the details of an overload describe. -/
def descriptors (o : Overload α) : List Descriptor :=
  (o.params.map fun p => p.toDescriptor) ++ o.flags.map fun f => f.toDescriptor

section Spans

variable {R : Toolkit} {paint : Paint} {marker key : String} {d : Descriptor} {t : R.Text}

/-- A span that a description brings and that does not lie within the description itself. -/
def Strays (R : Toolkit) (d : Descriptor) (s : Span) : Prop :=
  ∃ t ∈ styledDescription R d, ∃ own ∈ R.spans t, ¬ Fits (R.plain t).length own ∧
    ∃ marker ∈ ["--", "-"], s = own.shift (place marker d)

theorem map_description_of_mem (ht : t ∈ styledDescription R d) :
    (description d).map (Styled.build R) = .text t := by
  rw [styledDescription] at ht
  split at ht
  case h_2 => cases ht
  case h_1 view hview =>
    split at ht
    case isFalse => cases ht
    case isTrue hshown =>
      obtain ⟨htruth, -⟩ := Bool.and_eq_true_iff.mp hshown
      rw [description, hview]
      simp only [htruth, if_true, Part.map_text, Styled.build_given]
      rw [Option.some.inj ht]

theorem length_entry [R.LawfulPlain] (hmarker : marker.toList.all isShown = true) :
    (R.plain ((entry paint marker key d).build R)).length =
      place marker d + (R.plainPart ((description d).map (Styled.build R))).length := by
  rw [← length_front R paint key d hmarker, front, length_assemble, entry, piece,
    Styled.build_assemble, length_assemble]
  simp only [rowLength, List.map_cons, List.map_nil, Part.map_text, Part.map_words,
    Styled.build_make, List.sum_cons, List.sum_nil]
  omega

variable [R.LawfulPlain] [R.LawfulStyles]

theorem kept_within (paint : Paint) : Kept R paint Within where
  unpainted _ := within_make _ _
  painted _ _ := within_make _ _
  assembled := within_assemble
  joined := within_join

theorem within_front : Within (front R paint marker key d) := by
  apply within_assemble
  intro t ht
  simp only [List.mem_cons, Part.text.injEq, reduceCtorEq, List.not_mem_nil, or_false] at ht
  exact ht ▸ within_make _ _

theorem fits_or_strays_entry (hmarker : marker ∈ ["--", "-"]) :
    ∀ s ∈ R.spans ((entry paint marker key d).build R),
      Fits (R.plain ((entry paint marker key d).build R)).length s ∨ Strays R d s := by
  have hshown := isShown_marker hmarker
  intro s hs
  rw [length_entry hshown]
  rw [spans_entry R paint key d hshown] at hs
  rcases List.mem_append.mp hs with hfront | hbrought
  · left
    apply fits_mono (within_front s hfront)
    exact length_front R paint key d hshown ▸ Nat.le_add_right _ _
  · rw [brought] at hbrought
    cases htext : styledDescription R d with
    | none =>
      rw [htext] at hbrought
      cases hbrought
    | some t =>
      rw [htext, Option.map_some, Option.getD_some] at hbrought
      rw [map_description_of_mem htext]
      rcases fits_or_shifted_of_mem_placed hbrought with hbase | ⟨own, hown, rfl⟩
      · exact Or.inl hbase
      · by_cases hfits : Fits (R.plain t).length own
        · exact Or.inl (fits_shift hfits _)
        · exact Or.inr ⟨t, htext, own, hown, hfits, marker, hmarker, rfl⟩

theorem fits_or_strays_paramLine (p : Param) : ∀ s ∈ R.spans ((paramLine paint p).build R),
    Fits (R.plain ((paramLine paint p).build R)).length s ∨ Strays R p.toDescriptor s := by
  have hentry : ∀ s ∈ R.spans ((entry paint "--" "param-name" p.toDescriptor).build R),
      Fits (R.plain ((entry paint "--" "param-name" p.toDescriptor).build R)).length s ∨
        Strays R p.toDescriptor s := fits_or_strays_entry (by decide)
  rw [paramLine_eq]
  split
  · intro s hs
    rw [Styled.build_append, LawfulStyles.spans_append] at hs
    rw [Styled.build_append, LawfulPlain.plain_append, String.length_append]
    rcases List.mem_append.mp hs with hold | hmark
    · exact (hentry s hold).imp_left fun hfits => fits_mono hfits (Nat.le_add_right _ _)
    · exact Or.inl (fits_of_mem_placed ((kept_within paint).piece _ _) hmark)
  · exact hentry

theorem fits_or_strays_bodyLines (name : String) (c : Command α) :
    ∀ t ∈ bodyLines paint name c, ∀ s ∈ R.spans (t.build R), Fits (R.plain (t.build R)).length s ∨
      ∃ o ∈ c.overloads, ∃ d ∈ descriptors o, Strays R d s := by
  intro t ht s hs
  have hkept : Kept R paint Within := kept_within paint
  rcases hkept.bodyLines ht with hwithin | ⟨o, ho, ⟨p, hp, rfl⟩ | ⟨f, hf, rfl⟩⟩
  · exact Or.inl (hwithin s hs)
  · have hd : p.toDescriptor ∈ descriptors o := List.mem_append_left _ (List.mem_map_of_mem hp)
    exact (fits_or_strays_paramLine p s hs).imp_right fun hstrays => ⟨o, ho, _, hd, hstrays⟩
  · have hd : f.toDescriptor ∈ descriptors o := List.mem_append_right _ (List.mem_map_of_mem hf)
    exact (fits_or_strays_entry (by decide) s hs).imp_right fun hstrays => ⟨o, ho, _, hd, hstrays⟩

end Spans

/-- Two rows of texts with the same characters, where every span lies within its text. -/
structure SameTexts {R : Toolkit} (ts ts' : List R.Text) : Prop where
  plain : ts.map R.plain = ts'.map R.plain
  within : ∀ t ∈ ts, Within t
  within' : ∀ t ∈ ts', Within t

/-- The details of a command in two paints. A span that does not lie within its line is one that
a description was handed in with; where no description has such spans, there are none. -/
structure SameDetails {R : Toolkit} (c : Command α) (ts ts' : List R.Text) : Prop where
  plain : ts.map R.plain = ts'.map R.plain
  spans : ∀ t ∈ ts ++ ts', ∀ s ∈ R.spans t, Fits (R.plain t).length s ∨
    ∃ o ∈ c.overloads, ∃ d ∈ descriptors o, Strays R d s
  within : (∀ o ∈ c.overloads, ∀ d ∈ descriptors o, ∀ t ∈ styledDescription R d, Within t) →
    SameTexts ts ts'

/-- Both show the same details, or both are refused for the same reason. -/
inductive SameOutcome (R : Toolkit) (c : Command α) :
    Except Failure Rendering → Except Failure Rendering → Prop where
  | shown {shown shown' : Rendering}
      (same : SameDetails c (R.texts (shown.build R)) (R.texts (shown'.build R))) :
      SameOutcome R c (.ok shown) (.ok shown')
  | refused (failure : Failure) : SameOutcome R c (.error failure) (.error failure)

section Same

variable {R : Toolkit} [R.LawfulPlain] [R.LawfulStyles] (paint paint' : Paint)

theorem sameDetails_lines (name text : String) (c : Command α) :
    SameDetails c ((heading paint name :: bodyLines paint text c).map (Styled.build R))
      ((heading paint' name :: bodyLines paint' text c).map (Styled.build R)) := by
  have hplain (lines : List Styled) :
      (lines.map (Styled.build R)).map R.plain = lines.map (reading R) := List.map_map
  have hspans (paint : Paint) :
      ∀ t ∈ (heading paint name :: bodyLines paint text c).map (Styled.build R),
        ∀ s ∈ R.spans t, Fits (R.plain t).length s ∨
          ∃ o ∈ c.overloads, ∃ d ∈ descriptors o, Strays R d s := by
    rw [List.forall_mem_map, List.forall_mem_cons]
    exact ⟨fun s hs => Or.inl ((kept_within paint).piece _ _ s hs),
      fits_or_strays_bodyLines text c⟩
  have hsame : ((heading paint name :: bodyLines paint text c).map (Styled.build R)).map R.plain =
      ((heading paint' name :: bodyLines paint' text c).map (Styled.build R)).map R.plain := by
    rw [hplain, hplain, List.map_cons, List.map_cons, reading_bodyLines R paint paint', heading,
      heading, reading_piece, reading_piece]
  constructor
  case plain => exact hsame
  case spans => exact List.forall_mem_append.mpr ⟨hspans paint, hspans paint'⟩
  case within =>
    intro htidy
    have hwithin (paint : Paint) :
        ∀ t ∈ (heading paint name :: bodyLines paint text c).map (Styled.build R), Within t := by
      intro t ht s hs
      rcases hspans paint t ht s hs with hfits | ⟨o, ho, d, hd, x, hx, own, hown, hnot, -⟩
      · exact hfits
      · exact absurd (htidy o ho d hd x hx own hown) hnot
    exact ⟨hsame, hwithin paint, hwithin paint'⟩

theorem sameOutcome_detailsOf [R.LawfulScreens] (name : Value) (c : Command α) :
    SameOutcome R c (detailsOf paint name c) (detailsOf paint' name c) := by
  rw [detailsOf, detailsOf, headingOf, headingOf]
  cases name.single with
  | error failure => exact .refused failure
  | ok single =>
    apply SameOutcome.shown
    rw [texts_group, texts_group]
    exact sameDetails_lines paint paint' single.display name.display c

end Same

/-- A command with one parameter, which is described in bold. -/
def shout : Command Unit where
  name := "shout"
  first := {
    help := "Shouts."
    params := [{
      name := "phrase"
      description := some (.styled (TextRecord.make "The phrase." "bold").view)
      name_valid := by decide +kernel
      optional := false
      variadic := false
      parser := Parser.identity }]
    flags := []
    action := none
    params_nodup := List.nodup_singleton _
    flags_nodup := List.nodup_nil }
  others := []
  aliases := []
  hidden := false
  names_valid := by decide
  names_nodup := List.nodup_singleton _

end CommandShell.HelpColours
