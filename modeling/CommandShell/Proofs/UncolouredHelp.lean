import CommandShell.Proofs.HelpColours

/-!
Help texts without colour. The usage lines and the summary have no style at all. The details
have none either, except that a description which is itself a styled text keeps its styles:
the line that shows it has exactly the spans which the description brings.
-/
namespace CommandShell.UncolouredHelp

open StyledTexts HelpLines HelpColours Help Toolkit

variable {α : Type}

/-- A description with nothing to show, or with no style of its own. -/
def Bare (R : Toolkit) (d : Descriptor) : Prop := ∀ t ∈ styledDescription R d, Unstyled t

theorem bare_iff_brought (R : Toolkit) (marker : String) (d : Descriptor) :
    Bare R d ↔ brought R marker d = [] := by
  rw [Bare, brought]
  cases styledDescription R d with
  | none => simp
  | some t =>
    rw [Option.map_some, Option.getD_some]
    constructor
    · intro h
      exact placed_of_unstyled (h t rfl) _
    · rintro h _ ⟨⟩
      exact unstyled_of_placed_eq_nil h

section Uncoloured

variable {R : Toolkit} {host : Host} {marker key name : String} {d : Descriptor} {o : Overload α}
  {t : Styled}

/-- A line is the one that tells of a parameter or of a flag, with the spans of its
description and no others. -/
def Tells (R : Toolkit) (d : Descriptor) (t : R.Text) : Prop :=
  R.style t = "" ∧ ∃ marker ∈ ["--", "-"], R.spans t = brought R marker d

theorem unstyled_iff_of_tells {t : R.Text} (h : Tells R d t) : Unstyled t ↔ Bare R d := by
  obtain ⟨hbase, marker, -, hspans⟩ := h
  rw [bare_iff_brought R marker, ← hspans]
  exact and_iff_right hbase

theorem mem_labelled_of_mem {label : String} {lines : List Styled} (ht : t ∈ lines) :
    t ∈ labelled (paint host false) label lines := by
  rw [labelled, if_neg (by simpa using List.ne_nil_of_mem ht)]
  exact List.mem_cons_of_mem _ ht

variable [R.LawfulStyles]

theorem kept_unstyled (host : Host) : Kept R (paint host false) Unstyled where
  unpainted := unstyled_make
  painted text _ := unstyled_make text
  assembled := unstyled_assemble
  joined := unstyled_join

theorem unstyled_front : Unstyled (front R (paint host false) marker key d) := by
  apply unstyled_assemble
  intro t ht
  simp only [List.mem_cons, Part.text.injEq, reduceCtorEq, List.not_mem_nil, or_false] at ht
  exact ht ▸ (kept_unstyled host).painted _ key

variable [R.LawfulPlain]

theorem tells_entry (hmarker : marker ∈ ["--", "-"]) :
    Tells R d ((entry (paint host false) marker key d).build R) := by
  refine ⟨style_entry R _ key d marker, marker, hmarker, ?_⟩
  rw [spans_entry R _ key d (isShown_marker hmarker), unstyled_front.2, List.nil_append]

theorem tells_paramLine (p : Param) :
    Tells R p.toDescriptor ((paramLine (paint host false) p).build R) := by
  have hentry : Tells R p.toDescriptor
      ((entry (paint host false) "--" "param-name" p.toDescriptor).build R) :=
    tells_entry (List.mem_cons_self ..)
  rw [paramLine_eq]
  split
  · rw [Tells, Styled.build_append, LawfulStyles.style_append, LawfulStyles.spans_append,
      placed_of_unstyled ((kept_unstyled host).piece _ _), List.append_nil]
    exact hentry
  · exact hentry

theorem tells_flagLine (f : Flag) :
    Tells R f.toDescriptor ((flagLine (paint host false) f).build R) := by
  rw [flagLine_eq]
  exact tells_entry (by simp)

/-- A line of the details has no style, or tells of a parameter or a flag. -/
theorem unstyled_or_tells {c : Command α} (ht : t ∈ bodyLines (paint host false) name c) :
    Unstyled (t.build R) ∨ ∃ o ∈ c.overloads, ∃ d ∈ descriptors o, Tells R d (t.build R) := by
  refine ((kept_unstyled host).bodyLines ht).imp_right ?_
  rintro ⟨o, ho, ⟨p, hp, rfl⟩ | ⟨f, hf, rfl⟩⟩
  · exact ⟨o, ho, _, List.mem_append_left _ (List.mem_map_of_mem hp), tells_paramLine p⟩
  · exact ⟨o, ho, _, List.mem_append_right _ (List.mem_map_of_mem hf), tells_flagLine f⟩

theorem exists_tells (hd : d ∈ descriptors o) :
    ∃ t ∈ overloadLines (paint host false) name o, Tells R d (t.build R) := by
  rw [overloadLines]
  rcases List.mem_append.mp hd with hparam | hflag
  · obtain ⟨p, hp, rfl⟩ := List.mem_map.mp hparam
    refine ⟨paramLine (paint host false) p, ?_, tells_paramLine p⟩
    exact List.mem_cons_of_mem _ (List.mem_cons_of_mem _
      (List.mem_append_left _ (mem_labelled_of_mem (List.mem_map_of_mem hp))))
  · obtain ⟨f, hf, rfl⟩ := List.mem_map.mp hflag
    refine ⟨flagLine (paint host false) f, ?_, tells_flagLine f⟩
    exact List.mem_cons_of_mem _ (List.mem_cons_of_mem _
      (List.mem_append_right _ (mem_labelled_of_mem (List.mem_map_of_mem hf))))

end Uncoloured

/-- What the lines of the details of a command show without colour: no base style, and the
spans of the descriptions. So they have no style exactly if no description has one. -/
structure OwnStyles {R : Toolkit} (c : Command α) (ts : List R.Text) : Prop where
  base : ∀ t ∈ ts, R.style t = ""
  spans : ∀ t ∈ ts, R.spans t = [] ∨ ∃ o ∈ c.overloads, ∃ d ∈ descriptors o,
    ∃ marker ∈ ["--", "-"], R.spans t = brought R marker d
  unstyled : (∀ t ∈ ts, Unstyled t) ↔ ∀ o ∈ c.overloads, ∀ d ∈ descriptors o, Bare R d

/-- Details that are shown without colour, or refused before anything is shown. -/
inductive OwnOutcome (R : Toolkit) (c : Command α) : Except Failure Rendering → Prop where
  | shown {shown : Rendering} (own : OwnStyles c (R.texts (shown.build R))) :
      OwnOutcome R c (.ok shown)
  | refused (failure : Failure) : OwnOutcome R c (.error failure)

theorem ownStyles_lines {R : Toolkit} [R.LawfulPlain] [R.LawfulStyles] (host : Host)
    (name text : String) (c : Command α) :
    OwnStyles c ((heading (paint host false) name :: bodyLines (paint host false) text c).map
      (Styled.build R)) := by
  have hcases : ∀ t ∈ heading (paint host false) name :: bodyLines (paint host false) text c,
      Unstyled (t.build R) ∨ ∃ o ∈ c.overloads, ∃ d ∈ descriptors o, Tells R d (t.build R) :=
    List.forall_mem_cons.mpr
      ⟨Or.inl ((kept_unstyled host).piece _ _), fun _ ht => unstyled_or_tells ht⟩
  constructor
  case base =>
    rw [List.forall_mem_map]
    intro t ht
    rcases hcases t ht with hunstyled | ⟨o, -, d, -, htells⟩
    · exact hunstyled.1
    · exact htells.1
  case spans =>
    rw [List.forall_mem_map]
    intro t ht
    rcases hcases t ht with hunstyled | ⟨o, ho, d, hd, htells⟩
    · exact Or.inl hunstyled.2
    · exact Or.inr ⟨o, ho, d, hd, htells.2⟩
  case unstyled =>
    rw [List.forall_mem_map]
    constructor
    · intro hall o ho d hd
      obtain ⟨t, ht, htells⟩ :
          ∃ t ∈ overloadLines (paint host false) text o, Tells R d (t.build R) := exists_tells hd
      have hmem : t ∈ bodyLines (paint host false) text c :=
        List.mem_append_right _ (List.mem_flatMap.mpr ⟨o, ho, ht⟩)
      exact (unstyled_iff_of_tells htells).mp (hall t (List.mem_cons_of_mem _ hmem))
    · intro hbare t ht
      rcases hcases t ht with hunstyled | ⟨o, ho, d, hd, htells⟩
      · exact hunstyled
      · exact (unstyled_iff_of_tells htells).mpr (hbare o ho d hd)

theorem help_without_colour (R : Toolkit) [R.LawfulPlain] [R.LawfulStyles] [R.LawfulScreens]
    (host : Host) (name : String) (value : Value) (o : Overload α) (r : Registry α)
    (c : Command α) :
    Unstyled ((usage (paint host false) name o).build R) ∧
      (∀ t ∈ R.texts ((summary (paint host false) r).build R), Unstyled t) ∧
      OwnStyles c (R.texts ((details (paint host false) name c).build R)) ∧
      OwnOutcome R c (detailsOf (paint host false) value c) := by
  refine ⟨(kept_unstyled host).usage name o, ?summary, ?details, ?detailsOf⟩
  case summary =>
    rw [summary, texts_group, List.forall_mem_map]
    exact (kept_unstyled host).summaryLines r
  case details =>
    rw [details, texts_group]
    exact ownStyles_lines host name name c
  case detailsOf =>
    rw [detailsOf, headingOf]
    cases value.single with
    | error failure => exact .refused failure
    | ok single =>
      apply OwnOutcome.shown
      rw [texts_group]
      exact ownStyles_lines host single.display value.display c

/-- The bold description takes its style along, to the place where it stands. -/
theorem shout_without_colour :
    brought TextRecord.toolkit "--" shout.first.params[0].toDescriptor = [⟨10, 21, "bold"⟩] ∧
      Unstyled ((usage (paint Host.empty false) "shout" shout.first).build TextRecord.toolkit) ∧
      OwnStyles shout (TextRecord.toolkit.texts
        ((details (paint Host.empty false) "shout" shout).build TextRecord.toolkit)) := by
  have hbrought : brought TextRecord.toolkit "--" shout.first.params[0].toDescriptor =
      [⟨10, 21, "bold"⟩] := by cbv
  obtain ⟨husage, -, hdetails, -⟩ := help_without_colour TextRecord.toolkit Host.empty "shout"
    (.text "shout") shout.first Registry.empty shout
  exact ⟨hbrought, husage, hdetails⟩

/-- Without colour the line of the parameter is still in bold where its description stands. -/
theorem bold_description_without_colour :
    ¬ ∀ t ∈ TextRecord.toolkit.texts ((details (paint Host.empty false) "shout" shout).build
        TextRecord.toolkit), Unstyled t := by
  intro h
  rw [details, texts_group, List.forall_mem_map] at h
  have hline : (detailLines (paint Host.empty false) "shout" shout)[4]? =
      some (paramLine (paint Host.empty false) shout.first.params[0]) := rfl
  have hspans := (h _ (List.mem_of_getElem? hline)).2
  have hbold : TextRecord.toolkit.spans ((paramLine (paint Host.empty false)
      shout.first.params[0]).build TextRecord.toolkit) = [⟨10, 21, "bold"⟩] := by cbv
  rw [hbold] at hspans
  cases hspans

end CommandShell.UncolouredHelp
