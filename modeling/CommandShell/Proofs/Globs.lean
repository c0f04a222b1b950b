import CommandShell.Glob
import Mathlib

/-!
What a glob stands for, segment by segment. The one expression of a glob matches a name
exactly when the segments of the name can be dealt out to those of the glob: a segment `**`
takes any number of identifiers and every other segment takes one segment.
-/
namespace CommandShell.Globs

open Text Text.Expression Glob
open CommandShell.Path (splitDots)

/-- A segment of a name is one that a segment of a glob stands for. -/
inductive SegmentMatches : List Char → List Char → Prop where
  | done : SegmentMatches [] []
  | run {glob run rest : List Char} (hrun : '.' ∉ run) (h : SegmentMatches glob rest) :
      SegmentMatches ('*' :: glob) (run ++ rest)
  | any {glob rest : List Char} {c : Char} (hc : c ≠ '.') (h : SegmentMatches glob rest) :
      SegmentMatches ('?' :: glob) (c :: rest)
  | same {glob rest : List Char} {c : Char} (hstar : c ≠ '*') (hmark : c ≠ '?')
      (h : SegmentMatches glob rest) : SegmentMatches (c :: glob) (c :: rest)

/-- The segments of a name are dealt out to those of a glob. -/
inductive GlobMatches : List (List Char) → List (List Char) → Prop where
  | done : GlobMatches [] []
  | deep {glob inner rest : List (List Char)} (hinner : ∀ s ∈ inner, isIdentifier s = true)
      (h : GlobMatches glob rest) : GlobMatches (['*', '*'] :: glob) (inner ++ rest)
  | segment {pattern segment : List Char} {glob rest : List (List Char)}
      (hpattern : pattern ≠ ['*', '*']) (hsegment : SegmentMatches pattern segment)
      (h : GlobMatches glob rest) : GlobMatches (pattern :: glob) (segment :: rest)

/-- Segments with dots between them. -/
def joined (segments : List (List Char)) : List Char := ['.'].intercalate segments

/-- Segments, each behind a dot. -/
def behindDots (segments : List (List Char)) : List Char := segments.flatMap ('.' :: ·)

section Segments

variable {text s : List Char} {rest segments : List (List Char)}

theorem behindDots_cons (segment : List Char) (segments : List (List Char)) :
    behindDots (segment :: segments) = '.' :: (segment ++ behindDots segments) := rfl

theorem joined_cons (s : List Char) (rest : List (List Char)) :
    joined (s :: rest) = s ++ behindDots rest := by
  induction rest generalizing s with
  | nil => exact List.intercalate_singleton.trans (List.append_nil s).symm
  | cons r rest ih =>
    rw [joined, List.intercalate_cons_cons, ← joined, ih, behindDots_cons, List.append_assoc]
    rfl

theorem splitDots_eq_splitOn (text : List Char) : splitDots text = text.splitOn '.' := by
  rw [List.splitOn_eq_splitOnP]
  induction text with
  | nil => rfl
  | cons c text ih =>
    rw [splitDots, List.splitOnP_cons_eq_if_modifyHead, ← ih]
    simp only [beq_iff_eq]
    congr 1
    cases hsplit : splitDots text with
    | nil => exact absurd (ih.symm.trans hsplit) (List.splitOnP_ne_nil _ _)
    | cons s rest => rfl

theorem splitDots_joined (hne : segments ≠ []) (h : ∀ s ∈ segments, '.' ∉ s) :
    splitDots (joined segments) = segments := by
  rw [splitDots_eq_splitOn]
  exact List.splitOn_intercalate '.' h hne

theorem exists_splitDots (text : List Char) : ∃ s rest, splitDots text = s :: rest ∧
    text = s ++ behindDots rest ∧ ∀ segment ∈ s :: rest, '.' ∉ segment := by
  induction text with
  | nil => exact ⟨[], [], rfl, rfl, by simp⟩
  | cons c text ih =>
    obtain ⟨s, rest, hsplit, rfl, hfree⟩ := ih
    rw [splitDots, hsplit]
    by_cases hc : c = '.'
    · subst hc
      refine ⟨[], s :: rest, if_pos rfl, rfl, ?_⟩
      exact List.forall_mem_cons.mpr ⟨List.not_mem_nil, hfree⟩
    · refine ⟨c :: s, rest, if_neg hc, rfl, ?_⟩
      obtain ⟨hs, hrest⟩ := List.forall_mem_cons.mp hfree
      exact List.forall_mem_cons.mpr ⟨mt List.mem_cons.mp (not_or.mpr ⟨Ne.symm hc, hs⟩), hrest⟩

theorem joined_splitDots (text : List Char) : joined (splitDots text) = text := by
  obtain ⟨s, rest, hsplit, htext, -⟩ := exists_splitDots text
  rw [hsplit, joined_cons, htext]

/-- Splitting at the dots is undone by putting them back. -/
theorem splitDots_eq_iff : splitDots text = s :: rest ↔
    text = s ++ behindDots rest ∧ ∀ segment ∈ s :: rest, '.' ∉ segment := by
  constructor
  · intro h
    obtain ⟨s', rest', hsplit, htext, hfree⟩ := exists_splitDots text
    obtain ⟨rfl, rfl⟩ := List.cons.inj (hsplit.symm.trans h)
    exact ⟨htext, hfree⟩
  · rintro ⟨rfl, hfree⟩
    rw [← joined_cons, splitDots_joined (List.cons_ne_nil s rest) hfree]

end Segments

section Pieces

variable {text rest : List Char}

theorem mem_rests_dot : rest ∈ dot.rests text ↔ text = '.' :: rest := by
  rw [dot, mem_rests_one]
  simp [Letter.accepts]

/-- An identifier is taken from the front of a text. -/
theorem mem_rests_identifier :
    rest ∈ identifier.rests text ↔ ∃ name, isIdentifier name = true ∧ text = name ++ rest := by
  have hshape {name : List Char} : isIdentifier name = true ↔
      ∃ c run, name = c :: run ∧ isDecimal c = false ∧ isWord c = true ∧
        ∀ d ∈ run, isWord d = true := by
    cases name with
    | nil => simp [isIdentifier]
    | cons c run => simp [isIdentifier, and_left_comm, and_assoc]
  cases text with
  | nil =>
    constructor
    · intro h
      simp [identifier, rests] at h
    · rintro ⟨name, hname, htext⟩
      rw [(List.append_eq_nil_iff.mp htext.symm).1] at hname
      cases hname
  | cons c text =>
    have hmem : rest ∈ identifier.rests (c :: text) ↔ isDecimal c = false ∧ isWord c = true ∧
        rest ∈ (many (one .word)).rests text := by
      rw [identifier, mem_rests_seq, rests]
      cases hdecimal : isDecimal c with
      | false => simp [Letter.accepts, hdecimal, mem_rests_seq, mem_rests_one]
      | true => simp [Letter.accepts, hdecimal]
    simp only [hmem, mem_rests_many_one, hshape]
    constructor
    · rintro ⟨hdecimal, hword, run, rfl, hrun⟩
      exact ⟨c :: run, ⟨c, run, rfl, hdecimal, hword, hrun⟩, rfl⟩
    · rintro ⟨name, ⟨d, run, rfl, hdecimal, hword, hrun⟩, htext⟩
      obtain ⟨rfl, rfl⟩ := List.cons.inj htext
      exact ⟨hdecimal, hword, run, rfl, hrun⟩

/-- A repetition of identifiers behind dots takes any number of them. -/
theorem mem_rests_dottedIdentifiers :
    rest ∈ dottedIdentifiers.rests text ↔
      ∃ names, (∀ name ∈ names, isIdentifier name = true) ∧ text = behindDots names ++ rest := by
  have hstep {text mid : List Char} : mid ∈ (seq dot identifier).rests text ↔
      ∃ name, isIdentifier name = true ∧ text = '.' :: (name ++ mid) := by
    simp only [mem_rests_seq, mem_rests_dot, mem_rests_identifier]
    constructor
    · rintro ⟨_, rfl, name, hname, rfl⟩
      exact ⟨name, hname, rfl⟩
    · rintro ⟨name, hname, rfl⟩
      exact ⟨name ++ mid, rfl, name, hname, rfl⟩
  constructor
  · intro h
    induction hlength : text.length using Nat.strong_induction_on generalizing text with
    | h length ih =>
      subst hlength
      rcases mem_rests_many.mp h with rfl | ⟨mid, hmid, hshorter, hrest⟩
      · exact ⟨[], List.forall_mem_nil _, rfl⟩
      · obtain ⟨name, hname, rfl⟩ := hstep.mp hmid
        obtain ⟨names, hnames, rfl⟩ := ih mid.length hshorter hrest rfl
        refine ⟨name :: names, List.forall_mem_cons.mpr ⟨hname, hnames⟩, ?_⟩
        rw [behindDots_cons, List.cons_append, List.append_assoc]
  · rintro ⟨names, hnames, rfl⟩
    induction names with
    | nil => exact mem_rests_many.mpr (Or.inl rfl)
    | cons name names ih =>
      obtain ⟨hname, hnames⟩ := List.forall_mem_cons.mp hnames
      rw [behindDots_cons, List.cons_append, List.append_assoc]
      refine mem_rests_many.mpr (Or.inr ⟨_, hstep.mpr ⟨name, hname, rfl⟩, ?_, ih hnames⟩)
      simp only [List.length_cons, List.length_append]
      omega

theorem mem_rests_pattern {pattern : List Char} :
    rest ∈ (sequence (pattern.map part)).rests text ↔
      ∃ s, text = s ++ rest ∧ SegmentMatches pattern s := by
  induction pattern generalizing text with
  | nil =>
    have hnil : (sequence ([].map part)).rests text = [text] := rfl
    rw [hnil, List.mem_singleton]
    constructor
    · rintro rfl
      exact ⟨[], rfl, .done⟩
    · rintro ⟨s, rfl, hs⟩
      cases hs
      rfl
  | cons c pattern ih =>
    have hcons : sequence ((c :: pattern).map part) = seq (part c) (sequence (pattern.map part)) :=
      rfl
    simp only [hcons, mem_rests_seq, ih]
    constructor
    · rintro ⟨mid, hmid, s, rfl, hs⟩
      rw [part] at hmid
      split at hmid
      case isTrue hstar =>
        subst hstar
        obtain ⟨run, rfl, hrun⟩ := mem_rests_many_one.mp hmid
        refine ⟨run ++ s, (List.append_assoc _ _ _).symm, .run ?_ hs⟩
        intro hdot
        simpa [Letter.accepts] using hrun '.' hdot
      case isFalse hstar =>
        split at hmid
        case isTrue hmark =>
          subst hmark
          obtain ⟨d, rfl, hd⟩ := mem_rests_one.mp hmid
          exact ⟨d :: s, rfl, .any (by simpa [Letter.accepts] using hd) hs⟩
        case isFalse hmark =>
          obtain ⟨d, rfl, hd⟩ := mem_rests_one.mp hmid
          obtain rfl : d = c := by simpa [Letter.accepts] using hd
          exact ⟨d :: s, rfl, .same hstar hmark hs⟩
    · rintro ⟨s, rfl, hs⟩
      cases hs with
      | @run _ run s hrun hs =>
        refine ⟨s ++ rest, mem_rests_many_one.mpr ⟨run, List.append_assoc _ _ _, ?_⟩, s, rfl, hs⟩
        intro d hd
        have hne : d ≠ '.' := fun hdot => hrun (hdot ▸ hd)
        simpa [Letter.accepts] using hne
      | @any _ s d hd hs =>
        exact ⟨s ++ rest, mem_rests_one.mpr ⟨d, rfl, by simpa [Letter.accepts] using hd⟩, s, rfl,
          hs⟩
      | @same _ s _ hstar hmark hs =>
        rw [part, if_neg hstar, if_neg hmark]
        exact ⟨s ++ rest, mem_rests_one.mpr ⟨c, rfl, by simp [Letter.accepts]⟩, s, rfl, hs⟩

end Pieces

section Accepts

variable {glob : List (List Char)} {pattern text : List Char} {names : List (List Char)}

theorem notMem_of_isIdentifier {name : List Char} {c : Char} (h : isIdentifier name = true)
    (hc : isWord c = false) : c ∉ name := by
  have hall : ∀ d ∈ name, isWord d = true := by
    cases name with
    | nil => exact List.forall_mem_nil _
    | cons d run =>
      rw [isIdentifier, Bool.and_eq_true, Bool.and_eq_true, List.all_eq_true] at h
      exact List.forall_mem_cons.mpr ⟨h.1.1, h.2⟩
  intro hmem
  rw [hall c hmem] at hc
  cases hc

theorem notMem_dot_of_isIdentifier {name : List Char} (h : isIdentifier name = true) :
    '.' ∉ name := notMem_of_isIdentifier h (by decide)

theorem notMem_dot_of_segmentMatches {s : List Char} (hpattern : '.' ∉ pattern)
    (h : SegmentMatches pattern s) : '.' ∉ s := by
  induction h with
  | done => exact List.not_mem_nil
  | run hrun h ih =>
    have hs := ih (mt (List.mem_cons_of_mem _) hpattern)
    exact mt List.mem_append.mp (not_or.mpr ⟨hrun, hs⟩)
  | any hc h ih =>
    have hs := ih (mt (List.mem_cons_of_mem _) hpattern)
    exact mt List.mem_cons.mp (not_or.mpr ⟨Ne.symm hc, hs⟩)
  | same hstar hmark h ih =>
    obtain ⟨hc, hrest⟩ := not_or.mp (mt List.mem_cons.mpr hpattern)
    exact mt List.mem_cons.mp (not_or.mpr ⟨hc, ih hrest⟩)

/-- A segment that is not deep takes the first segment of the name. -/
theorem globMatches_cons_iff (hdeep : pattern ≠ ['*', '*']) :
    GlobMatches (pattern :: glob) names ↔
      ∃ s rest, names = s :: rest ∧ SegmentMatches pattern s ∧ GlobMatches glob rest := by
  constructor
  · intro h
    cases h with
    | deep _ _ => exact absurd rfl hdeep
    | segment _ hs hrest => exact ⟨_, _, rfl, hs, hrest⟩
  · rintro ⟨s, rest, rfl, hs, hrest⟩
    exact .segment hdeep hs hrest

theorem behindDots_append (names more : List (List Char)) :
    behindDots (names ++ more) = behindDots names ++ behindDots more := List.flatMap_append

/-- The segments behind the first one match what is left of a name as a whole. -/
theorem nil_mem_rests_segments (hglob : ∀ pattern ∈ glob, '.' ∉ pattern) :
    [] ∈ (sequence (glob.flatMap segment)).rests text ↔
      ∃ names, text = behindDots names ∧ (∀ name ∈ names, '.' ∉ name) ∧ GlobMatches glob names := by
  induction glob generalizing text with
  | nil =>
    have hnil : (sequence ([].flatMap segment)).rests text = [text] := rfl
    rw [hnil, List.mem_singleton]
    constructor
    · rintro rfl
      exact ⟨[], rfl, List.forall_mem_nil _, .done⟩
    · rintro ⟨names, rfl, -, hnames⟩
      cases hnames
      rfl
  | cons pattern glob ih =>
    obtain ⟨hpattern, hrest⟩ := List.forall_mem_cons.mp hglob
    rw [List.flatMap_cons, mem_rests_sequence_append]
    simp only [ih hrest]
    by_cases hdeep : pattern = ['*', '*']
    · subst hdeep
      have hsegment : sequence (segment ['*', '*']) = seq dottedIdentifiers .nothing := rfl
      have hmid {mid : List Char} : mid ∈ (sequence (segment ['*', '*'])).rests text ↔
          mid ∈ dottedIdentifiers.rests text := by
        rw [hsegment, mem_rests_seq]
        simp [rests]
      simp only [hmid, mem_rests_dottedIdentifiers]
      constructor
      · rintro ⟨_, ⟨inner, hinner, rfl⟩, names, rfl, hfree, hnames⟩
        refine ⟨inner ++ names, (behindDots_append inner names).symm, ?_, .deep hinner hnames⟩
        exact List.forall_mem_append.mpr
          ⟨fun name hname => notMem_dot_of_isIdentifier (hinner name hname), hfree⟩
      · rintro ⟨_, rfl, hfree, hnames⟩
        cases hnames with
        | @deep _ inner names hinner hnames =>
          exact ⟨behindDots names, ⟨inner, hinner, behindDots_append inner names⟩, names, rfl,
            (List.forall_mem_append.mp hfree).2, hnames⟩
        | segment hpattern _ _ => exact absurd rfl hpattern
    · have hsegment : sequence (segment pattern) = seq dot (sequence (pattern.map part)) := by
        rw [Glob.segment, if_neg hdeep]
        rfl
      have hmid {mid : List Char} : mid ∈ (sequence (segment pattern)).rests text ↔
          ∃ s, text = '.' :: (s ++ mid) ∧ SegmentMatches pattern s := by
        simp only [hsegment, mem_rests_seq, mem_rests_dot, mem_rests_pattern]
        constructor
        · rintro ⟨_, rfl, s, rfl, hs⟩
          exact ⟨s, rfl, hs⟩
        · rintro ⟨s, rfl, hs⟩
          exact ⟨s ++ mid, rfl, s, rfl, hs⟩
      simp only [hmid]
      constructor
      · rintro ⟨_, ⟨s, rfl, hs⟩, names, rfl, hfree, hnames⟩
        refine ⟨s :: names, rfl, ?_, .segment hdeep hs hnames⟩
        exact List.forall_mem_cons.mpr ⟨notMem_dot_of_segmentMatches hpattern hs, hfree⟩
      · rintro ⟨_, rfl, hfree, hnames⟩
        obtain ⟨s, names, rfl, hs, hnames⟩ := (globMatches_cons_iff hdeep).mp hnames
        exact ⟨behindDots names, ⟨s, rfl, hs⟩, names, rfl, (List.forall_mem_cons.mp hfree).2,
          hnames⟩

/-- A glob whose first segment is not deep accepts the names that match it segment by segment. -/
theorem accepts_iff {source name : String} (h : (splitDots source.toList).head? ≠ some ['*', '*']) :
    accepts source name = true ↔
      GlobMatches (splitDots source.toList) (splitDots name.toList) := by
  obtain ⟨pattern, glob, hsource, -, hfree⟩ := exists_splitDots source.toList
  rw [hsource] at h ⊢
  have hdeep : pattern ≠ ['*', '*'] := fun heq => h (congrArg some heq)
  obtain ⟨hpattern, hglob⟩ := List.forall_mem_cons.mp hfree
  have hexpression : expression source =
      sequence (pattern.map part ++ glob.flatMap segment) := by
    rw [expression, hsource, List.flatMap_cons, Glob.segment, if_neg hdeep]
    rfl
  rw [accepts, fullMatch_iff, hexpression, mem_rests_sequence_append]
  simp only [mem_rests_pattern, nil_mem_rests_segments hglob]
  constructor
  · rintro ⟨_, ⟨s, hname, hs⟩, names, rfl, hnames, hmatches⟩
    have hsplit : splitDots name.toList = s :: names := splitDots_eq_iff.mpr
      ⟨hname, List.forall_mem_cons.mpr ⟨notMem_dot_of_segmentMatches hpattern hs, hnames⟩⟩
    rw [hsplit]
    exact .segment hdeep hs hmatches
  · intro hmatches
    obtain ⟨s, names, hsplit, hname, hfree⟩ := exists_splitDots name.toList
    rw [hsplit, globMatches_cons_iff hdeep] at hmatches
    obtain ⟨_, _, heq, hs, hrest⟩ := hmatches
    obtain ⟨rfl, rfl⟩ := List.cons.inj heq
    exact ⟨behindDots names, ⟨s, hname, hs⟩, names, rfl, (List.forall_mem_cons.mp hfree).2, hrest⟩

end Accepts

end CommandShell.Globs
