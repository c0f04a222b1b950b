import CommandShell.Binding
import Mathlib.Data.List.Basic

/-!
How markers, flags and values are spelled, and what classification makes of them.
A token is a marker, a flag or plain by its leading hyphens, and each shape gives
its name back. From that the group of a name is found by looking for its marker
among the tokens, and plain tokens in front of a line change no group.
-/
namespace CommandShell.Spelling

/-- A token that is no value by position: a flag or a marker. -/
def Dashed (token : String) : Prop := ['-'] <+: token.toList

def DoubleDashed (token : String) : Prop := ['-', '-'] <+: token.toList

instance : DecidablePred Dashed := fun token => inferInstanceAs (Decidable (['-'] <+: token.toList))

instance : DecidablePred DoubleDashed :=
  fun token => inferInstanceAs (Decidable (['-', '-'] <+: token.toList))

def marker (name : String) : String := "--" ++ name

theorem toList_marker (name : String) : (marker name).toList = '-' :: '-' :: name.toList := by
  rw [marker, String.toList_append]
  rfl

section Shape

variable {token name : String}

theorem dashed_of_doubleDashed (h : DoubleDashed token) : Dashed token := by
  obtain ⟨rest, hrest⟩ := h
  exact ⟨'-' :: rest, hrest⟩

theorem shape_of_toList_marker {rest : List Char} (h : token.toList = '-' :: '-' :: rest) :
    Shape.of token = .marker (String.ofList rest) := by
  simp [Shape.of, h]

theorem shape_marker (name : String) : Shape.of (marker name) = .marker name := by
  rw [shape_of_toList_marker (toList_marker name), String.ofList_toList]

theorem eq_marker_of_shape (h : Shape.of token = .marker name) : token = marker name := by
  unfold Shape.of at h
  split at h
  · rename_i rest hrest
    obtain rfl := Shape.marker.inj h
    apply String.toList_inj.mp
    rw [toList_marker, hrest, String.toList_ofList]
  · cases h
  · cases h

theorem marker_inj {other : String} (h : marker name = marker other) : name = other := by
  have hshapes := congrArg Shape.of h
  rw [shape_marker, shape_marker] at hshapes
  exact Shape.marker.inj hshapes

theorem isMarker_iff : (Shape.of token).isMarker = true ↔ DoubleDashed token := by
  constructor
  · intro h
    cases hshape : Shape.of token with
    | marker name =>
      rw [eq_marker_of_shape hshape, DoubleDashed, toList_marker]
      exact ⟨name.toList, rfl⟩
    | flag name => simp [hshape, Shape.isMarker] at h
    | plain => simp [hshape, Shape.isMarker] at h
  · rintro ⟨rest, hrest⟩
    rw [shape_of_toList_marker hrest.symm]
    rfl

theorem isPlain_iff : (Shape.of token).isPlain = true ↔ ¬ Dashed token := by
  unfold Shape.of Dashed
  cases htoken : token.toList with
  | nil => simp [Shape.isPlain]
  | cons a rest =>
    by_cases ha : a = '-'
    · subst ha
      cases rest with
      | nil => simp [Shape.isPlain]
      | cons b rest =>
        by_cases hb : b = '-'
        · subst hb
          simp [Shape.isPlain]
        · simp [Shape.isPlain, hb]
    · simp [Shape.isPlain, ha, Ne.symm ha]

/-- Behind one hyphen a name is read as a flag, unless it begins with another. -/
theorem shape_flag (h : ¬ Dashed name) : Shape.of ("-" ++ name) = .flag name := by
  have hspelled : ("-" ++ name).toList = '-' :: name.toList := String.toList_append
  have hback : String.ofList name.toList = name := String.ofList_toList
  cases hname : name.toList with
  | nil =>
    rw [hname] at hspelled hback
    simp [Shape.of, hspelled, hback]
  | cons first rest =>
    have hfirst : first ≠ '-' := by
      rintro rfl
      exact h ⟨rest, hname.symm⟩
    rw [hname] at hspelled hback
    simp [Shape.of, hspelled, hback, hfirst]

/-- A valid name does not begin with a hyphen, so behind one it is read as a flag. -/
theorem shape_eq_flag_iff (hvalid : Descriptor.isName name.toList = true) :
    Shape.of token = .flag name ↔ token = "-" ++ name := by
  have hspelled : ("-" ++ name).toList = '-' :: name.toList := by
    rw [String.toList_append]
    rfl
  constructor
  · intro h
    unfold Shape.of at h
    split at h
    · cases h
    · rename_i rest _ hrest
      obtain rfl := Shape.flag.inj h
      apply String.toList_inj.mp
      rw [hspelled, hrest, String.toList_ofList]
    · cases h
  · rintro rfl
    have hhyphen : Text.isInitial '-' = false := by decide
    cases hname : name.toList with
    | nil => simp [hname, Descriptor.isName] at hvalid
    | cons first rest =>
      have hfirst : first ≠ '-' := by
        rintro rfl
        simp [hname, Descriptor.isName, hhyphen] at hvalid
      have hback : String.ofList (first :: rest) = name := by rw [← hname, String.ofList_toList]
      simp [Shape.of, hspelled, hname, hfirst, hback]

theorem mem_flags_ofTokens_iff (hvalid : Descriptor.isName name.toList = true)
    {tokens : List String} :
    name ∈ (Classified.ofTokens tokens).flags ↔ "-" ++ name ∈ tokens := by
  have hflag (t : String) : (Shape.of t).flag? = some name ↔ t = "-" ++ name := by
    rw [← shape_eq_flag_iff hvalid]
    cases Shape.of t <;> simp [Shape.flag?]
  rw [Classified.flags_ofTokens, List.mem_filterMap]
  simp only [hflag, exists_eq_right]

end Shape

section Groups

open Classified

variable {tokens values rest : List String}

theorem group_append (h : ∀ v ∈ values, ¬ DoubleDashed v) :
    group (values ++ rest) = values ++ group rest := by
  apply List.takeWhile_append_of_pos
  intro v hv
  simpa [← isMarker_iff] using h v hv

theorem group_marker_cons (name : String) (rest : List String) :
    group (marker name :: rest) = [] := by
  simp [group, shape_marker, Shape.isMarker]

theorem group_eq_nil (h : ∀ t ∈ tokens.head?, DoubleDashed t) : group tokens = [] := by
  cases tokens with
  | nil => rfl
  | cons t rest =>
    apply List.takeWhile_cons_of_neg
    simp [isMarker_iff.mpr (h t rfl)]

/-- Tokens that are no markers change no group. -/
theorem named_ofTokens_append (h : ∀ v ∈ values, ¬ DoubleDashed v) :
    (ofTokens (values ++ rest)).named = (ofTokens rest).named := by
  induction values with
  | nil => rfl
  | cons v values ih =>
    obtain ⟨hplain, hvalues⟩ := List.forall_mem_cons.mp h
    have hv : ¬ (Shape.of v).isMarker = true := mt isMarker_iff.mp hplain
    cases hshape : Shape.of v with
    | marker name => simp [hshape, Shape.isMarker] at hv
    | flag name => simpa [ofTokens, hshape] using ih hvalues
    | plain => simpa [ofTokens, hshape] using ih hvalues

theorem lookup_ofTokens_marker (name other : String) (rest : List String) :
    (ofTokens (marker name :: rest)).named.lookup other =
      if other = name then some (((ofTokens rest).named.lookup name).getD (group rest))
      else (ofTokens rest).named.lookup other := by
  simp only [ofTokens, shape_marker]
  exact lookup_openGroup name other (group rest) (ofTokens rest).named

/-- A name has a group when its marker occurs. -/
theorem lookup_ofTokens_eq_none_iff {name : String} :
    (ofTokens tokens).named.lookup name = none ↔ marker name ∉ tokens := by
  induction tokens with
  | nil => simp [ofTokens]
  | cons token rest ih =>
    cases hshape : Shape.of token with
    | marker other =>
      obtain rfl := eq_marker_of_shape hshape
      rw [lookup_ofTokens_marker]
      by_cases hname : name = other
      · simp [hname]
      · have hne : marker name ≠ marker other := fun heq => hname (marker_inj heq)
        rw [if_neg hname, ih, List.mem_cons, not_or]
        exact ⟨fun h => ⟨hne, h⟩, fun h => h.2⟩
    | flag other =>
      have hne : marker name ≠ token := by
        rintro rfl
        rw [shape_marker] at hshape
        cases hshape
      simp [ofTokens, hshape, ih, hne]
    | plain =>
      have hne : marker name ≠ token := by
        rintro rfl
        rw [shape_marker] at hshape
        cases hshape
      simp [ofTokens, hshape, ih, hne]

/-- The last marker of a name decides its group. -/
theorem lookup_ofTokens_last {name : String} (before : List String) (h : marker name ∉ rest) :
    (ofTokens (before ++ marker name :: rest)).named.lookup name = some (group rest) := by
  induction before with
  | nil =>
    rw [List.nil_append, lookup_ofTokens_marker, if_pos rfl, lookup_ofTokens_eq_none_iff.mpr h]
    rfl
  | cons token before ih =>
    cases hshape : Shape.of token with
    | marker other =>
      obtain rfl := eq_marker_of_shape hshape
      rw [List.cons_append, lookup_ofTokens_marker]
      split
      case isTrue heq => rw [← heq, ih, Option.getD_some]
      case isFalse => exact ih
    | flag other => simpa [ofTokens, hshape] using ih
    | plain => simpa [ofTokens, hshape] using ih

theorem lookup_ofTokens_eq_some_iff {name : String} :
    (ofTokens tokens).named.lookup name = some values ↔ ∃ before rest,
      tokens = before ++ marker name :: rest ∧ marker name ∉ rest ∧ group rest = values := by
  constructor
  · intro h
    have hmem : marker name ∈ tokens := by
      by_contra hnot
      rw [lookup_ofTokens_eq_none_iff.mpr hnot] at h
      cases h
    -- the last occurrence is the first one of the reversed tokens
    obtain ⟨behind, front, hsplit, hfresh⟩ :=
      List.eq_append_cons_of_mem (List.mem_reverse.mpr hmem)
    have htokens : tokens = front.reverse ++ marker name :: behind.reverse := by
      rw [← List.reverse_reverse tokens, hsplit]
      simp
    have hlast : marker name ∉ behind.reverse := mt List.mem_reverse.mp hfresh
    rw [htokens, lookup_ofTokens_last _ hlast, Option.some.injEq] at h
    exact ⟨_, _, htokens, hlast, h⟩
  · rintro ⟨before, rest, rfl, hlast, rfl⟩
    exact lookup_ofTokens_last before hlast

end Groups

end CommandShell.Spelling
