import CommandShell.Proofs.LetterCase
import Mathlib.Data.List.DropRight

/-!
What the plural of a text keeps. Everything around the last word stays as it is, and of the
word the stem is followed by an ending that its last letters choose. The casing of the stem is
guessed from two tests, whether the word is all capitals and whether its first letter is one. So
the stem is kept exactly if the word is written in one of the three regular ways: in capitals,
with one capital in front, or without capitals, where every capital has a small letter to come
back from.
-/
namespace CommandShell.PluralEndings

open Text LetterCase

/-- The last word of a text, with what stands before it and the blanks behind it. -/
structure LastWord (text before word trail : List Char) : Prop where
  split : text = before ++ word ++ trail
  ne_nil : word ≠ []
  unbroken : ∀ c ∈ word, isBlank c = false
  apart : ∀ h : before ≠ [], isBlank (before.getLast h) = true
  blank : ∀ c ∈ trail, isBlank c = true

def sibilants : List (List Char) := [['s'], ['s', 'h'], ['c', 'h'], ['x'], ['z']]

def isHissing (letters : List Char) : Bool := sibilants.any fun last => last.isSuffixOf letters

/-- The letters end in a `y` that follows a consonant, that is, anything but a vowel. -/
def isConsonantY (letters : List Char) : Bool :=
  ['y'].isSuffixOf letters && 1 < letters.length &&
    vowels.all fun vowel => !([vowel, 'y'].isSuffixOf letters)

/-- A word as its last letters are compared. -/
def folded (word : List Char) : List Char := word.map Char.toLower

/-- A word without a final `y` that follows a consonant. -/
def stem (word : List Char) : List Char :=
  if isConsonantY (folded word) then word.dropLast else word

def smallEnding (letters : List Char) : List Char :=
  if isConsonantY letters then ['i', 'e', 's'] else if isHissing letters then ['e', 's'] else ['s']

/-- The ending of a plural, in capitals after a word in capitals. -/
def ending (word : List Char) : List Char :=
  if isUpperText word then upper (smallEnding (folded word)) else smallEnding (folded word)

/-- The ways to write a word whose plural is written in the same way. A letter of the stem that
counts as a capital has to come back when it is lowered and raised again, and any other has to
stay when it is lowered. -/
inductive RegularCase (word : List Char) : Prop where
  | capitals (hupper : isUpperText word = true)
      (hback : ∀ c ∈ stem word, upper (lower [c]) = [c])
  | capitalized {first : Char} {rest : List Char} (hmixed : isUpperText word = false)
      (hfirst : word.head?.any isUpper = true) (hstem : stem word = first :: rest)
      (hback : upper (lower [first]) = [first]) (hstay : ∀ c ∈ rest, lower [c] = [c])
  | small (hmixed : isUpperText word = false) (hfirst : word.head?.any isUpper = false)
      (hstay : ∀ c ∈ stem word, lower [c] = [c])

/-- What becomes of a text around and in its last word. The stem keeps its letters up to their
case, and keeps them as they are if and only if the word is regularly written. -/
structure Pluralized (before word trail result : List Char) : Prop where
  recased : ∃ shown, List.Forall₂ Recased (stem word) shown ∧
    result = before ++ shown.flatten ++ ending word ++ trail
  kept : RegularCase word → result = before ++ stem word ++ ending word ++ trail
  kept_iff : before ++ stem word <+: result ↔ RegularCase word

section Endings

variable {word : List Char}

theorem isSuffixOf_reverse_iff {letters : List Char} :
    letters.isSuffixOf word.reverse = true ↔ letters.reverse <+: word := by
  rw [List.isSuffixOf_iff_suffix, ← List.reverse_prefix, List.reverse_reverse]

theorem isHissing_reverse_iff :
    isHissing word.reverse = true ↔ ∃ last ∈ sibilants, last.reverse <+: word := by
  rw [isHissing, List.any_eq_true]
  exact exists_congr fun last => and_congr_right fun _ => isSuffixOf_reverse_iff

theorem isConsonantY_reverse_iff :
    isConsonantY word.reverse = true ↔ ∃ c rest, word = 'y' :: c :: rest ∧ c ∉ vowels := by
  simp only [isConsonantY, Bool.and_eq_true, decide_eq_true_eq, List.all_eq_true,
    Bool.not_eq_true', ← Bool.not_eq_true, isSuffixOf_reverse_iff, List.length_reverse]
  constructor
  · rintro ⟨⟨⟨rest, rfl⟩, hlength⟩, hvowel⟩
    cases rest with
    | nil => simp at hlength
    | cons c rest => exact ⟨c, rest, rfl, fun hc => hvowel c hc ⟨rest, rfl⟩⟩
  · rintro ⟨c, rest, rfl, hc⟩
    refine ⟨⟨⟨c :: rest, rfl⟩, by simp⟩, fun vowel hvowel hbegins => hc ?_⟩
    obtain ⟨-, hcons⟩ := List.cons_prefix_cons.mp hbegins
    obtain ⟨rfl, -⟩ := List.cons_prefix_cons.mp hcons
    exact hvowel

theorem plural_eq (letters : List Char) :
    (pluralReversed letters.reverse).reverse =
      (if isConsonantY letters then letters.dropLast else letters) ++ smallEnding letters := by
  obtain ⟨word, rfl⟩ : ∃ word : List Char, letters = word.reverse :=
    ⟨_, letters.reverse_reverse.symm⟩
  rw [List.reverse_reverse, smallEnding]
  by_cases hy : isConsonantY word.reverse = true
  · obtain ⟨c, rest, rfl, hc⟩ := isConsonantY_reverse_iff.mp hy
    rw [if_pos hy, if_pos hy]
    simp [pluralReversed, hc]
  by_cases hhissing : isHissing word.reverse = true
  · obtain ⟨last, hlast, rest, rfl⟩ := isHissing_reverse_iff.mp hhissing
    simp only [sibilants, List.mem_cons, List.not_mem_nil, or_false] at hlast
    rw [if_neg hy, if_neg hy, if_pos hhissing]
    rcases hlast with rfl | rfl | rfl | rfl | rfl <;> simp [pluralReversed]
  · have hother : pluralReversed word = 's' :: word := by
      rw [isHissing_reverse_iff] at hhissing
      rw [isConsonantY_reverse_iff] at hy
      rw [pluralReversed.eq_def]
      split
      case h_6 c rest =>
        have hvowel : c ∈ vowels := by_contra fun hc => hy ⟨c, rest, rfl, hc⟩
        rw [if_pos (by simpa using hvowel)]
      case h_7 => rfl
      all_goals simp [sibilants] at hhissing
    rw [hother, if_neg hy, if_neg hy, if_neg hhissing, List.reverse_cons]

end Endings

section Lowered

variable {word : List Char}

theorem suffix_lower_iff {letters : List Char} (htelling : letters.all isTelling = true) :
    letters <:+ lower word ↔ letters <:+ folded word := by
  rw [lower, ← flatten_lowered]
  exact suffix_flatten_iff htelling (forall₂_lowered [] word)

/-- A final `y` is lowered to itself, whatever stands before it. -/
theorem lowered_of_suffix (hy : ['y'] <:+ folded word) :
    ∃ front last images, word = front ++ [last] ∧ lowered [] word = images ++ [['y']] ∧
      List.Forall₂ LowerImage front images := by
  obtain ⟨before, hbefore⟩ := hy
  obtain ⟨front, lasts, rfl, -, hlast⟩ := List.map_eq_append_iff.mp hbefore.symm
  obtain ⟨last, rfl, hfolded⟩ := List.map_eq_singleton_iff.mp hlast
  have h := List.rel_reverse (forall₂_lowered [] (front ++ [last]))
  rw [List.reverse_concat] at h
  obtain ⟨image, images, himage, himages, hreverse⟩ := List.forall₂_cons_left_iff.mp h
  refine ⟨front, last, images.reverse, rfl, ?_, ?_⟩
  · have hsingle : image = ['y'] := by
      rcases himage.cases with ⟨rfl, -⟩ | ⟨d, rfl, rfl | ⟨-, hnot⟩⟩
      · cases hfolded
      · rw [hfolded]
      · rw [hfolded] at hnot
        cases hnot
    rw [← List.reverse_reverse (lowered [] (front ++ [last])), hreverse, List.reverse_cons, hsingle]
  · rw [← List.forall₂_reverse_iff, List.reverse_reverse]
    exact himages

/-- A final `y` has a letter before it in the lowered word if it has one in the word. -/
theorem length_lower_of_suffix (hy : ['y'] <:+ folded word) :
    1 < (lower word).length ↔ 1 < (folded word).length := by
  obtain ⟨front, last, images, hword, himages, h⟩ := lowered_of_suffix hy
  rw [lower, ← flatten_lowered, himages, folded, hword]
  cases h with
  | nil => rfl
  | @cons c image front images hc _ =>
    have hlength := List.length_pos_iff.mpr hc.recased.ne_nil
    simp only [List.flatten_append, List.flatten_cons, List.length_append, List.length_map,
      List.length_cons]
    omega

theorem isHissing_lower (word : List Char) : isHissing (lower word) = isHissing (folded word) := by
  have htelling : ∀ last ∈ sibilants, last.all isTelling = true :=
    List.all_eq_true.mp (by decide)
  rw [Bool.eq_iff_iff, isHissing, isHissing, List.any_eq_true, List.any_eq_true]
  refine exists_congr fun last => and_congr_right fun hlast => ?_
  rw [List.isSuffixOf_iff_suffix, List.isSuffixOf_iff_suffix,
    suffix_lower_iff (htelling last hlast)]

theorem isConsonantY_lower (word : List Char) :
    isConsonantY (lower word) = isConsonantY (folded word) := by
  have hy : ['y'] <:+ lower word ↔ ['y'] <:+ folded word := suffix_lower_iff rfl
  have htelling : ∀ vowel ∈ vowels, [vowel, 'y'].all isTelling = true :=
    List.all_eq_true.mp (by decide)
  rw [Bool.eq_iff_iff]
  simp only [isConsonantY, Bool.and_eq_true, decide_eq_true_eq, List.all_eq_true,
    Bool.not_eq_true', ← Bool.not_eq_true, List.isSuffixOf_iff_suffix, hy]
  refine and_congr (and_congr_right length_lower_of_suffix) ?_
  refine forall_congr' fun vowel => forall_congr' fun hvowel => not_congr ?_
  exact suffix_lower_iff (htelling vowel hvowel)

end Lowered

/-- The images of the stem in the lowered word. -/
def stemImages (word : List Char) : List (List Char) :=
  if isConsonantY (folded word) then (lowered [] word).dropLast else lowered [] word

/-- The stem as the plural shows it, letter by letter. -/
def shownStem (word : List Char) : List (List Char) :=
  if isUpperText word then (stemImages word).map upper
  else if word.head?.any isUpper then (stemImages word).modifyHead capitalize
  else stemImages word

section Stem

variable {word : List Char}

theorem forall₂_stemImages (word : List Char) :
    List.Forall₂ LowerImage (stem word) (stemImages word) := by
  have h := forall₂_lowered [] word
  rw [stem, stemImages]
  split
  · rw [List.dropLast_eq_take, List.dropLast_eq_take, h.length_eq]
    exact List.forall₂_take _ h
  · exact h

theorem plural_lower (word : List Char) : (pluralReversed (lower word).reverse).reverse =
    (stemImages word).flatten ++ smallEnding (folded word) := by
  have hending : smallEnding (lower word) = smallEnding (folded word) := by
    rw [smallEnding, smallEnding, isConsonantY_lower, isHissing_lower]
  rw [plural_eq, hending, isConsonantY_lower, stemImages]
  congr 1
  split
  case isTrue hy =>
    simp only [isConsonantY, Bool.and_eq_true, List.isSuffixOf_iff_suffix] at hy
    obtain ⟨front, last, images, -, himages, -⟩ := lowered_of_suffix hy.1.1
    rw [lower, ← flatten_lowered, himages, List.dropLast_concat, List.flatten_append,
      List.flatten_singleton, List.dropLast_concat]
  case isFalse => rw [flatten_lowered, lower]

theorem stem_ne_nil (h : word ≠ []) : stem word ≠ [] := by
  rw [stem]
  split
  case isTrue hy =>
    simp only [isConsonantY, Bool.and_eq_true, decide_eq_true_eq, folded, List.length_map] at hy
    rw [← List.length_pos_iff, List.length_dropLast]
    omega
  case isFalse => exact h

theorem shownStem_of_capitals (hupper : isUpperText word = true) :
    shownStem word = (stem word).map fun c => upper (lower [c]) := by
  rw [shownStem, if_pos hupper, map_upper_images (forall₂_stemImages word)]

theorem exists_stemImages (hfirst : word.head?.any isUpper = true) :
    ∃ first rest image images, stem word = first :: rest ∧ stemImages word = image :: images ∧
      LowerImage first image ∧ List.Forall₂ LowerImage rest images := by
  have hword : word ≠ [] := by
    rintro rfl
    cases hfirst
  have himages := forall₂_stemImages word
  obtain ⟨first, rest, hstem⟩ := List.exists_cons_of_ne_nil (stem_ne_nil hword)
  rw [hstem] at himages
  obtain ⟨image, images, himage, hrest, hshown⟩ := List.forall₂_cons_left_iff.mp himages
  exact ⟨first, rest, image, images, hstem, hshown, himage, hrest⟩

/-- Only the first letter is raised. -/
theorem shownStem_of_capitalized (hmixed : isUpperText word = false)
    (hfirst : word.head?.any isUpper = true) :
    ∃ first rest images, stem word = first :: rest ∧
      shownStem word = upper (lower [first]) :: images ∧ List.Forall₂ LowerImage rest images := by
  obtain ⟨first, rest, image, images, hstem, hshown, himage, hrest⟩ := exists_stemImages hfirst
  refine ⟨first, rest, images, hstem, ?_, hrest⟩
  rw [shownStem, if_neg (by simp [hmixed]), if_pos hfirst, hshown, List.modifyHead_cons,
    capitalize_lowerImage himage]

theorem shownStem_of_small (hmixed : isUpperText word = false)
    (hfirst : word.head?.any isUpper = false) : shownStem word = stemImages word := by
  rw [shownStem, if_neg (by simp [hmixed]), if_neg (by simp [hfirst])]

theorem forall₂_shownStem (word : List Char) :
    List.Forall₂ Recased (stem word) (shownStem word) := by
  have himages := forall₂_stemImages word
  cases hupper : isUpperText word with
  | true =>
    rw [shownStem_of_capitals hupper, List.forall₂_map_right_iff, List.forall₂_same]
    exact fun c _ => Or.inr rfl
  | false =>
    cases hfirst : word.head?.any isUpper with
    | true =>
      obtain ⟨first, rest, images, hstem, hshown, hrest⟩ := shownStem_of_capitalized hupper hfirst
      rw [hstem, hshown]
      exact .cons (Or.inr rfl) (hrest.imp fun _ _ h => h.recased)
    | false =>
      rw [shownStem_of_small hupper hfirst]
      exact himages.imp fun _ _ h => h.recased

/-- The plural shows the stem as it is exactly when the word is regularly written. -/
theorem shownStem_eq_iff : shownStem word = spelled (stem word) ↔ RegularCase word := by
  have himages := forall₂_stemImages word
  constructor
  · intro h
    cases hupper : isUpperText word with
    | true =>
      rw [shownStem_of_capitals hupper, spelled, List.map_inj_left] at h
      exact .capitals hupper h
    | false =>
      cases hfirst : word.head?.any isUpper with
      | true =>
        obtain ⟨first, rest, images, hstem, hshown, hrest⟩ := shownStem_of_capitalized hupper hfirst
        rw [hshown, hstem] at h
        obtain ⟨hback, hstay⟩ := List.cons.inj h
        exact .capitalized hupper hfirst hstem hback ((eq_spelled_iff hrest).mp hstay)
      | false =>
        rw [shownStem_of_small hupper hfirst] at h
        exact .small hupper hfirst ((eq_spelled_iff himages).mp h)
  · rintro (⟨hupper, hback⟩ | ⟨hmixed, hfirst, hstem, hback, hstay⟩ | ⟨hmixed, hfirst, hstay⟩)
    · rw [shownStem_of_capitals hupper]
      exact List.map_inj_left.mpr hback
    · obtain ⟨first, rest, images, hsame, hshown, hrest⟩ := shownStem_of_capitalized hmixed hfirst
      obtain ⟨rfl, rfl⟩ := List.cons.inj (hstem.symm.trans hsame)
      rw [hshown, hstem, hback, (eq_spelled_iff hrest).mpr hstay]
      rfl
    · rw [shownStem_of_small hmixed hfirst]
      exact (eq_spelled_iff himages).mpr hstay

theorem pluralWord_eq (word : List Char) :
    pluralWord word = (shownStem word).flatten ++ ending word := by
  rw [pluralWord, shownStem, ending, plural_lower]
  split
  case isTrue => rw [upper_append, upper_flatten]
  case isFalse =>
    split
    case isTrue hfirst =>
      obtain ⟨_, _, image, images, -, hshown, himage, -⟩ := exists_stemImages hfirst
      rw [hshown, List.modifyHead_cons, List.flatten_cons, List.flatten_cons, List.append_assoc,
        List.append_assoc, capitalize_append himage.recased.ne_nil]
    case isFalse => rfl

end Stem

section Split

variable {α : Type} (p : α → Bool) (xs : List α)

theorem take_length_sub_rtakeWhile :
    xs.take (xs.length - (xs.rtakeWhile p).length) = xs.rdropWhile p := by
  have hsplit : xs.rdropWhile p ++ xs.rtakeWhile p = xs := List.rdropWhile_append_rtakeWhile
  have hlength : xs.length - (xs.rtakeWhile p).length = (xs.rdropWhile p).length := by
    have hsum := congrArg List.length hsplit
    rw [List.length_append] at hsum
    omega
  rw [hlength]
  exact (congrArg (List.take _) hsplit).symm.trans List.take_left

theorem drop_length_rdropWhile : xs.drop (xs.rdropWhile p).length = xs.rtakeWhile p :=
  (congrArg (List.drop _) List.rdropWhile_append_rtakeWhile).symm.trans List.drop_left

theorem splitLastWord_eq (text : List Char) : splitLastWord text =
    ((text.rdropWhile isBlank).rdropWhile (!isBlank ·),
      (text.rdropWhile isBlank).rtakeWhile (!isBlank ·), text.rtakeWhile isBlank) := by
  have hbody : trimRight text = text.rdropWhile isBlank := rfl
  have hword : ((trimRight text).reverse.takeWhile (!isBlank ·)).reverse =
      (trimRight text).rtakeWhile (!isBlank ·) := rfl
  rw [splitLastWord, hword, hbody, take_length_sub_rtakeWhile, drop_length_rdropWhile]

/-- Before the blanks at the end stands a word, and before the word a blank or nothing. -/
theorem lastWord_splitLastWord {text : List Char} (h : ∃ c ∈ text, isBlank c = false) :
    ∃ before word trail, splitLastWord text = (before, word, trail) ∧
      LastWord text before word trail := by
  refine ⟨_, _, _, splitLastWord_eq text, ?_⟩
  constructor
  case split =>
    rw [List.rdropWhile_append_rtakeWhile, List.rdropWhile_append_rtakeWhile]
  case ne_nil =>
    obtain ⟨c, hc, hletter⟩ := h
    have hbody : text.rdropWhile isBlank ≠ [] := by
      rw [ne_eq, List.rdropWhile_eq_nil_iff]
      intro hblank
      rw [hblank c hc] at hletter
      cases hletter
    rw [ne_eq, List.rtakeWhile_eq_nil_iff]
    intro hlast
    apply hlast hbody
    simpa using List.rdropWhile_last_not isBlank text hbody
  case unbroken =>
    intro c hc
    simpa using List.mem_rtakeWhile_imp hc
  case apart =>
    intro hne
    simpa using List.rdropWhile_last_not (!isBlank ·) _ hne
  case blank => exact fun c hc => List.mem_rtakeWhile_imp hc

end Split

theorem pluralize_lastWord {text : String} (h : ∃ c ∈ text.toList, isBlank c = false) :
    ∃ before word trail, LastWord text.toList before word trail ∧
      Pluralized before word trail (pluralize text).toList := by
  obtain ⟨before, word, trail, hsplit, hlast⟩ := lastWord_splitLastWord h
  have hresult : (pluralize text).toList =
      before ++ (shownStem word).flatten ++ ending word ++ trail := by
    have hword : word.isEmpty = false := by simpa using hlast.ne_nil
    rw [pluralize, hsplit]
    simp [hword, pluralWord_eq]
  refine ⟨before, word, trail, hlast, ⟨_, forall₂_shownStem word, hresult⟩, ?kept, ?kept_iff⟩
  case kept =>
    intro hregular
    rw [hresult, shownStem_eq_iff.mpr hregular, flatten_spelled]
  case kept_iff =>
    rw [← shownStem_eq_iff, hresult]
    constructor
    · intro hbegins
      rw [List.append_assoc, List.append_assoc, List.prefix_append_right_inj] at hbegins
      exact eq_spelled_of_prefix (forall₂_shownStem word) hbegins
    · intro hshown
      rw [hshown, flatten_spelled, List.append_assoc _ (ending word)]
      exact List.prefix_append _ _

theorem old_iPhone_pluralized :
    (∃ c ∈ "old iPhone ".toList, isBlank c = false) ∧ pluralize "old iPhone " = "old iphones " ∧
      ∃ before word trail, LastWord "old iPhone ".toList before word trail ∧
        Pluralized before word trail (pluralize "old iPhone ").toList := by
  have hletter : ∃ c ∈ "old iPhone ".toList, isBlank c = false := ⟨'o', by decide, by decide⟩
  exact ⟨hletter, by decide, pluralize_lastWord hletter⟩

/-- A capital inside a word is lost, so that no ending makes the plural out of the word. -/
theorem inner_capital_lost :
    LastWord "iPhone".toList [] "iPhone".toList [] ∧ stem "iPhone".toList = "iPhone".toList ∧
      ∀ last, (pluralize "iPhone").toList ≠ "iPhone".toList ++ last := by
  have hplural : pluralize "iPhone" = "iphones" := by decide
  refine ⟨?_, by decide, ?_⟩
  · constructor
    case split => rfl
    case ne_nil => decide
    case unbroken =>
      intro c hc
      have hletters : ("iPhone".toList.all fun c => !isBlank c) = true := by decide
      simpa using List.all_eq_true.mp hletters c hc
    case apart => exact fun h => absurd rfl h
    case blank => exact fun c hc => absurd hc List.not_mem_nil
  · intro last h
    rw [hplural] at h
    cases h

end CommandShell.PluralEndings
