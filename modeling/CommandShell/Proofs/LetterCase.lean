import CommandShell.Text.Plural
import Mathlib

/-!
Changing the case of a word, letter by letter. Every letter has its own image, and the images
stand one after the other. An image that begins with its letter is that letter alone, so a
recased word that begins with the word has not changed at all. The letters that tell an English
ending are lowered from themselves and their ASCII capitals only.
-/
namespace CommandShell.LetterCase

open Text

section Tables

/-- A letter that can tell an English ending; `k` is left out because the Kelvin sign is lowered
to it. -/
def isTelling (c : Char) : Bool := c.toNat < 128 && c != 'k'

/-- A run that lowers letters beyond ASCII, to such letters or from the Kelvin sign to `k`. -/
def isRemote (run : Run) : Bool :=
  128 ≤ run.first &&
    (run.first == 0x212a && run.last == 0x212a && run.offset == -8383 ||
      128 ≤ run.first + run.offset && run.last + run.offset < 0xd800 ||
      0xe000 ≤ run.first + run.offset && run.last + run.offset < 0x110000)

theorem exists_remote : ∃ remote, toLowerRuns = ⟨0x41, 0x5a, 1, 32⟩ :: remote ∧
    ∀ run ∈ remote, isRemote run = true :=
  ⟨toLowerRuns.tail, rfl, List.all_eq_true.mp (by decide)⟩

theorem not_telling_of_remote {c : Char} (h : 128 ≤ c.toNat) : isTelling c = false := by
  rw [isTelling, decide_eq_false (Nat.not_lt.mpr h), Bool.false_and]

theorem not_telling_of_isRemote {run : Run} {code : Nat} (hremote : isRemote run = true)
    (hcovers : run.covers code = true) :
    128 ≤ code ∧ isTelling (Char.ofNat (code + run.offset).toNat) = false := by
  obtain ⟨hfirst, hlast, -⟩ := Run.covers_iff.mp hcovers
  simp only [isRemote, Bool.and_eq_true, Bool.or_eq_true, decide_eq_true_eq, beq_iff_eq] at hremote
  obtain ⟨hremote, hoffset⟩ := hremote
  refine ⟨hremote.trans hfirst, ?_⟩
  rcases hoffset with (⟨⟨hsign, hend⟩, hoffset⟩ | hbelow) | habove
  · have hk : Char.ofNat (code + run.offset).toNat = 'k' := by
      rw [hoffset, show code = 0x212a by omega]
      rfl
    rw [hk]
    rfl
  all_goals
    apply not_telling_of_remote
    rw [Char.toNat_ofNat, if_pos]
    · omega
    · rw [Nat.isValidChar]
      omega

/-- Folding changes the letters that the first run lowers, and no other. -/
theorem toLower_eq (c : Char) : c.toLower =
    if 0x41 ≤ c.toNat ∧ c.toNat ≤ 0x5a then Char.ofNat (c.toNat + 32) else c := by
  have hbounds : c.val ≥ 'A'.val ∧ c.val ≤ 'Z'.val ↔ 0x41 ≤ c.toNat ∧ c.toNat ≤ 0x5a := by
    simp only [ge_iff_le, UInt32.le_iff_toNat_le]
    exact Iff.rfl
  by_cases hupper : c.val ≥ 'A'.val ∧ c.val ≤ 'Z'.val
  · have h := hbounds.mp hupper
    rw [if_pos h]
    refine (dif_pos hupper).trans (Char.toNat_inj.mp ?_)
    rw [Char.toNat_ofNat, if_pos (Or.inl (by omega))]
    have hsum : c.toNat + 32 < 2 ^ 32 := by omega
    exact (UInt32.toNat_add ..).trans (Nat.mod_eq_of_lt hsum)
  · rw [if_neg (mt hbounds.mpr hupper)]
    exact dif_neg hupper

/-- A letter is lowered to one letter, or it is the capital that takes its dot with it. Telling
letters are lowered as in ASCII, and no other letter is lowered to one of them. -/
theorem lowerChar_cases (c : Char) : c = '\u0130' ∨ ∃ d, lowerChar c = [d] ∧
    (d = c.toLower ∨ isTelling d = false ∧ isTelling c.toLower = false) := by
  obtain ⟨remote, hruns, hremote⟩ := exists_remote
  rcases mapCase_cases toLowerExpansions toLowerRuns c with
    ⟨codes, hcodes, -⟩ | ⟨run, hrun, hcovers, hmap⟩ | ⟨hnone, hmap⟩
  · obtain ⟨hcode, -⟩ := Prod.mk.inj (List.mem_singleton.mp hcodes)
    exact Or.inl (Char.toNat_inj.mp hcode)
  · refine Or.inr ⟨_, hmap, ?_⟩
    rw [hruns] at hrun
    rcases List.mem_cons.mp hrun with rfl | hrun
    · obtain ⟨hfirst, hlast, -⟩ := Run.covers_iff.mp hcovers
      rw [toLower_eq, if_pos ⟨hfirst, hlast⟩]
      exact Or.inl rfl
    · obtain ⟨hbeyond, htelling⟩ := not_telling_of_isRemote (hremote run hrun) hcovers
      have hsame : c.toLower = c := by rw [toLower_eq, if_neg (by omega)]
      rw [hsame]
      exact Or.inr ⟨htelling, not_telling_of_remote hbeyond⟩
  · refine Or.inr ⟨c, hmap, Or.inl ?_⟩
    have hfirst := hnone ⟨0x41, 0x5a, 1, 32⟩ (hruns ▸ List.mem_cons_self)
    rw [← Bool.not_eq_true, Run.covers_iff] at hfirst
    rw [toLower_eq, if_neg]
    rintro ⟨hle, hge⟩
    exact hfirst ⟨hle, hge, Nat.mod_one _⟩

theorem lowerChar_dotted : lowerChar '\u0130' = ['i', '\u0307'] := by decide

theorem upperChar_ne_nil (c : Char) : upperChar c ≠ [] := by
  have hcodes : ∀ e ∈ toUpperExpansions, (!e.2.isEmpty) = true :=
    List.all_eq_true.mp (by decide)
  rcases mapCase_cases toUpperExpansions toUpperRuns c with
    ⟨codes, hmem, hmap⟩ | ⟨run, -, -, hmap⟩ | ⟨-, hmap⟩
  · rw [upperChar, hmap]
    simpa using hcodes _ hmem
  all_goals
    rw [upperChar, hmap]
    exact List.cons_ne_nil _ _

/-- A raised letter that becomes several does not begin with a letter that is lowered to it. -/
theorem eq_nil_of_upperChar {c d : Char} {more : List Char} (hd : lowerChar c = [d])
    (h : upperChar d = c :: more) : more = [] := by
  have hfirst : ∀ e ∈ toUpperExpansions,
      (e.2.head?.all fun code => lowerChar (Char.ofNat code) != [Char.ofNat e.1]) = true :=
    List.all_eq_true.mp (by decide)
  rcases mapCase_cases toUpperExpansions toUpperRuns d with
    ⟨codes, hmem, hmap⟩ | ⟨run, -, -, hmap⟩ | ⟨-, hmap⟩
  · rw [upperChar, hmap] at h
    obtain ⟨code, rest, rfl, rfl, -⟩ := List.map_eq_cons_iff.mp h
    have hnot := hfirst _ hmem
    rw [List.head?_cons, Option.all_some, hd, Char.ofNat_toNat] at hnot
    simp at hnot
  all_goals
    rw [upperChar, hmap] at h
    exact (List.cons.inj h).2.symm

end Tables

section Images

variable {c : Char} {shown : List Char}

theorem lower_singleton (c : Char) : lower [c] = lowerChar c := by
  rw [lower, lowerFrom, lowerFrom, List.append_nil, lowerBetween]
  split
  case isTrue hsigma =>
    rw [hsigma]
    rfl
  case isFalse => rfl

theorem upper_singleton (c : Char) : upper [c] = upperChar c := List.append_nil _

/-- What a lowered word has for a letter; a capital sigma also has a final form. -/
def LowerImage (c : Char) (shown : List Char) : Prop :=
  shown = lower [c] ∨ c = 'Σ' ∧ shown = ['ς']

/-- What a word in another case has for a letter. -/
def Recased (c : Char) (shown : List Char) : Prop :=
  LowerImage c shown ∨ shown = upper (lower [c])

theorem lowerImage_lowerBetween (before after : List Char) (c : Char) :
    LowerImage c (lowerBetween before c after) := by
  rw [LowerImage, lower_singleton, lowerBetween]
  split
  case isTrue hsigma =>
    split
    · exact Or.inr ⟨hsigma, rfl⟩
    · rw [hsigma]
      exact Or.inl (by decide)
  case isFalse => exact Or.inl rfl

/-- Both forms of a sigma are raised to the capital. -/
theorem upper_lowerImage (h : LowerImage c shown) : upper shown = upper (lower [c]) := by
  rcases h with rfl | ⟨rfl, rfl⟩
  · rfl
  · decide

theorem lowerImage_eq_self_iff (h : LowerImage c shown) : shown = [c] ↔ lower [c] = [c] := by
  rcases h with rfl | ⟨rfl, rfl⟩
  · rfl
  · exact iff_of_false (by decide) (by decide)

/-- A letter is lowered to one letter, unless it is the capital that takes its dot with it. -/
theorem LowerImage.cases (h : LowerImage c shown) :
    (c = '\u0130' ∧ shown = ['i', '\u0307']) ∨
      ∃ d, shown = [d] ∧ (d = c.toLower ∨ isTelling d = false ∧ isTelling c.toLower = false) := by
  rcases h with rfl | ⟨rfl, rfl⟩
  · rw [lower_singleton]
    rcases lowerChar_cases c with rfl | hsingle
    · exact Or.inl ⟨rfl, lowerChar_dotted⟩
    · exact Or.inr hsingle
  · exact Or.inr ⟨'ς', rfl, Or.inr ⟨rfl, rfl⟩⟩

theorem capitalize_lowerImage (h : LowerImage c shown) :
    capitalize shown = upper (lower [c]) := by
  rcases h.cases with ⟨rfl, rfl⟩ | ⟨d, rfl, -⟩
  · decide
  · rw [← upper_lowerImage h, upper_singleton, capitalize, List.append_nil]

theorem LowerImage.recased (h : LowerImage c shown) : Recased c shown := Or.inl h

theorem Recased.ne_nil (h : Recased c shown) : shown ≠ [] := by
  have hlower : LowerImage c (lower [c]) := Or.inl rfl
  rcases h with h | rfl
  · rcases h.cases with ⟨-, rfl⟩ | ⟨d, rfl, -⟩ <;> exact List.cons_ne_nil _ _
  · rcases hlower.cases with ⟨-, hshown⟩ | ⟨d, hshown, -⟩
    · rw [hshown]
      decide +kernel
    · rw [hshown, upper_singleton]
      exact upperChar_ne_nil d

/-- An image that begins with its letter is that letter alone. -/
theorem Recased.eq_nil_of_cons {more : List Char} (h : Recased c (c :: more)) : more = [] := by
  have hlower : LowerImage c (lower [c]) := Or.inl rfl
  rcases h with h | hraised
  · rcases h.cases with ⟨rfl, hshown⟩ | ⟨d, hshown, -⟩
    · cases (List.cons.inj hshown).1
    · exact (List.cons.inj hshown).2
  · rcases hlower.cases with ⟨rfl, hshown⟩ | ⟨d, hshown, -⟩
    · have hplain : upper (lower ['\u0130']) = ['I', '\u0307'] := by decide
      cases (List.cons.inj (hraised.trans hplain)).1
    · rw [hshown, upper_singleton] at hraised
      exact eq_nil_of_upperChar ((lower_singleton c).symm.trans hshown) hraised.symm

end Images

section Words

/-- The images of a word, letter by letter; a sigma looks at the letters around it. -/
def lowered (before : List Char) : List Char → List (List Char)
  | [] => []
  | c :: after => lowerBetween before c after :: lowered (c :: before) after

theorem flatten_lowered (before word : List Char) :
    (lowered before word).flatten = lowerFrom before word := by
  induction word generalizing before with
  | nil => rfl
  | cons c after ih => rw [lowered, List.flatten_cons, ih, lowerFrom]

theorem forall₂_lowered (before word : List Char) :
    List.Forall₂ LowerImage word (lowered before word) := by
  induction word generalizing before with
  | nil => exact .nil
  | cons c after ih => exact .cons (lowerImage_lowerBetween before after c) (ih (c :: before))

variable {word : List Char} {shown : List (List Char)}

/-- The letters of a word, each as its own image. -/
def spelled (word : List Char) : List (List Char) := word.map fun c => [c]

theorem flatten_spelled (word : List Char) : (spelled word).flatten = word := by
  rw [spelled, ← List.flatMap_def, List.flatMap_singleton']

theorem upper_flatten (shown : List (List Char)) :
    upper shown.flatten = (shown.map upper).flatten := by
  induction shown with
  | nil => rfl
  | cons image shown ih =>
    rw [List.flatten_cons, upper_append, ih, List.map_cons, List.flatten_cons]

/-- Raised images do not depend on the letters around. -/
theorem map_upper_images (h : List.Forall₂ LowerImage word shown) :
    shown.map upper = word.map fun c => upper (lower [c]) := by
  induction h with
  | nil => rfl
  | cons hc _ ih => rw [List.map_cons, List.map_cons, upper_lowerImage hc, ih]

theorem eq_spelled_iff (h : List.Forall₂ LowerImage word shown) :
    shown = spelled word ↔ ∀ c ∈ word, lower [c] = [c] := by
  induction h with
  | nil => simp [spelled]
  | cons hc _ ih =>
    rw [spelled, List.map_cons, List.cons.injEq, List.forall_mem_cons, lowerImage_eq_self_iff hc]
    exact and_congr_right fun _ => ih

/-- A recased word that begins with the word is spelled as the word is. -/
theorem eq_spelled_of_prefix {tail : List Char} (h : List.Forall₂ Recased word shown)
    (hbegins : word <+: shown.flatten ++ tail) : shown = spelled word := by
  induction h with
  | nil => rfl
  | @cons c image word shown hc _ ih =>
    obtain ⟨d, more, rfl⟩ := List.exists_cons_of_ne_nil hc.ne_nil
    rw [List.flatten_cons, List.cons_append, List.cons_append, List.cons_prefix_cons] at hbegins
    obtain ⟨rfl, hrest⟩ := hbegins
    obtain rfl := hc.eq_nil_of_cons
    rw [ih hrest]
    rfl

theorem prefix_reversed_iff {letters : List Char} (htelling : letters.all isTelling = true)
    (h : List.Forall₂ LowerImage word shown) :
    letters <+: (shown.map List.reverse).flatten ↔ letters <+: word.map Char.toLower := by
  induction h generalizing letters with
  | nil => rfl
  | @cons c image word shown hc _ ih =>
    cases letters with
    | nil => exact iff_of_true List.nil_prefix List.nil_prefix
    | cons x letters =>
      rw [List.all_cons, Bool.and_eq_true] at htelling
      have hne {d : Char} (hd : isTelling d = false) : x ≠ d := by
        rintro rfl
        exact Bool.false_ne_true (hd.symm.trans htelling.1)
      rw [List.map_cons, List.map_cons, List.flatten_cons, List.cons_prefix_cons]
      rcases hc.cases with ⟨rfl, rfl⟩ | ⟨d, rfl, rfl | ⟨hd, hfolded⟩⟩
      · have hdot : isTelling '\u0307' = false := rfl
        have hfolded : isTelling (Char.toLower '\u0130') = false := rfl
        refine iff_of_false ?_ fun hbegins => hne hfolded hbegins.1
        exact fun hbegins => hne hdot (List.cons_prefix_cons.mp hbegins).1
      · exact List.cons_prefix_cons.trans (and_congr_right fun _ => ih htelling.2)
      · refine iff_of_false ?_ fun hbegins => hne hfolded hbegins.1
        exact fun hbegins => hne hd (List.cons_prefix_cons.mp hbegins).1

/-- Telling letters end a lowered word if they end the folded word. -/
theorem suffix_flatten_iff {letters : List Char} (htelling : letters.all isTelling = true)
    (h : List.Forall₂ LowerImage word shown) :
    letters <:+ shown.flatten ↔ letters <:+ word.map Char.toLower := by
  rw [← List.reverse_prefix, ← List.reverse_prefix, List.reverse_flatten, ← List.map_reverse,
    ← List.map_reverse]
  exact prefix_reversed_iff (by rw [List.all_reverse, htelling]) (List.rel_reverse h)

end Words

end CommandShell.LetterCase
