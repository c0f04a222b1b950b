import CommandShell.Proofs.Segments
import Mathlib.Algebra.Group.Nat.Even

/-!
Lines cut in two. A text is neutral when its quotes close each other and its last
backslash, if it ends in one, belongs to a pair. The scan is then outside quotes at its
end, with at most a bare word pending, which a blank finishes. So whatever stands behind
the blank is tokenized as if it stood alone, and the tokens in front of it are kept, the
empty ones that were quoted as well.
-/
namespace CommandShell.NeutralSplit

open Text Token Segments

/-- The number of quotes that no backslash takes. -/
def quotes (text : List Char) : Nat := (symbols text).countP Symbol.isQuote

/-- Ends in a backslash that is no half of a pair. -/
def endsUnpaired : List Char → Bool
  | [] => false
  | c :: rest =>
      if c = '\\' then
        match rest with
        | [] => true
        | _ :: rest => endsUnpaired rest
      else endsUnpaired rest

structure Neutral (text : String) : Prop where
  even_quotes : Even (quotes text.toList)
  paired : endsUnpaired text.toList = false

section Count

variable {c : Char} {rest : List Char}

theorem symbols_cons (hslash : c ≠ '\\') : symbols (c :: rest) = .plain c :: symbols rest := by
  cases rest <;> simp [symbols, hslash]

theorem endsUnpaired_cons (hslash : c ≠ '\\') : endsUnpaired (c :: rest) = endsUnpaired rest := by
  cases rest <;> simp [endsUnpaired, hslash]

theorem quotes_literal (d : Char) (rest : List Char) :
    quotes ('\\' :: d :: rest) = quotes rest := by
  simp [quotes, symbols, Symbol.isQuote]

theorem quotes_quote (rest : List Char) : quotes ('"' :: rest) = quotes rest + 1 := by
  rw [quotes, symbols_cons (by decide)]
  simp [quotes, Symbol.isQuote]

theorem quotes_taken (hslash : c ≠ '\\') (hquote : c ≠ '"') : quotes (c :: rest) = quotes rest := by
  rw [quotes, symbols_cons hslash]
  simp [quotes, Symbol.isQuote, hquote]

end Count

/-- A scan that is outside quotes behind a text starts afresh at the next blank. Whether
it is inside on the way is the parity of the quotes that are still ahead. -/
theorem scan_append_blank {w : Char} (hw : isBlank w = true) (behind text : List Char)
    (quoted : Bool) (pending : List Char) (heven : Even (quotes text + quoted.toNat))
    (hpaired : endsUnpaired text = false) :
    scan quoted false pending (text ++ w :: behind) =
      scan quoted false pending text ++ scan false false [] behind := by
  fun_induction symbols text generalizing quoted pending with
  | case1 =>
    cases quoted with
    | true => exact absurd heven (by decide)
    | false =>
      rw [List.nil_append, scan_blank _ _ hw]
      rfl
  | case2 => cases hpaired
  | case3 d rest ih =>
    rw [quotes_literal] at heven
    rw [List.cons_append, List.cons_append, scan_literal, scan_literal]
    exact ih quoted (d :: pending) heven hpaired
  | case4 c rest hslash ih =>
    rw [endsUnpaired_cons hslash] at hpaired
    rw [List.cons_append]
    by_cases hquote : c = '"'
    · subst hquote
      rw [quotes_quote] at heven
      cases quoted with
      | true =>
        have hrest : Even (quotes rest + false.toNat) := by
          rw [Nat.even_iff] at heven ⊢
          simp only [Bool.toNat_true, Bool.toNat_false] at heven ⊢
          omega
        rw [scan_close, scan_close, ih false [] hrest hpaired, List.cons_append]
      | false =>
        rw [scan_open, scan_open]
        exact ih true pending heven hpaired
    · rw [quotes_taken hslash hquote] at heven
      by_cases hends : quoted = false ∧ isBlank c = true
      · obtain ⟨rfl, hblank⟩ := hends
        rw [scan_blank _ _ hblank, scan_blank _ _ hblank, ih false [] heven hpaired,
          List.append_assoc]
      · have hkept : quoted = true ∨ isBlank c = false := by
          cases quoted with
          | true => exact Or.inl rfl
          | false => exact Or.inr (by simpa using hends)
        rw [scan_taken _ _ hquote hslash hkept, scan_taken _ _ hquote hslash hkept]
        exact ih quoted (c :: pending) heven hpaired

/-- The tokens of a line that is cut at a blank behind a neutral text are those of both
parts, whatever the second part holds. -/
theorem tokenize_append_blank {front : String} (hneutral : Neutral front) {w : Char}
    (hw : isBlank w = true) (behind : String) :
    tokenize (front ++ String.singleton w ++ behind) = tokenize front ++ tokenize behind := by
  have hline : (front ++ String.singleton w ++ behind).toList =
      front.toList ++ w :: behind.toList := by
    simp
  have hscan := scan_append_blank hw behind.toList front.toList false []
    (by simpa using hneutral.even_quotes) hneutral.paired
  rw [tokenize, hline, hscan, List.map_append]
  rfl

/-- The cut stands right behind an empty token, and an open quote follows it. -/
theorem tokenize_say_blank :
    Neutral "say \\\" \"\"" ∧ isBlank '\t' = true ∧
      tokenize ("say \\\" \"\"" ++ String.singleton '\t' ++ "\"a b\\") =
        tokenize "say \\\" \"\"" ++ tokenize "\"a b\\" ∧
      tokenize "say \\\" \"\"" = ["say", "\"", ""] ∧ tokenize "\"a b\\" = ["a b"] := by
  have hneutral : Neutral "say \\\" \"\"" := ⟨by decide +kernel, by decide +kernel⟩
  exact ⟨hneutral, rfl, tokenize_append_blank hneutral rfl "\"a b\\", by decide, by decide⟩

end CommandShell.NeutralSplit
