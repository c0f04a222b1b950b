import CommandShell.Text.Blank

/-!
Tokens of a line. Blanks separate tokens outside double quotes; a closing
quote ends a token, even an empty one; a backslash takes the next character as
it stands. An open quote runs to the end of the line, where text that is still
pending becomes the last token. Plain characters, which are no blank, quote or
backslash, are taken one by one, so a plain word is its own only token.
-/
namespace CommandShell.Token

open Text

/-- A finished token, unless nothing is pending. The pending text is reversed. -/
def flush (pending : List Char) : List (List Char) :=
  if pending.isEmpty then [] else [pending.reverse]

/-- Scans the rest of a line after `pending`, inside quotes or not, with the
next character to be taken literally or not. -/
def scan (quoted escaped : Bool) (pending : List Char) : List Char → List (List Char)
  | [] => flush pending
  | c :: rest =>
      if escaped then scan quoted false (c :: pending) rest
      else if c = '"' then
        if quoted then pending.reverse :: scan false false [] rest
        else scan true false pending rest
      else if c = '\\' then scan quoted true pending rest
      else if !quoted && isBlank c then flush pending ++ scan quoted false [] rest
      else scan quoted false (c :: pending) rest

def tokenize (line : String) : List String := (scan false false [] line.toList).map String.ofList

def isPlain (c : Char) : Bool := c ≠ '"' && c ≠ '\\' && !isBlank c

section Steps

variable (pending rest : List Char)

/-- A backslash takes the next character as it stands. -/
theorem scan_literal (quoted : Bool) (c : Char) :
    scan quoted false pending ('\\' :: c :: rest) = scan quoted false (c :: pending) rest := by
  simp [scan]

theorem scan_dangling (quoted : Bool) : scan quoted false pending ['\\'] = flush pending := by
  simp [scan]

theorem scan_open : scan false false pending ('"' :: rest) = scan true false pending rest := by
  simp [scan]

theorem scan_close :
    scan true false pending ('"' :: rest) = pending.reverse :: scan false false [] rest := by
  simp [scan]

/-- A blank ends what is pending. -/
theorem scan_blank {c : Char} (hc : isBlank c = true) :
    scan false false pending (c :: rest) = flush pending ++ scan false false [] rest := by
  have hquote : c ≠ '"' := by
    rintro rfl
    cases hc
  have hslash : c ≠ '\\' := by
    rintro rfl
    cases hc
  simp [scan, hquote, hslash, hc]

theorem scan_taken {quoted : Bool} {c : Char} (hquote : c ≠ '"') (hslash : c ≠ '\\')
    (hkept : quoted = true ∨ isBlank c = false) :
    scan quoted false pending (c :: rest) = scan quoted false (c :: pending) rest := by
  have hinside : (!quoted && isBlank c) = false := by
    rcases hkept with rfl | hblank
    · rfl
    · rw [hblank, Bool.and_false]
  simp [scan, hquote, hslash, hinside]

end Steps

theorem scan_plain_cons {c : Char} (hc : isPlain c = true) (pending rest : List Char) :
    scan false false pending (c :: rest) = scan false false (c :: pending) rest := by
  simp only [isPlain, Bool.and_eq_true, decide_eq_true_eq, Bool.not_eq_true'] at hc
  obtain ⟨⟨hquote, hslash⟩, hblank⟩ := hc
  simp [scan, hquote, hslash, hblank]

/-- Plain characters are appended to the pending text. -/
theorem scan_plain_append (word : List Char) (hword : ∀ c ∈ word, isPlain c = true)
    (pending rest : List Char) :
    scan false false pending (word ++ rest) = scan false false (word.reverse ++ pending) rest := by
  induction word generalizing pending with
  | nil => rfl
  | cons c word ih =>
    have hrest : ∀ d ∈ word, isPlain d = true := fun d hd => hword d (List.mem_cons_of_mem _ hd)
    rw [List.cons_append, scan_plain_cons (hword c (by simp)), ih hrest]
    simp

theorem flush_of_ne_nil {pending : List Char} (h : pending ≠ []) :
    flush pending = [pending.reverse] := by
  cases pending with
  | nil => exact absurd rfl h
  | cons c rest => rfl

theorem tokenize_plain {word : String} (hne : word ≠ "")
    (hword : ∀ c ∈ word.toList, isPlain c = true) : tokenize word = [word] := by
  have hscan := scan_plain_append word.toList hword [] []
  rw [List.append_nil, List.append_nil] at hscan
  have hpending : word.toList.reverse ≠ [] := by
    intro hnil
    apply hne
    rw [List.reverse_eq_nil_iff] at hnil
    exact String.toList_eq_nil_iff.mp hnil
  unfold tokenize
  rw [hscan, scan, flush_of_ne_nil hpending]
  simp

end CommandShell.Token
