import CommandShell.Token
import Mathlib.Data.List.Basic

/-!
Lines written for given tokens. A token is written between quotes, with every quote
and backslash behind a backslash, or bare, with every blank behind one as well; only
the empty token has to be quoted. Blanks keep written tokens apart and may surround
them. Tokenizing such a line gives back the tokens that it was written for.
-/
namespace CommandShell.WrittenTokens

open Text Token

/-- Puts a backslash before every special character. -/
def escape (special : Char → Bool) (token : List Char) : List Char :=
  token.flatMap fun c => if special c then ['\\', c] else [c]

def isDelimiter (c : Char) : Bool := c = '"' || c = '\\'

inductive Style where
  | quoted
  | bare

/-- A token with the way in which it is written. -/
structure Form where
  token : String
  style : Style
  visible : style = .bare → token ≠ ""

def Form.text (f : Form) : List Char :=
  match f.style with
  | .quoted => '"' :: (escape isDelimiter f.token.toList ++ ['"'])
  | .bare => escape (fun c => !isPlain c) f.token.toList

/-- Written tokens, each with the blanks behind it, which only the last may lack. -/
structure Layout where
  lead : List Char
  forms : List (Form × List Char)
  lead_blank : ∀ c ∈ lead, isBlank c = true
  gaps_blank : ∀ e ∈ forms, ∀ c ∈ e.2, isBlank c = true
  separated : ∀ e ∈ forms.dropLast, e.2 ≠ []

def written (forms : List (Form × List Char)) : List Char := forms.flatMap fun e => e.1.text ++ e.2

namespace Layout

def line (l : Layout) : String := String.ofList (l.lead ++ written l.forms)

def tokens (l : Layout) : List String := l.forms.map fun e => e.1.token

end Layout

theorem escape_eq_self {special : Char → Bool} {token : List Char}
    (h : ∀ c ∈ token, special c = false) : escape special token = token := by
  induction token with
  | nil => rfl
  | cons c rest ih =>
    obtain ⟨hc, hrest⟩ := List.forall_mem_cons.mp h
    have htail : escape special rest = rest := ih hrest
    simpa [escape, hc] using htail

section Scan

variable {rest : List Char}

/-- The scan takes what is escaped as it stands. It needs no backslash before other
characters, which are no delimiters and, outside quotes, no blanks. -/
theorem scan_escape {special : Char → Bool} {quoted : Bool}
    (h : ∀ c, special c = false → c ≠ '"' ∧ c ≠ '\\' ∧ (quoted = true ∨ isBlank c = false))
    (token pending : List Char) :
    scan quoted false pending (escape special token ++ rest) =
      scan quoted false (token.reverse ++ pending) rest := by
  induction token generalizing pending with
  | nil => rfl
  | cons c token ih =>
    have hnext : scan quoted false (c :: pending) (escape special token ++ rest) =
        scan quoted false ((c :: token).reverse ++ pending) rest := by
      rw [ih, List.reverse_cons, List.append_assoc]
      rfl
    rw [← hnext]
    cases hc : special c with
    | true =>
      have htext : escape special (c :: token) = '\\' :: c :: escape special token := by
        simp [escape, hc]
      rw [htext, List.cons_append, List.cons_append, scan_literal]
    | false =>
      have htext : escape special (c :: token) = c :: escape special token := by
        simp [escape, hc]
      obtain ⟨hquote, hslash, hkept⟩ := h c hc
      rw [htext, List.cons_append, scan_taken _ _ hquote hslash hkept]

theorem scan_quoted (token : List Char) :
    scan false false [] ('"' :: (escape isDelimiter token ++ '"' :: rest)) =
      token :: scan false false [] rest := by
  have hdelimiter : ∀ c, isDelimiter c = false →
      c ≠ '"' ∧ c ≠ '\\' ∧ (true = true ∨ isBlank c = false) := by
    intro c hc
    simp only [isDelimiter, Bool.or_eq_false_iff, decide_eq_false_iff_not] at hc
    exact ⟨hc.1, hc.2, Or.inl rfl⟩
  rw [scan_open, scan_escape hdelimiter, scan_close, List.append_nil, List.reverse_reverse]

theorem scan_gap {gap : List Char} (h : ∀ c ∈ gap, isBlank c = true) :
    scan false false [] (gap ++ rest) = scan false false [] rest := by
  induction gap with
  | nil => rfl
  | cons c gap ih =>
    obtain ⟨hc, hgap⟩ := List.forall_mem_cons.mp h
    rw [List.cons_append, scan_blank _ _ hc, ih hgap]
    rfl

/-- At the end of the line or before a blank, what is pending becomes a token. -/
theorem scan_pending {pending : List Char} (hne : pending ≠ [])
    (hrest : ∀ c ∈ rest.head?, isBlank c = true) :
    scan false false pending rest = pending.reverse :: scan false false [] rest := by
  cases rest with
  | nil =>
    rw [scan, flush_of_ne_nil hne]
    rfl
  | cons c rest =>
    have hc : isBlank c = true := hrest c rfl
    rw [scan_blank _ _ hc, scan_blank _ _ hc, flush_of_ne_nil hne]
    rfl

theorem scan_bare {token : List Char} (hne : token ≠ [])
    (hrest : ∀ c ∈ rest.head?, isBlank c = true) :
    scan false false [] (escape (fun c => !isPlain c) token ++ rest) =
      token :: scan false false [] rest := by
  have hplain : ∀ c, (!isPlain c) = false →
      c ≠ '"' ∧ c ≠ '\\' ∧ (false = true ∨ isBlank c = false) := by
    intro c hc
    simp only [isPlain, Bool.not_eq_false', Bool.and_eq_true, decide_eq_true_eq,
      Bool.not_eq_true'] at hc
    exact ⟨hc.1.1, hc.1.2, Or.inr hc.2⟩
  have hpending : token.reverse ≠ [] := mt List.reverse_eq_nil_iff.mp hne
  rw [scan_escape hplain, List.append_nil, scan_pending hpending hrest, List.reverse_reverse]

theorem scan_form (f : Form) (hrest : ∀ c ∈ rest.head?, isBlank c = true) :
    scan false false [] (f.text ++ rest) = f.token.toList :: scan false false [] rest := by
  obtain ⟨token, style, visible⟩ := f
  cases style with
  | quoted =>
    have htext : Form.text ⟨token, .quoted, visible⟩ ++ rest =
        '"' :: (escape isDelimiter token.toList ++ '"' :: rest) := by
      simp [Form.text]
    rw [htext, scan_quoted]
  | bare =>
    have hne : token.toList ≠ [] := mt String.toList_eq_nil_iff.mp (visible rfl)
    exact scan_bare hne hrest

/-- The first character behind a form, if there is one, is a blank: its gap is
empty only where nothing follows. -/
theorem head_gap {gap : List Char} {forms : List (Form × List Char)}
    (hblank : ∀ c ∈ gap, isBlank c = true) (hlast : gap = [] → forms = []) :
    ∀ c ∈ (gap ++ written forms).head?, isBlank c = true := by
  intro c hc
  cases gap with
  | nil =>
    rw [hlast rfl] at hc
    cases hc
  | cons d gap =>
    obtain rfl : d = c := Option.some.inj hc
    exact hblank d (List.mem_cons_self ..)

theorem scan_written {forms : List (Form × List Char)}
    (hblank : ∀ e ∈ forms, ∀ c ∈ e.2, isBlank c = true)
    (hseparated : ∀ e ∈ forms.dropLast, e.2 ≠ []) :
    scan false false [] (written forms) = forms.map fun e => e.1.token.toList := by
  induction forms with
  | nil => rfl
  | cons e forms ih =>
    obtain ⟨hgap, hgaps⟩ := List.forall_mem_cons.mp hblank
    have hlast : e.2 = [] → forms = [] := by
      intro hnil
      by_contra hne
      rw [List.dropLast_cons_of_ne_nil hne] at hseparated
      exact hseparated e (List.mem_cons_self ..) hnil
    have hrest : ∀ d ∈ forms.dropLast, d.2 ≠ [] := by
      intro d hd
      cases forms with
      | nil => cases hd
      | cons f forms => exact hseparated d (List.mem_cons_of_mem _ hd)
    have hwritten : written (e :: forms) = e.1.text ++ (e.2 ++ written forms) := by
      simp [written]
    rw [hwritten, scan_form e.1 (head_gap hgap hlast), scan_gap hgap, ih hgaps hrest,
      List.map_cons]

/-- Plain tokens need no escapes, so a single space between them is enough. -/
theorem scan_spaced {tokens : List String}
    (h : ∀ t ∈ tokens, t ≠ "" ∧ ∀ c ∈ t.toList, isPlain c = true) :
    scan false false [] (" ".intercalate tokens).toList = tokens.map String.toList := by
  induction tokens with
  | nil => rfl
  | cons t tokens ih =>
    obtain ⟨⟨hne, hplain⟩, htokens⟩ := List.forall_mem_cons.mp h
    have htext : escape (fun c => !isPlain c) t.toList = t.toList :=
      escape_eq_self fun c hc => by rw [hplain c hc, Bool.not_true]
    have hword : ∀ rest : List Char, (∀ c ∈ rest.head?, isBlank c = true) →
        scan false false [] (t.toList ++ rest) = t.toList :: scan false false [] rest := by
      intro rest hrest
      have hbare := scan_bare (mt String.toList_eq_nil_iff.mp hne) hrest
      rwa [htext] at hbare
    cases tokens with
    | nil =>
      have halone := hword [] (fun c hc => by cases hc)
      rw [List.append_nil] at halone
      simpa [scan, flush] using halone
    | cons u tokens =>
      have hjoin : (" ".intercalate (t :: u :: tokens)).toList =
          t.toList ++ ' ' :: (" ".intercalate (u :: tokens)).toList := by
        simp [String.intercalate_cons_cons]
      have hspace : ∀ c ∈ (' ' :: (" ".intercalate (u :: tokens)).toList).head?,
          isBlank c = true := by
        intro c hc
        obtain rfl : ' ' = c := Option.some.inj hc
        rfl
      rw [hjoin, hword _ hspace, scan_blank _ _ rfl, ih htokens]
      rfl

end Scan

/-- Writing loses nothing: every layout of some tokens gives back these tokens, and so
do plain tokens with single spaces between them. -/
theorem tokenize_written :
    (∀ l : Layout, tokenize l.line = l.tokens) ∧
      ∀ tokens : List String, (∀ t ∈ tokens, t ≠ "" ∧ ∀ c ∈ t.toList, isPlain c = true) →
        tokenize (" ".intercalate tokens) = tokens := by
  constructor
  · intro l
    have hscan : scan false false [] l.line.toList = l.forms.map fun e => e.1.token.toList := by
      rw [Layout.line, String.toList_ofList, scan_gap l.lead_blank,
        scan_written l.gaps_blank l.separated]
    rw [tokenize, hscan, List.map_map, Layout.tokens]
    simp
  · intro tokens h
    rw [tokenize, scan_spaced h, List.map_map]
    simp

/-- Two bare tokens, a quoted one between them, and the empty token. -/
def note : Layout where
  lead := [' ']
  forms := [(⟨"say", .bare, by simp⟩, [' ', '\t']), (⟨"it \"is\"", .quoted, by simp⟩, [' ']),
    (⟨"", .quoted, by simp⟩, [' ']), (⟨"c d", .bare, by simp⟩, [])]
  lead_blank := by simp [isBlank, blanks]
  gaps_blank := by simp [isBlank, blanks]
  separated := by decide

theorem note_written :
    note.line = " say \t\"it \\\"is\\\"\" \"\" c\\ d" ∧
      tokenize note.line = ["say", "it \"is\"", "", "c d"] ∧
      (∀ t ∈ ["set", "x"], t ≠ "" ∧ ∀ c ∈ t.toList, isPlain c = true) ∧
      tokenize "set x" = ["set", "x"] := by
  have hplain : ∀ t ∈ ["set", "x"], t ≠ "" ∧ ∀ c ∈ t.toList, isPlain c = true := by
    simp [isPlain, isBlank, blanks]
  exact ⟨by decide, tokenize_written.1 note, hplain, tokenize_written.2 _ hplain⟩

end CommandShell.WrittenTokens
