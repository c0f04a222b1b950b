/-!
Blank characters: Unicode white space together with the four information
separators U+001C to U+001F. They end a token, surround a trimmed text and
may not occur in a command name.
-/
namespace CommandShell.Text

def blanks : List Char :=
  ['\t', '\n', '\x0b', '\x0c', '\r', '\x1c', '\x1d', '\x1e', '\x1f', ' ', '\u0085', '\u00a0',
    '\u1680', '\u2000', '\u2001', '\u2002', '\u2003', '\u2004', '\u2005', '\u2006', '\u2007',
    '\u2008', '\u2009', '\u200a', '\u2028', '\u2029', '\u202f', '\u205f', '\u3000']

def isBlank (c : Char) : Bool := blanks.contains c

theorem isBlank_iff (c : Char) : isBlank c = true ↔ c ∈ blanks := by
  simp [isBlank]

/-- Core's white space is blank. -/
theorem isBlank_of_isWhitespace {c : Char} (h : c.isWhitespace = true) : isBlank c = true := by
  simp only [Char.isWhitespace, Bool.or_eq_true, decide_eq_true_eq] at h
  rcases h with ((rfl | rfl) | rfl) | rfl <;> rfl

/-- Without the blanks at the front. -/
def trimLeft (text : List Char) : List Char := text.dropWhile isBlank

/-- Without the blanks at the end. -/
def trimRight (text : List Char) : List Char := (trimLeft text.reverse).reverse

def trim (text : String) : String := String.ofList (trimRight (trimLeft text.toList))

theorem trimLeft_eq_self {text : List Char} (h : ∀ c ∈ text, isBlank c = false) :
    trimLeft text = text := by
  cases text with
  | nil => rfl
  | cons c rest =>
    have hc : ¬ isBlank c = true := by simp [h c List.mem_cons_self]
    exact List.dropWhile_cons_of_neg hc

/-- There is nothing to trim in a text without blanks. -/
theorem trim_eq_self {text : String} (h : ∀ c ∈ text.toList, isBlank c = false) :
    trim text = text := by
  have hreverse : ∀ c ∈ text.toList.reverse, isBlank c = false :=
    fun c hc => h c (List.mem_reverse.mp hc)
  rw [trim, trimLeft_eq_self h, trimRight, trimLeft_eq_self hreverse, List.reverse_reverse,
    String.ofList_toList]

/-- No blank ends a trimmed text. -/
theorem getLast?_trim_ne (text : String) {c : Char} (hc : isBlank c = true) :
    (trim text).toList.getLast? ≠ some c := by
  rw [trim, String.toList_ofList, trimRight, List.getLast?_reverse, trimLeft]
  intro hlast
  have hblank := List.head?_dropWhile_not isBlank (trimLeft text.toList).reverse
  rw [hlast] at hblank
  exact Bool.false_ne_true (hblank.symm.trans hc)

end CommandShell.Text
