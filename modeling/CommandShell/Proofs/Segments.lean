import CommandShell.Token

/-!
The grammar of lines, apart from any scan. First every backslash is paired with the
character behind it, which is then literal. The remaining quotes cut the line into
segments that are outside and inside by turns, and blanks that are not literal cut
an outside segment into pieces. A piece that touches an opening quote belongs to the
token of the quoted text. Tokenizing is cutting a line in this way.
-/
namespace CommandShell.Segments

open Text Token

/-- A character of a line, by whether a backslash stands before it. -/
inductive Symbol where
  | plain (c : Char)
  | literal (c : Char)

namespace Symbol

def char : Symbol → Char
  | .plain c | .literal c => c

def isQuote : Symbol → Bool
  | .plain c => c = '"'
  | .literal _ => false

def isSeparator : Symbol → Bool
  | .plain c => isBlank c
  | .literal _ => false

end Symbol

/-- Pairs each backslash with the next character; one at the very end is dropped. -/
def symbols : List Char → List Symbol
  | [] => []
  | c :: rest =>
      if c = '\\' then
        match rest with
        | [] => []
        | d :: rest => .literal d :: symbols rest
      else .plain c :: symbols rest

abbrev Segment := List Symbol

def segments (line : List Symbol) : List Segment := line.splitOnP Symbol.isQuote

/-- The parts between separators, empty ones as well. -/
def pieces (s : Segment) : List Segment := s.splitOnP Symbol.isSeparator

def present (parts : List Segment) : List Segment := parts.filter fun part => !part.isEmpty

/-- The maximal runs of an outside segment. -/
def words (s : Segment) : List Segment := present (pieces s)

/-- The maximal runs that end before a separator. -/
def detached (s : Segment) : List Segment := present (pieces s).dropLast

/-- What stands behind the last separator. -/
def touching (s : Segment) : Segment := (pieces s).getLastD []

/-- The tokens of segments that are outside and inside by turns. A closed pair of
quotes makes a token in any case, an open quote only when there is text for it. -/
def cut : List Segment → List Segment
  | [] => []
  | [outer] => words outer
  | [outer, text] => detached outer ++ present [touching outer ++ text]
  | outer :: text :: rest => detached outer ++ (touching outer ++ text) :: cut rest

def texts (parts : List Segment) : List (List Char) := parts.map fun part => part.map Symbol.char

def tokens (line : List Char) : List (List Char) := texts (cut (segments (symbols line)))

/-- Without a separator, so that it is one piece. -/
def Joined (s : Segment) : Prop := ∀ x ∈ s, x.isSeparator = false

theorem Joined.nil : Joined [] := fun _ hx => by cases hx

theorem Joined.cons {x : Symbol} {s : Segment} (hx : x.isSeparator = false) (h : Joined s) :
    Joined (x :: s) :=
  List.forall_mem_cons.mpr ⟨hx, h⟩

theorem Joined.reverse {s : Segment} (h : Joined s) : Joined s.reverse :=
  fun x hx => h x (List.mem_reverse.mp hx)

section Cut

variable {s : Segment}

theorem present_cons (part : Segment) (parts : List Segment) :
    present (part :: parts) = present [part] ++ present parts :=
  List.filter_append [part] parts

theorem pieces_of_joined (h : Joined s) : pieces s = [s] :=
  List.splitOnP_eq_singleton h

theorem pieces_ne_nil (s : Segment) : pieces s ≠ [] := List.splitOnP_ne_nil _ s

theorem pieces_nil : pieces [] = [[]] := rfl

/-- Text without separators in front of a quote belongs to the quoted text. -/
theorem cut_joined (h : Joined s) (text : Segment) (rest : List Segment) :
    cut (s :: text :: rest) = cut ([] :: (s ++ text) :: rest) := by
  cases rest with
  | nil => simp [cut, detached, touching, pieces_of_joined h, pieces_nil]
  | cons next rest => simp [cut, detached, touching, pieces_of_joined h, pieces_nil]

/-- A separator ends a run, whatever is cut behind it. -/
theorem cut_separator (h : Joined s) {sep : Symbol} (hsep : sep.isSeparator = true)
    (behind : Segment) (rest : List Segment) :
    cut ((s ++ sep :: behind) :: rest) = present [s] ++ cut (behind :: rest) := by
  have hpieces : pieces (s ++ sep :: behind) = s :: pieces behind :=
    List.splitOnP_append_cons_of_forall_mem h sep hsep behind
  have hwords : words (s ++ sep :: behind) = present [s] ++ words behind := by
    rw [words, hpieces, present_cons, words]
  have hdetached : detached (s ++ sep :: behind) = present [s] ++ detached behind := by
    rw [detached, hpieces, List.dropLast_cons_of_ne_nil (pieces_ne_nil behind), present_cons,
      detached]
  have htouching : touching (s ++ sep :: behind) = touching behind := by
    obtain ⟨first, more, hbehind⟩ := List.exists_cons_of_ne_nil (pieces_ne_nil behind)
    rw [touching, hpieces, touching, hbehind]
    rfl
  match rest with
  | [] => rw [cut, hwords, cut]
  | [text] => rw [cut, hdetached, htouching, cut, List.append_assoc]
  | text :: next :: rest => simp only [cut, hdetached, htouching, List.append_assoc]

end Cut

/-- The tokens still to come when `pending` stands before the rest of a line, inside
quotes or not. Inside, the segment before the quote has given its runs already. -/
def upcoming (quoted : Bool) (pending rest : List Symbol) : List Segment :=
  let ahead := (segments rest).modifyHead (pending.reverse ++ ·)
  if quoted then cut ([] :: ahead) else cut ahead

section Upcoming

variable {pending rest : List Symbol}

theorem exists_segments (line : List Symbol) : ∃ first more, segments line = first :: more :=
  List.exists_cons_of_ne_nil (List.splitOnP_ne_nil Symbol.isQuote line)

theorem segments_quote {x : Symbol} (hx : x.isQuote = true) :
    segments (x :: rest) = [] :: segments rest := by
  rw [segments, List.splitOnP_cons_eq_if_modifyHead, if_pos hx, segments]

theorem segments_taken {x : Symbol} (hx : x.isQuote = false) :
    segments (x :: rest) = (segments rest).modifyHead (x :: ·) := by
  rw [segments, List.splitOnP_cons_eq_if_modifyHead, if_neg (by simp [hx]), segments]

theorem upcoming_nil {quoted : Bool} (h : quoted = false → Joined pending) :
    upcoming quoted pending [] = present [pending.reverse] := by
  have hsegments : (segments []).modifyHead (pending.reverse ++ ·) = [pending.reverse] := by
    simp [segments]
  cases quoted with
  | true => simp [upcoming, hsegments, cut, detached, touching, pieces_nil, present]
  | false => simp [upcoming, hsegments, cut, words, pieces_of_joined (h rfl).reverse]

/-- A closing quote makes a token of what is pending. -/
theorem upcoming_close {x : Symbol} (hx : x.isQuote = true) :
    upcoming true pending (x :: rest) = pending.reverse :: upcoming false [] rest := by
  obtain ⟨first, more, hrest⟩ := exists_segments rest
  simp [upcoming, segments_quote hx, hrest, cut, detached, touching, pieces_nil, present]

theorem upcoming_open {x : Symbol} (hx : x.isQuote = true) (h : Joined pending) :
    upcoming false pending (x :: rest) = upcoming true pending rest := by
  obtain ⟨first, more, hrest⟩ := exists_segments rest
  simpa [upcoming, segments_quote hx, hrest] using cut_joined h.reverse first more

theorem upcoming_separator {x : Symbol} (hquote : x.isQuote = false) (hsep : x.isSeparator = true)
    (h : Joined pending) :
    upcoming false pending (x :: rest) = present [pending.reverse] ++ upcoming false [] rest := by
  obtain ⟨first, more, hrest⟩ := exists_segments rest
  simpa [upcoming, segments_taken hquote, hrest] using cut_separator h.reverse hsep first more

/-- Any other symbol joins what is pending. -/
theorem upcoming_taken {x : Symbol} (hx : x.isQuote = false) (quoted : Bool) :
    upcoming quoted pending (x :: rest) = upcoming quoted (x :: pending) rest := by
  obtain ⟨first, more, hrest⟩ := exists_segments rest
  simp [upcoming, segments_taken hx, hrest]

theorem upcoming_start (line : List Symbol) : upcoming false [] line = cut (segments line) := by
  obtain ⟨first, more, hline⟩ := exists_segments line
  simp [upcoming, hline]

end Upcoming

theorem flush_eq (pending : List Symbol) :
    flush (pending.map Symbol.char) = texts (present [pending.reverse]) := by
  cases pending with
  | nil => rfl
  | cons x pending => simp [flush, texts, present]

/-- The scan finds the tokens that the grammar has still to come. Outside quotes what
is pending holds no separator that would cut it once more. -/
theorem scan_eq_upcoming (quoted : Bool) (pending : List Symbol) (line : List Char)
    (h : quoted = false → Joined pending) :
    scan quoted false (pending.map Symbol.char) line =
      texts (upcoming quoted pending (symbols line)) := by
  fun_induction symbols line generalizing quoted pending with
  | case1 => rw [scan, flush_eq, upcoming_nil h]
  | case2 => rw [scan_dangling, flush_eq, upcoming_nil h]
  | case3 d rest ih =>
    rw [scan_literal, upcoming_taken rfl]
    exact ih quoted (.literal d :: pending) (fun hquoted => (h hquoted).cons rfl)
  | case4 c rest hslash ih =>
    have hfresh : scan false false [] rest = texts (upcoming false [] (symbols rest)) :=
      ih false [] (fun _ => Joined.nil)
    by_cases hquote : c = '"'
    · subst hquote
      cases quoted with
      | true =>
        rw [scan_close, upcoming_close rfl, hfresh, ← List.map_reverse]
        rfl
      | false =>
        rw [scan_open, upcoming_open rfl (h rfl)]
        exact ih true pending (fun hquoted => by cases hquoted)
    · have hplain : (Symbol.plain c).isQuote = false := by simpa [Symbol.isQuote] using hquote
      by_cases hends : quoted = false ∧ isBlank c = true
      · obtain ⟨rfl, hblank⟩ := hends
        rw [scan_blank _ _ hblank, upcoming_separator hplain hblank (h rfl), hfresh, flush_eq,
          texts, texts, texts, List.map_append]
      · have hkept : quoted = true ∨ isBlank c = false := by
          cases quoted with
          | true => exact Or.inl rfl
          | false => exact Or.inr (by simpa using hends)
        rw [scan_taken _ _ hquote hslash hkept, upcoming_taken hplain]
        apply ih quoted (.plain c :: pending)
        intro hquoted
        rcases hkept with rfl | hblank
        · cases hquoted
        · exact (h hquoted).cons hblank

/-- Tokenizing a line cuts it by its grammar. -/
theorem tokenize_eq_tokens (line : String) :
    tokenize line = (tokens line.toList).map String.ofList := by
  have hscan := scan_eq_upcoming false [] line.toList (fun _ => Joined.nil)
  rw [upcoming_start] at hscan
  rw [tokenize, tokens, ← hscan]
  rfl

/-- Text is glued to the quote that it touches from before, and not from behind. -/
example : tokens ['p', '"', 'a', ' ', 'b', '"', 's', ' ', '"', '"', '\\'] =
    [['p', 'a', ' ', 'b'], ['s'], []] := by decide

end CommandShell.Segments
