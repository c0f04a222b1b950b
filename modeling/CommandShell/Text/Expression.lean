import CommandShell.Text.Word

/-!
Regular expressions. Matching one at the front of a text gives what may be left behind the
match, in the order in which the ways to match are tried: of two alternatives the first one
before the second, and one more repetition before none. A repetition goes on only while it
takes something, so it ends.
-/
namespace CommandShell.Text

/-- What one character of an expression stands for. -/
inductive Letter where
  | only (c : Char)
  | except (c : Char)
  | word
  | decimal

def Letter.accepts : Letter → Char → Bool
  | .only d, c => c == d
  | .except d, c => c != d
  | .word, c => isWord c
  | .decimal, c => isDecimal c

inductive Expression where
  | nothing
  | one (accepted : Letter)
  | notAt (rejected : Letter)
  | ending
  | seq (first second : Expression)
  | either (first second : Expression)
  | many (e : Expression)

namespace Expression

/-- Takes a step again and again, as long as less is left, at most `limit` times. -/
def repeated (step : List Char → List (List Char)) : (limit : Nat) → List Char → List (List Char)
  | 0, text => [text]
  | limit + 1, text =>
      ((step text).filter fun rest => rest.length < text.length).flatMap (repeated step limit) ++
        [text]

/-- What may be left of a text behind a match at its front, the preferred rest first. -/
def rests : Expression → List Char → List (List Char)
  | .nothing, text => [text]
  | .one accepted, text =>
      match text with
      | c :: rest => if accepted.accepts c then [rest] else []
      | [] => []
  | .notAt rejected, text =>
      match text with
      | c :: _ => if rejected.accepts c then [] else [text]
      | [] => [text]
  -- the end of a text, also in front of the newline that ends it
  | .ending, text => if text = [] ∨ text = ['\n'] then [text] else []
  | .seq first second, text => (first.rests text).flatMap second.rests
  | .either first second, text => first.rests text ++ second.rests text
  | .many e, text => repeated e.rests text.length text

def sequence (es : List Expression) : Expression := es.foldr .seq .nothing

/-- Whether an expression matches a text as a whole. -/
def fullMatch (e : Expression) (text : List Char) : Bool := (e.rests text).any List.isEmpty

/-- What the preferred match takes from the front of a text. -/
def taken? (e : Expression) (text : List Char) : Option (List Char) :=
  (e.rests text).head?.map fun rest => text.take (text.length - rest.length)

/-- What follows a step depends on the shorter rests only. -/
theorem flatMap_shorter_congr {f g : List Char → List (List Char)} {found : List (List Char)}
    {text : List Char} (h : ∀ rest : List Char, rest.length < text.length → f rest = g rest) :
    (found.filter fun rest => rest.length < text.length).flatMap f =
      (found.filter fun rest => rest.length < text.length).flatMap g := by
  rw [List.flatMap_def, List.flatMap_def]
  congr 1
  apply List.map_congr_left
  intro rest hrest
  exact h rest (of_decide_eq_true (List.mem_filter.mp hrest).2)

/-- A limit that the length of the text does not exceed makes no difference. -/
theorem repeated_eq {step : List Char → List (List Char)} {m n : Nat} {text : List Char}
    (hm : text.length ≤ m) (hn : text.length ≤ n) : repeated step m text = repeated step n text := by
  have hempty (limit : Nat) : repeated step limit [] = [[]] := by
    cases limit with
    | zero => rfl
    | succ limit => simp [repeated]
  induction m generalizing n text with
  | zero =>
    obtain rfl : text = [] := List.length_eq_zero_iff.mp (Nat.le_zero.mp hm)
    rw [hempty, hempty]
  | succ m ih =>
    cases n with
    | zero =>
      obtain rfl : text = [] := List.length_eq_zero_iff.mp (Nat.le_zero.mp hn)
      rw [hempty, hempty]
    | succ n =>
      have hsteps (rest : List Char) (hshorter : rest.length < text.length) :
          repeated step m rest = repeated step n rest := ih (by omega) (by omega)
      rw [repeated, repeated, flatMap_shorter_congr hsteps]

/-- A repetition takes one step more, or it stops. -/
theorem rests_many (e : Expression) (text : List Char) :
    (many e).rests text =
      ((e.rests text).filter fun rest => rest.length < text.length).flatMap (many e).rests ++
        [text] := by
  cases text with
  | nil => simp [rests, repeated]
  | cons c text =>
    have hsteps (rest : List Char) (hshorter : rest.length < (c :: text).length) :
        repeated e.rests text.length rest = (many e).rests rest :=
      repeated_eq (Nat.le_of_lt_succ hshorter) (Nat.le_refl _)
    rw [rests, List.length_cons, repeated, flatMap_shorter_congr hsteps]
    rfl

theorem mem_rests_many {e : Expression} {text rest : List Char} :
    rest ∈ (many e).rests text ↔
      rest = text ∨ ∃ mid ∈ e.rests text, mid.length < text.length ∧ rest ∈ (many e).rests mid := by
  rw [rests_many, List.mem_append, List.mem_singleton, List.mem_flatMap, or_comm]
  simp only [List.mem_filter, decide_eq_true_eq, and_assoc]

theorem mem_rests_seq {e f : Expression} {text rest : List Char} :
    rest ∈ (seq e f).rests text ↔ ∃ mid ∈ e.rests text, rest ∈ f.rests mid := List.mem_flatMap

theorem mem_rests_one {accepted : Letter} {text rest : List Char} :
    rest ∈ (one accepted).rests text ↔ ∃ c, text = c :: rest ∧ accepted.accepts c = true := by
  cases text with
  | nil => simp [rests]
  | cons c tail =>
    rw [rests]
    by_cases hc : accepted.accepts c = true
    · rw [if_pos hc, List.mem_singleton]
      constructor
      · rintro rfl
        exact ⟨c, rfl, hc⟩
      · rintro ⟨d, htext, _⟩
        exact (List.cons.inj htext).2.symm
    · rw [if_neg hc]
      constructor
      · intro h
        cases h
      · rintro ⟨d, htext, hd⟩
        rw [(List.cons.inj htext).1] at hc
        exact absurd hd hc

theorem mem_rests_sequence_append {es fs : List Expression} {text rest : List Char} :
    rest ∈ (sequence (es ++ fs)).rests text ↔
      ∃ mid ∈ (sequence es).rests text, rest ∈ (sequence fs).rests mid := by
  induction es generalizing text with
  | nil => simp [sequence, rests]
  | cons e es ih =>
    have hcons (more : List Expression) : sequence (e :: more) = seq e (sequence more) := rfl
    simp only [List.cons_append, hcons, mem_rests_seq, ih]
    constructor
    · rintro ⟨first, hfirst, mid, hmid, hrest⟩
      exact ⟨mid, ⟨first, hfirst, hmid⟩, hrest⟩
    · rintro ⟨mid, ⟨first, hfirst, hmid⟩, hrest⟩
      exact ⟨first, hfirst, mid, hmid, hrest⟩

/-- A repeated character takes any run of characters that it stands for. -/
theorem mem_rests_many_one {accepted : Letter} {text rest : List Char} :
    rest ∈ (many (one accepted)).rests text ↔
      ∃ run, text = run ++ rest ∧ ∀ c ∈ run, accepted.accepts c = true := by
  induction text with
  | nil =>
    rw [mem_rests_many]
    constructor
    · rintro (rfl | ⟨mid, -, hshorter, -⟩)
      · exact ⟨[], rfl, List.forall_mem_nil _⟩
      · cases hshorter
    · rintro ⟨run, htext, -⟩
      exact Or.inl (List.append_eq_nil_iff.mp htext.symm).2
  | cons c text ih =>
    rw [mem_rests_many]
    constructor
    · rintro (rfl | ⟨mid, hmid, -, hrest⟩)
      · exact ⟨[], rfl, List.forall_mem_nil _⟩
      · obtain ⟨d, htext, hd⟩ := mem_rests_one.mp hmid
        obtain ⟨rfl, rfl⟩ := List.cons.inj htext
        obtain ⟨run, rfl, hrun⟩ := ih.mp hrest
        exact ⟨c :: run, rfl, List.forall_mem_cons.mpr ⟨hd, hrun⟩⟩
    · rintro ⟨run, htext, hrun⟩
      cases run with
      | nil => exact Or.inl htext.symm
      | cons d run =>
        obtain ⟨rfl, rfl⟩ := List.cons.inj htext
        obtain ⟨hc, hrun⟩ := List.forall_mem_cons.mp hrun
        exact Or.inr ⟨run ++ rest, mem_rests_one.mpr ⟨c, rfl, hc⟩, Nat.lt_succ_self _,
          ih.mpr ⟨run, rfl, hrun⟩⟩

theorem fullMatch_iff {e : Expression} {text : List Char} :
    e.fullMatch text = true ↔ [] ∈ e.rests text := by
  simp [fullMatch, List.any_eq_true]

end Expression

end CommandShell.Text
