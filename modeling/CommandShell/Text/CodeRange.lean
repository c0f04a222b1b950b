/-!
Sets of characters given by a sorted list of closed ranges of code points.
Every character table of this library is such a list, or a list of runs
that step through every second code point.
-/
namespace CommandShell.Text

/-- Membership in a sorted list of closed ranges; the search stops at the
first range that begins above the code point. -/
def inRanges : List (Nat × Nat) → Nat → Bool
  | [], _ => false
  | (first, last) :: rest, code =>
      if code < first then false else if code ≤ last then true else inRanges rest code

/-- The code points `first`, `first + step`, ... up to `last`; a case table
shifts each of them by `offset`. -/
structure Run where
  first : Nat
  last : Nat
  step : Nat
  offset : Int

def Run.covers (run : Run) (code : Nat) : Bool :=
  run.first ≤ code && code ≤ run.last && (code - run.first) % run.step == 0

theorem Run.covers_iff {run : Run} {code : Nat} :
    run.covers code = true ↔
      run.first ≤ code ∧ code ≤ run.last ∧ (code - run.first) % run.step = 0 := by
  simp [Run.covers, and_assoc]

end CommandShell.Text
