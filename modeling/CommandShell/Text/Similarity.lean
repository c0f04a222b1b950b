/-!
Close matches of a word. The similarity of two words is twice the number of
matched letters over the sum of their lengths. Letters are matched by the
longest common block, the earliest one first, and then on both sides of it.
In a word of 200 letters or more the popular letters do not start a block;
they only extend one.
-/
namespace CommandShell.Text

variable {α : Type} [BEq α]

/-- Letters that may start a block in `word`. -/
def indexed (word : List α) (x : α) : Bool :=
  word.length < 200 || word.count x ≤ word.length / 100 + 1

/-- One row of common block lengths: the entry of a letter is the length of
the block that ends at it and at `x`. `diagonal` is the previous row's entry
before the first letter. -/
def blockRow (starts : α → Bool) (x : α) : (diagonal : Nat) → List α → List Nat → List Nat
  | diagonal, y :: ys, p :: ps =>
      (if x == y && starts y then diagonal + 1 else 0) :: blockRow starts x p ys ps
  | _, _, _ => []

/-- A common block: where it starts in the first and the second word, and its length. -/
structure Block where
  left : Nat
  right : Nat
  size : Nat

/-- The best block after a row whose letter stands at `i`; earlier blocks win ties. -/
def Block.best (i : Nat) : (j : Nat) → List Nat → Block → Block
  | _, [], block => block
  | j, k :: ks, block =>
      Block.best i (j + 1) ks (if block.size < k then ⟨i + 1 - k, j + 1 - k, k⟩ else block)

def longestIndexedFrom (starts : α → Bool) (b : List α) :
    (i : Nat) → (previous : List Nat) → List α → Block → Block
  | _, _, [], block => block
  | i, previous, x :: rest, block =>
      let row := blockRow starts x 0 b previous
      longestIndexedFrom starts b (i + 1) row rest (block.best i 0 row)

def commonLength : List α → List α → Nat
  | x :: xs, y :: ys => if x == y then commonLength xs ys + 1 else 0
  | _, _ => 0

/-- Lengthens a block by the equal letters before and after it. -/
def Block.extend (a b : List α) (block : Block) : Block :=
  let before := commonLength (a.take block.left).reverse (b.take block.right).reverse
  let after := commonLength (a.drop (block.left + block.size)) (b.drop (block.right + block.size))
  ⟨block.left - before, block.right - before, before + block.size + after⟩

def longestBlock (starts : α → Bool) (a b : List α) : Block :=
  (longestIndexedFrom starts b 0 (b.map fun _ => 0) a ⟨0, 0, 0⟩).extend a b

/-- Letters matched by the longest block and, on both sides of it, by further blocks. -/
def matchedLetters (starts : α → Bool) (a b : List α) : Nat :=
  match longestBlock starts a b with
  | ⟨left, right, size⟩ =>
    if _h : 0 < size ∧ left + size ≤ a.length then
      matchedLetters starts (a.take left) (b.take right) + size +
        matchedLetters starts (a.drop (left + size)) (b.drop (right + size))
    else 0
termination_by a.length
decreasing_by
  · simp only [List.length_take]
    omega
  · simp only [List.length_drop]
    omega

/-- A similarity, kept as matched letters over the length of both words. -/
structure Similarity where
  shared : Nat
  total : Nat

def similarity (candidate word : List α) : Similarity :=
  ⟨matchedLetters (indexed word) candidate word, candidate.length + word.length⟩

namespace Similarity

/-- Close means a similarity of at least six tenths; two empty words are alike. -/
def isClose (s : Similarity) : Bool := 3 * s.total ≤ 10 * s.shared

/-- Strictly less alike; two empty words are as alike as equal words. -/
def less (s t : Similarity) : Bool :=
  let weight (r : Similarity) : Nat × Nat := if r.total = 0 then (1, 2) else (r.shared, r.total)
  (weight s).1 * (weight t).2 < (weight t).1 * (weight s).2

/-- Best first; equally close candidates by descending text. -/
def ranks (s t : Similarity × String) : Bool :=
  t.1.less s.1 || (!s.1.less t.1 && t.2 ≤ s.2)

end Similarity

/-- The at most five best close candidates of a word whose letters are
compared with a candidate's through `letter`. -/
def closeMatchesBy (letter : Char → α) (word : List α) (candidates : List String) : List String :=
  let scored := candidates.map fun c => (similarity (c.toList.map letter) word, c)
  ((scored.filter (·.1.isClose)).mergeSort Similarity.ranks).map (·.2) |>.take 5

def closeMatches (word : String) (candidates : List String) : List String :=
  closeMatchesBy id word.toList candidates

end CommandShell.Text
