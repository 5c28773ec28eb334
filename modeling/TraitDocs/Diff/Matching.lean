/-!
# Matching blocks of two lists of lines

The blocks of lines that two lists have in common, found by taking the longest block first and
then looking on both sides of it. Of blocks of one length, the one that starts first in the first
list is taken, and then the one that starts first in the second. A line that fills more than a
hundredth of a second list of two hundred lines or more is *popular*: it does not count in the
search for the longest block, and only lengthens a block once it is found.
-/

set_option autoImplicit false

namespace TraitDocs.Diff

/-- A block of lines that stands in both lists: where it starts in each, and how many lines it
has. -/
structure Block where
  /-- The number of lines before it in the first list. -/
  left : Nat
  /-- The number of lines before it in the second list. -/
  right : Nat
  /-- The number of its lines. -/
  size : Nat
  deriving DecidableEq, Repr

/-- The popular lines of a list. -/
def popularLines (lines : List String) : List String :=
  let limit := lines.length / 100 + 1
  if lines.length < 200 then [] else (lines.filter fun line => limit < lines.count line).eraseDups

/-- The lengths of the blocks that end with a given line of the first list and with each line of the
second, from those that end with the line before. -/
def extendRow (popular : List String) (line : String) (before : List Nat) (second : List String) :
    List Nat :=
  List.zipWith
    (fun other length => if other = line && !popular.contains other then length + 1 else 0)
    second (0 :: before)

/-- The better of a block and the blocks of these lengths, which end with line `i` of the first list
and with the lines of the second from line `j` on. -/
def bestInRow (i j : Nat) (best : Block) : List Nat → Block
  | [] => best
  | length :: lengths =>
    let best := if best.size < length then ⟨i + 1 - length, j + 1 - length, length⟩ else best
    bestInRow i (j + 1) best lengths

/-- The longest block without popular lines among those that end in the rest of the first list,
which begins at line `i`, and a block already found. -/
def longestFrom (popular second : List String) (i : Nat) (best : Block) (before : List Nat) :
    List String → Block
  | [] => best
  | line :: lines =>
    let row := extendRow popular line before second
    longestFrom popular second (i + 1) (bestInRow i 0 best row) row lines

/-- The number of lines that two lists have in common at the front. -/
def commonLength : List String → List String → Nat
  | a :: as, b :: bs => if a = b then commonLength as bs + 1 else 0
  | _, _ => 0

/-- The longest block of two lists, lengthened to both sides while the lines agree. -/
def longest (popular first second : List String) : Block :=
  let found := longestFrom popular second 0 ⟨0, 0, 0⟩ (List.replicate second.length 0) first
  let back := commonLength (first.take found.left).reverse (second.take found.right).reverse
  let on := commonLength (first.drop (found.left + found.size))
    (second.drop (found.right + found.size))
  ⟨found.left - back, found.right - back, back + found.size + on⟩

/-- The blocks of two lists, in order; the lists begin at lines `i` and `j`. -/
def blocksFrom (popular : List String) (i j : Nat) (first second : List String) : List Block :=
  match longest popular first second with
  | ⟨left, right, size⟩ =>
    if _ : 0 < size ∧ left + size ≤ first.length then
      blocksFrom popular i j (first.take left) (second.take right)
        ++ ⟨i + left, j + right, size⟩
          :: blocksFrom popular (i + left + size) (j + right + size)
            (first.drop (left + size)) (second.drop (right + size))
    else []
termination_by first.length
decreasing_by
  · simp only [List.length_take]
    omega
  · simp only [List.length_drop]
    omega

/-- Puts a block in front of the blocks after it, as one block if they touch. -/
def joinBlock (b : Block) : List Block → List Block
  | [] => [b]
  | next :: rest =>
    if b.left + b.size = next.left ∧ b.right + b.size = next.right then
      ⟨b.left, b.right, b.size + next.size⟩ :: rest
    else b :: next :: rest

/-- The blocks of two lists, in order, no two of them touching. -/
def blocks (first second : List String) : List Block :=
  (blocksFrom (popularLines second) 0 0 first second).foldr joinBlock []

end TraitDocs.Diff
