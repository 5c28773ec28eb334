import TraitDocs.Diff.Matching

/-!
# Hunks

An edit script leads from one list of lines to another by stretches that stay and stretches that
change. It is cut into hunks: changes with a few lines of context, a long stretch that stays
between two hunks.
-/

set_option autoImplicit false

namespace TraitDocs.Diff

/-- A stretch of an edit script: the lines `fromLeft` to `toLeft` of the first list become the lines
`fromRight` to `toRight` of the second. -/
structure Stretch where
  /-- Tells whether the lines are the same. -/
  same : Bool
  /-- The number of lines before the stretch in the first list. -/
  fromLeft : Nat
  /-- The number of lines up to its end in the first list. -/
  toLeft : Nat
  /-- The number of lines before the stretch in the second list. -/
  fromRight : Nat
  /-- The number of lines up to its end in the second list. -/
  toRight : Nat
  deriving DecidableEq, Repr

/-- The stretches from lines `i` and `j` on: before each block a change, if there is something to
change, and the last change up to the ends of both lists. -/
def scriptFrom (i j leftEnd rightEnd : Nat) : List Block → List Stretch
  | [] => if i < leftEnd ∨ j < rightEnd then [⟨false, i, leftEnd, j, rightEnd⟩] else []
  | b :: rest =>
    (if i < b.left ∨ j < b.right then [⟨false, i, b.left, j, b.right⟩] else [])
      ++ ⟨true, b.left, b.left + b.size, b.right, b.right + b.size⟩
        :: scriptFrom (b.left + b.size) (b.right + b.size) leftEnd rightEnd rest

/-- The edit script of two lists of lines. -/
def script (first second : List String) : List Stretch :=
  scriptFrom 0 0 first.length second.length (blocks first second)

/-- The number of lines of context. -/
def context : Nat := 3

/-- The last lines of a stretch that stays. -/
def Stretch.leadIn (s : Stretch) : Stretch :=
  { s with
    fromLeft := max s.fromLeft (s.toLeft - context)
    fromRight := max s.fromRight (s.toRight - context) }

/-- The first lines of a stretch that stays. -/
def Stretch.leadOut (s : Stretch) : Stretch :=
  { s with
    toLeft := min s.toLeft (s.fromLeft + context)
    toRight := min s.toRight (s.fromRight + context) }

/-- Shortens the first stretch, if it stays, to its last lines. -/
def trimFirst : List Stretch → List Stretch
  | s :: rest => (if s.same then s.leadIn else s) :: rest
  | [] => []

/-- Shortens the last stretch, if it stays, to its first lines. -/
def trimLast : List Stretch → List Stretch
  | [] => []
  | [s] => [if s.same then s.leadOut else s]
  | s :: rest => s :: trimLast rest

/-- A hunk that shows something: not only a stretch that stays. -/
def showsChange : List Stretch → Bool
  | [] => false
  | [s] => !s.same
  | _ => true

/-- Cuts the rest of a script into hunks; `current` is the hunk under way, last stretch first. A
stretch that stays and is longer than two contexts ends one hunk and starts the next. -/
def hunksFrom (current : List Stretch) : List Stretch → List (List Stretch)
  | [] => if showsChange current then [current.reverse] else []
  | s :: rest =>
    if s.same && decide (2 * context < s.toLeft - s.fromLeft) then
      (s.leadOut :: current).reverse :: hunksFrom [s.leadIn] rest
    else hunksFrom (s :: current) rest

/-- The hunks of two lists of lines. -/
def hunks (first second : List String) : List (List Stretch) :=
  hunksFrom [] (trimLast (trimFirst (script first second)))

end TraitDocs.Diff
