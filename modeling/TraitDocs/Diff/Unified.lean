import TraitDocs.Diff.Hunk

/-!
# Unified differences

The hunks of two lists of lines as text: under a heading with two names, each hunk has a heading
with its place in both lists, and then its lines, marked by a blank, a minus or a plus sign.
-/

set_option autoImplicit false

namespace TraitDocs.Diff

/-- A range of lines in the heading of a hunk: the number of its first line, and its length unless
that is one. An empty range has the number of the line before it. -/
def rangeText (start stop : Nat) : String :=
  let length := stop - start
  if length = 1 then toString (start + 1)
  else if length = 0 then toString start ++ ",0"
  else toString (start + 1) ++ "," ++ toString length

/-- The lines of a list from one place to another. -/
def slice (lines : List String) (start stop : Nat) : List String :=
  (lines.take stop).drop start

/-- The lines of a stretch, marked. -/
def stretchText (first second : List String) (s : Stretch) : String :=
  let old := slice first s.fromLeft s.toLeft
  if s.same then String.join (old.map (" " ++ ·))
  else
    String.join (old.map ("-" ++ ·))
      ++ String.join ((slice second s.fromRight s.toRight).map ("+" ++ ·))

/-- The heading of a hunk. -/
def hunkHeading (hunk : List Stretch) : String :=
  match hunk.head?, hunk.getLast? with
  | some start, some last =>
    "@@ -" ++ rangeText start.fromLeft last.toLeft ++ " +" ++ rangeText start.fromRight last.toRight
      ++ " @@\n"
  | _, _ => ""

/-- A hunk with its heading. -/
def hunkText (first second : List String) (hunk : List Stretch) : String :=
  hunkHeading hunk ++ String.join (hunk.map (stretchText first second))

/-- The difference of two lists of lines under two names; empty for equal lists. -/
def unified (firstName secondName : String) (first second : List String) : String :=
  match hunks first second with
  | [] => ""
  | found =>
    "--- " ++ firstName ++ "\n+++ " ++ secondName ++ "\n"
      ++ String.join (found.map (hunkText first second))

end TraitDocs.Diff
