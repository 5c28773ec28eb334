/-!
# Searching a text for a pattern

`splitFirst` cuts a text around the first occurrence of a pattern, `removeFirst` leaves that
occurrence out, and `replaceAll` replaces the occurrences from left to right, none overlapping an
earlier one. The patterns are not empty.
-/

set_option autoImplicit false

namespace TraitDocs.Text

/-- Searches the rest of a text for a pattern; `before` holds what was passed over, last first. -/
def splitFirstFrom (pattern before : List Char) : List Char → Option (List Char × List Char)
  | [] => none
  | c :: cs =>
    if pattern.isPrefixOf (c :: cs) then some (before.reverse, (c :: cs).drop pattern.length)
    else splitFirstFrom pattern (c :: before) cs

/-- What stands before and after the first occurrence of a pattern, if there is one. -/
def splitFirst (pattern cs : List Char) : Option (List Char × List Char) :=
  splitFirstFrom pattern [] cs

/-- Tells whether a pattern occurs in a text. -/
def occursIn (pattern cs : List Char) : Bool :=
  (splitFirst pattern cs).isSome

/-- A text without the first occurrence of a pattern. -/
def removeFirst (pattern cs : List Char) : List Char :=
  match splitFirst pattern cs with
  | some (before, after) => before ++ after
  | none => cs

/-- Replaces the occurrences of a pattern in the rest of a text. The next `skip` characters belong
to an occurrence already replaced, and `done` holds the new text so far, last character first. -/
def replaceAllFrom (pattern new : List Char) (skip : Nat) (done : List Char) :
    List Char → List Char
  | [] => done.reverse
  | c :: cs =>
    match skip with
    | skip + 1 => replaceAllFrom pattern new skip done cs
    | 0 =>
      if pattern.isPrefixOf (c :: cs) then
        replaceAllFrom pattern new (pattern.length - 1) (new.reverse ++ done) cs
      else replaceAllFrom pattern new 0 (c :: done) cs

/-- A text with every occurrence of a pattern replaced, from left to right. -/
def replaceAll (pattern new cs : List Char) : List Char :=
  replaceAllFrom pattern new 0 [] cs

end TraitDocs.Text
