/-!
# Paths

A path is a root and a list of parts. Empty parts and parts that name the directory itself are
dropped, parts that name the directory above are kept.
-/

set_option autoImplicit false

namespace TraitDocs.File

/-- A path. -/
structure Path where
  /-- The slashes in front: none, one, or exactly two. -/
  root : String
  /-- The parts between slashes. -/
  parts : List String
  deriving DecidableEq, Repr

namespace Path

/-- Puts a character in front of the parts of the text that follows it. -/
def consPart (c : Char) (parts : List (List Char)) : List (List Char) :=
  if c = '/' then [] :: parts
  else
    match parts with
    | [] => [[c]]
    | part :: rest => (c :: part) :: rest

/-- The root that a number of slashes in front stands for. -/
def rootOf (slashes : Nat) : String :=
  if slashes = 0 then "" else if slashes = 2 then "//" else "/"

/-- The path of a text. -/
def ofString (s : String) : Path :=
  let cs := s.toList
  let parts := (cs.foldr consPart [[]]).map String.ofList
  ⟨rootOf (cs.takeWhile (· == '/')).length, parts.filter fun part => part ≠ "" && part ≠ "."⟩

/-- The text of a path; the path without root and parts is a dot. -/
def toString (p : Path) : String :=
  let text := p.root ++ "/".intercalate p.parts
  if text = "" then "." else text

/-- The path without its last part. -/
def parent (p : Path) : Path :=
  { p with parts := p.parts.dropLast }

/-- Tells whether a path starts at the root of the file system. -/
def isAbsolute (p : Path) : Bool :=
  p.root ≠ ""

/-- The most bytes that a part of a path can have. -/
def maxPartSize : Nat := 255

/-- The most bytes that a path can have. -/
def maxSize : Nat := 4095

end Path

end TraitDocs.File
