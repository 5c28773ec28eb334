import TraitDocs.Text.Blank

/-!
# Lines of a text

Three readings of a text as lines: `pieces` cuts at every carriage return and line feed and drops
them, `linesKeepingEnds` cuts after every line end of the Unicode standard and keeps it, and
`unifyBreaks` writes every line break as one line feed.
-/

set_option autoImplicit false

namespace TraitDocs.Text

/-- Puts a character in front of the pieces of the text that follows it. -/
def consPiece (c : Char) (pieces : List (List Char)) : List (List Char) :=
  if isLineBreak c then [] :: pieces
  else
    match pieces with
    | [] => [[c]]
    | piece :: rest => (c :: piece) :: rest

/-- The pieces of a text between its carriage returns and line feeds, empty ones included. -/
def pieces (cs : List Char) : List (List Char) :=
  cs.foldr consPiece [[]]

/-- Tells whether a character ends a line by the Unicode standard, or is one of the first three
information separators. -/
def endsLine (c : Char) : Bool :=
  inClass [⟨0x0A, 0x0D⟩, ⟨0x1C, 0x1E⟩, ⟨0x85, 0x85⟩, ⟨0x2028, 0x2029⟩] c

/-- Puts a character in front of the lines of the text that follows it. A carriage return joins the
line feed right after it. -/
def consLine (c : Char) (lines : List (List Char)) : List (List Char) :=
  match lines with
  | [] => [[c]]
  | line :: rest =>
    if endsLine c && !(c == '\r' && line.head? == some '\n') then [c] :: line :: rest
    else (c :: line) :: rest

/-- The lines of a text, each with the line end that closes it. -/
def linesKeepingEnds (cs : List Char) : List (List Char) :=
  cs.foldr consLine []

/-- Writes the line breaks of the rest of a text as line feeds; `done` is the text so far, last
character first. -/
def unifyBreaksFrom (done : List Char) : List Char → List Char
  | [] => done.reverse
  | '\r' :: '\n' :: cs => unifyBreaksFrom ('\n' :: done) cs
  | '\r' :: cs => unifyBreaksFrom ('\n' :: done) cs
  | c :: cs => unifyBreaksFrom (c :: done) cs

/-- A text with each carriage return, and each pair of carriage return and line feed, written as one
line feed. -/
def unifyBreaks (cs : List Char) : List Char :=
  unifyBreaksFrom [] cs

end TraitDocs.Text
