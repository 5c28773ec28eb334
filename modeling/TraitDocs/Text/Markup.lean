/-!
# Console markup

In console markup a tag is a bracket with a lower-case letter or one of three signs after it, up
to the next closing bracket, with no opening bracket between. Escaping keeps a text from being
taken for markup: a backslash goes in front of every tag, and the backslashes already there are
doubled.
-/

set_option autoImplicit false

namespace TraitDocs.Text

/-- Tells whether a character may follow the bracket of a tag. -/
def startsTag (c : Char) : Bool :=
  ('a' ≤ c && c ≤ 'z') || c == '#' || c == '/' || c == '@'

/-- The number of characters of the tag at the front of a text, if there is one. -/
def tagWidth? : List Char → Option Nat
  | '[' :: c :: rest =>
    let inner := rest.takeWhile fun d => d != '[' && d != ']'
    if startsTag c && (rest.drop inner.length).head? == some ']' then some (inner.length + 3)
    else none
  | _ => none

/-- Escapes the tags in the rest of a text. The next `copy` characters belong to a tag, `slashes`
backslashes stand right before, and `done` is the new text so far, last character first. -/
def escapeFrom (copy slashes : Nat) (done : List Char) : List Char → List Char
  | [] => done.reverse
  | c :: cs =>
    match copy with
    | copy + 1 => escapeFrom copy 0 (c :: done) cs
    | 0 =>
      if c = '\\' then escapeFrom 0 (slashes + 1) (c :: done) cs
      else
        match tagWidth? (c :: cs) with
        | some width => escapeFrom (width - 1) 0 (c :: List.replicate (slashes + 1) '\\' ++ done) cs
        | none => escapeFrom 0 0 (c :: done) cs

/-- Doubles a single backslash at the end of a text. -/
def closeBackslash (cs : List Char) : List Char :=
  if (cs.reverse.takeWhile (· == '\\')).length = 1 then cs ++ ['\\'] else cs

/-- A text that markup shows as it is. -/
def escapeMarkup (s : String) : String :=
  String.ofList (closeBackslash (escapeFrom 0 0 [] s.toList))

end TraitDocs.Text
