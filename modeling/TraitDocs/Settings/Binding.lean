import TraitDocs.Text.Blank

/-!
# The bindings of a settings file

A settings file binds keys to values, one binding a line; a quoted value may go over several
lines. A line that is not a binding is passed over, from the place where reading fails to the end
of that line. Line breaks are line feeds.
-/

set_option autoImplicit false

namespace TraitDocs.Settings

/-- A key and the value bound to it, if a value is given. -/
structure Binding where
  key : String
  /-- The value as written, quotes and escapes resolved. -/
  value : Option String
  deriving DecidableEq, Repr

/-- The result of reading at the front of a text: what was read and the rest, or the rest at the
place where reading failed. -/
abbrev Reading (α : Type) := Except (List Char) (α × List Char)

/-- Tells whether a character is blank and does not end the line. -/
def isGap (c : Char) : Bool :=
  Text.isBlank c && !Text.isLineBreak c

/-- Passes over the blanks of a line. -/
def skipGap (cs : List Char) : List Char :=
  cs.dropWhile isGap

/-- Passes over the rest of a line. -/
def skipLine (cs : List Char) : List Char :=
  cs.dropWhile fun c => !Text.isLineBreak c

/-- Passes over the word `export` and the blanks after it, if they are there. -/
def skipExport (cs : List Char) : List Char :=
  let word := "export".toList
  let rest := cs.drop word.length
  if word.isPrefixOf cs && (rest.head?.map isGap).getD false then skipGap rest else cs

/-- Tells whether a character may stand in a key without quotes. -/
def isKeyChar (c : Char) : Bool :=
  c != '=' && c != '#' && !Text.isBlank c

/-- Reads a key: none in front of a comment, else a text in single quotes or a run of key
characters. -/
def readKey (cs : List Char) : Reading (Option String) :=
  match cs with
  | '#' :: _ => .ok (none, cs)
  | '\'' :: rest =>
    let key := rest.takeWhile (· != '\'')
    match key, rest.dropWhile (· != '\'') with
    | _ :: _, '\'' :: after => .ok (some (String.ofList key), after)
    | _, _ => .error cs
  | _ =>
    let key := cs.takeWhile isKeyChar
    if key.isEmpty then .error cs
    else .ok (some (String.ofList key), cs.dropWhile isKeyChar)

/-- Reads up to a closing quote; a backslash takes the next character along. What was read so far
stands in `done`, last character first. -/
def readQuoted (quote : Char) (done : List Char) : List Char → Option (List Char × List Char)
  | [] => none
  | c :: cs =>
    if c = quote then some (done.reverse, cs)
    else if c = '\\' then
      match cs with
      | [] => none
      | d :: ds => readQuoted quote (d :: '\\' :: done) ds
    else readQuoted quote (c :: done) cs

/-- The characters that a backslash escapes in single quotes. -/
def singleEscapes : List (Char × Char) :=
  [('\\', '\\'), ('\'', '\'')]

/-- The characters that a backslash escapes in double quotes. -/
def doubleEscapes : List (Char × Char) :=
  [('\\', '\\'), ('\'', '\''), ('"', '"'), ('a', '\x07'), ('b', '\x08'), ('f', '\x0c'), ('n', '\n'),
   ('r', '\r'), ('t', '\t'), ('v', '\x0b')]

/-- Resolves the escapes of a quoted value; a backslash before any other character stays. -/
def resolveEscapes (escapes : List (Char × Char)) : List Char → List Char
  | '\\' :: c :: cs =>
    match escapes.find? fun e => e.1 = c with
    | some (_, meant) => meant :: resolveEscapes escapes cs
    | none => '\\' :: c :: resolveEscapes escapes cs
  | c :: cs => c :: resolveEscapes escapes cs
  | [] => []

/-- The part of a value without quotes that stands before a comment: a number sign after a blank
starts one. -/
def beforeComment (afterBlank : Bool) : List Char → List Char
  | [] => []
  | c :: cs => if afterBlank && c == '#' then [] else c :: beforeComment (Text.isBlank c) cs

/-- Reads a value in quotes whose opening quote has been read at the front of `start`. -/
def readQuotedValue (quote : Char) (escapes : List (Char × Char)) (start rest : List Char) :
    Reading String :=
  match readQuoted quote [] rest with
  | some (value, after) => .ok (String.ofList (resolveEscapes escapes value), after)
  | none => .error start

/-- Reads a value: in single quotes, in double quotes, or the rest of the line before a comment. -/
def readValue (cs : List Char) : Reading String :=
  match cs with
  | '\'' :: rest => readQuotedValue '\'' singleEscapes cs rest
  | '"' :: rest => readQuotedValue '"' doubleEscapes cs rest
  | _ =>
    let line := cs.takeWhile fun c => !Text.isLineBreak c
    .ok (String.ofList (Text.trimEnd (beforeComment false line)), skipLine cs)

/-- Reads what stands after a key: an equals sign and a value, or nothing. A comment after the
equals sign and a blank leaves the value empty. -/
def readAssigned (cs : List Char) : Reading (Option String) :=
  match cs with
  | '=' :: rest =>
    let start := skipGap rest
    if start.length < rest.length && start.head? == some '#' then .ok (some "", start)
    else
      match readValue start with
      | .ok (value, after) => .ok (some value, after)
      | .error place => .error place
  | _ => .ok (none, cs)

/-- Passes over a comment and the blanks before it, if there is one. -/
def skipComment (cs : List Char) : List Char :=
  let start := skipGap cs
  if start.head? == some '#' then skipLine start else cs

/-- Passes over the end of a line, with the blanks before it. -/
def readLineEnd (cs : List Char) : Reading Unit :=
  match skipGap cs with
  | [] => .ok ((), [])
  | c :: rest => if Text.isLineBreak c then .ok ((), rest) else .error cs

/-- Reads a binding, or a comment, at the front of a text. -/
def readBinding (cs : List Char) : Except (List Char) (Option Binding × List Char) := do
  let (key, rest) ← readKey (skipExport cs)
  let (value, rest) ← readAssigned (skipGap rest)
  let (_, rest) ← readLineEnd (skipComment rest)
  .ok (key.map fun key => ⟨key, value⟩, rest)

/-- Reads one binding and passes over its line if that fails. -/
def nextBinding (cs : List Char) : Option Binding × List Char :=
  match readBinding cs with
  | .ok found => found
  | .error place => (none, (skipLine place).drop 1)

/-- The bindings of a text, in order. -/
def bindings (cs : List Char) : List Binding :=
  match Text.trimStart cs with
  | [] => []
  | c :: rest =>
    let found := nextBinding (c :: rest)
    if found.2.length < cs.length then found.1.toList ++ bindings found.2 else found.1.toList
termination_by cs.length

end TraitDocs.Settings
