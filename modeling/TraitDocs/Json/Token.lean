import TraitDocs.Json.Basic
import TraitDocs.Json.ReadError

/-!
# Tokens of a JSON text

A text is cut into tokens, each with its position, and ends with the token `finish`. A quoted text
that is not well formed is a token too, which carries its fault, and so is a character that starts
no token: whether such a token matters is for the reader of the tokens to say. A quoted text is a
list of code points, since an escape can write half a surrogate pair, which is no character.
-/

set_option autoImplicit false

namespace TraitDocs.Json

/-- The parts of a number: sign, digits before the point, digits after it, and exponent. -/
structure NumberParts where
  /-- Tells whether a minus sign stands in front. -/
  negative : Bool
  /-- The digits before the point. -/
  whole : List Char
  /-- The digits after the point, with the point if there is one. -/
  fraction : List Char
  /-- The exponent mark with its sign and digits, if there is one. -/
  exponent : List Char

/-- A token of a JSON text. -/
inductive Token
  | openBrace
  | closeBrace
  | openBracket
  | closeBracket
  | colon
  | comma
  /-- A word that stands for a value. -/
  | literal (value : Json)
  | number (parts : NumberParts)
  /-- A quoted text, by its code points. -/
  | quoted (points : List Nat)
  /-- A quoted text with a fault in it. -/
  | malformed (fault : ReadError)
  /-- A character that starts no token. -/
  | stray
  /-- The end of the text. -/
  | finish

/-- A token and the number of characters before it. -/
structure Lexeme where
  token : Token
  /-- The number of characters before the token. -/
  position : Nat

/-- Tells whether a character may stand between tokens. -/
def isSpace (c : Char) : Bool :=
  c == ' ' || c == '\t' || c == '\n' || c == '\r'

/-- The value of a hexadecimal digit. -/
def hexDigit? (c : Char) : Option Nat :=
  if '0' ≤ c ∧ c ≤ '9' then some (c.toNat - '0'.toNat)
  else if 'a' ≤ c ∧ c ≤ 'f' then some (c.toNat - 'a'.toNat + 10)
  else if 'A' ≤ c ∧ c ≤ 'F' then some (c.toNat - 'A'.toNat + 10)
  else none

/-- The value of four hexadecimal digits. -/
def hexCode? (a b c d : Char) : Option Nat :=
  match hexDigit? a, hexDigit? b, hexDigit? c, hexDigit? d with
  | some a, some b, some c, some d => some (((a * 16 + b) * 16 + c) * 16 + d)
  | _, _, _, _ => none

/-- Tells whether a code unit is the first of a surrogate pair. -/
def isHighSurrogate (n : Nat) : Bool :=
  0xD800 ≤ n && n ≤ 0xDBFF

/-- Tells whether a code unit is the second of a surrogate pair. -/
def isLowSurrogate (n : Nat) : Bool :=
  0xDC00 ≤ n && n ≤ 0xDFFF

/-- The code point of a surrogate pair. -/
def surrogatePair (high low : Nat) : Nat :=
  0x10000 + (high - 0xD800) * 0x400 + (low - 0xDC00)

/-- The character of a code point; half a surrogate pair is shown by the replacement character. -/
def charOf (point : Nat) : Char :=
  if 0xD800 ≤ point ∧ point ≤ 0xDFFF then Char.ofNat 0xFFFD else Char.ofNat point

/-- The text of code points. -/
def textOf (points : List Nat) : String :=
  String.ofList (points.map charOf)

/-- The character that a backslash and a letter stand for. -/
def escaped? (c : Char) : Option Char :=
  if c = '"' then some '"'
  else if c = '\\' then some '\\'
  else if c = '/' then some '/'
  else if c = 'b' then some '\x08'
  else if c = 'f' then some '\x0c'
  else if c = 'n' then some '\n'
  else if c = 'r' then some '\r'
  else if c = 't' then some '\t'
  else none

/-- What stands after a code unit written by its digits. -/
inductive Follower
  /-- Nothing that belongs to the unit. -/
  | other
  /-- The second unit of its pair. -/
  | second (unit : Nat)
  /-- Another `\u`, whose digits are at fault. -/
  | broken
  deriving DecidableEq, Repr

/-- What stands after the code unit `high` in the rest of a text. A `\u` is looked at only after the
first unit of a pair, and only if more text follows its four digits. -/
def followerOf (high : Nat) : List Char → Follower
  | '\\' :: 'u' :: a :: b :: c :: d :: _ :: _ =>
    if isHighSurrogate high then
      match hexCode? a b c d with
      | none => .broken
      | some low => if isLowSurrogate low then .second low else .other
    else .other
  | _ => .other

/-- Reads a quoted text from after its opening quote, which stands at `start`. The rest of the
text begins at `position`, and `done` holds the code points read, last first. The result is the
code points of the text and the position after the closing quote. -/
def scanQuoted (start position : Nat) (done : List Nat) :
    List Char → Except ReadError (List Nat × Nat)
  | [] => .error ⟨.unterminated, start⟩
  | '"' :: _ => .ok (done.reverse, position + 1)
  | '\\' :: 'u' :: a :: b :: c :: d :: rest =>
    match rest.isEmpty, hexCode? a b c d with
    | false, some unit =>
      match rest, followerOf unit rest with
      | _ :: _ :: _ :: _ :: _ :: _ :: rest', .second low =>
        scanQuoted start (position + 12) (surrogatePair unit low :: done) rest'
      | _, .broken => .error ⟨.badCodeEscape, position + 7⟩
      | rest, _ => scanQuoted start (position + 6) (unit :: done) rest
    | _, _ => .error ⟨.badCodeEscape, position + 1⟩
  | '\\' :: 'u' :: _ => .error ⟨.badCodeEscape, position + 1⟩
  | '\\' :: c :: rest =>
    match escaped? c with
    | some meant => scanQuoted start (position + 2) (meant.toNat :: done) rest
    | none => .error ⟨.badEscape, position⟩
  | ['\\'] => .error ⟨.unterminated, start⟩
  | c :: rest =>
    if c.toNat < 0x20 then .error ⟨.controlCharacter, position⟩
    else scanQuoted start (position + 1) (c.toNat :: done) rest

/-- The whole number that a run of decimal digits writes. -/
def natOfDigits (digits : List Char) : Nat :=
  digits.foldl (fun n c => n * 10 + (c.toNat - '0'.toNat)) 0

/-- The digits before the point at the front of a text: a zero, or a run that starts with another
digit. -/
def scanWhole : List Char → List Char
  | '0' :: _ => ['0']
  | cs => cs.takeWhile Char.isDigit

/-- The point and the digits after it at the front of a text. -/
def scanFraction : List Char → List Char
  | '.' :: cs =>
    match cs.takeWhile Char.isDigit with
    | [] => []
    | digits => '.' :: digits
  | _ => []

/-- The sign of an exponent at the front of a text. -/
def scanSign : List Char → List Char
  | '+' :: _ => ['+']
  | '-' :: _ => ['-']
  | _ => []

/-- The exponent at the front of a text. -/
def scanExponent : List Char → List Char
  | e :: cs =>
    if e = 'e' ∨ e = 'E' then
      let sign := scanSign cs
      match (cs.drop sign.length).takeWhile Char.isDigit with
      | [] => []
      | digits => e :: sign ++ digits
    else []
  | [] => []

/-- The longest number at the front of a text. -/
def scanNumber (cs : List Char) : Option NumberParts :=
  let negative := cs.head? == some '-'
  let afterSign := if negative then cs.drop 1 else cs
  let whole := scanWhole afterSign
  if whole.isEmpty then none
  else
    let afterWhole := afterSign.drop whole.length
    let fraction := scanFraction afterWhole
    some ⟨negative, whole, fraction, scanExponent (afterWhole.drop fraction.length)⟩

/-- The number of characters of a number. -/
def NumberParts.width (n : NumberParts) : Nat :=
  (if n.negative then 1 else 0) + n.whole.length + n.fraction.length + n.exponent.length

/-- The power of ten that an exponent part writes. -/
def NumberParts.power (n : NumberParts) : Int :=
  match n.exponent with
  | _ :: '-' :: digits => -(natOfDigits digits : Int)
  | _ :: '+' :: digits => natOfDigits digits
  | _ :: digits => natOfDigits digits
  | [] => 0

/-- Tells whether a number is whole: it has neither a point nor an exponent. -/
def NumberParts.isWhole (n : NumberParts) : Bool :=
  n.fraction.isEmpty && n.exponent.isEmpty

/-- The value of a number. -/
def NumberParts.value (n : NumberParts) : Json :=
  if n.isWhole then
    let size : Int := natOfDigits n.whole
    .int (if n.negative then -size else size)
  else
    let decimals := n.fraction.drop 1
    .float (Binary64.ofDecimal n.negative (natOfDigits (n.whole ++ decimals))
      (n.power - (decimals.length : Int)))

/-- The words that stand for a value. -/
def literals : List (String × Json) :=
  [("null", .null), ("true", .bool true), ("false", .bool false), ("NaN", .float .nan),
   ("Infinity", .float (.infinity false)), ("-Infinity", .float (.infinity true))]

/-- The number at the front of a text, or the character there, which then starts no token. -/
def numberAt (cs : List Char) : Token × Nat :=
  match scanNumber cs with
  | some number => (.number number, number.width)
  | none => (.stray, 1)

/-- The token at the front of a text, which begins at `position`, and the number of its
characters. -/
def tokenAt (position : Nat) (cs : List Char) : Token × Nat :=
  match cs with
  | [] => (.finish, 0)
  | '{' :: _ => (.openBrace, 1)
  | '}' :: _ => (.closeBrace, 1)
  | '[' :: _ => (.openBracket, 1)
  | ']' :: _ => (.closeBracket, 1)
  | ':' :: _ => (.colon, 1)
  | ',' :: _ => (.comma, 1)
  | '"' :: rest =>
    match scanQuoted position (position + 1) [] rest with
    | .ok (points, next) => (.quoted points, next - position)
    | .error fault => (.malformed fault, 1)
  | _ =>
    match literals.find? fun l => l.1.toList.isPrefixOf cs with
    | some (word, value) => (.literal value, word.length)
    | none => numberAt cs

/-- Cuts the rest of a text, which begins at `position`, into tokens. The next `skip` characters
belong to a token already cut. -/
def lexFrom (skip position : Nat) : List Char → List Lexeme
  | [] => [⟨.finish, position⟩]
  | c :: cs =>
    match skip with
    | skip + 1 => lexFrom skip (position + 1) cs
    | 0 =>
      if isSpace c then lexFrom 0 (position + 1) cs
      else
        let found := tokenAt position (c :: cs)
        ⟨found.1, position⟩ :: lexFrom (found.2 - 1) (position + 1) cs

/-- The tokens of a text. -/
def lex (cs : List Char) : List Lexeme :=
  lexFrom 0 0 cs

end TraitDocs.Json
