import TraitDocs.Json.Token
import TraitDocs.OrderedMap

/-!
# Reading a JSON document

A machine takes the tokens one after the other and keeps a stack of the lists and objects that are
still open. The first token that cannot follow decides the fault, and so does the first that goes
beyond a limit. An object with a repeated name keeps the first place of the name and its last value;
names are told apart by their code points.
-/

set_option autoImplicit false

namespace TraitDocs.Json

/-- A list or an object that waits for a value; what it holds so far stands last first. -/
inductive Frame
  /-- A list with its items. -/
  | items (done : List Json)
  /-- An object with its fields and the name of the field whose value is due. -/
  | fields (done : List (List Nat × Json)) (name : List Nat)

/-- What the machine expects next. -/
inductive Expectation
  | value
  /-- A value or the end of an empty list. -/
  | itemOrEnd
  /-- The name of a field of an object with these fields. -/
  | name (done : List (List Nat × Json))
  /-- A name or the end of an empty object. -/
  | nameOrEnd
  /-- The colon after the name of a field. -/
  | colon (done : List (List Nat × Json)) (name : List Nat)
  /-- What may follow the value just read. -/
  | afterValue (read : Json)

/-- The object of fields read one after the other, given last first. -/
def objectOf (done : List (List Nat × Json)) : Json :=
  .object ((OrderedMap.ofList done.reverse).entries.map fun e => (textOf e.1, e.2))

/-- The next state of the machine: a value that ends the document, or a stack and an expectation. -/
inductive Move
  | accept (value : Json)
  /-- The machine goes on. -/
  | next (stack : List Frame) (expect : Expectation)

/-- Refuses a document for what is wrong at a token. -/
def refuse (problem : Problem) (l : Lexeme) : Except Refusal Move :=
  .error (.wrong ⟨problem, l.position⟩)

/-- Opens a list or an object inside those that are open, if there is room for it. -/
def openInside (limits : Limits) (stack : List Frame) (expect : Expectation) :
    Except Refusal Move :=
  if limits.depth ≤ stack.length then .error (.beyond .depth) else .ok (.next stack expect)

/-- Takes a number, unless it is whole and too long. -/
def takeNumber (limits : Limits) (stack : List Frame) (n : NumberParts) : Except Refusal Move :=
  if n.isWhole ∧ limits.digits < n.whole.length then .error (.beyond .digits)
  else .ok (.next stack (.afterValue n.value))

/-- Takes a token where a value is due. -/
def takeValue (limits : Limits) (stack : List Frame) (l : Lexeme) : Except Refusal Move :=
  match l.token with
  | .literal value => .ok (.next stack (.afterValue value))
  | .number parts => takeNumber limits stack parts
  | .quoted points => .ok (.next stack (.afterValue (.str (textOf points))))
  | .openBracket => openInside limits stack .itemOrEnd
  | .openBrace => openInside limits stack .nameOrEnd
  | .malformed fault => .error (.wrong fault)
  | _ => refuse .expectingValue l

/-- Takes a token where the name of a field is due. -/
def takeName (stack : List Frame) (done : List (List Nat × Json)) (l : Lexeme) :
    Except Refusal Move :=
  match l.token with
  | .quoted points => .ok (.next stack (.colon done points))
  | .malformed fault => .error (.wrong fault)
  | _ => refuse .expectingName l

/-- Takes the token after a value. -/
def takeAfter (stack : List Frame) (read : Json) (l : Lexeme) : Except Refusal Move :=
  match stack with
  | [] =>
    match l.token with
    | .finish => .ok (.accept read)
    | _ => refuse .extraData l
  | .items done :: outer =>
    match l.token with
    | .comma => .ok (.next (.items (read :: done) :: outer) .value)
    | .closeBracket => .ok (.next outer (.afterValue (.array (read :: done).reverse)))
    | _ => refuse .expectingComma l
  | .fields done name :: outer =>
    match l.token with
    | .comma => .ok (.next outer (.name ((name, read) :: done)))
    | .closeBrace => .ok (.next outer (.afterValue (objectOf ((name, read) :: done))))
    | _ => refuse .expectingComma l

/-- One step of the machine. -/
def step (limits : Limits) (stack : List Frame) (expect : Expectation) (l : Lexeme) :
    Except Refusal Move :=
  match expect with
  | .value => takeValue limits stack l
  | .itemOrEnd =>
    match l.token with
    | .closeBracket => .ok (.next stack (.afterValue (.array [])))
    | _ => takeValue limits (.items [] :: stack) l
  | .name done => takeName stack done l
  | .nameOrEnd =>
    match l.token with
    | .closeBrace => .ok (.next stack (.afterValue (.object [])))
    | _ => takeName stack [] l
  | .colon done name =>
    match l.token with
    | .colon => .ok (.next (.fields done name :: stack) .value)
    | _ => refuse .expectingColon l
  | .afterValue read => takeAfter stack read l

/-- Runs the machine over the tokens. -/
def readFrom (limits : Limits) (stack : List Frame) (expect : Expectation) :
    List Lexeme → Except Refusal Json
  | [] => .error (.wrong ⟨.expectingValue, 0⟩)
  | l :: ls =>
    match step limits stack expect l with
    | .error why => .error why
    | .ok (.accept value) => .ok value
    | .ok (.next stack expect) => readFrom limits stack expect ls

/-- The value that tokens write. -/
def readTokens (limits : Limits) (ls : List Lexeme) : Except Refusal Json :=
  readFrom limits [] .value ls

/-- The value of a document. -/
def parseChars (limits : Limits) (cs : List Char) : Except Refusal Json :=
  if cs.head? == some '\uFEFF' then .error (.wrong ⟨.byteOrderMark, 0⟩)
  else readTokens limits (lex cs)

/-- The value of a document. -/
def parse (limits : Limits) (text : String) : Except Refusal Json :=
  parseChars limits text.toList

end TraitDocs.Json
