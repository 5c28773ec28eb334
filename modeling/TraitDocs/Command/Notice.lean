import TraitDocs.Text.Markup

/-!
# Notices

What a command tells its user. A notice has a text, and a form in console markup, in which
failures are red, a stale document is yellow, and everything that comes from outside is escaped.
-/

set_option autoImplicit false

namespace TraitDocs.Command

/-- Something that a command tells its user. -/
inductive Notice
  /-- The document could not be generated. -/
  | failed (message : String)
  /-- What lies behind the failure. -/
  | cause (text : String)
  /-- The document has been written to this path. -/
  | generated (path : String)
  /-- The document at this path is as it would be written. -/
  | upToDate (path : String)
  /-- The difference between the document as it is and as it would be written. -/
  | difference (text : String)
  /-- The document at this path is not as it would be written. -/
  | stale (path : String)
  deriving DecidableEq, Repr

namespace Notice

/-- The words of a notice; `prepare` is applied to what comes from outside, paths apart. -/
def wording (prepare : String → String) : Notice → String
  | .failed message => "❌ " ++ prepare message
  | .cause text => prepare text
  | .generated path => "📄 README generated at " ++ path
  | .upToDate path => "✅ " ++ path ++ " is up-to-date."
  | .difference text => prepare text
  | .stale path => "⚠️  " ++ path ++ " is stale, regenerate it with `assertdocs readme run`."

/-- The colour of a notice, if it has one. -/
def colour? : Notice → Option String
  | .failed _ => some "red"
  | .cause _ => some "red"
  | .stale _ => some "yellow"
  | _ => none

/-- The text of a notice. -/
def text (n : Notice) : String :=
  n.wording id

/-- A notice in console markup. -/
def markup (n : Notice) : String :=
  let words := n.wording Text.escapeMarkup
  match n.colour? with
  | some colour => "[" ++ colour ++ "]" ++ words ++ "[/" ++ colour ++ "]"
  | none => words

end Notice

end TraitDocs.Command
