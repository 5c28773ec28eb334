import TraitDocs.Json.Display

/-!
# Why a generation ends early

A *failure* is a fault of the documented code or of its manifest: it has a message, and the
command line shows it. A *fault* is data of a kind that the work cannot go on with, or a file that
cannot be used; it has no message here.
-/

set_option autoImplicit false

namespace TraitDocs

/-- A failure that is reported with a message. -/
inductive Failure
  /-- A failure with details of its own. -/
  | general (details : List String)
  /-- A class has no comment. -/
  | missingClassDoc (className : String)
  /-- A public method has no comment. -/
  | missingMethodDoc (className methodName : String)
  /-- The comment of a public method has no short text. -/
  | emptyDescription (className methodName : String)
  /-- A parameter is declared and not documented, or documented and not declared. -/
  | parameterMismatch (className methodName parameter : String)
  /-- A comment holds a parameter line that cannot be read. -/
  | malformedParamTag (comment : String)
  /-- The comment of a method cannot be read; `comment` is that comment, where it is known. -/
  | unreadableMethod (className methodName : String) (comment : Option String)
  /-- A class is not known. -/
  | unknownClass (className : String)
  /-- A manifest cannot be used; `detail` is the report of what lies behind it, if there is one. -/
  | badManifest (path reason : String) (detail : Option String)
  deriving DecidableEq, Repr

namespace Failure

/-- The bar around the comment in the message about a parameter line. -/
def bar : String := "------------------"

/-- The text of details: one stands as it is, several stand quoted in parentheses. -/
def detailsText : List String → String
  | [] => ""
  | [detail] => detail
  | details => "(" ++ ", ".intercalate (details.map Json.displayQuoted) ++ ")"

/-- The message of a failure. -/
def message : Failure → String
  | .general details => detailsText details
  | .missingClassDoc className => "Missing class doc for \"" ++ className ++ "\"."
  | .missingMethodDoc className methodName =>
    "Missing doc for \"" ++ className ++ ":" ++ methodName ++ "\"."
  | .emptyDescription className methodName =>
    "Empty description for doc \"" ++ className ++ ":" ++ methodName ++ "\"."
  | .parameterMismatch className methodName parameter =>
    "Parameters description in doc of method \"" ++ className ++ ":" ++ methodName
      ++ "\" mismatched for \"" ++ parameter ++ "\"."
  | .malformedParamTag comment =>
    "Matching failed for:\n" ++ bar ++ "\n" ++ comment ++ "\n" ++ bar
  | .unreadableMethod className methodName _ =>
    "Exception when parsing \"" ++ className ++ "\", \"" ++ methodName ++ "\"."
  | .unknownClass className => "Class \"" ++ className ++ "\" does not exist."
  | .badManifest path reason _ => "Invalid manifest " ++ path ++ ": " ++ reason

/-- The failure behind a failure, if there is one. -/
def cause? : Failure → Option Failure
  | .unreadableMethod _ _ (some comment) => some (.malformedParamTag comment)
  | _ => none

/-- The text of what lies behind a failure, if there is something. -/
def causeText? : Failure → Option String
  | .badManifest _ _ detail => detail
  | failure => failure.cause?.map message

end Failure

/-- Data of a kind that the work cannot go on with, or a file that cannot be used. -/
inductive Fault
  /-- A comment is neither text nor void. -/
  | commentNotText
  /-- The name of a method is a list or an object. -/
  | methodNameCompound
  /-- Of the names of two methods, one is text and the other is not. -/
  | methodNamesMixed
  /-- The name of a method is not text. -/
  | methodNameNotText
  /-- The name of a parameter is not text. -/
  | parameterNameNotText
  /-- There is a number or a truth value where a list is due. -/
  | notAList
  /-- A log level is named that is a message format. -/
  | levelIsFormat
  /-- A log level is named that is a table of styles. -/
  | levelIsTable
  /-- The bytes of a file are not the UTF-8 form of a text. -/
  | notUtf8
  /-- A whole number has more digits than can be read. -/
  | numberTooLong
  /-- More lists and objects are open at once than can be read. -/
  | nestedTooDeep
  /-- A file is due and there is a directory. -/
  | isDirectory
  /-- A directory is due and there is a file. -/
  | fileExists
  /-- A path leads through a file. -/
  | notADirectory
  /-- There is no such file or directory. -/
  | noSuchFile
  /-- A path holds the null character. -/
  | nullInPath
  /-- A path, or one of its parts, has more bytes than the system takes. -/
  | nameTooLong
  deriving DecidableEq, Repr

/-- Why a generation ends early: a failure or a fault. -/
inductive Stop
  /-- A failure, which is reported. -/
  | failure (why : Failure)
  /-- A fault, which is not. -/
  | fault (why : Fault)
  deriving DecidableEq, Repr

end TraitDocs
