/-!
# Requests on the command line

The command line names a group and one of its two commands, then classes and options in any order.
An option takes its value from after an equals sign or from the next argument, and the last one
counts; after `--` every argument is a class. Asking for help counts only if nothing else at its
level is wrong; where a command is due and none of that name is known, the arguments from there on
can still ask for help.
-/

set_option autoImplicit false

namespace TraitDocs.Command

/-- The arguments of a command. -/
structure Arguments where
  classes : List String := []
  /-- The path of the manifest, if it is given. -/
  manifest : Option String := none
  /-- The path of the document, if it is given. -/
  document : Option String := none
  /-- Tells whether help is asked for. -/
  help : Bool := false
  deriving DecidableEq, Repr

/-- What a command line asks for. -/
inductive Request
  | help
  /-- Nothing that can be done. -/
  | misuse
  /-- To write the document. -/
  | run (args : Arguments)
  /-- To compare the document with the one that would be written. -/
  | check (args : Arguments)
  deriving DecidableEq, Repr

/-- Tells whether an argument is an option. -/
def isOption (arg : String) : Bool :=
  arg.toList.head? == some '-' && 1 < arg.length

/-- The name of an option and the value after its equals sign, if there is one. -/
def splitOption (arg : String) : String × Option String :=
  let cs := arg.toList
  let name := cs.takeWhile (· != '=')
  match cs.drop name.length with
  | _ :: value => (String.ofList name, some (String.ofList value))
  | [] => (arg, none)

/-- An option of a command. -/
inductive Switch
  | help
  | manifest
  | document
  deriving DecidableEq, Repr

/-- The option of a name; `documentName` is the name of the option for the document. -/
def switch? (documentName name : String) : Option Switch :=
  if name = "--help" then some .help
  else if name = "--manifest" then some .manifest
  else if name = documentName then some .document
  else none

/-- Gives an option its value. -/
def Arguments.set (args : Arguments) (switch : Switch) (value : String) : Arguments :=
  match switch with
  | .help => args
  | .manifest => { args with manifest := some value }
  | .document => { args with document := some value }

/-- Reads the arguments of a command; none if they are misused. -/
def readArguments (documentName : String) (args : Arguments) : List String → Option Arguments
  | [] => some args
  | arg :: rest =>
    if arg = "--" then some { args with classes := args.classes ++ rest }
    else if isOption arg then
      let option := splitOption arg
      match switch? documentName option.1, option.2 with
      | none, _ => none
      | some .help, some _ => none
      | some .help, none => readArguments documentName { args with help := true } rest
      | some switch, some value => readArguments documentName (args.set switch value) rest
      | some switch, none =>
        match rest with
        | value :: rest => readArguments documentName (args.set switch value) rest
        | [] => none
    else readArguments documentName { args with classes := args.classes ++ [arg] } rest

/-- What a group of commands is asked for. -/
inductive GroupRequest
  | help
  /-- Nothing that can be done. -/
  | misuse
  /-- The command of this name, with the arguments after it. -/
  | command (name : String) (args : List String)
  deriving DecidableEq, Repr

/-- The command after the options of a group, unless help was asked for. -/
def commandOf (help : Bool) (args : List String) : GroupRequest :=
  if help then .help
  else
    match args with
    | [] => .misuse
    | name :: args => .command name args

/-- Reads the arguments of a group, whose only option asks for help. -/
def readGroup (help : Bool) : List String → GroupRequest
  | [] => commandOf help []
  | arg :: rest =>
    if arg = "--" then commandOf help rest
    else if isOption arg then if arg = "--help" then readGroup true rest else .misuse
    else commandOf help (arg :: rest)

/-- The request of arguments whose first names no command that is known. -/
def unknownCommand (args : List String) : Request :=
  match readGroup false args with
  | .help => .help
  | _ => .misuse

/-- Tells whether the paths that are given can be paths: none holds the null character. -/
def Arguments.pathsAllowed (args : Arguments) : Bool :=
  [args.manifest, args.document].all fun path => !(path.getD "").toList.contains '\x00'

/-- The request of a command with these arguments. -/
def requestOf (command : Arguments → Request) (args : Option Arguments) : Request :=
  match args with
  | none => .misuse
  | some args =>
    if args.help then .help
    else if args.pathsAllowed then command args
    else .misuse

/-- Reads the name and the arguments of a command. -/
def readCommand (name : String) (args : List String) : Request :=
  if name = "run" then requestOf .run (readArguments "--out" {} args)
  else if name = "check" then requestOf .check (readArguments "--readme" {} args)
  else unknownCommand (name :: args)

/-- Reads a command line. -/
def readLine (args : List String) : Request :=
  match readGroup false args with
  | .help => .help
  | .misuse => .misuse
  | .command group args =>
    if group = "readme" then
      match readGroup false args with
      | .help => .help
      | .misuse => .misuse
      | .command name args => readCommand name args
    else unknownCommand (group :: args)

end TraitDocs.Command
