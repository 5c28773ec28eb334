import TraitDocs.Catalog
import TraitDocs.Command.Notice
import TraitDocs.Command.Request
import TraitDocs.Diff.Unified
import TraitDocs.File.Tree
import TraitDocs.Manifest
import TraitDocs.Settings.Basic

/-!
# Executing a request

A request is executed on a file tree. The settings give the log level before anything else is
done. Both commands generate the document from a manifest; one writes it to its file, the other
compares it with the file and shows the difference. A failure is reported and ends with code 2, a
stale document with code 1; a fault ends the work without a code. What a manifest can hold at most
is given to every execution.
-/

set_option autoImplicit false

namespace TraitDocs.Command

/-- How an execution ends. -/
inductive Ending
  | exit (code : Nat)
  | fault (why : Fault)
  deriving DecidableEq, Repr

/-- What an execution does. -/
structure Outcome where
  ending : Ending
  /-- What it tells its user, in order. -/
  notices : List Notice := []
  /-- The log lines that it writes. -/
  log : List Log.Event := []
  /-- The file tree after it. -/
  tree : File.Tree

/-- The settings file. -/
def settingsPath : File.Path := .ofString ".env"

/-- The manifest, unless the settings or the arguments name another. -/
def defaultManifest : String := "readme-manifest.json"

/-- The document, unless the settings or the arguments name another. -/
def defaultDocument : String := "README.md"

/-- The settings of a file tree; without a settings file there are none. -/
def settingsOf (t : File.Tree) : Except Fault Settings :=
  match t.read settingsPath with
  | .ok bytes => Settings.ofBytes bytes
  | .error _ => .ok .empty

/-- The log level that the settings ask for. -/
def levelOf (settings : Settings) : Except Fault Log.Level :=
  Log.Level.ofName (settings.valueOr "ASSERTDOCS_LOG_LEVEL" "INFO")

/-- The path of the manifest. -/
def manifestPath (settings : Settings) (args : Arguments) : File.Path :=
  .ofString (args.manifest.getD (settings.valueOr "ASSERTDOCS_MANIFEST" defaultManifest))

/-- The path of the document. -/
def documentPath (settings : Settings) (args : Arguments) : File.Path :=
  .ofString (args.document.getD (settings.valueOr "ASSERTDOCS_README" defaultDocument))

/-- The number and the words of the system for a file that cannot be read. -/
def systemError? : Fault → Option (Nat × String)
  | .noSuchFile => some (2, "No such file or directory")
  | .notADirectory => some (20, "Not a directory")
  | .isDirectory => some (21, "Is a directory")
  | .nameTooLong => some (36, "File name too long")
  | _ => none

/-- Why a manifest cannot be read. -/
def unreadable (path : File.Path) (fault : Fault) : Stop :=
  match systemError? fault with
  | some (number, words) =>
    .failure (.badManifest path.toString ("cannot be read (" ++ words ++ ")")
      (some ("[Errno " ++ toString number ++ "] " ++ words ++ ": "
        ++ Json.displayQuoted path.toString)))
  | none => .fault fault

/-- The manifest at a path. -/
def readManifest (limits : Json.Limits) (t : File.Tree) (path : File.Path) : Except Stop Manifest :=
  match t.read path with
  | .error fault => .error (unreadable path fault)
  | .ok bytes =>
    match Text.decode bytes with
    | .error fault => .error (.fault fault)
    | .ok text => Manifest.ofText limits path.toString text

/-- Generates the document of the classes asked for, or of all classes of the manifest. -/
def generate (limits : Json.Limits) (t : File.Tree) (manifest : File.Path)
    (classes : List String) : List Log.Event × Except Stop String :=
  match readManifest limits t manifest with
  | .error stop => ([], .error stop)
  | .ok m =>
    let names := if classes.isEmpty then m.classNames else classes
    let (journal, outcome) := Catalog.generate m.reflect Readme.builtInTemplate names
    (journal.events, outcome)

/-- What the user is told of a failure, and of what lies behind it. -/
def failureNotices (failure : Failure) : List Notice :=
  .failed failure.message :: (failure.causeText?.map Notice.cause).toList

/-- The outcome of a generation that stopped. -/
def stopped (t : File.Tree) (log : List Log.Event) : Stop → Outcome
  | .failure failure =>
    { ending := .exit 2, notices := failureNotices failure, log := log, tree := t }
  | .fault fault => { ending := .fault fault, log := log, tree := t }

/-- Writes a document, and before it the directories above that are missing. -/
def writeDocument (t : File.Tree) (path : File.Path) (content : String) :
    File.Tree × Option Fault :=
  match t.makeDirectories path.parent with
  | (t, some fault) => (t, some fault)
  | (t, none) => t.write path (Text.encode content)

/-- Writes the document. -/
def run (limits : Json.Limits) (t : File.Tree) (settings : Settings) (level : Log.Level)
    (args : Arguments) : Outcome :=
  let (events, outcome) := generate limits t (manifestPath settings args) args.classes
  let log := Log.written level events
  match outcome with
  | .error stop => stopped t log stop
  | .ok content =>
    let path := documentPath settings args
    match writeDocument t path content with
    | (t, some fault) => { ending := .fault fault, log := log, tree := t }
    | (t, none) =>
      { ending := .exit 0
        notices := [.generated path.toString]
        log := log
        tree := t }

/-- Tells whether a file cannot be read because nothing stands, or can stand, at its path. -/
def nothingThere (fault : Fault) : Bool :=
  fault = .noSuchFile || fault = .notADirectory || fault = .nullInPath

/-- The text of the document at a path; empty if nothing stands there. -/
def currentDocument (t : File.Tree) (path : File.Path) : Except Fault (List Char) :=
  match t.read path with
  | .ok bytes => Text.decode bytes
  | .error fault => if nothingThere fault then .ok [] else .error fault

/-- The difference between the document as it is and as it would be written. -/
def staleness (name : String) (actual expected : List Char) : String :=
  let lines (cs : List Char) := (Text.linesKeepingEnds cs).map String.ofList
  Diff.unified name "generated" (lines actual) (lines expected)

/-- Compares the document with the one that would be written. -/
def check (limits : Json.Limits) (t : File.Tree) (settings : Settings) (level : Log.Level)
    (args : Arguments) : Outcome :=
  let (events, outcome) := generate limits t (manifestPath settings args) args.classes
  let log := Log.written level events
  match outcome with
  | .error stop => stopped t log stop
  | .ok content =>
    let path := documentPath settings args
    let name := path.toString
    match currentDocument t path with
    | .error fault => { ending := .fault fault, log := log, tree := t }
    | .ok actual =>
      if actual = content.toList then
        { ending := .exit 0, notices := [.upToDate name], log := log, tree := t }
      else
        { ending := .exit 1
          notices := [.difference (staleness name actual content.toList), .stale name]
          log := log
          tree := t }

/-- Executes a request. -/
def perform (limits : Json.Limits) (t : File.Tree) (settings : Settings) (level : Log.Level) :
    Request → Outcome
  | .help => { ending := .exit 0, tree := t }
  | .misuse => { ending := .exit 2, tree := t }
  | .run args => run limits t settings level args
  | .check args => check limits t settings level args

/-- The limits that the program works with. -/
def standardLimits : Json.Limits where
  depth := 960

/-- Executes a command line. -/
def execute (limits : Json.Limits) (t : File.Tree) (args : List String) : Outcome :=
  match settingsOf t with
  | .error fault => { ending := .fault fault, tree := t }
  | .ok settings =>
    match levelOf settings with
    | .error fault => { ending := .fault fault, tree := t }
    | .ok level => perform limits t settings level (readLine args)

end TraitDocs.Command
