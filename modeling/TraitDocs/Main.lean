import TraitDocs.Command.Execution

/-!
# The command line program

Looks at the files that a command line can concern, executes it on the file tree that they make
up, and then does to the files what was done to the tree.
-/

set_option autoImplicit false

namespace TraitDocs.Main

open File

/-- The name that the system uses for a location. -/
def systemName (l : Location) : String :=
  "/" ++ "/".intercalate l

/-- Looks at what stands at a location. -/
def look (l : Location) : IO (Option Node) := do
  let place := (← IO.currentDir) / systemName l
  if ← place.isDir then
    return some .directory
  else if ← place.pathExists then
    return some (.file (← IO.FS.readBinFile place))
  else
    return none

/-- Adds what stands at a location to a tree. -/
def survey (t : Tree) (l : Location) : IO Tree := do
  match ← look l with
  | some n => return t.put l n
  | none => return t

/-- The locations that the parts of a path lead through. -/
def route (l : Location) : List String → List Location
  | [] => [l]
  | part :: parts => l :: route (if part = ".." then l.dropLast else l ++ [part]) parts

/-- Adds what stands along a path to a tree. -/
def surveyPath (t : Tree) (p : Path) : IO Tree :=
  (route (if p.isAbsolute then [] else t.workingDirectory) p.parts).foldlM survey t

/-- The paths that a request can concern. -/
def concerned (settings : Settings) : Command.Request → List Path
  | .run args => [Command.manifestPath settings args, Command.documentPath settings args]
  | .check args => [Command.manifestPath settings args, Command.documentPath settings args]
  | _ => []

/-- The file tree that a command line can concern. -/
def surveyFor (args : List String) : IO Tree := do
  let here := (Path.ofString (← IO.currentDir).toString).parts
  let start ← surveyPath ⟨[], .empty⟩ ⟨"/", here⟩
  let t ← surveyPath { start with workingDirectory := here } Command.settingsPath
  match Command.settingsOf t with
  | .ok settings => (concerned settings (Command.readLine args)).foldlM surveyPath t
  | .error _ => return t

/-- Does to the file at a location what was done to the tree. -/
def apply (before : Tree) (l : Location) (n : Node) : IO Unit := do
  let place := (← IO.currentDir) / systemName l
  match before.node? l, n with
  | none, .directory => IO.FS.createDir place
  | some (.file old), .file new =>
    if old.toList == new.toList then return else IO.FS.writeBinFile place new
  | none, .file new => IO.FS.writeBinFile place new
  | _, _ => return

/-- The words for a fault. -/
def faultText : Fault → String
  | .commentNotText => "a comment is not text"
  | .methodNameCompound => "the name of a method is a list or an object"
  | .methodNamesMixed => "the names of methods are of two kinds"
  | .methodNameNotText => "the name of a method is not text"
  | .parameterNameNotText => "the name of a parameter is not text"
  | .notAList => "a list was expected"
  | .levelIsFormat => "the log level is a message format"
  | .levelIsTable => "the log level is a table of styles"
  | .notUtf8 => "a file is not UTF-8 text"
  | .numberTooLong => "a number has too many digits"
  | .nestedTooDeep => "lists and objects are nested too deep"
  | .isDirectory => "a file was expected, not a directory"
  | .fileExists => "a directory was expected, not a file"
  | .notADirectory => "a path leads through a file"
  | .noSuchFile => "there is no such file or directory"
  | .nullInPath => "a path holds the null character"
  | .nameTooLong => "a path is too long"

end TraitDocs.Main

/-- Executes a command line on the files of the system. -/
def main (args : List String) : IO UInt32 := do
  let before ← TraitDocs.Main.surveyFor args
  let outcome := TraitDocs.Command.execute TraitDocs.Command.standardLimits before args
  for event in outcome.log do
    IO.eprintln (event.level.name ++ " " ++ event.message)
  for node in outcome.tree.nodes.entries do
    TraitDocs.Main.apply before node.1 node.2
  for notice in outcome.notices do
    IO.println notice.text
  match outcome.ending with
  | .exit code => return code.toUInt32
  | .fault why =>
    IO.eprintln (TraitDocs.Main.faultText why)
    return 1
