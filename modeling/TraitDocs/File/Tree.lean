import TraitDocs.Failure
import TraitDocs.File.Path
import TraitDocs.OrderedMap

/-!
# File trees

A file tree says what stands at each location: a file with its bytes, or a directory. A path leads
through directories to a location; a part that names the directory above leads back up.
-/

set_option autoImplicit false

namespace TraitDocs.File

/-- A location: the names from the root of the file system down. -/
abbrev Location := List String

/-- What stands at a location. -/
inductive Node
  | file (bytes : ByteArray)
  | directory

/-- A file tree with the directory in which relative paths start. -/
structure Tree where
  /-- Where relative paths start. -/
  workingDirectory : Location
  /-- What stands at the locations below the root. -/
  nodes : OrderedMap Location Node

namespace Tree

/-- What stands at a location; the root is a directory. -/
def node? (t : Tree) (l : Location) : Option Node :=
  if l = [] then some .directory else t.nodes.get? l

/-- Follows the parts of a path from a location. Every location before the last must be a
directory, and the name of none may be too long. -/
def follow (t : Tree) (l : Location) : List String → Except Fault Location
  | [] => .ok l
  | part :: parts =>
    match t.node? l with
    | some .directory =>
      if part = ".." then t.follow l.dropLast parts
      else if Path.maxPartSize < part.utf8ByteSize then .error .nameTooLong
      else t.follow (l ++ [part]) parts
    | some (.file _) => .error .notADirectory
    | none => .error .noSuchFile

/-- The location that a path leads to, whether something stands there or not. -/
def locate (t : Tree) (p : Path) : Except Fault Location :=
  if p.parts.any fun part => part.toList.contains '\x00' then .error .nullInPath
  else if Path.maxSize < p.toString.utf8ByteSize then .error .nameTooLong
  else t.follow (if p.isAbsolute then [] else t.workingDirectory) p.parts

/-- The bytes of the file at a path. -/
def read (t : Tree) (p : Path) : Except Fault ByteArray :=
  match t.locate p with
  | .error fault => .error fault
  | .ok l =>
    match t.node? l with
    | some (.file bytes) => .ok bytes
    | some .directory => .error .isDirectory
    | none => .error .noSuchFile

/-- Puts something at a location. -/
def put (t : Tree) (l : Location) (n : Node) : Tree :=
  { t with nodes := t.nodes.insert l n }

/-- Makes the directory at a path, unless it is there, where the directory above is there. -/
def makeDirectory (t : Tree) (p : Path) : Tree × Option Fault :=
  match t.locate p with
  | .error fault => (t, some fault)
  | .ok l =>
    match t.node? l with
    | some .directory => (t, none)
    | some (.file _) => (t, some .fileExists)
    | none => (t.put l .directory, none)

/-- Makes the directory at a path, whose parts are given last first, and before it the directories
above that are missing. -/
def makeDirectoriesFrom (t : Tree) (root : String) : List String → Tree × Option Fault
  | [] => t.makeDirectory ⟨root, []⟩
  | part :: above =>
    let here : Path := ⟨root, (part :: above).reverse⟩
    match t.locate here with
    | .error .noSuchFile =>
      match t.makeDirectoriesFrom root above with
      | (t, none) => t.makeDirectory here
      | (t, some fault) => (t, some fault)
    | _ => t.makeDirectory here

/-- Makes the directory at a path and the missing ones above it. What was made stays if a later one
cannot be made. -/
def makeDirectories (t : Tree) (p : Path) : Tree × Option Fault :=
  t.makeDirectoriesFrom p.root p.parts.reverse

/-- Writes the file at a path, in place of one that is there. -/
def write (t : Tree) (p : Path) (bytes : ByteArray) : Tree × Option Fault :=
  match t.locate p with
  | .error fault => (t, some fault)
  | .ok l =>
    match t.node? l with
    | some .directory => (t, some .isDirectory)
    | _ => (t.put l (.file bytes), none)

/-- Removes what stands at a path. -/
def remove (t : Tree) (p : Path) : Tree :=
  match t.locate p with
  | .error _ => t
  | .ok l => { t with nodes := t.nodes.erase l }

end Tree

end TraitDocs.File
