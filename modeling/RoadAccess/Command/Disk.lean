import RoadAccess.Fault
import RoadAccess.Text.Split

namespace RoadAccess.Command

/-!
# Paths and files

* `Path.ofText` — the absolute path that a text names, without `.` and `..`;
* `Content` — what a file holds; `Disk` — what stands at each path;
* `Disk.writeFault?` — why no file can be written to a path, if so; directories that are not there
  are made.
-/

/-- An absolute path: the names on the way from the root. -/
abbrev Path := List String

namespace Path

/-- One more name on the way; a dot stays and two dots go back. -/
def push (path : Path) (name : String) : Path :=
  if name = "" ∨ name = "." then path
  else if name = ".." then path.dropLast
  else path ++ [name]

/-- The names between the slashes of a text. -/
def names (text : String) : List String := (Text.pieces '/' text.toList).map String.ofList

/-- The path that a text names, from a working directory.  A first name that begins with `~` stands for
    the home directory of the user whose name follows, or of whoever runs the program; that user may
    have none. -/
def ofText (working : Path) (homes : String → Option Path) (text : String) : Option Path :=
  let names := (names text).filter fun name => name ≠ "" ∧ name ≠ "."
  match text.toList with
  | '/' :: _ => some (names.foldl push [])
  | _ =>
    match names with
    | [] => some working
    | first :: rest =>
      match first.toList with
      | '~' :: user => (homes (String.ofList user)).map fun home => rest.foldl push home
      | _ => some (names.foldl push working)

/-- The text of a path. -/
def toText (path : Path) : String := "/" ++ "/".intercalate path

/-- The directory that holds a path. -/
def parent (path : Path) : Path := path.dropLast

/-- The paths on the way to a path, itself included, from the root on. -/
def ancestors (path : Path) : List Path := (List.range (path.length + 1)).map path.take

end Path

/-- What a file holds: a text, or bytes that are none. -/
inductive Content where
  | text (text : String)
  | bytes (bytes : List UInt8)
  deriving DecidableEq, Repr

/-- What stands at a path. -/
inductive Entry where
  | missing
  | directory
  | file (content : Content)
  deriving DecidableEq, Repr

/-- What stands at each path. -/
abbrev Disk := Path → Entry

/-- Why a file cannot be written. -/
inductive WriteFault where
  /-- There is a directory in its place. -/
  | isDirectory
  /-- There is a file in place of its directory. -/
  | parentIsFile
  /-- There is a file in place of a directory further up. -/
  | ancestorIsFile
  deriving DecidableEq, Repr

/-- The kind of error that keeps a file from being written. -/
def WriteFault.kind : WriteFault → ErrorKind
  | .isDirectory => .isDirectory
  | .parentIsFile => .fileExists
  | .ancestorIsFile => .notDirectory

namespace Disk

/-- A file stands at the path. -/
def isFile (disk : Disk) (path : Path) : Bool :=
  match disk path with
  | .file _ => true
  | _ => false

/-- Why no file can be written to a path, if so. -/
def writeFault? (disk : Disk) (path : Path) : Option WriteFault :=
  if disk.isFile path.parent then some .parentIsFile
  else if path.parent.ancestors.any disk.isFile then some .ancestorIsFile
  else if disk path = .directory then some .isDirectory
  else none

end Disk

end RoadAccess.Command
