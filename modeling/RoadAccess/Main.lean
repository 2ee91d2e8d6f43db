import RoadAccess.Command.Run
import RoadAccess.Csv.Library

/-!
# The program

Looks at the paths that the command line names, runs it, and carries out what the run comes to.
-/

namespace RoadAccess.Command

/-- The text about the use of the program. -/
def usageText : String :=
  "usage: bikeaccess [-h] [--log-level LOG_LEVEL] [--block-fords]\n" ++
  "                  [--allow-private] [--options OPTIONS]\n" ++
  "                  \x7bclassify,stats,way\x7d ...\n"

/-- The paths that a run looks at. -/
def Task.paths (place : Place) : Task → List Path
  | .classify input output =>
    (place.path? input).toList ++ ((place.path? output).map Path.ancestors).getD []
  | .stats input => (place.path? input).toList
  | .way _ => []

/-- The line that shows a report.  That of a failure says how the message about a table begins, and
    which kind of error was met. -/
def Report.line (r : Report) : String :=
  match r with
  | .failed (.table fault) =>
    s!"{r.level.name} Falha ao classificar ways: {fault.heading}[{fault.kind.name}]"
  | .failed fault => s!"{r.level.name} Falha ao classificar ways: [{fault.kind.name}]"
  | _ => s!"{r.level.name} {r.message}"

/-- What a file holds. -/
def contentOf (bytes : ByteArray) : Content :=
  match String.fromUTF8? bytes with
  | some s => .text s
  | none => .bytes bytes.toList

/-- What stands at a path of the file system. -/
def look (path : Path) : IO Entry := do
  -- An absolute path behind the slash stands for itself.
  let file := (← IO.currentDir) / path.toText
  if ← file.isDir then return .directory
  else if ← file.pathExists then return .file (contentOf (← IO.FS.readBinFile file))
  else return .missing

/-- The path of a directory of the file system. -/
def pathOf (text : String) : Path := (Path.names text).foldl Path.push []

/-- The home directory of a user in a table of users, one a line with fields between colons. -/
def homeIn? (users : String) (user : String) : Option Path :=
  let lines := (Text.pieces '\n' users.toList).map fun line =>
    (Text.pieces ':' line).map String.ofList
  (lines.find? fun fields => fields.head? = some user).bind fun fields => fields[5]?.map pathOf

/-- Where the program runs, as far as a command looks at it. -/
def placeFor (task : Task) : IO Place := do
  let home ← IO.getEnv "HOME"
  let users ← try IO.FS.readFile "/etc/passwd" catch _ => pure ""
  let place : Place :=
    { working := pathOf (toString (← IO.currentDir))
      homes := fun user => if user = "" then home.map pathOf else homeIn? users user
      disk := fun _ => .missing
      library := Csv.library
      refusal? := fun _ _ => none }
  let entries ← (task.paths place).mapM fun path => return (path, ← look path)
  return { place with disk := fun path => (entries.lookup path).getD .missing }

/-- Writes a file and the directories on the way to it. -/
def saveFile (path : Path) (content : Content) : IO Unit := do
  IO.FS.createDirAll path.parent.toText
  match content with
  | .text s => IO.FS.writeFile path.toText s
  | .bytes bs => IO.FS.writeBinFile path.toText ⟨bs.toArray⟩

/-- Carries out what a run comes to. -/
def carryOut (r : Result) : IO UInt32 := do
  for report in r.reports do
    IO.eprintln report.line
  if let some (path, content) := r.written then
    saveFile path content
  IO.print r.printed
  match r.exit with
  | .code code => return UInt32.ofNat code
  | .raised kind =>
    IO.eprintln kind.name
    return 1

end RoadAccess.Command

open RoadAccess.Command in
/-- Runs the command line. -/
def main (words : List String) : IO UInt32 := do
  match Invocation.read words with
  | .error .help => IO.print usageText; return 0
  | .error .wrong => IO.eprint usageText; return 2
  | .ok i =>
    match run (← placeFor i.task) words with
    | .error _ => return 2
    | .ok r => carryOut r
