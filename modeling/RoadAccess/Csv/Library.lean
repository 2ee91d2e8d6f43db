import RoadAccess.Command.Library
import RoadAccess.Csv.Reader
import RoadAccess.Csv.Writer

namespace RoadAccess.Csv

/-!
# A library of comma-separated tables

* `library` — the library that reads and writes plain texts, under whatever path.
-/

/-- The kind of error that a text without a table gives. -/
def ReadFault.kind : ReadFault → ErrorKind
  | .empty => .other "EmptyDataError" true
  | .openQuote | .lineTooLong => .other "ParserError" true

/-- The library that takes the content of a file for the text that it is. -/
def library : Command.TableLibrary where
  text? _ content := match content with
    | .text s => some s
    | .bytes _ => none
  read _ content := match content with
    | .text s => (read s).mapError ReadFault.kind
    | .bytes _ => .error (.other "UnicodeDecodeError" true)
  write _ table := .ok (.text (write table.lines))
  column := .inferred

end RoadAccess.Csv
