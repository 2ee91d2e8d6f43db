import RoadAccess.Csv.Format

namespace RoadAccess.Csv

/-!
# Writing comma-separated tables

Fields stand between commas and each line ends with a line feed.  A field is quoted only if it
holds a comma, a quote or a line feed.
-/

/-- A character that has to stand between quotes. -/
def needsQuotes (c : Char) : Bool := c = ',' || c = '"' || c = '\n'

/-- A field as it is written. -/
def writeField (field : String) : String :=
  if field.toList.any needsQuotes then
    String.ofList ('"' :: field.toList.flatMap escapeChar ++ ['"'])
  else field

/-- A line as it is written. -/
def writeLine (fields : List String) : String := ",".intercalate (fields.map writeField) ++ "\n"

/-- Lines as they are written. -/
def write (lines : List (List String)) : String := String.join (lines.map writeLine)

end RoadAccess.Csv
