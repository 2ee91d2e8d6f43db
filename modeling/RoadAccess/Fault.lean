namespace RoadAccess

/-!
# Errors and faults

An error has a kind, by which callers tell errors apart.

* `ErrorKind` — the kinds of errors; `ErrorKind.isValue` — the kinds that count as errors of values;
* `Raised` — an error that comes from outside;
* `Fault` — why the way of an edge cannot be handled.  The tags of the way are read first, then the
  edge is looked up, and the nodes come last: they may have no first one, or one whose tags cannot be
  read.
-/

/-- The kinds of errors. -/
inductive ErrorKind where
  /-- A value lacks what is asked of it. -/
  | attribute
  /-- A value is of the wrong type. -/
  | type
  /-- A key is not there. -/
  | key
  /-- A value makes no sense. -/
  | value
  /-- A text is no JSON text. -/
  | json
  /-- A text has no form in an encoding. -/
  | encoding
  /-- Something is not known at the time. -/
  | runtime
  /-- There is a directory in place of a file. -/
  | isDirectory
  /-- There is a file in place of a directory. -/
  | fileExists
  /-- There is a file on the way to a directory. -/
  | notDirectory
  /-- Any other kind of error, which may count as one of values. -/
  | other (name : String) (ofValues : Bool)
  deriving DecidableEq, Repr

namespace ErrorKind

/-- The name of a kind. -/
def name : ErrorKind → String
  | .attribute => "AttributeError"
  | .type => "TypeError"
  | .key => "KeyError"
  | .value => "ValueError"
  | .json => "JSONDecodeError"
  | .encoding => "UnicodeEncodeError"
  | .runtime => "RuntimeError"
  | .isDirectory => "IsADirectoryError"
  | .fileExists => "FileExistsError"
  | .notDirectory => "NotADirectoryError"
  | .other name _ => name

/-- Errors in reading JSON and in encoding a text are errors of values too. -/
def isValue : ErrorKind → Bool
  | .value | .json | .encoding => true
  | .other _ ofValues => ofValues
  | _ => false

end ErrorKind

/-- An error that comes from outside. -/
structure Raised where
  kind : ErrorKind
  /-- The text with which it explains itself. -/
  text : String
  deriving DecidableEq, Repr

/-! ### Ways that cannot be handled -/

/-- Why a way cannot be handled. -/
inductive Fault where
  /-- The tags of the way, or of the first node, say something and are no object. -/
  | tagsNotObject
  /-- The edge is identified by something that identifies nothing. -/
  | edgeNotHashable
  /-- The edge is not in the graph. -/
  | noSuchEdge
  /-- The nodes are a number or a truth value, which has no first item. -/
  | nodesNotIndexable
  /-- The nodes are an object, which has no first item. -/
  | nodesKeyed
  deriving DecidableEq, Repr

/-- The kind of error that a fault is. -/
def Fault.kind : Fault → ErrorKind
  | .tagsNotObject => .attribute
  | .edgeNotHashable => .type
  | .noSuchEdge => .key
  | .nodesNotIndexable => .type
  | .nodesKeyed => .key

end RoadAccess
