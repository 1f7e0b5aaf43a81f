/-!
# Faults

A fault is the cause for which an operation on a client's data stops.  Each cause has a kind, the
word under which it is reported, and a text.  For some kinds only the word is reported: their text
names no datum that a client could act upon.

Main definitions: `Fault`, `Fault.kind`, `Fault.text`, `Fault.summary`.
-/

namespace LangServer

/-- Why an operation stopped. -/
inductive Fault where
  /-- A value of a kind that the operation does not take. -/
  | wrongKind (text : String)
  /-- The value has no such attribute. -/
  | noAttribute (owner name : String)
  /-- A part that the operation needs is not there. -/
  | absent
  /-- A look-up of a key, given in its quoted form, that is not there. -/
  | missingKey (quoted : String)
  /-- No handler answers the method. -/
  | unhandled
  /-- An index beyond either end. -/
  | outOfRange
  /-- A value of the right kind that the operation refuses. -/
  | badValue (text : String)
  /-- A stated condition that does not hold. -/
  | assertion (text : String)
  /-- A result that no branch has set. -/
  | unset
  /-- The file does not exist. -/
  | fileNotFound
  /-- The path names a directory. -/
  | isDirectory
  /-- The bytes are not well-formed text. -/
  | undecodable
  /-- The text is not a JSON value. -/
  | malformedJson
  /-- The checker is not installed. -/
  | noChecker
  /-- The structure is nested without end. -/
  | tooDeep
  /-- A JSON text with too many arrays and objects nested in each other; the last is named. -/
  | nestedTooDeep (last : String)
  /-- A number of octets that no machine can hold. -/
  | tooLarge
  /-- An integer beyond the largest double. -/
  | beyondDoubles
deriving DecidableEq, Repr

namespace Fault

/-- The word under which a fault is reported. -/
def kind : Fault → String
  | wrongKind _ => "TypeError"
  | noAttribute _ _ => "AttributeError"
  | absent => "AttributeError"
  | missingKey _ => "KeyError"
  | unhandled => "KeyError"
  | outOfRange => "IndexError"
  | badValue _ => "ValueError"
  | assertion _ => "AssertionError"
  | unset => "UnboundLocalError"
  | fileNotFound => "FileNotFoundError"
  | isDirectory => "IsADirectoryError"
  | undecodable => "UnicodeDecodeError"
  | malformedJson => "JSONDecodeError"
  | noChecker => "ModuleNotFoundError"
  | tooDeep => "RecursionError"
  | nestedTooDeep _ => "RecursionError"
  | tooLarge => "OverflowError"
  | beyondDoubles => "OverflowError"

/-- What a fault says. -/
def text : Fault → String
  | wrongKind t => t
  | noAttribute owner name => "'" ++ owner ++ "' object has no attribute '" ++ name ++ "'"
  | absent => "a part that is needed is not there"
  | missingKey quoted => quoted
  | unhandled => ""
  | outOfRange => "list index out of range"
  | badValue t => t
  | assertion t => t
  | unset => "local variable referenced before assignment"
  | fileNotFound => "No such file or directory"
  | isDirectory => "Is a directory"
  | undecodable => "invalid start byte"
  | malformedJson => "Expecting value"
  | noChecker => "No module named 'mypy'"
  | tooDeep => "maximum recursion depth exceeded"
  | nestedTooDeep last =>
    "maximum recursion depth exceeded while decoding a JSON " ++ last ++ " from a unicode string"
  | tooLarge => "cannot fit 'int' into an index-sized integer"
  | beyondDoubles => "int too large to convert to float"

/-- The text that is reported beside the kind, for the kinds that have one. -/
def reported : Fault → Option String
  | missingKey quoted => some quoted
  | unhandled => some ""
  | badValue t => some t
  | assertion t => some t
  | tooDeep => some (text tooDeep)
  | nestedTooDeep last => some (text (nestedTooDeep last))
  | tooLarge => some (text tooLarge)
  | beyondDoubles => some (text beyondDoubles)
  | _ => none

/-- The one-line report of a fault: its kind, and its text where one is reported and not empty. -/
def summary (f : Fault) : String :=
  match f.reported with
  | some t => if t = "" then f.kind else f.kind ++ ": " ++ t
  | none => f.kind

end Fault

/-- The outcome of an operation that a fault can stop. -/
abbrev Outcome := Except Fault

end LangServer
