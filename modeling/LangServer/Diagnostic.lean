import LangServer.Json.Basic
import LangServer.Protocol
import LangServer.Text.Lines
import LangServer.Text.Numeral
import LangServer.Text.Word

/-!
# Diagnostics

The checker writes one finding a line: a path, an optional line number, an optional column number,
a word for the severity and a message.

    path:line:column: severity: message

Lines of any other form are passed over.  A report collects the diagnostics of each path, paths in
the order of their first finding.

Main definitions: `Finding.read`, `Diagnostic`, `Report.ofText`.
-/

namespace LangServer

/-! ### Lines of the checker's output -/

/-- The parts of a line that reports a finding. -/
structure Finding where
  path : List Char
  /-- The digits of the line number. -/
  line : Option (List Char)
  /-- The digits of the column number. -/
  column : Option (List Char)
  severity : List Char
  message : List Char
deriving DecidableEq, Repr

namespace Finding

/-- The digits in front of a colon, and what follows it. -/
def number? (cs : List Char) : Option (List Char) × List Char :=
  match cs.dropWhile Text.isDigit with
  | ':' :: rest => if (cs.takeWhile Text.isDigit).isEmpty then (none, cs)
      else (some (cs.takeWhile Text.isDigit), rest)
  | _ => (none, cs)

/-- A blank, a word, a colon and a blank; then the message, up to a line feed. -/
def wordAndMessage? (cs : List Char) : Option (List Char × List Char) :=
  match cs with
  | ' ' :: rest =>
    match rest.dropWhile Text.isWordChar with
    | ':' :: ' ' :: message =>
      if (rest.takeWhile Text.isWordChar).isEmpty then none
      else some (rest.takeWhile Text.isWordChar, message.takeWhile (· != '\n'))
    | _ => none
  | _ => none

/-- Reads a line, if it has the form of a finding. -/
def read? (cs : List Char) : Option Finding :=
  match cs.dropWhile (· != ':') with
  | ':' :: rest =>
    if (cs.takeWhile (· != ':')).isEmpty then none
    else
      let (line, rest) := number? rest
      let (column, rest) := number? rest
      (wordAndMessage? rest).map fun (severity, message) =>
        { path := cs.takeWhile (· != ':'), line, column, severity, message }
  | _ => none

end Finding

/-! ### Diagnostics -/

/-- A finding as clients show it: a message at a place that has no extent. -/
structure Diagnostic where
  line : Int
  character : Int
  message : String
  severity : Protocol.Severity
deriving DecidableEq, Repr

namespace Diagnostic

/-- Lines and columns count from one in findings and from zero in diagnostics; the first stands
for a number that is missing. -/
def position (digits : Option (List Char)) : Outcome Int :=
  match digits with
  | none => .ok 0
  | some ds => (Text.readNumeral ds).map fun n => (n : Int) - 1

def severityOf (word : List Char) : Protocol.Severity :=
  if word = "error".toList then .error else .information

def ofFinding (f : Finding) : Outcome Diagnostic := do
  let line ← position f.line
  let character ← position f.column
  return { line, character, message := String.ofList f.message, severity := severityOf f.severity }

/-- The path and the diagnostic of a line, if it reports a finding. -/
def ofLine (cs : List Char) : Outcome (Option (String × Diagnostic)) :=
  match Finding.read? cs with
  | none => .ok none
  | some f => (ofFinding f).map fun d => some (String.ofList f.path, d)

/-- The diagnostic as it is sent. -/
def toJson (d : Diagnostic) : Json :=
  let place : Json := .obj [("line", .int d.line), ("character", .int d.character)]
  .obj [("source", .str "mypy"), ("range", .obj [("start", place), ("end", place)]),
    ("message", .str d.message), ("severity", .int d.severity.number)]

end Diagnostic

/-! ### Reports -/

/-- The diagnostics of each path, in the order of their findings. -/
abbrev Report := List (String × List Diagnostic)

namespace Report

/-- Adds a diagnostic behind those of its path. -/
def add (path : String) (d : Diagnostic) : Report → Report
  | [] => [(path, [d])]
  | (p, ds) :: rest => if p = path then (p, ds ++ [d]) :: rest else (p, ds) :: add path d rest

/-- Adds the findings of some lines. -/
def addLines (r : Report) : List (List Char) → Outcome Report
  | [] => .ok r
  | l :: ls => do
    match ← Diagnostic.ofLine l with
    | none => addLines r ls
    | some (path, d) => addLines (r.add path d) ls

/-- The report of the checker's output. -/
def ofText (output : List Char) : Outcome Report :=
  addLines [] ((Text.splitLines output).map Text.chomp)

/-- The report of an output that may be any value. -/
def ofJson (output : Json) : Outcome Report :=
  match output with
  | .str s => ofText s.toList
  | v => .error (.noAttribute v.kindName "splitlines")

end Report

end LangServer
