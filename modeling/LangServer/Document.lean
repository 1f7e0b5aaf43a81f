import LangServer.Json.Access
import LangServer.Json.Arithmetic
import LangServer.Machine
import LangServer.Text.Word
import LangServer.Uri.FilePath

/-!
# Documents

A document is a text that a client has open, known by its URI.  While a client has sent no text the
document's text is that of the file.  Positions count lines and, within a line, characters.

A change either replaces the whole text or the text between two positions.  Clients may send
anything as positions and texts; a value of the wrong kind is a fault where it is first used.

Main definitions: `Document`, `Document.applyChange`, `Document.offsetAt`, `Document.wordAt`.
-/

namespace LangServer

structure Document where
  uri : Json
  version : Json
  path : String
  /-- The last name of the path. -/
  name : String
  /-- The text that the client has sent; null before that. -/
  source : Json

namespace Document

def create (m : Machine) (uri source version : Json) : Outcome Document := do
  let path ← Uri.pathOf m.windows uri
  return { uri, version, path, name := String.ofList (Path.basename path.toList), source }

/-! ### Text -/

/-- The client's text, or the file's. -/
def contents (m : Machine) (d : Document) : Outcome Json :=
  match d.source with
  | .null => (m.files.readText d.path.toList).map fun cs => .str (String.ofList cs)
  | source => .ok source

/-- The characters of the text. -/
def chars (m : Machine) (d : Document) : Outcome (List Char) := do
  match ← d.contents m with
  | .str s => return s.toList
  | _ => throw .absent

/-- The lines of the text. -/
def lines (m : Machine) (d : Document) : Outcome (List (List Char)) := do
  return Text.splitLines (← d.chars m)

/-! ### Changes -/

/-- The ends of a range as a client sends them. -/
structure Range where
  startLine : Json
  startColumn : Json
  endLine : Json
  endColumn : Json

/-- Reads a range, start before end and lines before columns. -/
def Range.ofJson (v : Json) : Outcome Range := do
  let startLine ← (← v.field "start").field "line"
  let startColumn ← (← v.field "start").field "character"
  let endLine ← (← v.field "end").field "line"
  let endColumn ← (← v.field "end").field "character"
  return { startLine, startColumn, endLine, endColumn }

/-- What becomes of line `i`: it stays outside the range; the first line of the range keeps what
stands before the start and gets the new text, the last keeps what stands after the end. -/
def editLine (r : Range) (text : Json) (i : Nat) (line : List Char) : Outcome (List Char) := do
  if ← r.startLine.gtInt i then return line
  if ← r.endLine.ltInt i then return line
  let front ←
    if r.startLine.eqInt i then do
      let kept ← r.startColumn.takeBefore line
      let new ← text.expectText
      pure (kept ++ new.toList)
    else pure []
  let back ← if r.endLine.eqInt i then r.endColumn.dropBefore line else pure []
  return front ++ back

/-- What becomes of lines numbered from `i`. -/
def editLines (r : Range) (text : Json) (i : Nat) : List (List Char) → Outcome (List Char)
  | [] => .ok []
  | line :: rest => do
    let new ← editLine r text i line
    return new ++ (← editLines r text (i + 1) rest)

/-- The text after an edit; one that starts behind the last line appends. -/
def edit (r : Range) (text : Json) (source : List Char) : Outcome (List Char) := do
  let lines := Text.splitLines source
  if r.startLine.eqInt lines.length then
    return source ++ (← text.expectText).toList
  else editLines r text 0 lines

/-- The document after a change. -/
def applyChange (m : Machine) (d : Document) (change : Json) : Outcome Document := do
  let text ← change.field "text"
  let range ← change.getOr "range" .null
  if range.truthy then
    let r ← Range.ofJson range
    return { d with source := .str (String.ofList (← edit r text (← d.chars m))) }
  else return { d with source := text }

/-! ### Positions -/

/-- The number of characters before a position. -/
def offsetAt (m : Machine) (d : Document) (position : Json) : Outcome Json := do
  let column ← position.field "character"
  let lines ← d.lines m
  let line ← position.field "line"
  let before := match ← line.bound with
    | none => lines
    | some i => Text.takeTo i lines
  column.addInt before.flatten.length

/-- The word characters at the end of a text, or before the line feed at its end. -/
def wordEnd (cs : List Char) : List Char :=
  let back := match cs.reverse with
    | '\n' :: rest => rest
    | rest => rest
  (back.takeWhile Text.isIdentifierChar).reverse

/-- The word characters at the start of a text. -/
def wordStart (cs : List Char) : List Char :=
  cs.takeWhile Text.isIdentifierChar

/-- The line of a position. -/
def lineAt (lines : List (List Char)) (line : Json) : Outcome (List Char) :=
  match line.toInt? with
  | none => .error (.wrongKind "list indices must be integers or slices")
  | some i =>
    match Text.item? i lines with
    | some l => .ok l
    | none => .error .outOfRange

/-- The word around a position; empty behind the last line. -/
def wordAt (m : Machine) (d : Document) (position : Json) : Outcome String := do
  let line ← position.field "line"
  let lines ← d.lines m
  if (← line.gtInt lines.length) || line.eqInt lines.length then return ""
  let cs ← lineAt lines line
  let column ← position.field "character"
  let front ← column.takeBefore cs
  let back ← column.dropBefore cs
  return String.ofList (wordEnd front ++ wordStart back)

end Document

end LangServer
