import LangServer.Machine
import LangServer.Program.Import
import LangServer.Uri.FilePath

/-!
# Going to a definition

The answer to `textDocument/definition`.  The node at a position refers to the node that defines it.
The place to go to is the start of that node, in the file that holds it, or in the current file if
no file is known to hold it.

Main definitions: `Program.referent`, `Program.findDefinition`, `Program.definitions`.
-/

namespace LangServer

/-- A place in a file; its line counts from one. -/
structure Place where
  path : Json
  line : Json
  column : Json
deriving Repr

namespace Place

/-- The place as the client is told it; there, lines count from zero. -/
def toJson (windows : Bool) (place : Place) : Outcome Json := do
  let uri ← Uri.ofPathValue windows place.path
  let position := Json.obj [("line", ← place.line.subInt 1), ("character", place.column)]
  return .obj [("uri", .str (String.ofList uri)),
    ("range", .obj [("start", position), ("end", position)])]

end Place

namespace Program

/-- The class definition of an object's type, whose class must be known. -/
def classDefinition (p : Program) (info : Option NodeId) : Outcome (Option NodeId) :=
  match p.shape? info with
  | none => throw .absent
  | some (.classInfo _ _ definition) => return definition
  | some _ => return none

/-- The node that defines what another node refers to. -/
def referent (p : Program) (fs : FileSystem) (n : Node) (file : NodeId) (path : String)
    (line column : Json) : Traced (Option NodeId) :=
  match n.shape with
  | .name _ target => return target
  | .instanceOf info => Traced.lift (p.classDefinition info)
  | .member name target object => Traced.lift (p.definitionOf name target object)
  | .importModules | .importNames _ _ | .importAll _ =>
    Import.definition p fs n (some file) path line column
  | _ => return none

/-- A node that refers to another must have a column that is a number, and the class of an object's
type must be known. -/
def checkReference (p : Program) (n : Node) : Outcome Unit :=
  match n.shape with
  | .name _ _ | .member _ _ _ | .importModules | .importNames _ _ | .importAll _ => do
    let _ ← n.span.column.addInt 1
  | .instanceOf info => do
    let _ ← p.classDefinition info
    let _ ← n.span.column.addInt 1
  | _ => return

/-- The start of a node; a column that is not known is the first one. -/
def placeOf (path : Json) (n : Node) : Place :=
  { path, line := n.span.line,
    column := if n.span.column.eqInt (-1) then .int 0 else n.span.column }

/-- The place of the definition of what stands at a position. -/
def findDefinition (p : Program) (fs : FileSystem) (path : String) (line column : Json) :
    Traced (Option Place) := do
  let line ← Traced.lift (line.addInt 1)
  match ← Traced.lift (p.locate (.str path) line column) with
  | none => return none
  | some (ref, file) =>
    match p.node? ref with
    | none => return none
    | some n =>
      Traced.lift (p.checkReference n)
      let definition ← p.referent fs n file path line column
      match p.node? definition with
      | none => return none
      | some d =>
        let home ← Traced.lift (p.homeFile definition (some file))
        return some (placeOf (if home.isNull then .str path else home) d)

/-- The places to which the client is sent. -/
def definitions (p : Program) (m : Machine) (path : String) (line column : Json) :
    Traced Json := do
  match ← p.findDefinition m.files path line column with
  | none => return .arr []
  | some place => return .arr [← Traced.lift (place.toJson m.windows)]

end Program

end LangServer
