import LangServer.Json.Access
import LangServer.Json.Arithmetic
import LangServer.Program.Graph

/-!
# The node at a position

The nodes of a file are visited in post-order: before a node come the types that annotate it, then
the nodes it is made of.  The node at a position is the first visited one whose span holds the
position, which makes it an innermost one.

A visit may meet an absent node, which stops it with a fault.

Main definitions: `Bounds.contains`, `Program.walk`, `Program.candidates`, `Program.locate`,
`Program.nameAt`.
-/

namespace LangServer

/-! ### Spans -/

/-- The ends of a span as far as they are known. -/
structure Bounds where
  line : Option Json
  column : Option Json
  endLine : Option Json
  endColumn : Option Json

namespace Bounds

/-- An end that must be known. -/
def known : Option Json → Outcome Json
  | some v => .ok v
  | none => .error .absent

/-- Whether the position is before the line of the start or after the line of the end. -/
def outsideLines (b : Bounds) (line : Json) : Outcome Bool := do
  if ← line.less (← known b.line) then return true
  (← known b.endLine).less line

/-- Whether the position is on the line of the start and before its column. -/
def beforeStart (b : Bounds) (line column : Json) : Outcome Bool := do
  if (← known b.line).same line then column.less (← known b.column)
  else return false

/-- Whether the position is on the line of the end and after its column. -/
def afterEnd (b : Bounds) (line column : Json) : Outcome Bool := do
  if (← known b.endLine).same line then
    (← known b.endColumn).less column
  else return false

/-- Whether the position is between the ends, both included.  Columns matter only on the lines of
the ends, and an end is looked at only where it matters. -/
def contains (b : Bounds) (line column : Json) : Outcome Bool := do
  if ← b.outsideLines line then return false
  if ← b.beforeStart line column then return false
  return !(← b.afterEnd line column)

end Bounds

namespace Span

def bounds (s : Span) : Bounds :=
  { line := some s.line, column := some s.column, endLine := some s.endLine,
    endColumn := some s.endColumn }

/-- Whether the span holds the position. -/
def contains (s : Span) (line column : Json) : Outcome Bool :=
  s.bounds.contains line column

end Span

/-! ### Visits -/

/-- What a walk comes upon. -/
inductive Visit where
  | node (id : NodeId)
  /-- A reference without a node. -/
  | absent
  /-- A node that contains itself. -/
  | endless
deriving DecidableEq, Repr

namespace Visit

def ofRef : Option NodeId → Visit
  | some id => .node id
  | none => .absent

/-- Why a walk stops. -/
def fault? : Visit → Option Fault
  | .node _ => none
  | .absent => some .absent
  | .endless => some .tooDeep

end Visit

namespace Program

/-- The visits below and at a node: those that stand before it, those of its parts, itself. -/
def walk (p : Program) (before : Node → List Visit) (parts : Node → List (Option NodeId)) :
    Nat → Option NodeId → List Visit
  | 0, _ => [.endless]
  | _ + 1, none => [.absent]
  | depth + 1, some id =>
    match p.nodes[id]? with
    | none => [.absent]
    | some n =>
      if n.isSource then
        before n ++ (parts n).flatMap (p.walk before parts depth) ++ [.node id]
      else [.absent]

/-- No node of a finite tree lies deeper than this. -/
def depth (p : Program) : Nat := p.nodes.size + 1

/-- The types that annotate an assignment or a function. -/
def annotations (p : Program) (n : Node) : List Visit :=
  match n.shape with
  | .assignment (some type) => [.node type]
  | .function _ type =>
    match p.shape? type with
    | some (.callable arguments result) => arguments.map Visit.ofRef ++ [Visit.ofRef result]
    | _ => []
  | _ => []

/-- The nodes that a position may mean, in the order in which they are tried. -/
def candidates (p : Program) (tree : NodeId) : List Visit :=
  p.walk p.annotations Node.children p.depth (some tree)

/-- The nodes that a file is made of, itself included. -/
def reached (p : Program) (tree : Option NodeId) : List Visit :=
  p.walk (fun _ => []) Node.children p.depth tree

/-- Whether the span of a visited node holds the position. -/
def holds (p : Program) (line column : Json) (v : Visit) : Outcome Bool :=
  match v with
  | .node id =>
    match p.nodes[id]? with
    | some n => n.span.contains line column
    | none => .error .absent
  | .absent => .error .absent
  | .endless => .error .tooDeep

/-- The first visited node whose span holds the position. -/
def firstHolding (p : Program) (line column : Json) : List Visit → Outcome (Option NodeId)
  | [] => return none
  | v :: rest => do
    if ← p.holds line column v then
      match v with
      | .node id => return some id
      | _ => return none
    else p.firstHolding line column rest

/-- Where a file is not found, the paths of all files must be texts or missing. -/
def checkPaths (p : Program) : Outcome Unit :=
  p.sources.forM fun (path, _) => do
    if path.truthy then
      let _ ← path.expectText

/-- The node at a position of the file with a path, and the file's node; nothing if the checker
does not know the file. -/
def locate (p : Program) (path line column : Json) :
    Outcome (Option (Option NodeId × NodeId)) :=
  match p.sources.find? fun source => source.1.same path with
  | none => do
    p.checkPaths
    return none
  | some (_, none) => throw (.assertion "")
  | some (_, some tree) => do
    return some (← p.firstHolding line column (p.candidates tree), tree)

/-! ### Names -/

/-- The parts of a node in a search for names: a name is not looked into. -/
def nameParts (n : Node) : List (Option NodeId) :=
  if n.isName then [] else n.children

/-- Whether a visited node is a name. -/
def visitsName (p : Program) : Visit → Bool
  | .node id => (p.nodes[id]?).any Node.isName
  | _ => true

/-- The last visited node whose span holds the position. -/
def lastHolding (p : Program) (line column : Json) (found : Option NodeId) :
    List Visit → Outcome (Option NodeId)
  | [] => return found
  | v :: rest => do
    if ← p.holds line column v then
      match v with
      | .node id => p.lastHolding line column (some id) rest
      | _ => p.lastHolding line column found rest
    else p.lastHolding line column found rest

/-- The last name below a node whose span holds the position. -/
def nameAt (p : Program) (tree : Option NodeId) (line column : Json) : Outcome (Option NodeId) :=
  p.lastHolding line column none
    ((p.walk (fun _ => []) nameParts p.depth tree).filter p.visitsName)

end Program

end LangServer
