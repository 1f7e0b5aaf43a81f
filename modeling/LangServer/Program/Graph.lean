import LangServer.Json.Table

/-!
# Analysed programs

A program that the checker has analysed is a graph.  Its nodes are the files, statements and
expressions of the source, the symbols they define and the types of these; a node knows where it
stands in its file, which nodes it is made of, and which nodes it refers to.

Every reference may be absent.  Two nodes are equal only if they are the same node, so a node is
known by its number.  Places, names and paths are whatever values the checker gives; sound ones are
integers and texts.

Main definitions: `Span`, `Shape`, `Node`, `Program`.
-/

namespace LangServer

abbrev NodeId := Nat

/-- The symbols that a file or a class defines; a symbol need not have a node. -/
abbrev SymbolTable := List (String × Option NodeId)

/-- The part of a file that a node takes up, both ends included.  Lines count from one and columns
from zero; a place that is not known is -1. -/
structure Span where
  line : Json := .int (-1)
  column : Json := .int (-1)
  endLine : Json := .int (-1)
  endColumn : Json := .int (-1)
deriving Repr

/-- The part of a file between two places. -/
def Span.between (line column endLine endColumn : Int) : Span :=
  { line := .int line, column := .int column, endLine := .int endLine, endColumn := .int endColumn }

/-- What a node is, with what only such nodes have. -/
inductive Shape where
  /-- A file of the program. -/
  | file (path fullName isPackage : Json) (symbols : SymbolTable)
  /-- A class as a symbol. -/
  | classInfo (fullName : Json) (symbols : SymbolTable) (definition : Option NodeId)
  | var (name fullName : Json) (type : Option NodeId)
  | function (fullName : Json) (type : Option NodeId)
  /-- A function with several definitions. -/
  | overloadedFunction (fullName : Json) (type : Option NodeId)
  /-- A name in an expression. -/
  | name (fullName : Option String) (target : Option NodeId)
  /-- A member of an object in an expression. -/
  | member (name : Json) (target object : Option NodeId)
  | assignment (declared : Option NodeId)
  /-- An import of modules. -/
  | importModules
  /-- An import of names from a module, which is found so many packages up. -/
  | importNames (level module : Json)
  /-- An import of all names of a module. -/
  | importAll (level : Json)
  /-- The type of the objects of a class. -/
  | instanceOf (info : Option NodeId)
  /-- The type of a function. -/
  | callable (arguments : List (Option NodeId)) (result : Option NodeId)
  /-- The type of a function with several definitions. -/
  | overloaded (items : List (Option NodeId))
  | otherType
  | other
deriving Repr

structure Node where
  span : Span := {}
  /-- The nodes it is made of, in the order of the source. -/
  children : List (Option NodeId) := []
  shape : Shape
  /-- How a type is written. -/
  written : Json := .str ""
deriving Repr

namespace Node

/-- Whether the node is part of the source, and not a type or a class symbol. -/
def isSource (n : Node) : Bool :=
  match n.shape with
  | .classInfo _ _ _ | .instanceOf _ | .callable _ _ | .overloaded _ | .otherType => false
  | _ => true

def isFile (n : Node) : Bool :=
  match n.shape with
  | .file _ _ _ _ => true
  | _ => false

def isName (n : Node) : Bool :=
  match n.shape with
  | .name _ _ => true
  | _ => false

/-- The symbols that the node defines. -/
def symbols (n : Node) : SymbolTable :=
  match n.shape with
  | .file _ _ _ symbols => symbols
  | .classInfo _ symbols _ => symbols
  | _ => []

/-- The path of a file; null where none is known. -/
def path (n : Node) : Json :=
  match n.shape with
  | .file path _ _ _ => path
  | _ => .null

end Node

/-- The symbol of a name among those that a node defines itself. -/
def Program.ownSymbol (nodes : Array Node) (id : NodeId) (name : Json) :
    Outcome (Option (Option NodeId)) :=
  name.lookupIn ((nodes[id]?.map Node.symbols).getD [])

/-- A program that the checker has analysed. -/
structure Program where
  nodes : Array Node := #[]
  /-- The symbol that a class has under a name.  The checker finds it, and may look beyond the
  symbols that the class defines itself. -/
  classSymbol : NodeId → Json → Outcome (Option (Option NodeId)) := Program.ownSymbol nodes
  /-- The files by the names of their modules. -/
  modules : List (String × Option NodeId) := []
  /-- The files by their paths. -/
  sources : List (Json × Option NodeId) := []
  /-- The types of expressions. -/
  types : List (NodeId × Option NodeId) := []
  /-- The syntax trees of statements, by the text of the statement. -/
  statements : List (String × Json) := []
  /-- For relative imports a pair: the module that one means, and whether there is one. -/
  relatives : List (String × Json) := []

namespace Program

/-- The node behind a reference. -/
def node? (p : Program) (ref : Option NodeId) : Option Node :=
  ref.bind fun id => p.nodes[id]?

def shape? (p : Program) (ref : Option NodeId) : Option Shape :=
  (p.node? ref).map Node.shape

/-- The path of a node that is a file; null where none is known. -/
def pathOf (p : Program) (ref : Option NodeId) : Json :=
  ((p.node? ref).map Node.path).getD .null

/-- The module of a name; a name may be known without a module. -/
def module? (p : Program) (name : String) : Option NodeId :=
  (p.modules.lookup name).join

/-- The type of an expression. -/
def typeOf (p : Program) (expression : Option NodeId) : Option NodeId :=
  expression.bind fun id => (p.types.lookup id).join

end Program

end LangServer
