import LangServer.Json.Display
import LangServer.Json.Table
import LangServer.Program.Locate

/-!
# Symbols and the files that define them

A full name is a chain of components.  Its symbol is found in the module with the longest name that
the chain begins with, component by component through the classes on the way; a shorter module name
is never tried.

The symbol of a member is found by the type of the object, or, where the checker has none, by what
the object's name refers to.

The file that defines a node is the first file that reaches it, the current one before all others.

Main definitions: `lookup`, `member`, `definitionOf`, `homeFile`.
-/

namespace LangServer.Program

/-! ### Full names -/

/-- Why a full name has no symbol. -/
inductive Unresolved where
  | noModule
  | noComponent (key : String)
  | noNode
  | notClass
deriving DecidableEq, Repr

/-- The components of a full name. -/
def components (name : List Char) : List (List Char) :=
  name.foldr (fun c parts =>
    if c = '.' then [] :: parts
    else match parts with
      | [] => [[c]]
      | part :: rest => (c :: part) :: rest) [[]]

/-- The full name of some components. -/
def qualified (parts : List (List Char)) : String :=
  String.ofList (['.'].intercalate parts)

/-- The longest module name that some components begin with, given in reverse, and the components
behind it. -/
def splitModule (p : Program) : List (List Char) → List (List Char) →
    Option (NodeId × List (List Char))
  | [], _ => none
  | [_], _ => none
  | last :: first :: front, rest =>
    match p.module? (qualified (first :: front).reverse) with
    | some file => some (file, last :: rest)
    | none => p.splitModule (first :: front) (last :: rest)

/-- The symbol at the end of some components, starting from a table. -/
def follow (p : Program) (symbols : SymbolTable) : List (List Char) →
    Except Unresolved (Option NodeId)
  | [] => .error .noModule
  | [key] =>
    match symbols.lookup (String.ofList key) with
    | some node => .ok node
    | none => .error (.noComponent (String.ofList key))
  | key :: next :: rest =>
    match symbols.lookup (String.ofList key) with
    | none => .error (.noComponent (String.ofList key))
    | some none => .error .noNode
    | some node =>
      match p.shape? node with
      | some (.classInfo _ symbols _) => p.follow symbols (next :: rest)
      | _ => .error .notClass

/-- The node of the symbol with a full name, and the module in which it was found. -/
def resolve (p : Program) (name : String) : Except Unresolved (Option NodeId × NodeId) :=
  match p.splitModule (components name.toList).reverse [] with
  | none => .error .noModule
  | some (file, rest) => do
    let symbols := ((p.node? (some file)).map Node.symbols).getD []
    return (← p.follow symbols rest, file)

/-- The symbol with a full name, where there is one. -/
def lookup (p : Program) (name : String) : Option (Option NodeId × NodeId) :=
  (p.resolve name).toOption

/-- The fault that an unresolved name is reported as, unless it is passed over. -/
def Unresolved.fault? (name : String) : Unresolved → Option Fault
  | .noModule => some (.assertion ("Cannot find module for " ++ name))
  | .noComponent key => some (.assertion
      ("Cannot find component " ++ Text.quoted key ++ " for " ++ Text.quoted name))
  | .noNode => some (.assertion ("Cannot find " ++ name))
  | .notClass => none

/-- The symbol with a full name, which must be known; only a component of something other than a
class is passed over. -/
def lookupStrict (p : Program) (name : String) : Outcome (Option (Option NodeId × NodeId)) :=
  match p.resolve name with
  | .ok found => .ok (some found)
  | .error reason =>
    match reason.fault? name with
    | some f => .error f
    | none => .ok none

/-- Whether a value without a text of its own has a dot among its items. -/
def hasDot (name : Json) : Outcome Bool :=
  match name with
  | .arr items => return items.any fun v => v.same (.str ".")
  | .obj members => return members.any fun m => m.1 == "."
  | v => throw (.wrongKind ("argument of type '" ++ v.kindName ++ "' is not iterable"))

/-- The symbol with a full name that may be of any kind: only a text is taken apart. -/
def lookupValue (p : Program) (name : Json) : Outcome (Option (Option NodeId × NodeId)) :=
  match name with
  | .str s => return p.lookup s
  | v => do if ← hasDot v then throw .absent else return none

/-- The symbol with a full name of any kind, which must be known. -/
def lookupValueStrict (p : Program) (name : Json) : Outcome (Option (Option NodeId × NodeId)) :=
  match name with
  | .str s => p.lookupStrict s
  | v => do
    if ← hasDot v then throw .absent
    else throw (.assertion ("Cannot find module for " ++ v.display))

/-! ### Members -/

/-- The symbol of a member of what a node refers to.  Only a file has members of its own here: a
name is followed to its target, a variable to its type and an object's type to its class. -/
def memberWithin (p : Program) (name : Json) :
    Nat → Option NodeId → Outcome (Option (Option NodeId))
  | 0, _ => throw .tooDeep
  | depth + 1, ref =>
    match p.shape? ref with
    | some (.file _ _ _ symbols) => name.lookupIn symbols
    | some (.name _ target) => p.memberWithin name depth target
    | some (.var _ _ type) => p.memberWithin name depth type
    | some (.instanceOf info) => p.memberWithin name depth info
    | _ => return none

def member (p : Program) (ref : Option NodeId) (name : Json) :
    Outcome (Option (Option NodeId)) :=
  p.memberWithin name p.depth ref

/-- The symbol of a member of a class. -/
def classMember (p : Program) (info : Option NodeId) (name : Json) :
    Outcome (Option (Option NodeId)) :=
  match info, p.shape? info with
  | some id, some (.classInfo _ _ _) => p.classSymbol id name
  | _, some _ => throw .absent
  | _, none => return none

/-- The node that a member of an object means. -/
def definitionOf (p : Program) (name : Json) (target object : Option NodeId) :
    Outcome (Option NodeId) := do
  if target.isSome then return target
  match p.typeOf object with
  | none => return (← p.member object name).join
  | some type =>
    match p.shape? (some type) with
    | some (.instanceOf info) => return (← p.classMember info name).join
    | _ => return none

/-- The node that an expression means by itself. -/
def memberDefinition (p : Program) (expression : Option NodeId) : Outcome (Option NodeId) :=
  match p.shape? expression with
  | some (.member name target object) => p.definitionOf name target object
  | some (.name _ target) => return target
  | some _ => return none
  | none => throw .absent

/-! ### Home files -/

/-- Whether a walk reaches a node; the walk must come to its end. -/
def reaches (target : Option NodeId) (visits : List Visit) : Outcome Bool :=
  match visits.findSome? Visit.fault? with
  | some f => .error f
  | none => .ok (target.any fun id => visits.contains (.node id))

/-- The path of the first file that reaches a node; null where none does. -/
def firstReaching (p : Program) (target : Option NodeId) :
    List (Option NodeId) → Outcome Json
  | [] => return .null
  | file :: rest => do
    if ← reaches target (p.reached file) then return p.pathOf file
    else p.firstReaching target rest

/-- The given files and after them those of all other modules. -/
def searchOrder (p : Program) (first : List (Option NodeId)) : List (Option NodeId) :=
  first ++ (p.modules.map Prod.snd).filter fun file => !first.contains file

/-- The path of the file that defines a node, searched from the current file; null where none is
found. -/
def homeFile (p : Program) (ref current : Option NodeId) : Outcome Json :=
  match p.shape? ref with
  | some (.file path _ _ _) => return path
  | some (.var _ fullName _) => do
    match ← p.lookupValue fullName with
    | none => return .null
    | some (found, file) =>
      if found = ref then return p.pathOf (some file)
      else if some file = current then p.firstReaching ref (p.searchOrder [current])
      else p.firstReaching ref (p.searchOrder [current, some file])
  | some (.classInfo _ _ definition) => p.firstReaching definition (p.searchOrder [current])
  | _ => p.firstReaching ref (p.searchOrder [current])

end LangServer.Program
