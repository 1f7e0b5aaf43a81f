import LangServer.Json.Display
import LangServer.Program.Definition

/-!
# Hovering

The answer to `textDocument/hover`.  Over a name, a member or an import the client is shown what it
refers to: a variable with its type, a class, a module, or a function with its type or with all its
overloads.

Names from the module of built-in objects are shown without that module's name.

Main definitions: `Hover.strip`, `Hover.unqualified`, `Hover.fenced`, `Program.describe`,
`Program.hover`.
-/

namespace LangServer

namespace Hover

/-! ### Texts -/

/-- What a name from the module of built-in objects begins with. -/
def builtins : List Char := "builtins.".toList

/-- Whether a name may begin behind this character. -/
def endsName (c : Char) : Bool :=
  !(c.isAlphanum || c = '.' || c = '_')

/-- Deletes the name of the module of built-in objects where it stands free.  `free` says whether a
name may begin here, and `skip` how many characters belong to a name already deleted. -/
def stripFrom : Bool → Nat → List Char → List Char
  | _, _, [] => []
  | _, skip + 1, c :: rest => stripFrom (endsName c) skip rest
  | free, 0, c :: rest =>
    if free && builtins.isPrefixOf (c :: rest) then
      stripFrom (endsName c) (builtins.length - 1) rest
    else c :: stripFrom (endsName c) 0 rest

/-- A type's text without the name of the module of built-in objects where that stands free: at the
start, or behind a character that cannot be part of a name. -/
def strip (s : List Char) : List Char :=
  stripFrom true 0 s

/-- A full name without the name of the module of built-in objects. -/
def unqualified (name : List Char) : List Char :=
  if builtins.isPrefixOf name then name.drop builtins.length else name

/-- Source text as it is set in the client's markup.  A backquote, which would end the setting, is
shown as an underscore. -/
def fenced (s : List Char) : List Char :=
  "```python\n".toList ++ s.map (fun c => if c = '\x60' then '_' else c) ++ "\n```".toList

/-- The text of any value, stripped. -/
def stripValue (v : Json) : String :=
  String.ofList (strip v.display.toList)

def unqualifiedValue (v : Json) : Outcome String := do
  return String.ofList (unqualified (← v.asText).toList)

def fencedValue (v : Json) : Outcome String := do
  return String.ofList (fenced (← v.asText).toList)

/-! ### Descriptions -/

/-- What the client is shown. -/
inductive Description where
  /-- A line of source text. -/
  | source (text : List Char)
  /-- A function's name and the types of its overloads. -/
  | overloads (name : List Char) (types : List (List Char))
deriving DecidableEq, Repr

namespace Description

/-- The description in the client's markup. -/
def markup : Description → List Char
  | source text => fenced text
  | overloads name types =>
    "\n\n".toList.intercalate
      (fenced name :: (toString types.length ++ " overloads:").toList :: types.map fenced)

def toJson (d : Description) : Json :=
  .obj [("contents", .obj [("kind", .str "markdown"), ("value", .str (String.ofList d.markup))])]

end Description

end Hover

namespace Program

open Hover

/-- The text of a type. -/
def typeText (p : Program) (type : Option NodeId) : Outcome (List Char) :=
  match p.node? type with
  | some t => return strip (← t.written.expectText).toList
  | none => return "None".toList

/-- The type of a function without the word that introduces it. -/
def signature (p : Program) (type : Option NodeId) : Outcome (List Char) :=
  match p.node? type with
  | none => return []
  | some _ => do
    let text ← p.typeText type
    return if "def ".toList.isPrefixOf text then text.drop 4 else text

/-- The type of an expression, or else the type of what it refers to. -/
def typeOr (p : Program) (ref declared : Option NodeId) : Option NodeId :=
  (p.typeOf ref).or declared

/-- A function with its type. -/
def describeFunction (p : Program) (fullName : Json) (type : Option NodeId) :
    Outcome Description :=
  match p.shape? type with
  | some (.overloaded items) => do
    let name ← unqualifiedValue fullName
    return .overloads name.toList (← items.mapM p.typeText)
  | _ => do
    let type ← p.signature type
    return .source ((← unqualifiedValue fullName).toList ++ type)

/-- A variable with its type. -/
def describeVariable (p : Program) (name : Json) (type : Option NodeId) :
    Outcome Description := do
  let type ← match type with
    | none => pure "Unknown".toList
    | some _ => p.typeText type
  return .source (name.display.toList ++ ": ".toList ++ type)

/-- What is shown of a definition, for an expression that refers to it. -/
def describeNode (p : Program) (ref definition : Option NodeId) :
    Outcome (Option Description) :=
  match p.shape? definition with
  | some (.var name _ type) => some <$> p.describeVariable name (p.typeOr ref type)
  | some (.classInfo fullName _ _) => do
    return some (.source ("class ".toList ++ (← unqualifiedValue fullName).toList))
  | some (.file _ fullName _ _) =>
    return some (.source (fullName.display.toList ++ " (module)".toList))
  | some (.function fullName type) => some <$> p.describeFunction fullName (p.typeOr ref type)
  | some (.overloadedFunction fullName type) =>
    some <$> p.describeFunction fullName (p.typeOr ref type)
  | _ => return none

/-- The node that is shown for another: an object's type shows its class, and the built-in none
shows nothing. -/
def shown (p : Program) (fs : FileSystem) (n : Node) (file : NodeId) (path : String)
    (line column : Json) : Traced (Option NodeId) :=
  match n.shape with
  | .name fullName target =>
    return if fullName = some "builtins.None" then none else target
  | .instanceOf info => return info
  | _ => p.referent fs n file path line column

/-- What is shown of what stands at a position. -/
def describe (p : Program) (fs : FileSystem) (path : String) (line column : Json) :
    Traced (Option Description) := do
  let line ← Traced.lift (line.addInt 1)
  match ← Traced.lift (p.locate (.str path) line column) with
  | none => return none
  | some (ref, file) =>
    match p.node? ref with
    | none => return none
    | some n => Traced.lift (p.describeNode ref (← p.shown fs n file path line column))

/-- What the client is told of what stands at a position. -/
def hover (p : Program) (fs : FileSystem) (path : String) (line column : Json) : Traced Json := do
  match ← p.describe fs path line column with
  | none => return .null
  | some d => return d.toJson

end Program

end LangServer
