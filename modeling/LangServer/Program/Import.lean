import LangServer.Checker.Basic
import LangServer.FileSystem
import LangServer.Json.Table
import LangServer.Program.Lookup

/-!
# The name under the cursor in an import statement

A node of the graph says where an import statement stands, but not where its names stand.  So the
statement's text is cut out of the file and parsed, and the cursor is moved from the file into that
text.  In the syntax tree the cursor selects a module, by the components of its dotted name up to
the one under the cursor, or an imported name.

A syntax tree is nested arrays.  The first item of each names its kind; a token goes on with its
text, its line and its column, any other tree with the trees it is made of.

Main definitions: `excerpt`, `dottedNameAt`, `Selection`, `select`, `Program.importDefinition`.
-/

namespace LangServer.Import

/-! ### The statement's text -/

/-- The line of the file that is numbered so. -/
def lineOf (lines : List (List Char)) (number : Json) : Outcome (List Char) := do
  match (← number.subInt 1).toInt? with
  | none => throw (.wrongKind "list indices must be integers or slices, not float")
  | some i =>
    match Text.item? i lines with
    | some line => return line
    | none => throw .outOfRange

/-- The text between both ends of a span. -/
def excerpt (s : Span) (lines : List (List Char)) : Outcome (List Char) := do
  if s.line.same s.endLine then
    s.column.slice s.endColumn (← lineOf lines s.line)
  else
    let first ← s.column.dropBefore (← lineOf lines s.line)
    let between ← s.line.slice (← s.endLine.subInt 1) lines
    let last ← s.endColumn.takeBefore (← lineOf lines s.endLine)
    return first ++ between.flatten ++ last

/-! ### Tokens -/

/-- Whether the position is on a token or right behind it. -/
def tokenContains (tokenLine tokenColumn tokenLength line column : Json) : Outcome Bool := do
  if !tokenLine.same line then return false
  if !(← tokenColumn.atMost column) then return false
  column.atMost (← tokenColumn.add tokenLength)

/-- Whether a tree is of a kind. -/
def isKind (kind : String) (tree : Json) : Outcome Bool := do
  return (← tree.item 0).same (.str kind)

/-- A tree must be of a kind. -/
def expectKind (kind : String) (tree : Json) : Outcome Unit := do
  if ← isKind kind tree then return
  throw (.assertion "")

/-- The dotted name of some components. -/
def joinNames (names : List Json) : Outcome String := do
  return String.ofList (['.'].intercalate (← names.mapM fun v => v.expectText.map String.toList))

/-- The components of a dotted name up to the one under the cursor, after those passed. -/
def dottedFrom (line column : Json) (passed : List Json) : List Json → Outcome (Option String)
  | [] => return none
  | token :: rest => do
    match ← token.unpack 4 with
    | [kind, name, tokenLine, tokenColumn] =>
      if kind.same (.str "NAME") then
        let passed := passed ++ [name]
        if ← tokenContains tokenLine tokenColumn (.int (← name.length)) line column then
          return some (← joinNames passed)
        else dottedFrom line column passed rest
      else dottedFrom line column passed rest
    | _ => dottedFrom line column passed rest

/-- The components of a dotted name up to the one under the cursor. -/
def dottedNameAt (tree line column : Json) : Outcome (Option String) := do
  expectKind "dotted_name" tree
  dottedFrom line column [] (← tree.itemsFrom 1)

/-- The non-empty dotted name under the cursor. -/
def moduleAt (tree line column : Json) : Outcome (Option String) := do
  return (← dottedNameAt tree line column).filter fun name => name != ""

/-- The imported name of a tree, where the cursor is on it. -/
def importedNameAt (tree line column : Json) : Outcome (Option Json) := do
  if !(← isKind "import_as_name" tree) then return none
  let name ← tree.item 1
  expectKind "NAME" name
  let tokenLine ← name.item 2
  let tokenColumn ← name.item 3
  let text ← name.item 1
  if ← tokenContains tokenLine tokenColumn (.int (← text.length)) line column then
    return some text
  else return none

/-! ### Selections -/

/-- What the cursor selects: a module, and a name in it or null. -/
structure Selection where
  module : Json := .null
  name : Json := .null

/-- The tree at the end of a chain of only parts. -/
def descend : List String → Json → Outcome Json
  | [], tree => return tree
  | [kind], tree => do
    expectKind kind tree
    return tree
  | kind :: rest, tree => do
    expectKind kind tree
    descend rest (← tree.item 1)

/-- The import statement in the tree of a file. -/
def statementOf (tree : Json) : Outcome Json :=
  descend ["file_input", "stmt", "simple_stmt", "small_stmt", "import_stmt"] tree

/-- The module under the cursor in a list of imported modules. -/
def selectModule (line column : Json) : List Json → Outcome (Option String)
  | [] => return none
  | tree :: rest => do
    if ← isKind "dotted_as_name" tree then
      match ← moduleAt (← tree.item 1) line column with
      | some name => return some name
      | none => selectModule line column rest
    else selectModule line column rest

/-- The module that an import in a file means. -/
def target (p : Program) (file : Option NodeId) (level name : Json) : Traced (Option Json) :=
  match p.shape? file with
  | some (.file _ fullName isPackage _) => do
    Traced.record (.resolved fullName level name isPackage)
    match ← Traced.lift (name.lookupIn p.relatives) with
    | none => return some name
    | some pair =>
      match ← Traced.lift (pair.unpack 2) with
      | [module, found] => return if found.truthy then some module else none
      | _ => return none
  | _ => throw .absent

/-- The module under the cursor where all names are imported; only what stands before the word
`import` counts. -/
def selectAll (p : Program) (file : Option NodeId) (level line column : Json) :
    List Json → Traced (Option Selection)
  | [] => return none
  | tree :: rest => do
    if ← Traced.lift (isKind "NAME" tree) then
      if (← Traced.lift (tree.item 1)).same (.str "import") then return none
      else selectAll p file level line column rest
    else if ← Traced.lift (isKind "dotted_name" tree) then
      match ← Traced.lift (moduleAt tree line column) with
      | none => selectAll p file level line column rest
      | some name =>
        match ← target p file level (.str name) with
        | some module => return some { module }
        | none => selectAll p file level line column rest
    else selectAll p file level line column rest

/-- The imported name under the cursor. -/
def selectName (p : Program) (file : Option NodeId) (level module line column : Json) :
    List Json → Traced (Option Selection)
  | [] => return none
  | tree :: rest => do
    match ← Traced.lift (importedNameAt tree line column) with
    | none => selectName p file level module line column rest
    | some name =>
      match ← target p file level module with
      | some module => return some { module, name }
      | none => selectName p file level module line column rest

/-- The module or imported name under the cursor where names are imported. -/
def selectFrom (p : Program) (file : Option NodeId) (level module line column : Json) :
    List Json → Traced (Option Selection)
  | [] => return none
  | tree :: rest => do
    if ← Traced.lift (isKind "dotted_name" tree) then
      match ← Traced.lift (moduleAt tree line column) with
      | none => selectFrom p file level module line column rest
      | some name =>
        match ← target p file level (.str name) with
        | some module => return some { module }
        | none => selectFrom p file level module line column rest
    else if ← Traced.lift (isKind "import_as_names" tree) then
      match ← selectName p file level module line column (← Traced.lift (tree.itemsFrom 1)) with
      | some s => return some s
      | none => selectFrom p file level module line column rest
    else selectFrom p file level module line column rest

/-- The parts of a statement that imports from a module, behind its first word. -/
def partsFrom (statement : Json) : Outcome (List Json) := do
  let tree ← statement.item 1
  expectKind "import_from" tree
  tree.itemsFrom 2

/-- What the cursor selects in an import of a shape. -/
def selectIn (p : Program) (file : Option NodeId) (shape : Shape) (statement line column : Json) :
    Traced Selection := do
  match shape with
  | .importModules =>
    let tree ← Traced.lift (statement.item 1)
    Traced.lift (expectKind "import_name" tree)
    let names ← Traced.lift (do (← tree.item 2).itemsFrom 1)
    match ← Traced.lift (selectModule line column names) with
    | some name => return { module := .str name }
    | none => return {}
  | .importAll level =>
    let parts ← Traced.lift (partsFrom statement)
    return (← selectAll p file level line column parts).getD {}
  | .importNames level module =>
    let parts ← Traced.lift (partsFrom statement)
    return (← selectFrom p file level module line column parts).getD {}
  | _ => return {}

/-- What the cursor selects in the syntax tree of an import. -/
def select (p : Program) (file : Option NodeId) (shape : Shape) (tree line column : Json) :
    Traced Selection := do
  selectIn p file shape (← Traced.lift (statementOf tree)) line column

/-! ### Definitions -/

/-- The node that a selection means. -/
def Selection.node (s : Selection) (p : Program) : Outcome (Option NodeId) := do
  if !s.module.truthy then return none
  match (← s.module.lookupIn p.modules).join with
  | none => return none
  | some module =>
    if s.name.truthy then
      return (← s.name.lookupIn (((p.node? (some module)).map Node.symbols).getD [])).join
    else return some module

/-- The cursor in the statement's text. -/
def cursorIn (s : Span) (line column : Json) : Outcome (Json × Json) := do
  let inner ← (← line.sub s.line).addInt 1
  if line.same s.line then return (inner, ← column.sub s.column)
  else return (inner, column)

/-- The node that the name under the cursor in an import statement means. -/
def definition (p : Program) (fs : FileSystem) (statement : Node) (file : Option NodeId)
    (path : String) (line column : Json) : Traced (Option NodeId) := do
  let text ← Traced.lift (fs.readText path.toList)
  let code ← Traced.lift (excerpt statement.span (Text.splitAtNewline text))
  Traced.record (.parsed (String.ofList code))
  match p.statements.lookup (String.ofList code) with
  | none => return none
  | some tree =>
    let (innerLine, innerColumn) ← Traced.lift (cursorIn statement.span line column)
    let selection ← select p file statement.shape tree innerLine innerColumn
    Traced.lift (selection.node p)

end LangServer.Import
