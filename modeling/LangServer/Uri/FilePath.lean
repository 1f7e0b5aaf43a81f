import LangServer.Uri.Parts
import LangServer.Json.Access

/-!
# File paths and URIs

The URI of a file has the scheme `file`.  A path that begins with two slashes names a share: the
text up to the next slash is the authority.  Drive letters are written in lower case.  On Windows
both slashes divide names, and paths are given with backslashes.

Main definitions: `toPath`, `ofPath`, `normalizePath`, and their forms for any value.
-/

namespace LangServer.Uri

def replaceChar (old new : Char) (s : List Char) : List Char :=
  s.map fun c => if c = old then new else c

/-! ### From a URI to a path -/

/-- The path that parts name. -/
def Parts.filePath (p : Parts) : List Char :=
  if !p.authority.isEmpty && !p.path.isEmpty && p.scheme == "file".toList then
    '/' :: '/' :: p.authority ++ p.path
  else if hasDrive p.path then
    (p.path.drop 1).take 1 |>.map Char.toLower |>.append (p.path.drop 2)
  else p.path

/-- The path of a file, as the machine writes it. -/
def toPath (windows : Bool) (uri : List Char) : Outcome (List Char) := do
  let p ← Parts.parse uri
  return if windows then replaceChar '/' '\\' p.filePath else p.filePath

/-! ### From a path to a URI -/

/-- Puts a slash in front of a path that has none. -/
def ensureSlash (path : List Char) : List Char :=
  if path.head? = some '/' then path else '/' :: path

/-- Writes the drive letter in lower case. -/
def lowerDrive (path : List Char) : List Char :=
  if hasDrive path then
    path.take 1 ++ ((path.drop 1).take 1).map Char.toLower ++ path.drop 2
  else path

/-- The path and the authority of a path with forward slashes. -/
def splitShare (path : List Char) : Outcome (List Char × List Char) :=
  match path with
  | '/' :: '/' :: rest =>
    if rest.contains '/' then
      .ok (rest.dropWhile (· != '/'), rest.takeWhile (· != '/'))
    else .error (.badValue "substring not found")
  | _ => .ok (path, [])

/-- The path and the authority of the URI of a path. -/
def normalizePath (windows : Bool) (path : List Char) : Outcome (List Char × List Char) := do
  let path := if windows then replaceChar '\\' '/' path else path
  let (path, authority) ← splitShare path
  return (lowerDrive (ensureSlash path), authority)

/-- The URI of a path. -/
def ofPath (windows : Bool) (path : List Char) : Outcome (List Char) := do
  let (path, authority) ← normalizePath windows path
  return Parts.render { scheme := "file".toList, authority, path }

/-! ### Any value in place of a text -/

/-- The parts of the URI that a value is: a value that is falsy is the empty one. -/
def partsOf (uri : Json) : Outcome Parts :=
  match uri with
  | .str s => Parts.parse s.toList
  | v => if v.truthy then .error .absent else Parts.parse []

/-- The path of the URI that a value is. -/
def pathOf (windows : Bool) (uri : Json) : Outcome String := do
  let p ← partsOf uri
  return String.ofList (if windows then replaceChar '/' '\\' p.filePath else p.filePath)

/-- The path and the authority of the path that a value is. -/
def normalizeValue (windows : Bool) (path : Json) : Outcome (List Char × List Char) :=
  match path with
  | .str s => normalizePath windows s.toList
  | v =>
    if windows then .error .absent
    else match v with
      | .arr _ => .error .absent
      | v => .error v.notSubscriptable

/-- The URI of the path that a value is. -/
def ofPathValue (windows : Bool) (path : Json) : Outcome (List Char) := do
  let (path, authority) ← normalizeValue windows path
  return Parts.render { scheme := "file".toList, authority, path }

/-- The URI of six parts. -/
def renderValues (parts : Json) : Outcome (List Char) := do
  match ← (← parts.unpack 6).mapM Json.expectText with
  | [scheme, authority, path, params, query, fragment] =>
    return Parts.render {
      scheme := scheme.toList, authority := authority.toList, path := path.toList,
      params := params.toList, query := query.toList, fragment := fragment.toList }
  | _ => throw (.badValue "not enough values to unpack (expected 6, got 0)")

/-- The names of the parts that can be replaced. -/
def partNames : List String :=
  ["scheme", "netloc", "path", "params", "query", "fragment"]

/-- A replacement for a part: the part itself if it is falsy. -/
def replacePart (changes : Json) (name : String) (old : List Char) : Outcome (List Char) := do
  let new := changes.memberOr name .null
  if new.truthy then return (← new.expectText).toList else return old

/-- A URI with some of its parts replaced; the path must be among them. -/
def withParts (windows : Bool) (uri : Json) (changes : List (String × Json)) :
    Outcome (List Char) := do
  if changes.any fun c => !partNames.contains c.1 then
    throw (.wrongKind "unexpected keyword argument")
  let old ← partsOf uri
  let (path, _) ← normalizeValue windows ((Json.obj changes).memberOr "path" .null)
  return Parts.render {
    scheme := ← replacePart (.obj changes) "scheme" old.scheme
    authority := ← replacePart (.obj changes) "netloc" old.authority
    path := path
    params := ← replacePart (.obj changes) "params" old.params
    query := ← replacePart (.obj changes) "query" old.query
    fragment := ← replacePart (.obj changes) "fragment" old.fragment }

end LangServer.Uri
