import LangServer.Json.Access
import LangServer.Json.Arithmetic
import LangServer.Machine
import LangServer.Uri.FilePath

/-!
# Configuration

What a client has told about itself and its settings, and the search for configuration files: from
the directory of a file upwards to a root, the nearest directory that holds a file of one of the
given names.

Main definitions: `Configuration`, `findParents`.
-/

namespace LangServer

/-! ### Search upwards -/

namespace Parents

/-- The directories from that of `path` up to `root`, nearest first, each as a path from `root`. -/
def directories (root path : List Char) : List (List Char) :=
  let steps := Path.relative (Path.dirname path) root
  (List.range (steps.length + 1)).reverse.map fun n => Path.joinAll root (steps.take n)

/-- A search, with the paths written down that it has asked about. -/
abbrev Search := StateM (List (List Char))

/-- Asks whether a path exists. -/
def ask (fs : FileSystem) (path : List Char) : Search Bool :=
  fun asked => (fs.exists? path, asked ++ [path])

/-- Those of some paths that exist. -/
def existing (fs : FileSystem) : List (List Char) → Search (List (List Char))
  | [] => pure []
  | path :: rest => do
    let here ← ask fs path
    let others ← existing fs rest
    return if here then path :: others else others

/-- The names that exist in the first directory that holds any, as paths. -/
def nearest (fs : FileSystem) (names : List (List Char)) :
    List (List Char) → Search (List (List Char))
  | [] => pure []
  | dir :: rest => do
    let found ← existing fs (names.map (Path.join dir))
    if found.isEmpty then nearest fs names rest else return found

/-- The nearest files of the given names, from the directory of `path` up to `root`. -/
def find (fs : FileSystem) (root path : List Char) (names : List (List Char)) :
    Search (List (List Char)) :=
  nearest fs names (directories root path)

end Parents

/-- Whether a path that is given as an array shares its beginning with a root that is one; the
arrays must have an order. -/
def Parents.shareFirst (root path : Json) : Outcome Bool := do
  let _ ← path.less root
  match root, path with
  | .arr (a :: _), .arr (b :: _) => return a.same b
  | _, _ => return false

/-- The search upwards for any values: a falsy root or a path that shares no beginning with it has
no result.  Arrays that share one are no paths to search. -/
def findParents (fs : FileSystem) (root path names : Json) : Outcome (List (List Char)) := do
  if !root.truthy then return []
  if root.items?.isSome then
    if !(← Parents.shareFirst root path) then return []
  let root := (← root.expectText).toList
  let path := (← path.expectText).toList
  if (Path.common root path).isEmpty then return []
  if (Path.dirname path).isEmpty then throw (.badValue "no path specified")
  let names ← (← names.iterate).mapM Json.expectText
  let (found, _) := (Parents.find fs root path (names.map String.toList)).run []
  return found

/-! ### Configuration of a client -/

structure Configuration where
  rootUri : Json
  rootPath : String
  initOptions : Json
  processId : Json
  capabilities : Json
  settings : Json := .obj []

namespace Configuration

def create (m : Machine) (rootUri initOptions processId capabilities : Json) :
    Outcome Configuration := do
  let rootPath ← Uri.pathOf m.windows rootUri
  return { rootUri, rootPath, initOptions, processId, capabilities }

/-- Replaces the settings. -/
def update (c : Configuration) (settings : Json) : Configuration :=
  { c with settings }

/-- The search upwards within the root. -/
def findParents (m : Machine) (c : Configuration) (path names : Json) :
    Outcome (List (List Char)) := do
  let root ← Uri.pathOf m.windows c.rootUri
  LangServer.findParents m.files (.str root) path names

end Configuration

end LangServer
