import LangServer.Fault
import LangServer.Path
import LangServer.Text.Lines
import LangServer.Text.Utf8

/-!
# Files

The files of the machine, each known by the names that lead to it from the root.  Every directory
on the way to a file exists, and so does the root.

Main definitions: `FileSystem`, `exists?`, `readText`.
-/

namespace LangServer

/-- Files by the names that lead to them, with their octets. -/
structure FileSystem where
  files : List (List (List Char) × List Nat) := []

namespace FileSystem

/-- The octets of the file at the end of some names. -/
def content? (fs : FileSystem) (names : List (List Char)) : Option (List Nat) :=
  fs.files.lookup names

/-- Whether some names lead to a directory. -/
def isDirectory (fs : FileSystem) (names : List (List Char)) : Bool :=
  names.isEmpty || fs.files.any fun f => names.isPrefixOf f.1 && names.length < f.1.length

/-- Whether a path leads to a directory, or to a file and does not end in a slash. -/
def exists? (fs : FileSystem) (path : List Char) : Bool :=
  if path.isEmpty then false
  else fs.isDirectory (Path.names path) ||
    ((fs.content? (Path.names path)).isSome && path.getLast? != some '/')

/-- The octets of a file. -/
def read (fs : FileSystem) (path : List Char) : Outcome (List Nat) :=
  if path.isEmpty then .error .fileNotFound
  else if fs.isDirectory (Path.names path) then .error .isDirectory
  else match fs.content? (Path.names path) with
    | some octets => .ok octets
    | none => .error .fileNotFound

/-- The text of a file, with every line break written as a line feed. -/
def readText (fs : FileSystem) (path : List Char) : Outcome (List Char) := do
  match Text.Utf8.decode? (← fs.read path) with
  | some cs => return Text.normalizeNewlines cs
  | none => throw .undecodable

end FileSystem

end LangServer
