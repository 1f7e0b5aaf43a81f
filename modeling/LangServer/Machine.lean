import LangServer.FileSystem
import LangServer.Json.Arithmetic

/-!
# The machine

What the server can see of the machine it runs on: files, processes, the way paths are written and
the version of the language it serves.

Main definitions: `Machine`, `Machine.processTable`.
-/

namespace LangServer

/-- A machine of which nothing is said has no files, no processes and no homes. -/
structure Machine where
  files : FileSystem := {}
  /-- Whether paths are written with backslashes. -/
  windows : Bool := false
  /-- Whether a process runs and may be asked about; a fault where the value names no process. -/
  isAlive : Json → Outcome Bool := fun _ => .ok false
  /-- The home directory. -/
  home : String := ""
  /-- The home directories of other users, by their names. -/
  otherHomes : List (String × String) := []
  /-- The version of the language, most significant number first. -/
  languageVersion : List Json := []

namespace Machine

/-- The answers of a machine that knows the processes that run and those of them that may not be
asked about; any value is asked for among them. -/
def processTable (alive denied : List Json) (process : Json) : Outcome Bool :=
  .ok (!denied.any process.same && alive.any process.same)

/-- Whether the version of the language is at least another, compared number by number. -/
def languageAtLeast (m : Machine) (version : List Int) : Outcome Bool := do
  return !(← Json.lessItems m.languageVersion (version.map Json.int))

end Machine

end LangServer
