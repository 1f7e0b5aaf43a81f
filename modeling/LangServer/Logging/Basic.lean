import LangServer.Json.Basic
import LangServer.Text.Quoted

/-!
# The log

Where the server writes its log and from which level on.  A log has a level and handlers, which
write what is at least of that level.  Setting it up may stop with a fault; what it did before that
stays.

Main definitions: `Logging`, `Logging.SetUp`, `Logging.checkLevel`.
-/

namespace LangServer

namespace Logging

/-- What writes the log: a handler's name, and what kind of thing it is. -/
structure Handler where
  name : String
  kind : String
deriving DecidableEq, Repr

/-- A file that the log is written to, and how. -/
structure File where
  name : Json
  options : List (String × Json)

end Logging

structure Logging where
  level : Json := .int 30
  handlers : List Logging.Handler := []
  /-- The file that the log is written to. -/
  file : Option Logging.File := none

namespace Logging

/-- A step of the set-up. -/
abbrev SetUp := ExceptT Fault (StateM Logging)

def lift {α : Type} (r : Outcome α) : SetUp α :=
  match r with
  | .ok a => pure a
  | .error f => throw f

/-- Reports whatever stops a step as another fault. -/
def reportAs {α : Type} (f : Fault) (step : SetUp α) : SetUp α :=
  tryCatch step fun _ => throw f

/-! ### Levels -/

def levelNames : List (String × Int) :=
  [("CRITICAL", 50), ("FATAL", 50), ("ERROR", 40), ("WARN", 30), ("WARNING", 30), ("INFO", 20),
    ("DEBUG", 10), ("NOTSET", 0)]

/-- The level that a value stands for: a number, or the number of a level's name. -/
def checkLevel (v : Json) : Outcome Json :=
  match v with
  | .int _ | .bool _ => return v
  | .str name =>
    match levelNames.lookup name with
    | some n => return .int n
    | none => throw (.badValue ("Unknown level: " ++ Text.quoted name))
  | _ => throw (.wrongKind "Level not an integer or a valid string")

/-! ### Changes -/

def setLevel (level : Json) : SetUp Unit :=
  modify fun l => { l with level }

def clearHandlers : SetUp Unit :=
  modify fun l => { l with handlers := [] }

/-- Adds a handler, unless it is there. -/
def addHandler (h : Handler) : SetUp Unit :=
  modify fun l =>
    { l with handlers := if l.handlers.contains h then l.handlers else l.handlers ++ [h] }

def setFile (file : File) : SetUp Unit :=
  modify fun l => { l with file := some file }

end Logging

end LangServer
