import LangServer.Json.Basic
import LangServer.Text.Replace

/-!
# The checker

The checker is a program of its own.  The server knows its version, reads a configuration file into
its options, starts it, and asks it to check targets; each of these is an event that the session
records.  What options the checker begins with, what it makes of a configuration file and how it
ends each check is its own: a `Checker` gives the first two, and each `Reply` a check.

Main definitions: `Options`, `ConfigFile`, `Reply`, `Checker`, `Event`, `Traced`.
-/

namespace LangServer

/-! ### Options -/

/-- The options of the checker by name. -/
abbrev Options := List (String × Json)

namespace Options

def get (o : Options) (name : String) : Json :=
  (o.lookup name).getD .null

def set (o : Options) (name : String) (value : Json) : Options :=
  Json.insertMember name value o

/-- Sets several options in order. -/
def setAll (o : Options) (values : List (String × Json)) : Options :=
  values.foldl (fun o v => o.set v.1 v.2) o

end Options

/-! ### What the checker answers -/

/-- What reading a configuration file does. -/
structure ConfigFile where
  /-- Whether the file asks for the strict mode. -/
  strict : Bool := false
  /-- What is complained about. -/
  complaints : String := ""
  /-- The options it sets. -/
  options : List (String × Json) := []

/-- How a check ends. -/
inductive Ending where
  | raised (text : String)
  | exited
  | finished (result : List (String × Json))

/-- A check: the progress it reports and how it ends. -/
structure Reply where
  progress : List Json := []
  ending : Ending

namespace Reply

/-- A check that finds nothing. -/
def clean : Reply :=
  { ending := .finished [("status", .int 0), ("out", .str ""), ("err", .str "")] }

end Reply

structure Checker where
  version : String := "0.800"
  /-- The options that nothing has set. -/
  defaults : Options := []
  /-- Reads the configuration file of a name, or from the default places where the name is null.
  Any value may come as a name, and one that the checker cannot take is a fault. -/
  readConfig : Json → Outcome ConfigFile := fun _ => .ok {}

namespace Checker

/-- Whether the checker has been extended for this server. -/
def isPatched (c : Checker) : Bool :=
  Text.occursIn "langserver".toList c.version.toList

end Checker

/-! ### Events -/

/-- What the server does outside itself. -/
inductive Event where
  /-- A configuration file is read, with so many arguments beside the options. -/
  | configRead (arguments : Nat) (file : Json)
  /-- The checker is started. -/
  | started (options : Options)
  /-- The checker is asked to check. -/
  | checked (arguments : List Json)
  /-- A timer is set, in seconds. -/
  | timer (seconds : Nat) (process : Json)
  /-- An import statement is parsed. -/
  | parsed (code : String)
  /-- The target of a relative import is asked for. -/
  | resolved (module level target isPackage : Json)

/-- A query that records events and may stop with a fault. -/
abbrev Traced := ExceptT Fault (StateM (List Event))

namespace Traced

def record (e : Event) : Traced Unit :=
  modify fun es => es ++ [e]

/-- Runs an operation that records nothing. -/
def lift {α : Type} (r : Outcome α) : Traced α :=
  match r with
  | .ok a => pure a
  | .error f => throw f

end Traced

/-- The file in which the checker keeps its state. -/
def statusFile : String := ".dmypy.json"

end LangServer
