import LangServer.Json.Parser
import LangServer.Logging.Configure
import LangServer.Machine

/-!
# Setting up the log

The log goes to the standard error output, to a file, or to where a configuration file says; the
level depends on how verbose the server shall be and wins over that of the configuration file.

Main definitions: `Logging.setUp`, `Logging.levelFor`.
-/

namespace LangServer.Logging

/-- The level for a degree of verbosity: warnings, information, or everything from two on. -/
def levelFor (verbose : Json) : Outcome Int := do
  if verbose.eqInt 0 then return 30
  if verbose.eqInt 1 then return 20
  if (← verbose.gtInt 2) || verbose.eqInt 2 then return 10
  throw .unset

/-- How deep the values of a configuration file may be nested. -/
def maxDepth : Nat := 970

/-- The value that a configuration file holds. -/
def readConfiguration (m : Machine) (path : Json) : Outcome Json := do
  (Json.strict maxDepth).read (← m.files.readText (← path.expectText).toList)

/-- The size at which a log file is set aside, and how many of those are kept. -/
def fileLimit : Nat × Nat := (50 * 1024 * 1024, 10)

/-- How a log file is written to. -/
def fileOptions : List (String × Json) :=
  [("mode", .str "a"), ("maxBytes", .int fileLimit.1), ("backupCount", .int fileLimit.2),
    ("encoding", .null), ("delay", .bool false)]

/-- Adds the handler that writes to a file, or else to the standard error output. -/
def addDefault (file : Json) : SetUp Unit := do
  if file.truthy then
    setFile { name := file, options := fileOptions }
    addHandler { name := "", kind := "NullHandler" }
  else addHandler { name := "", kind := "StreamHandler" }

/-- Sets the log up. -/
def setUp (m : Machine) (verbose configuration file : Json) : SetUp Unit := do
  if configuration.truthy then configure (← lift (readConfiguration m configuration))
  else addDefault file
  setLevel (.int (← lift (levelFor verbose)))

end LangServer.Logging
