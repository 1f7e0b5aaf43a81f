import LangServer.Cli.Options
import LangServer.Logging
import LangServer.Server.Channel

/-!
# A run of the program

The command line is read, the log is set up, and the server listens on its channel: the standard
input, or a connection to an address.  Only on the standard input is the client's process watched.

Main definition: `Cli.run`.
-/

namespace LangServer.Cli

/-- How a run ends. -/
inductive Ending where
  /-- The channel has ended. -/
  | served
  | failed (f : Fault)
  | exited (e : Exit)

/-- What a run leaves behind. -/
structure Result where
  logging : Logging := {}
  /-- The address that was served. -/
  address : Option (Option String × Option Int) := none
  server : Server
  ending : Ending

/-- A text that may not be given, as a value. -/
def optional (text : Option String) : Json :=
  match text with
  | some s => .str s
  | none => .null

/-- Sets the log up as the command line asks. -/
def setUpLogging (m : Machine) (o : Options) : Except Fault Unit × Logging :=
  (Logging.setUp m (.int o.verbose) (optional o.logConfig) (optional o.logFile)).run {}

/-- The environment of the server under the options. -/
def environment (env : Environment) (o : Options) : Environment :=
  { env with watchParent := o.checkParent && !o.tcp }

/-- Serves what a channel holds. -/
def serve (env : Environment) (server : Server) (o : Options) (logging : Logging)
    (input : List Nat) : Result :=
  let (r, server) := (Server.listen (environment env o) input).run server
  { logging
    address := if o.tcp then some (o.host, o.port) else none
    server
    ending := match r with
      | .ok () => .served
      | .error f => .failed f }

/-- Runs the program with some arguments on a channel. -/
def run (env : Environment) (server : Server) (arguments : List String) (input : List Nat) :
    Result :=
  match parse arguments with
  | .error stop => { server, ending := .exited stop.exit }
  | .ok o =>
    match setUpLogging env.machine o with
    | (.error f, logging) => { logging, server, ending := .failed f }
    | (.ok (), logging) => serve env server o logging input

end LangServer.Cli
