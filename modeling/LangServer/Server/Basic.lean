import LangServer.Checker.Session
import LangServer.Program.Hover
import LangServer.Server.Handler

/-!
# The server

The server holds a workspace and a configuration once a client has set it up, and a session with
the checker.  Each handler is a step that may stop with a fault; what it did before that stays.

* `handleSetUp` answers `initialize`.
* `handleOpened`, `handleChanged` and `handleClosed` follow `textDocument/didOpen`,
  `textDocument/didChange` and `textDocument/didClose`.
* `handleSaved` follows `textDocument/didSave` and `handleConfigured`
  `workspace/didChangeConfiguration`; both lead to the session.
* `handleQuery` answers `textDocument/hover` and `textDocument/definition`.

If it is asked to, the server watches the client's process: it looks at it at once and then each
time a timer ends, and closes the channel when the process is gone.  A look that fails is the last.

Main definitions: `Environment`, `Server`, `Server.Run`, `Server.handle`, `Server.fire`.
-/

namespace LangServer

/-- What the server runs in. -/
structure Environment where
  machine : Machine := {}
  /-- The checker, if it is installed. -/
  checker : Option Checker := none
  /-- What the checker knows of the program, if it tells. -/
  program : Option Program := none
  /-- Whether the client's process is watched. -/
  watchParent : Bool := false

structure Server where
  workspace : Option Workspace := none
  configuration : Option Configuration := none
  session : Session := {}
  /-- Whether the client has asked the server to stop. -/
  stopping : Bool := false
  /-- The processes for which a timer runs, oldest first. -/
  timers : List Json := []
  /-- How many workspaces have been set up. -/
  workspaces : Nat := 0

namespace Server

/-- A step that may stop with a fault; what it has changed by then stays changed. -/
abbrev Run := ExceptT Fault (StateM Server)

/-- Runs a step to its end or its fault. -/
def attempt {α : Type} (step : Run α) : Run (Except Fault α) :=
  fun s => let (r, s) := step s; (.ok r, s)

/-- Runs an operation that changes nothing. -/
def lift {α : Type} (r : Outcome α) : Run α :=
  match r with
  | .ok a => pure a
  | .error f => throw f

/-- Runs a step of the session with the checker. -/
def inSession {α : Type} (step : Session.Run α) : Run α :=
  fun s => let (r, session) := step s.session; (r, { s with session })

/-- Runs a query and records its events. -/
def query {α : Type} (q : Traced α) : Run α :=
  fun s =>
    let (r, events) := q []
    (r, { s with session := { s.session with events := s.session.events ++ events } })

/-- Sends a message, unless the channel is closed. -/
def send (message : Rpc.Message) : Run Unit :=
  inSession (Session.send message)

/-- What the client receives of what was sent: messages that cannot be written are lost. -/
def written (s : Server) : List Rpc.Message :=
  s.session.sent.filter Rpc.Message.isWritable

/-- The workspace, which must have been set up. -/
def theWorkspace : Run Workspace := do
  match (← get).workspace with
  | some w => return w
  | none => throw .absent

/-- The configuration, which must have been set up. -/
def theConfiguration : Run Configuration := do
  match (← get).configuration with
  | some c => return c
  | none => throw .absent

def setWorkspace (w : Workspace) : Run Unit :=
  modify fun s => { s with workspace := some w }

/-- The checker, which must be installed. -/
def theChecker (env : Environment) : Run Checker :=
  match env.checker with
  | some c => return c
  | none => throw .noChecker

/-- The parameter of a name, or null. -/
def parameter (ps : List (String × Json)) (name : String) : Json :=
  (ps.lookup name).getD .null

/-! ### Setting up -/

/-- The root of the workspace: a URI, or else the URI of a path, or else none. -/
def rootUri (env : Environment) (uri path : Json) : Outcome Json :=
  if !uri.isNull then return uri
  else if path.isNull then return .str ""
  else do return .str (String.ofList (← Uri.ofPathValue env.machine.windows path))

/-- Closes the channel. -/
def close : Run Unit :=
  modify fun s => { s with session := { s.session with closed := true } }

/-- The seconds between two looks at the client's process. -/
def watchInterval : Nat := 10

/-- Looks at the client's process, closes the channel if it is gone, and sets a timer. -/
def watch (env : Environment) (process : Json) : Run Unit := do
  let alive ← lift (env.machine.isAlive process)
  if !alive then close
  inSession (Session.record (.timer watchInterval process))
  modify fun s => { s with timers := s.timers ++ [process] }

/-- Begins the watch, which goes on by itself: a fault ends it, and not the step that begins it. -/
def beginWatch (env : Environment) (process : Json) : Run Unit := do
  let _ ← attempt (watch env process)

/-- Whether the checker and the language are recent enough for queries about the program. -/
def answersQueries (env : Environment) (c : Checker) : Outcome Bool := do
  let recent ← env.machine.languageAtLeast [3, 8]
  return c.isPatched && recent

/-- What the server can do. -/
def capabilities (env : Environment) (c : Checker) : Outcome Json := do
  let queries ← answersQueries env c
  return .obj [("definitionProvider", .bool queries), ("hoverProvider", .bool queries),
    ("textDocumentSync", .int Protocol.SyncKind.incremental.number)]

/-- What is shown where the checker is not installed. -/
def missingChecker : String :=
  "Mypy is not installed. Follow mypy-vscode installation instructions."

/-- Sets up a new workspace and its configuration. -/
def setUpWorkspace (env : Environment) (ps : List (String × Json)) : Run Unit := do
  let uri ← lift (rootUri env (parameter ps "rootUri") (parameter ps "rootPath"))
  let w ← lift (Workspace.create env.machine uri)
  modify fun s =>
    { s with
      workspace := some { w with serial := s.workspaces }
      workspaces := s.workspaces + 1 }
  let options := parameter ps "initializationOptions"
  let c ← lift (Configuration.create env.machine uri
    (if options.truthy then options else .obj []) (parameter ps "processId")
    ((ps.lookup "capabilities").getD (.obj [])))
  modify fun s => { s with configuration := some c }

def handleSetUp (env : Environment) (ps : List (String × Json)) : Run Json := do
  setUpWorkspace env ps
  match env.checker with
  | none =>
    send (Workspace.showText missingChecker .warning)
    return .obj [("capabilities", .null)]
  | some c =>
    let process := parameter ps "processId"
    if env.watchParent && !process.isNull then beginWatch env process
    return .obj [("capabilities", ← lift (capabilities env c))]

/-! ### Documents -/

def handleOpened (env : Environment) (ps : List (String × Json)) : Run Json := do
  let document := parameter ps "textDocument"
  let w ← theWorkspace
  let uri ← lift (document.field "uri")
  let source ← lift (document.field "text")
  let version ← lift (document.getOr "version" .null)
  setWorkspace (← lift (w.put env.machine uri source version))
  return .null

def handleClosed (ps : List (String × Json)) : Run Json := do
  let w ← theWorkspace
  let uri ← lift ((parameter ps "textDocument").field "uri")
  setWorkspace (← lift (w.remove uri))
  return .null

/-- Applies one change to an open document. -/
def applyChange (env : Environment) (document change : Json) : Run Unit := do
  let w ← theWorkspace
  let uri ← lift (document.field "uri")
  let version ← lift (document.getOr "version" .null)
  setWorkspace (← lift (w.update env.machine uri change version))

/-- Applies changes in order, up to the first that fails. -/
def applyChanges (env : Environment) (document : Json) : List Json → Run Unit
  | [] => pure ()
  | change :: rest => do
    applyChange env document change
    applyChanges env document rest

def handleChanged (env : Environment) (ps : List (String × Json)) : Run Json := do
  let changes ← lift (parameter ps "contentChanges").iterate
  applyChanges env (parameter ps "textDocument") changes
  return .null

/-! ### Checking -/

def handleSaved (env : Environment) : Run Json := do
  let c ← theChecker env
  let w ← theWorkspace
  inSession (Session.check env.machine c w)
  return .null

/-- The settings for the checker among all settings. -/
def checkerSettings (settings : Json) : Outcome Json :=
  (if settings.truthy then settings else .obj []).getOr "mypy" (.obj [])

def handleConfigured (env : Environment) (ps : List (String × Json)) : Run Json := do
  let c ← theChecker env
  let configuration ← theConfiguration
  let settings ← lift (checkerSettings (parameter ps "settings"))
  let configuration := configuration.update settings
  modify fun s => { s with configuration := some configuration }
  let w ← theWorkspace
  inSession (Session.configurationChanged env.machine c configuration w)
  return .null

/-! ### Queries about the program -/

/-- The document of a URI; none where the URI is falsy. -/
def documentOf (env : Environment) (uri : Json) : Run (Option Document) := do
  if !uri.truthy then return none
  let w ← theWorkspace
  return some (← lift (w.document env.machine uri))

/-- Asks about what stands at a position of a document; `unknown` is the answer where the checker
does not tell about the program. -/
def handleQuery (env : Environment) (ps : List (String × Json)) (unknown : Json)
    (ask : Program → String → Json → Json → Traced Json) : Run Json := do
  let _ ← theChecker env
  let uri ← lift ((parameter ps "textDocument").field "uri")
  let document ← documentOf env uri
  let _ ← inSession (Session.runningOf (← theWorkspace))
  match env.program, document with
  | none, _ => return unknown
  | some _, none => throw .absent
  | some p, some d =>
    let line ← lift ((parameter ps "position").field "line")
    let column ← lift ((parameter ps "position").field "character")
    query (ask p d.path line column)

/-! ### All handlers -/

/-- Runs a handler. -/
def handle (env : Environment) (h : Handler) (ps : List (String × Json)) : Run Json :=
  match h with
  | .setUp => handleSetUp env ps
  | .ready => return .null
  | .stop => do
    modify fun s => { s with stopping := true }
    return .null
  | .exit => do
    close
    return .null
  | .opened => handleOpened env ps
  | .changed => handleChanged env ps
  | .closed => handleClosed ps
  | .saved => handleSaved env
  | .configured => handleConfigured env ps
  | .hover => handleQuery env ps .null fun p => p.hover env.machine.files
  | .definition => handleQuery env ps (.arr []) fun p => p.definitions env.machine

/-- Runs a handler on the parameters of a message. -/
def call (env : Environment) (h : Handler) (params : Json) : Run Json := do
  handle env h (← lift (h.parameters params))

/-- Ends the oldest timer. -/
def fire (env : Environment) : Run Unit := do
  match (← get).timers with
  | [] => throw .outOfRange
  | process :: rest =>
    modify fun s => { s with timers := rest }
    watch env process

end Server

end LangServer
