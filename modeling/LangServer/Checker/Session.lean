import LangServer.Checker.Basic
import LangServer.Configuration
import LangServer.Diagnostic
import LangServer.Text.Replace
import LangServer.Workspace

/-!
# Sessions with the checker

A session goes from the client's settings to a running checker and from a check to published
diagnostics.

* The first settings that arrive are frozen; the checker is started with them, after the client has
  been asked for the interpreter's path by `workspace/configuration` if it can be asked.
* A check reports that it begins and that it ends, and in between publishes what it found by
  `textDocument/publishDiagnostics` or tells by `window/showMessage` why it failed.
* The documents with published diagnostics are remembered, so that those without findings in a
  later check are cleared.

A step of a session may stop with a fault; what it did before that stays.

Main definitions: `Session`, `Session.Run`, `configurationChanged`, `start`, `check`, `publish`.
-/

namespace LangServer

/-- A checker that has been started. -/
structure Running where
  /-- Whether it reports its progress. -/
  reporting : Bool := false
deriving DecidableEq, Repr

/-- A request that the client has not answered yet, and the workspace it was sent for. -/
structure Pending where
  number : Nat
  workspace : Workspace

structure Session where
  /-- The frozen settings; null before any arrive. -/
  settings : Json := .null
  /-- The documents with published diagnostics. -/
  reported : List String := []
  /-- The started checkers, by the number of their workspace. -/
  running : List (Nat × Running) := []
  /-- The checks to come. -/
  replies : List Reply := []
  pending : List Pending := []
  /-- How many requests have been sent. -/
  requests : Nat := 0
  /-- Whether nothing more can be sent. -/
  closed : Bool := false
  sent : List Rpc.Message := []
  events : List Event := []

namespace Session

/-- A step that may stop with a fault; what it has changed by then stays changed. -/
abbrev Run := ExceptT Fault (StateM Session)

/-- Runs a step to its end or its fault. -/
def attempt {α : Type} (step : Run α) : Run (Except Fault α) :=
  fun s => let (r, s) := step s; (.ok r, s)

/-- Runs an operation that changes nothing. -/
def lift {α : Type} (r : Outcome α) : Run α :=
  match r with
  | .ok a => pure a
  | .error f => throw f

/-- Sends a message, unless the channel is closed. -/
def send (message : Rpc.Message) : Run Unit :=
  modify fun s => if s.closed then s else { s with sent := s.sent ++ [message] }

def record (e : Event) : Run Unit :=
  modify fun s => { s with events := s.events ++ [e] }

/-- Shows a text to the user. -/
def tell (text : String) : Run Unit :=
  send (Workspace.showText text .info)

/-! ### Started checkers -/

def setRunning (w : Workspace) (r : Running) : Run Unit :=
  modify fun s =>
    { s with running := (w.serial, r) :: s.running.filter fun p => p.1 != w.serial }

/-- The checker of a workspace, which must have been started. -/
def runningOf (w : Workspace) : Run Running := do
  match (← get).running.lookup w.serial with
  | some r => return r
  | none => throw (.noAttribute "Workspace" "mypy_server")

/-! ### Publishing -/

/-- The URI of a path that the checker has written. -/
def uriOf (m : Machine) (w : Workspace) (path : String) : Outcome String :=
  (Uri.ofPath m.windows (Path.join w.rootPath.toList path.toList)).map String.ofList

/-- Publishes the diagnostics of a document and remembers it. -/
def publishFor (uri : String) (ds : List Diagnostic) : Run Unit := do
  modify fun s =>
    { s with reported := if s.reported.contains uri then s.reported else s.reported ++ [uri] }
  send (Workspace.publishDiagnostics (.str uri) (.arr (ds.map Diagnostic.toJson)))

def publishReport (m : Machine) (w : Workspace) : Report → Run Unit
  | [] => pure ()
  | (path, ds) :: rest => do
    publishFor (← lift (uriOf m w path)) ds
    publishReport m w rest

/-- Clears the diagnostics of a document. -/
def clearFor (uri : String) : Run Unit :=
  send (Workspace.publishDiagnostics (.str uri) (.arr []))

def clearAll : List String → Run Unit
  | [] => pure ()
  | uri :: rest => do
    clearFor uri
    clearAll rest

/-- An order in which the documents of a set are gone through: a set has none of its own. -/
structure ClearOrder where
  arrange : List String → List String := id
  perm : ∀ uris, (arrange uris).Perm uris := by exact fun _ => .refl _

/-- Publishes what an output of the checker reports, and clears the documents that had diagnostics
before and have none now. -/
def publish (m : Machine) (w : Workspace) (output : Json) (order : ClearOrder := {}) :
    Run Unit := do
  let report ← lift (Report.ofJson output)
  let previous := (← get).reported
  modify fun s => { s with reported := [] }
  publishReport m w report
  let current := (← get).reported
  clearAll (order.arrange (previous.filter fun uri => !current.contains uri))

/-! ### Checking -/

/-- What the user sees while a check runs. -/
def spinner : String := "$(gear~spin) mypy"

def progressText (n : Json) : String :=
  spinner ++ " (" ++ n.display ++ ")"

def reportEach : List Json → Run Unit
  | [] => pure ()
  | n :: rest => do
    send (Workspace.reportProgress (.str (progressText n)))
    reportEach rest

/-- The path of a target. -/
def targetPath (w : Workspace) (target : Json) : Outcome Json :=
  match target with
  | .str s => .ok (.str (String.ofList (Path.join w.rootPath.toList s.toList)))
  | v => .error (.wrongKind
      ("join() argument must be str, bytes, or os.PathLike object, not '" ++ v.kindName ++ "'"))

/-- The paths to check: those of the settings, or the whole workspace. -/
def targetPaths (w : Workspace) (settings : Json) : Outcome (List Json) := do
  let targets ← settings.getOr "targets" .null
  let targets ← if targets.truthy then targets.iterate else pure [.str "."]
  targets.mapM (targetPath w)

/-- The next check, or one that finds nothing. -/
def nextReply : Run Reply := do
  match (← get).replies with
  | [] => return Reply.clean
  | r :: rest =>
    modify fun s => { s with replies := rest }
    return r

/-- How a check went, as far as the user is told. -/
inductive Result where
  | done
  | failed (text : String)
  | aborted

/-- Takes in the result of a check that came to its end. -/
def takeIn (m : Machine) (w : Workspace) (result : List (String × Json)) : Run Result := do
  let _ ← lift ((Json.obj result).field "status")
  let err ← lift ((Json.obj result).field "err")
  if err.truthy then tell ("Error running mypy: " ++ err.display)
  let out ← lift ((Json.obj result).field "out")
  publish m w out
  return .done

/-- The arguments of a check: older checkers take the targets alone. -/
def checkArguments (c : Checker) (targets : List Json) : List Json :=
  if "0.720" < c.version then [.arr targets, .bool false, .int 80] else [.arr targets]

/-- Runs the checker once. -/
def runChecker (m : Machine) (c : Checker) (w : Workspace) : Run Result := do
  if c.isPatched then
    let _ ← runningOf w
    setRunning w { reporting := true }
  let targets ← lift (targetPaths w (← get).settings)
  let running ← runningOf w
  record (.checked (checkArguments c targets))
  let reply ← nextReply
  if running.reporting then reportEach reply.progress
  match reply.ending with
  | .raised text => return .failed text
  | .exited => return .aborted
  | .finished result => takeIn m w result

/-- Tells the user how a check went. -/
def tellResult : Except Fault Result → Run Unit
  | .ok .done => pure ()
  | .ok (.failed text) => tell ("Error running mypy: " ++ text)
  | .ok .aborted => tell "Internal error running mypy. Open output pane for details."
  | .error f => tell ("Error running mypy: " ++ f.text)

/-- Checks the workspace, between a report that the check begins and one that it ends. -/
def check (m : Machine) (c : Checker) (w : Workspace) : Run Unit := do
  if w.rootPath = "" then return
  if (← get).settings.isNull then return
  send (Workspace.reportProgress (.str spinner))
  tellResult (← attempt (runChecker m c w))
  send (Workspace.reportProgress .null)
  if c.isPatched then
    let _ ← runningOf w
    setRunning w { reporting := false }

/-! ### Starting -/

/-- The options before the configuration file is read. -/
def presetOptions (c : Checker) (interpreter : Json) : Options :=
  let o := c.defaults.set "check_untyped_defs" (.bool true)
  let o := if c.version < "0.780" then o.set "follow_imports" (.str "error") else o
  let o := o.set "use_fine_grained_cache" (.bool true)
  if interpreter.isNull then o else o.set "python_executable" interpreter

/-- What is said where a configuration file asks for the strict mode. -/
def strictNotice : String :=
  "Setting 'strict' in the configuration file is not supported by mypy-vscode for now. " ++
  "The option will be ignored. You may set individual strict flags instead " ++
  "(see 'mypy -h' for the list of flags enabled in strict mode)."

/-- Whether the checker tells that a configuration file asks for the strict mode. -/
def tellsStrict (c : Checker) : Bool :=
  !(c.version < "0.770")

/-- All complaints about a configuration file. -/
def complaints (c : Checker) (f : ConfigFile) : String :=
  (if f.strict && tellsStrict c then strictNotice else "") ++ f.complaints

/-- Whether the checker can follow imports in the way that is set. -/
def followsImports (c : Checker) (o : Options) : Bool :=
  !(c.version < "0.780") ||
    (o.get "follow_imports").same (.str "error") || (o.get "follow_imports").same (.str "skip")

/-- The options after the configuration file has been read. -/
def finalOptions (c : Checker) (o : Options) : Options :=
  let fits := followsImports c (o.set "show_column_numbers" (.bool true))
  let o := o.set "show_column_numbers" (.bool true)
  let o := if fits then o else o.set "follow_imports" (.str "error")
  if "0.720" < c.version then
    ((o.set "color_output" (.bool false)).set "error_summary" (.bool false)).set
      "pretty" (.bool false)
  else o

/-- The file that the settings name; the empty text stands for the default places. -/
def configFileName (settings : Json) : Outcome Json := do
  let name ← settings.getOr "configFile" .null
  return if name.same (.str "") then .null else name

/-- Starts the checker with what a configuration file has set and checks the workspace. -/
def startWith (m : Machine) (c : Checker) (w : Workspace) (interpreter name : Json)
    (file : ConfigFile) : Run Unit := do
  let options := (presetOptions c interpreter).setAll file.options
  if complaints c file != "" then
    tell ("Error reading mypy config file:\n" ++ complaints c file)
  if !(options.get "config_file").truthy && name.truthy then
    tell ("Mypy config file not found:\n" ++ name.display)
  if !followsImports c options then
    tell ("Cannot use follow_imports='" ++ (options.get "follow_imports").display ++
      "', using 'error' instead.")
  record (.started (finalOptions c options))
  setRunning w {}
  check m c w

/-- Reads the configuration file that the frozen settings name and starts the checker. -/
def start (m : Machine) (c : Checker) (w : Workspace) (interpreter : Json) : Run Unit := do
  let settings := (← get).settings
  if settings.isNull then return
  let name ← lift (configFileName settings)
  record (.configRead (if tellsStrict c then 2 else 1) name)
  let file ← lift (c.readConfig name)
  startWith m c w interpreter name file

/-! ### Settings -/

/-- Asks the client for the path of the interpreter. -/
def askInterpreter (w : Workspace) : Run Unit := do
  let number := (← get).requests + 1
  modify fun s =>
    { s with requests := number, pending := s.pending ++ [{ number, workspace := w }] }
  send (Workspace.requestConfiguration number (.arr [.obj [("section", .str "python.pythonPath")]]))

/-- Whether the client can be asked for settings. -/
def canAsk (capabilities : Json) : Outcome Bool := do
  let ws ← capabilities.getOr "workspace" (.obj [])
  return (← ws.getOr "configuration" .null).truthy

/-- Takes in the client's settings: the first are frozen, others only make a difference that the
user is told about. -/
def configurationChanged (m : Machine) (c : Checker) (conf : Configuration) (w : Workspace) :
    Run Unit := do
  if w.rootPath = "" then return
  let frozen := (← get).settings
  if frozen.isNull then
    modify fun s => { s with settings := conf.settings }
    if ← lift (canAsk conf.capabilities) then askInterpreter w
    else start m c w .null
  else if !conf.settings.same frozen then
    tell "Please reload window to update mypy configuration."

/-- What the client answers to the question for the interpreter. -/
inductive Answer where
  | value (v : Json)
  | refused

/-- The interpreter that an answer names: the only item of a list or a text. -/
def interpreterOf : Answer → Json
  | .refused => .null
  | .value (.arr [v]) => v
  | .value (.str s) => if s.length = 1 then .str s else .null
  | .value _ => .null

/-- The path of an interpreter, with the home directory and the workspace written out; null where
no such file exists. -/
def interpreterPath (m : Machine) (w : Workspace) (v : Json) : Outcome Json := do
  let path ← Path.expandHome m.home.toList m.otherHomes (← v.expectText).toList
  let path := Text.replaceAll "$\x7bworkspaceFolder\x7d".toList w.rootPath.toList path
  return if m.files.exists? path then .str (String.ofList path) else .null

/-- Takes in the client's answer and starts the checker. -/
def interpreterAnswered (m : Machine) (c : Checker) (w : Workspace) (answer : Answer) :
    Run Unit := do
  let interpreter := interpreterOf answer
  if interpreter.truthy then start m c w (← lift (interpreterPath m w interpreter))
  else start m c w interpreter

end Session

end LangServer
