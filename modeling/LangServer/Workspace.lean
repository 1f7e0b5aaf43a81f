import LangServer.Document
import LangServer.Json.Display
import LangServer.Json.Table
import LangServer.Protocol
import LangServer.Rpc.Message

/-!
# Workspaces

A workspace is the directory that a client works in, with the documents it has open.  The store of
documents keeps the order in which they were opened.

Main definitions: `Workspace`, `put`, `remove`, `update`, `document`, and the messages that tell a
client about the workspace.
-/

namespace LangServer

structure Workspace where
  rootUri : Json
  scheme : String
  rootPath : String
  documents : Table Document := []
  /-- Which of the workspaces of one session this is. -/
  serial : Nat := 0

namespace Workspace

def create (m : Machine) (rootUri : Json) : Outcome Workspace := do
  let parts ← Uri.partsOf rootUri
  let rootPath ← Uri.pathOf m.windows rootUri
  return { rootUri, scheme := String.ofList parts.scheme, rootPath }

/-- Whether the workspace is a directory of this machine. -/
def isLocal (m : Machine) (w : Workspace) : Bool :=
  (w.scheme == "" || w.scheme == "file") && m.files.exists? w.rootPath.toList

/-! ### The store of documents -/

/-- The open document of a URI. -/
def find (w : Workspace) (uri : Json) : Outcome (Option Document) :=
  if uri.isKey then .ok (w.documents.get? uri) else .error uri.notKey

/-- The open document of a URI, or one that stands for the file. -/
def document (m : Machine) (w : Workspace) (uri : Json) : Outcome Document := do
  match ← w.find uri with
  | some d => return d
  | none => Document.create m uri .null .null

/-- Opens a document, in the place of an open one of that URI. -/
def put (m : Machine) (w : Workspace) (uri source version : Json) : Outcome Workspace := do
  let d ← Document.create m uri source version
  if uri.isKey then return { w with documents := w.documents.insert uri d }
  else throw uri.notKey

/-- Closes a document. -/
def remove (w : Workspace) (uri : Json) : Outcome Workspace :=
  if w.documents.isEmpty then .error (.missingKey uri.quoted)
  else if uri.isKey then
    match w.documents.get? uri with
    | some _ => .ok { w with documents := w.documents.erase uri }
    | none => .error (.missingKey uri.quoted)
  else .error uri.notKey

/-- Changes an open document and sets its version. -/
def update (m : Machine) (w : Workspace) (uri change version : Json) : Outcome Workspace := do
  match ← w.find uri with
  | none => throw (.missingKey uri.quoted)
  | some d =>
    let d ← d.applyChange m change
    return { w with documents := w.documents.insert uri { d with version } }

/-! ### Messages -/

def publishDiagnostics (uri diagnostics : Json) : Rpc.Message :=
  .notification "textDocument/publishDiagnostics"
    (.obj [("uri", uri), ("diagnostics", diagnostics)])

/-- Shows a message; the type is a number of `Protocol.MessageType`. -/
def showMessage (text type : Json) : Rpc.Message :=
  .notification "window/showMessage" (.obj [("type", type), ("message", text)])

/-- Shows a text of a given type. -/
def showText (text : String) (type : Protocol.MessageType) : Rpc.Message :=
  showMessage (.str text) (.int type.number)

def reportProgress (progress : Json) : Rpc.Message :=
  .notification "mypyls/reportProgress" progress

def requestEdit (number : Nat) (edit : Json) : Rpc.Message :=
  .request number "workspace/applyEdit" (.obj [("edit", edit)])

def requestConfiguration (number : Nat) (items : Json) : Rpc.Message :=
  .request number "workspace/configuration" (.obj [("items", items)])

end Workspace

end LangServer
