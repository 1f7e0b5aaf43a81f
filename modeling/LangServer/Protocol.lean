/-!
# Numbers of the protocol

The enumerations by which server and client call kinds of things, each with the number that stands
for it on the wire.
-/

namespace LangServer.Protocol

/-! ### Kinds that the server sends -/

/-- How grave a diagnostic is. -/
inductive Severity where
  | error
  | warning
  | information
  | hint
deriving DecidableEq, Repr

def Severity.number : Severity → Nat
  | error => 1
  | warning => 2
  | information => 3
  | hint => 4

/-- How a message is shown. -/
inductive MessageType where
  | error
  | warning
  | info
  | log
deriving DecidableEq, Repr

def MessageType.number : MessageType → Nat
  | error => 1
  | warning => 2
  | info => 3
  | log => 4

/-- How a client sends the changes of a document. -/
inductive SyncKind where
  | none
  | full
  | incremental
deriving DecidableEq, Repr

def SyncKind.number : SyncKind → Nat
  | none => 0
  | full => 1
  | incremental => 2

/-! ### All enumerations by name -/

/-- The members of an enumeration with their numbers. -/
abbrev Enumeration := List (String × Nat)

/-- The members that have the numbers from `start` on. -/
def numbered (start : Nat) (names : List String) : Enumeration :=
  names.zipIdx start

/-- Every enumeration of the protocol. -/
def enumerations : List (String × Enumeration) :=
  [("CompletionItemKind", numbered 1
      ["Text", "Method", "Function", "Constructor", "Field", "Variable", "Class", "Interface",
        "Module", "Property", "Unit", "Value", "Enum", "Keyword", "Snippet", "Color", "File",
        "Reference"]),
    ("DocumentHighlightKind", numbered 1 ["Text", "Read", "Write"]),
    ("DiagnosticSeverity", numbered 1 ["Error", "Warning", "Information", "Hint"]),
    ("InsertTextFormat", numbered 1 ["PlainText", "Snippet"]),
    ("MessageType", numbered 1 ["Error", "Warning", "Info", "Log"]),
    ("SymbolKind", numbered 1
      ["File", "Module", "Namespace", "Package", "Class", "Method", "Property", "Field",
        "Constructor", "Enum", "Interface", "Function", "Variable", "Constant", "String", "Number",
        "Boolean", "Array"]),
    ("TextDocumentSyncKind", numbered 0 ["NONE", "FULL", "INCREMENTAL"])]

/-- The members of an enumeration in the order of their names. -/
def members? (enumeration : String) : Option Enumeration :=
  (enumerations.lookup enumeration).map fun ms => ms.mergeSort fun a b => a.1 ≤ b.1

end LangServer.Protocol
