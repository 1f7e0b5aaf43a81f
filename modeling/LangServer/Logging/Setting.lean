import LangServer.Json.Access
import LangServer.Json.Display
import LangServer.Json.Table
import LangServer.Logging.Basic
import LangServer.Text.Numeral
import LangServer.Text.Pattern
import LangServer.Text.Word

/-!
# Settings of a log configuration

A text of the form `ext://name` in a configuration stands for a thing of the program, and one of
the form `cfg://path` for another part of the configuration.  Every other value stands for itself.

A thing of the program is a constant, or a class of formatters, filters or handlers, or something
that no setting can use.  A class says which arguments it takes.

Main definitions: `Class`, `Setting`, `thingNamed`, `Configuration.resolve`.
-/

namespace LangServer.Logging

open Text

/-! ### Classes -/

/-- What a class makes. -/
inductive Product where
  | formatter
  | filter
  | handler
  /-- A handler that passes its records on to another. -/
  | buffer
  /-- A handler that posts to a web server. -/
  | web
  /-- A handler that sends mail. -/
  | mail
  /-- A handler that writes to a file, which it opens only when it is asked to wait. -/
  | file
  /-- The maker of files that are set aside at some size; it is no class, but can be called. -/
  | rotatingFile
deriving DecidableEq, Repr

/-- A class: the name that its products are listed under, and the arguments it takes. -/
structure Class where
  name : String
  product : Product
  required : List String := []
  optional : List String := []
deriving DecidableEq, Repr

namespace Class

def isHandler (c : Class) : Bool :=
  c.product != .formatter && c.product != .filter

end Class

/-- The classes by their full names. -/
def classes : List (String × Class) :=
  [("logging.Formatter",
      { name := "Formatter", product := .formatter,
        optional := ["fmt", "datefmt", "style", "validate", "defaults"] }),
    ("logging.Filter", { name := "Filter", product := .filter, optional := ["name"] }),
    ("logging.Handler", { name := "Handler", product := .handler }),
    ("logging.NullHandler", { name := "NullHandler", product := .handler }),
    ("logging.StreamHandler",
      { name := "StreamHandler", product := .handler, optional := ["stream"] }),
    ("logging.FileHandler",
      { name := "FileHandler", product := .file, required := ["filename"],
        optional := ["mode", "encoding", "delay", "errors"] }),
    ("logging.handlers.WatchedFileHandler",
      { name := "WatchedFileHandler", product := .file, required := ["filename"],
        optional := ["mode", "encoding", "delay", "errors"] }),
    ("logging.handlers.RotatingFileHandler",
      { name := "NullHandler", product := .rotatingFile, required := ["filename"] }),
    ("logging.handlers.BufferingHandler",
      { name := "BufferingHandler", product := .handler, required := ["capacity"] }),
    ("logging.handlers.MemoryHandler",
      { name := "MemoryHandler", product := .buffer, required := ["capacity"],
        optional := ["flushLevel", "target", "flushOnClose"] }),
    ("logging.handlers.SocketHandler",
      { name := "SocketHandler", product := .handler, required := ["host", "port"] }),
    ("logging.handlers.DatagramHandler",
      { name := "DatagramHandler", product := .handler, required := ["host", "port"] }),
    ("logging.handlers.HTTPHandler",
      { name := "HTTPHandler", product := .web, required := ["host", "url"],
        optional := ["method", "secure", "credentials", "context"] }),
    ("logging.handlers.SMTPHandler",
      { name := "SMTPHandler", product := .mail,
        required := ["mailhost", "fromaddr", "toaddrs", "subject"],
        optional := ["credentials", "secure", "timeout"] }),
    ("logging.handlers.QueueHandler",
      { name := "QueueHandler", product := .handler, required := ["queue"] })]

/-! ### Things and settings -/

/-- What a setting stands for. -/
inductive Setting where
  | value (v : Json)
  | cls (c : Class)
  /-- Something that no setting can use. -/
  | other

namespace Setting

def truthy : Setting → Bool
  | value v => v.truthy
  | _ => true

def isNull : Setting → Bool
  | value v => v.isNull
  | _ => false

/-- The value, where a value is asked for. -/
def expectValue : Setting → Outcome Json
  | value v => return v
  | _ => throw (.wrongKind "not a plain value")

def text? : Setting → Option String
  | value v => v.text?
  | _ => none

/-- The members of an object, where an object is asked for. -/
def expectMembers : Setting → Outcome (List (String × Json))
  | value (.obj members) => return members
  | _ => throw .absent

/-- The items over which a setting is iterated. -/
def iterate : Setting → Outcome (List Json)
  | value v => v.iterate
  | _ => throw (.wrongKind "not iterable")

end Setting

/-- The things of the program that are no classes. -/
def constants : List (String × Setting) :=
  (levelNames.map fun (name, n) => ("logging." ++ name, .value (.int n))) ++
    [("logging.raiseExceptions", .value (.bool true)), ("logging", .other),
      ("logging.handlers", .other), ("logging.config", .other), ("sys", .other),
      ("sys.stdin", .other), ("sys.stdout", .other), ("sys.stderr", .other)]

/-- The fault of a name that nothing has. -/
def unresolved (name : String) : Fault :=
  let first := String.ofList (name.toList.takeWhile (· != '.'))
  let missing := if first = "logging" ∨ first = "sys" then name else first
  .badValue ("Cannot resolve " ++ Text.quoted name ++ ": No module named " ++ Text.quoted missing)

/-- The thing with a name. -/
def thingNamed (name : String) : Outcome Setting :=
  match classes.lookup name with
  | some c => return .cls c
  | none =>
    match constants.lookup name with
    | some s => return s
    | none => throw (if name = "" then .badValue "Empty module name" else unresolved name)

/-! ### References -/

/-- A reference to a thing or to a part of the configuration. -/
inductive Reference where
  | thing (name : List Char)
  | part (path : List Char)

/-- The reference that a text is; it may end with a line break, and has none before. -/
def Reference.of? (s : String) : Option Reference :=
  let kind := s.toList.takeWhile fun c => 'a' ≤ c && c ≤ 'z'
  match s.toList.drop kind.length with
  | ':' :: '/' :: '/' :: rest =>
    let name := rest.takeWhile (· != '\n')
    if !Pattern.atEnd (rest.drop name.length) then none
    else if kind = "ext".toList then some (.thing name)
    else if kind = "cfg".toList then some (.part name)
    else none
  | _ => none

/-- A step of a path: a name, or an index in brackets. -/
inductive Step where
  | name (s : List Char)
  | index (s : List Char)

/-- The blanks that may stand in a path. -/
def isPathBlank (c : Char) : Bool :=
  isBlank c || (0x1C ≤ c.toNat && c.toNat ≤ 0x1F)

/-- A word with blanks around it, and what follows. -/
def wordOf? (cs : List Char) : Option (List Char × List Char) :=
  let cs := cs.dropWhile isPathBlank
  let word := cs.takeWhile isWordChar
  if word.isEmpty then none else some (word, (cs.drop word.length).dropWhile isPathBlank)

/-- The next step of a path, and the rest of the path. -/
def step? : List Char → Option (Step × List Char)
  | '.' :: rest => (wordOf? rest).map fun (w, rest) => (.name w, rest)
  | '[' :: rest =>
    match wordOf? rest with
    | some (w, ']' :: rest) => some (.index w, rest.dropWhile isPathBlank)
    | _ => none
  | _ => none

/-- The part of a value that a step leads to. -/
def Step.follow (v : Json) : Step → Outcome Json
  | .name s => v.field (String.ofList s)
  | .index s =>
    if s.all isDigit then
      match v with
      | .arr _ | .str _ | .obj _ => v.item (numeralValue s)
      | _ => throw v.notSubscriptable
    else v.field (String.ofList s)

/-- A configuration: settings under keys. -/
abbrev Configuration := Table Json

namespace Configuration

mutual

/-- What a value stands for.  References may lead to references, up to `limit` of them. -/
def resolve (config : Configuration) (limit : Nat) (v : Json) : Outcome Setting :=
  match limit with
  | 0 => throw .tooDeep
  | limit + 1 =>
    match v with
    | .str s =>
      match Reference.of? s with
      | none => return .value v
      | some (.thing name) => thingNamed (String.ofList name)
      | some (.part path) =>
        match wordOf? path with
        | none => throw (.badValue ("Unable to convert " ++ Text.quoted (String.ofList path)))
        | some (word, rest) => do
          match config.get? (.str (String.ofList word)) with
          | none => throw (.missingKey (Text.quoted (String.ofList word)))
          | some v => follow config limit path (← resolve config limit v) rest
    | v => return .value v

/-- Where the rest of a path leads from a setting. -/
def follow (config : Configuration) (limit : Nat) (path : List Char) (s : Setting)
    (rest : List Char) : Outcome Setting :=
  match limit with
  | 0 => throw .tooDeep
  | limit + 1 =>
    match rest, step? rest with
    | [], _ => return s
    | _, none => throw (.badValue ("Unable to convert " ++ Text.quoted (String.ofList path) ++
        " at " ++ Text.quoted (String.ofList rest)))
    | _, some (step, rest) => do
      let v ← step.follow (← s.expectValue)
      follow config limit path (← resolve config limit v) rest

end

/-- How many references may lead to each other. -/
def maxReferences : Nat := 900

/-- What a value of the configuration stands for. -/
def convert (config : Configuration) (v : Json) : Outcome Setting :=
  resolve config maxReferences v

/-- What the member of an object stands for, or else a default. -/
def setting (config : Configuration) (members : List (String × Json)) (name : String)
    (default : Json) : Outcome Setting :=
  config.convert ((members.lookup name).getD default)

/-- What the part with a name stands for, or else a default. -/
def part (config : Configuration) (name : String) (default : Json) : Outcome Setting :=
  config.convert ((config.get? (.str name)).getD default)

end Configuration

end LangServer.Logging
