import LangServer.Json.Arithmetic
import LangServer.Logging.Format
import LangServer.Logging.Setting

/-!
# Configurations of the log

A configuration defines formatters, filters and handlers by name, and then sets up loggers with a
level, handlers and filters out of these.  Of the loggers only the root is the log of the server;
it goes by the names `root` and the empty name too.

The parts are taken in a fixed order, and the first that cannot be set up stops the configuration
with a fault that names it.  Handlers are made in the order of their names; a handler that passes
its records on to one that is not made yet waits until all others are made.

An incremental configuration changes only levels.

Main definitions: `Class.accepts`, `planHandler`, `makeHandler`, `configureLogger`, `configure`.
-/

namespace LangServer.Logging

/-! ### Tables -/

/-- An entry of a table that is written as a pair. -/
def pairAt (i : Nat) (v : Json) : Outcome (Json × Json) :=
  match v.iterate with
  | .error _ => throw (.wrongKind
      ("cannot convert dictionary update sequence element #" ++ toString i ++ " to a sequence"))
  | .ok [key, value] => if key.isKey then return (key, value) else throw key.notKey
  | .ok items => throw (.badValue ("dictionary update sequence element #" ++ toString i ++
      " has length " ++ toString items.length ++ "; 2 is required"))

/-- Adds entries that are written as pairs, counted from `i`. -/
def addPairs (table : Table Json) (i : Nat) : List Json → Outcome (Table Json)
  | [] => return table
  | v :: rest => do
    let (key, value) ← pairAt i v
    addPairs (table.insert key value) (i + 1) rest

/-- The table that a value writes: an object, or a sequence of pairs. -/
def tableOf (v : Json) : Outcome Configuration :=
  match v with
  | .obj members => return members.map fun (name, v) => (.str name, v)
  | v => do addPairs [] 0 (← v.iterate)

/-! ### Calls -/

/-- The arguments of a call, by name. -/
abbrev Arguments := List (String × Setting)

namespace Arguments

def get (a : Arguments) (name : String) (default : Json) : Setting :=
  (a.lookup name).getD (.value default)

end Arguments

/-- Whether a formatter can be made with a format in a style. -/
def formatterIsSound (format style validate : Setting) : Bool :=
  match style with
  | .value mark =>
    match Style.ofMark? mark with
    | none => false
    | some s =>
      !validate.truthy ||
        match format with
        | .value f => formatIsSound s f
        | _ => false
  | _ => false

/-- Whether a setting has a length. -/
def hasLength : Setting → Bool
  | .value v => v.length.isOk
  | _ => false

/-- Whether an array has two items; what is no array needs none. -/
def isPairIfArray : Setting → Bool
  | .value (.arr items) => items.length == 2
  | _ => true

/-- Whether a setting is the name of a way to post. -/
def isPostMethod (s : Setting) : Bool :=
  match s.text? with
  | some m => m.toUpper == "GET" || m.toUpper == "POST"
  | none => false

namespace Class

/-- What the product of a class asks of the arguments. -/
def suits (c : Class) (a : Arguments) : Bool :=
  match c.product with
  | .formatter =>
    formatterIsSound (a.get "fmt" .null) (a.get "style" (.str "%")) (a.get "validate" (.bool true))
  | .filter => hasLength (a.get "name" (.str ""))
  | .web =>
    isPostMethod (a.get "method" (.str "GET")) &&
      ((a.get "context" .null).isNull || (a.get "secure" (.bool false)).truthy)
  | .mail => isPairIfArray (a.get "mailhost" .null) && isPairIfArray (a.get "credentials" .null)
  | .file =>
    (a.get "filename" .null).text?.isSome && hasLength (a.get "mode" (.str "a")) &&
      (a.get "delay" (.bool false)).truthy
  | .handler | .buffer | .rotatingFile => true

/-- Whether a class makes something of some arguments. -/
def accepts (c : Class) (a : Arguments) : Bool :=
  (c.required.all fun name => (a.lookup name).isSome) &&
    (c.product == .rotatingFile ||
      a.all fun (name, _) => c.required.contains name || c.optional.contains name) &&
    c.suits a

end Class

/-- Whether a name may be that of an argument. -/
def isArgumentName (name : String) : Bool :=
  match name.toList with
  | [] => false
  | c :: rest => Style.isNameStart c && rest.all Style.isNamePart

/-- The fault of a part that cannot be made; which part it is, is reported in its place. -/
def unmade : Fault := .badValue "cannot be made"

/-- The arguments that some members write, apart from the properties that are set afterwards. -/
def argumentsOf (config : Configuration) (members : List (String × Json)) : Outcome Arguments :=
  (members.filter fun m => m.1 != ".").mapM fun (name, v) => do
    if isArgumentName name then return (name, ← config.convert v) else throw unmade

/-- The properties that are set afterwards must be an object. -/
def checkProperties (config : Configuration) (members : List (String × Json)) : Outcome Unit := do
  let properties ← config.setting members "." .null
  if properties.truthy then
    let _ ← properties.expectMembers

/-- The members without some. -/
def without (names : List String) (members : List (String × Json)) : List (String × Json) :=
  members.filter fun m => !names.contains m.1

/-- What the member `()` names: something that can be called. -/
def callee (config : Configuration) (members : List (String × Json)) : Outcome Class := do
  match ← config.setting members "()" .null with
  | .cls c => return c
  | s =>
    match s.text? with
    | none => throw unmade
    | some name =>
      match ← thingNamed name with
      | .cls c => return c
      | _ => throw unmade

/-- Calls what the member `()` names with the other members as arguments. -/
def callNamed (config : Configuration) (members : List (String × Json)) : Outcome Unit := do
  let c ← callee config members
  if c.accepts (← argumentsOf config (without ["()"] members)) then checkProperties config members
  else throw unmade

def hasMember (name : String) (members : List (String × Json)) : Bool :=
  members.any fun m => m.1 == name

/-! ### Formatters and filters -/

/-- The members with the format under its other name. -/
def renameFormat (members : List (String × Json)) : List (String × Json) :=
  match members.lookup "format" with
  | none => members
  | some v => Json.insertMember "fmt" v (without ["format"] members)

/-- The class that a formatter names, or else the class of all formatters. -/
def formatterClass (name : Setting) : Outcome Class :=
  if !name.truthy then thingNamed "logging.Formatter" >>= classOf
  else
    match name.text? with
    | some s => thingNamed s >>= classOf
    | none => throw .absent
where
  /-- A formatter is made of a class of formatters. -/
  classOf : Setting → Outcome Class
    | .cls c => if c.product = .formatter then return c else throw unmade
    | _ => throw unmade

/-- Makes a formatter. -/
def makeFormatter (config : Configuration) (v : Json) : Outcome Unit := do
  let members ← (← config.convert v).expectMembers
  if hasMember "()" members then callNamed config (renameFormat members)
  else
    let format ← config.setting members "format" .null
    let _ ← config.setting members "datefmt" .null
    let style ← config.setting members "style" (.str "%")
    let _ ← formatterClass (← config.setting members "class" .null)
    let validate ← config.setting members "validate" (.bool true)
    if !formatterIsSound format style validate then throw unmade

/-- Makes a filter. -/
def makeFilter (config : Configuration) (v : Json) : Outcome Unit := do
  let members ← (← config.convert v).expectMembers
  if hasMember "()" members then callNamed config members
  else if !hasLength (← config.setting members "name" (.str "")) then throw unmade

/-- The fault of a part of a kind with a name. -/
def unable (kind : String) (name : Json) : Fault :=
  .badValue ("Unable to configure " ++ kind ++ " " ++ name.quoted)

/-- Makes all parts of a kind, and gives their names.  Only an object has parts under names. -/
def makeParts (config : Configuration) (parts kind : String)
    (make : Configuration → Json → Outcome Unit) : Outcome (List String) := do
  match ← config.part parts (.obj []) with
  | .value (.obj members) =>
    members.mapM fun (name, v) =>
      match make config v with
      | .ok () => return name
      | .error _ => throw (unable kind (.str name))
  | s =>
    match ← s.iterate with
    | [] => return []
    | name :: _ => throw (unable kind name)

/-- Names must be among those of some parts. -/
def checkNames (known : List String) (names : Setting) : Outcome Unit := do
  (← names.iterate).forM fun
    | .str name => if known.contains name then return else throw unmade
    | _ => throw unmade

/-! ### Handlers -/

/-- A part that was made as a handler. -/
structure Made where
  kind : String
  /-- Whether it can handle records. -/
  isHandler : Bool

/-- What a handler can refer to. -/
structure Context where
  config : Configuration
  formatters : List String := []
  filters : List String := []
  /-- All handlers, as they are written. -/
  handlers : List (String × Json) := []
  /-- The handlers that are made. -/
  made : List (String × Made) := []

/-- Whether a handler waits for the one that it passes its records on to, which must be known. -/
def waits (ctx : Context) (c : Class) (members : List (String × Json)) : Outcome Bool := do
  if c.product != .buffer || !hasMember "target" members then return false
  match (← ctx.config.setting members "target" .null).text? with
  | none => throw unmade
  | some target =>
    match ctx.made.lookup target, ctx.handlers.lookup target with
    | some m, _ => return !m.isHandler
    | none, none => throw unmade
    | none, some v =>
      let _ ← ctx.config.convert v
      return true

/-- The class of a handler: by name, or whatever can be called. -/
def handlerClass (config : Configuration) (members : List (String × Json)) : Outcome Class := do
  if hasMember "()" members then callee config members
  else
    match (← config.setting members "class" .null).text? with
    | none => throw .absent
    | some name =>
      match ← thingNamed name with
      | .cls c => if c.product = .rotatingFile then throw unmade else return c
      | _ => throw unmade

/-- The value that a setting is, where it is one. -/
def plainValue : Setting → Json
  | .value v => v
  | _ => .null

/-- The file that a handler writes to, as it is asked for. -/
def fileOf (c : Class) (a : Arguments) : Option File :=
  if c.product = .rotatingFile then
    some { name := plainValue (a.get "filename" .null)
           options := (a.filter fun p => p.1 != "filename").map fun (n, s) => (n, plainValue s) }
  else none

/-- A handler that is about to be made: its class and arguments, and what is set afterwards. -/
structure Plan where
  cls : Class
  arguments : Arguments
  formatter : Setting
  level : Setting
  filters : Setting

/-- What a handler shall be made of; none if it has to wait for another. -/
def planHandler (ctx : Context) (members : List (String × Json)) : Outcome (Option Plan) := do
  let config := ctx.config
  let formatter ← config.setting members "formatter" .null
  if formatter.truthy then
    if !(formatter.text?.any ctx.formatters.contains) then throw unmade
  let level ← config.setting members "level" .null
  let filters ← config.setting members "filters" .null
  let called := hasMember "()" members
  let cls ← handlerClass config members
  if !called then
    if ← waits ctx cls members then return none
  let rest := without ["formatter", "level", "filters", if called then "()" else "class"] members
  let arguments ← argumentsOf config rest
  if cls.accepts arguments then return some { cls, arguments, formatter, level, filters }
  else throw unmade

/-- Only a handler has a formatter, a level and filters. -/
def Plan.finish (p : Plan) (ctx : Context) : Outcome Unit := do
  if !p.cls.isHandler && (p.formatter.truthy || !p.level.isNull || p.filters.truthy) then
    throw unmade
  if !p.level.isNull then
    let _ ← checkLevel (← p.level.expectValue)
  if p.filters.truthy then checkNames ctx.filters p.filters

/-- Makes a handler; none if it has to wait for another. -/
def makeHandler (ctx : Context) (v : Json) : SetUp (Option Made) := do
  let members ← lift ((ctx.config.convert v) >>= Setting.expectMembers)
  match ← lift (planHandler ctx members) with
  | none => return none
  | some plan =>
    match fileOf plan.cls plan.arguments with
    | some file => setFile file
    | none => pure ()
    lift (plan.finish ctx)
    lift (checkProperties ctx.config members)
    return some { kind := plan.cls.name, isHandler := plan.cls.isHandler }

/-- Sorts values by their order, if they have one. -/
def sortValues (vs : List Json) : Outcome (List Json) :=
  vs.foldlM insert []
where
  /-- Puts a value in its place. -/
  insert : List Json → Json → Outcome (List Json)
    | [], v => return [v]
    | w :: rest, v => do
      if ← v.less w then return v :: w :: rest
      return w :: (← insert rest v)

/-- Takes in what was made of a handler. -/
def Context.add (ctx : Context) (name : String) (m : Made) : Context :=
  { ctx with made := ctx.made ++ [(name, m)] }

/-- Makes handlers in order, and gives those that have to wait. -/
def makeInOrder (ctx : Context) : List (String × Json) →
    SetUp (Context × List (String × Json))
  | [] => return (ctx, [])
  | (name, v) :: rest => do
    match ← reportAs (unable "handler" (.str name)) (makeHandler ctx v) with
    | none =>
      let (ctx, waiting) ← makeInOrder ctx rest
      return (ctx, (name, v) :: waiting)
    | some m => makeInOrder (ctx.add name m) rest

/-- Makes handlers in order, none of which may wait. -/
def makeWaiting (ctx : Context) : List (String × Json) → SetUp Context
  | [] => return ctx
  | (name, v) :: rest => do
    match ← reportAs (unable "handler" (.str name)) (makeHandler ctx v) with
    | some m => makeWaiting (ctx.add name m) rest
    | none => throw (unable "handler" (.str name))

/-- Makes all handlers. -/
def makeHandlers (ctx : Context) : SetUp Context := do
  match ← lift (ctx.config.part "handlers" (.obj [])) with
  | .value (.obj members) =>
    let ctx := { ctx with handlers := members }
    let (ctx, waiting) ← makeInOrder ctx (members.mergeSort fun a b => a.1 ≤ b.1)
    makeWaiting ctx waiting
  | s =>
    match ← lift (sortValues (← lift s.iterate)) with
    | [] => return ctx
    | name :: _ => throw (unable "handler" name)

/-! ### Loggers -/

/-- Adds the handlers of some names, up to the first that was not made. -/
def addNamed (ctx : Context) (isRoot : Bool) : List Json → SetUp Unit
  | [] => pure ()
  | name :: rest => do
    match name.text?.bind fun n => (ctx.made.lookup n).map fun m => (n, m) with
    | none => throw unmade
    | some (name, m) => if isRoot then addHandler { name, kind := m.kind }
    addNamed ctx isRoot rest

/-- Sets a logger up: its level, and unless this is incremental, its handlers and filters.  Only
the root is part of the log. -/
def configureLogger (ctx : Context) (isRoot incremental : Bool) (s : Setting) : SetUp Unit := do
  let members ← lift s.expectMembers
  let level ← lift (ctx.config.setting members "level" .null)
  if !level.isNull then
    let level ← lift (level.expectValue >>= checkLevel)
    if isRoot then setLevel level
  if !incremental then
    if isRoot then clearHandlers
    let handlers ← lift (ctx.config.setting members "handlers" .null)
    if handlers.truthy then addNamed ctx isRoot (← lift handlers.iterate)
    let filters ← lift (ctx.config.setting members "filters" .null)
    if filters.truthy then lift (checkNames ctx.filters filters)

/-- Whether a logger's name is one of the root's. -/
def namesRoot (name : String) : Bool :=
  name == "" || name == "root"

/-- Sets up a logger with a name. -/
def configureNamed (ctx : Context) (incremental : Bool) (name : String) (v : Json) :
    SetUp Unit := do
  let s ← lift (ctx.config.convert v)
  configureLogger ctx (namesRoot name) incremental s
  let _ ← lift (ctx.config.setting (← lift s.expectMembers) "propagate" .null)

/-- Sets up all loggers with names. -/
def configureLoggers (ctx : Context) (incremental : Bool) : SetUp Unit := do
  match ← lift (ctx.config.part "loggers" (.obj [])) with
  | .value (.obj members) =>
    members.forM fun (name, v) =>
      reportAs (unable "logger" (.str name)) (configureNamed ctx incremental name v)
  | s =>
    match ← lift s.iterate with
    | [] => return
    | name :: _ => throw (unable "logger" name)

/-- Sets up the root. -/
def configureRoot (ctx : Context) (incremental : Bool) : SetUp Unit := do
  let root ← lift (ctx.config.part "root" .null)
  if root.truthy then
    reportAs (.badValue "Unable to configure root logger")
      (configureLogger ctx true incremental root)

/-! ### Configurations -/

/-- The version of a configuration must be 1. -/
def checkVersion (config : Configuration) : Outcome Unit := do
  if (config.get? (.str "version")).isNone then
    throw (.badValue "dictionary doesn't specify a version")
  match ← config.part "version" .null with
  | .value v =>
    if v.eqInt 1 then return else throw (.badValue ("Unsupported version: " ++ v.display))
  | _ => throw (.badValue "Unsupported version")

/-- No handler has a name before the configuration, so none can be changed. -/
def refuseHandlers (config : Configuration) : Outcome Unit := do
  match ← (← config.part "handlers" (.obj [])).iterate with
  | [] => return
  | name :: _ =>
    if name.isKey then throw (.badValue ("No handler found with name " ++ name.quoted))
    else throw name.notKey

/-- Sets the log up as a configuration says. -/
def configure (v : Json) : SetUp Unit := do
  let config ← lift (tableOf v)
  lift (checkVersion config)
  if (← lift (config.part "incremental" (.bool false))).truthy then
    lift (refuseHandlers config)
    configureLoggers { config } true
    configureRoot { config } true
  else
    let _ ← lift (config.part "disable_existing_loggers" (.bool true))
    let formatters ← lift (makeParts config "formatters" "formatter" makeFormatter)
    let filters ← lift (makeParts config "filters" "filter" makeFilter)
    let ctx ← makeHandlers { config, formatters, filters }
    configureLoggers ctx false
    configureRoot ctx false

end LangServer.Logging
