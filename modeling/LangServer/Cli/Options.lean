import LangServer.Fault
import LangServer.Text.Numeral
import LangServer.Text.Quoted

/-!
# The command line

The words of a command line are first told apart: switches, by their spelling or any beginning of
it that no other switch shares; unknown switches; and plain words, which are the values of the
switches before them.  Behind the word `--` all words are plain.  Then the switches are carried out
one by one.

Words that nothing takes are reported together at the end.

Main definitions: `Switch`, `Word.ofText`, `Options`, `parse`.
-/

namespace LangServer.Cli

/-! ### Switches -/

inductive Switch where
  | help
  | tcp
  | host
  | port
  | checkParent
  | logConfig
  | logFile
  | verbose
deriving DecidableEq, Repr

namespace Switch

/-- The spellings of a switch. -/
def spellings : Switch → List String
  | help => ["-h", "--help"]
  | tcp => ["--tcp"]
  | host => ["--host"]
  | port => ["--port"]
  | checkParent => ["--check-parent-process"]
  | logConfig => ["--log-config"]
  | logFile => ["--log-file"]
  | verbose => ["-v", "--verbose"]

def all : List Switch :=
  [help, tcp, host, port, checkParent, logConfig, logFile, verbose]

/-- All spellings, in the order in which the usage lists them. -/
def table : List (List Char × Switch) :=
  all.flatMap fun s => s.spellings.map fun spelling => (spelling.toList, s)

/-- How messages name a switch. -/
def title (s : Switch) : String :=
  "/".intercalate s.spellings

def takesValue : Switch → Bool
  | host | port | logConfig | logFile => true
  | _ => false

/-- The switch that another cannot stand beside. -/
def rival? : Switch → Option Switch
  | logConfig => some logFile
  | logFile => some logConfig
  | _ => none

end Switch

/-! ### Words -/

inductive Word where
  | plain (text : List Char)
  /-- A switch as it is spelled, with the value attached to it. -/
  | switch (s : Switch) (spelling : List Char) (attached : Option (List Char))
  /-- A word that looks like a switch. -/
  | unknown (text : List Char)
deriving DecidableEq, Repr

/-- Why the command line is not carried out. -/
inductive Stop where
  | help
  | misused (text : String)
deriving DecidableEq, Repr

namespace Word

/-- The parts of a word around its first equals sign. -/
def splitValue (text : List Char) : List Char × Option (List Char) :=
  match text.span fun c => c != '=' with
  | (front, _ :: value) => (front, some value)
  | (front, []) => (front, none)

/-- Whether a word is a negative number. -/
def isNegativeNumber (text : List Char) : Bool :=
  let digits (cs : List Char) : Bool := !cs.isEmpty && cs.all Text.isDigit
  match text with
  | '-' :: rest =>
    let rest := if rest.getLast? = some '\n' then rest.dropLast else rest
    digits rest || match rest.span Text.isDigit with
      | (_, '.' :: fraction) => digits fraction
      | _ => false
  | _ => false

/-- The switches that a word may mean, with the value that would be attached.  A word with two
dashes may be the beginning of a spelling; one with a single dash may be a switch of one letter
with its value right behind. -/
def readings (text : List Char) : List (Switch × List Char × Option (List Char)) :=
  if "--".toList.isPrefixOf text then
    let (front, value) := splitValue text
    (Switch.table.filter fun e => front.isPrefixOf e.1).map fun e => (e.2, e.1, value)
  else
    Switch.table.filterMap fun e =>
      if e.1 = text.take 2 then some (e.2, e.1, some (text.drop 2))
      else if text.isPrefixOf e.1 then some (e.2, e.1, none)
      else none

def ambiguous (text : List Char) (spellings : List (List Char)) : Stop :=
  .misused ("ambiguous option: " ++ String.ofList text ++ " could match " ++
    ", ".intercalate (spellings.map String.ofList))

/-- A word that is no spelling, nor a spelling with a value. -/
def ofUnspelled (text : List Char) : Except Stop Word :=
  match readings text with
  | [(s, spelling, value)] => .ok (.switch s spelling value)
  | [] =>
    if isNegativeNumber text || text.contains ' ' then .ok (.plain text) else .ok (.unknown text)
  | many => .error (ambiguous text (many.map fun r => r.2.1))

/-- What a word is. -/
def ofText (text : List Char) : Except Stop Word :=
  if text.head? ≠ some '-' then .ok (.plain text)
  else match Switch.table.lookup text with
    | some s => .ok (.switch s text none)
    | none =>
      if text.length = 1 then .ok (.plain text)
      else match splitValue text with
        | (front, some value) =>
          match Switch.table.lookup front with
          | some s => .ok (.switch s front (some value))
          | none => ofUnspelled text
        | (_, none) => ofUnspelled text

/-- What the words of a command line are. -/
def ofTexts : List (List Char) → Except Stop (List Word)
  | [] => .ok []
  | text :: rest =>
    if text = "--".toList then .ok (.unknown text :: rest.map .plain)
    else do return (← ofText text) :: (← ofTexts rest)

end Word

/-! ### Options -/

/-- What the command line asks for.  A value is none where a switch was given the mark `--` for a
value. -/
structure Options where
  tcp : Bool := false
  host : Option String := some "127.0.0.1"
  port : Option Int := some 2087
  checkParent : Bool := false
  logConfig : Option String := none
  logFile : Option String := none
  verbose : Nat := 0
deriving DecidableEq, Repr

/-- The command line as far as it has been carried out. -/
structure Progress where
  options : Options := {}
  /-- The switches with values that have been given. -/
  given : List Switch := []
  /-- The words that nothing has taken. -/
  extras : List (List Char) := []

namespace Progress

/-- A complaint about a switch. -/
def complain {α : Type} (s : Switch) (text : String) : Except Stop α :=
  .error (.misused ("argument " ++ s.title ++ ": " ++ text))

def ignored {α : Type} (s : Switch) (value : List Char) : Except Stop α :=
  complain s ("ignored explicit argument " ++ Text.quoted (String.ofList value))

/-- Carries out a switch without a value. -/
def raise (p : Progress) (s : Switch) : Except Stop Progress :=
  let o := p.options
  match s with
  | .help => .error .help
  | .tcp => .ok { p with options := { o with tcp := true } }
  | .checkParent => .ok { p with options := { o with checkParent := true } }
  | .verbose => .ok { p with options := { o with verbose := o.verbose + 1 } }
  | _ => complain s "expected one argument"

def raiseAll (p : Progress) : List Switch → Except Stop Progress
  | [] => .ok p
  | s :: rest => do (← p.raise s).raiseAll rest

/-- The value of a switch: the mark `--` is none. -/
def valueOf (text : List Char) : Option String :=
  if text = "--".toList then none else some (String.ofList text)

/-- The port that a value writes. -/
def portOf (value : Option String) : Except Stop (Option Int) :=
  match value with
  | none => .ok none
  | some text =>
    match Text.readInt? text.toList with
    | some n => .ok (some n)
    | none => complain .port ("invalid int value: " ++ Text.quoted text)

/-- Sets the option of a switch. -/
def store (o : Options) (s : Switch) (value : Option String) : Except Stop Options :=
  match s with
  | .host => .ok { o with host := value }
  | .port => do return { o with port := ← portOf value }
  | .logConfig => .ok { o with logConfig := value }
  | .logFile => .ok { o with logFile := value }
  | s => ignored s []

/-- Carries out a switch with a value. -/
def assign (p : Progress) (s : Switch) (text : List Char) : Except Stop Progress := do
  let options ← store p.options s (valueOf text)
  match s.rival? with
  | some rival =>
    if p.given.contains rival then complain s ("not allowed with argument " ++ rival.title)
    else return { p with options, given := s :: p.given }
  | none => return { p with options, given := s :: p.given }

/-- The switches of one letter that stand behind another in one word. -/
def bundle (s : Switch) : List Char → Except Stop (List Switch)
  | [] => ignored s []
  | c :: rest =>
    match Switch.table.lookup ['-', c] with
    | none => ignored s (c :: rest)
    | some t =>
      if rest.isEmpty then .ok [s, t] else do return s :: (← bundle t rest)

/-- Whether a spelling is of one letter. -/
def isShort (spelling : List Char) : Bool :=
  !"--".toList.isPrefixOf spelling

/-- Carries out a switch that has a value attached. -/
def attach (p : Progress) (s : Switch) (spelling value : List Char) : Except Stop Progress :=
  if s.takesValue then p.assign s value
  else if isShort spelling && !value.isEmpty then do p.raiseAll (← bundle s value)
  else ignored s value

/-- Carries out all words. -/
def run (p : Progress) : List Word → Except Stop Progress
  | [] => .ok p
  | .plain text :: rest => ({ p with extras := p.extras ++ [text] } : Progress).run rest
  | .unknown text :: rest => ({ p with extras := p.extras ++ [text] } : Progress).run rest
  | .switch s spelling (some value) :: rest => do (← p.attach s spelling value).run rest
  | .switch s _ none :: rest =>
    if s.takesValue then
      match rest with
      | .plain text :: rest => do (← p.assign s text).run rest
      | _ => complain s "expected one argument"
    else do (← p.raise s).run rest

end Progress

/-- The options of a command line. -/
def parse (arguments : List String) : Except Stop Options := do
  let words ← Word.ofTexts (arguments.map String.toList)
  let p ← Progress.run {} words
  if p.extras.isEmpty then return p.options
  else throw (.misused
    ("unrecognized arguments: " ++ " ".intercalate (p.extras.map String.ofList)))

/-! ### Usage -/

def usage : String :=
  "usage: mypyls [-h] [--tcp] [--host HOST] [--port PORT]\n" ++
  "              [--check-parent-process]\n" ++
  "              [--log-config LOG_CONFIG | --log-file LOG_FILE] [-v]\n"

def helpText : String :=
  usage ++
  "\nMypy Language Server\n" ++
  "\noptions:\n" ++
  "  -h, --help            show this help message and exit\n" ++
  "  --tcp                 Use TCP server instead of stdio\n" ++
  "  --host HOST           Bind to this address\n" ++
  "  --port PORT           Bind to this port\n" ++
  "  --check-parent-process\n" ++
  "                        Check whether parent process is still alive using\n" ++
  "                        os.kill(ppid, 0) and auto shut down language server\n" ++
  "                        process when parent process is not alive.Note that\n" ++
  "                        this may not work on a Windows machine.\n" ++
  "  --log-config LOG_CONFIG\n" ++
  "                        Path to a JSON file containing Python logging config.\n" ++
  "  --log-file LOG_FILE   Redirect logs to the given file instead of writing to\n" ++
  "                        stderr.Has no effect if used with --log-config.\n" ++
  "  -v, --verbose         Increase verbosity of log output, overrides log config\n" ++
  "                        file\n"

/-- How the program ends before it serves: its exit code and what it writes to both outputs. -/
structure Exit where
  code : Nat
  output : String
  errors : String
deriving DecidableEq, Repr

def Stop.exit : Stop → Exit
  | .help => { code := 0, output := helpText, errors := "" }
  | .misused text =>
    { code := 2, output := "", errors := usage ++ "mypyls: error: " ++ text ++ "\n" }

end LangServer.Cli
