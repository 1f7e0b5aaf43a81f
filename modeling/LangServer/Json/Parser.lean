import LangServer.Json.Basic
import LangServer.Text.Numeral

/-!
# Reading JSON

A value is read from the front of a text; what follows it is the rest.  Of two members of one name
the later value counts, in the place of the earlier.

Readers of the format differ in how they read texts, words and numbers, in whether a comma may
stand behind the last member of an object, and in how deep values may be nested; a `Dialect` holds
these rules.  The strict dialect is the format itself, with the words `NaN`, `Infinity` and
`-Infinity` beside its numbers; it refuses integers with too many digits.

The reader is bounded by the length of the text: every step it takes uses up a character.

Main definitions: `Dialect`, `Dialect.read`, `Json.strict`, `Json.parse?`.
-/

namespace LangServer.Json

def isSpace (c : Char) : Bool :=
  c == ' ' || c == '\t' || c == '\n' || c == '\r'

def skipSpace (cs : List Char) : List Char :=
  cs.dropWhile isSpace

/-- The rest behind a word, if the text begins with it. -/
def dropWord? : List Char → List Char → Option (List Char)
  | [], cs => some cs
  | w :: ws, c :: cs => if w = c then dropWord? ws cs else none
  | _ :: _, [] => none

/-- The first of some words that the text begins with, as the value it stands for. -/
def word? : List (String × Json) → List Char → Option (Json × List Char)
  | [], _ => none
  | (w, v) :: rest, cs =>
    match dropWord? w.toList cs with
    | some after => some (v, after)
    | none => word? rest cs

/-! ### Texts -/

def hexValue? (c : Char) : Option Nat :=
  if c.isDigit then some (c.toNat - 0x30)
  else if 'a' ≤ c ∧ c ≤ 'f' then some (c.toNat - 0x61 + 10)
  else if 'A' ≤ c ∧ c ≤ 'F' then some (c.toNat - 0x41 + 10)
  else none

/-- The number that four hexadecimal digits write. -/
def unit? (a b c d : Char) : Option Nat := do
  let a ← hexValue? a
  let b ← hexValue? b
  let c ← hexValue? c
  let d ← hexValue? d
  return ((a * 16 + b) * 16 + c) * 16 + d

def isHighUnit (n : Nat) : Bool := 0xD800 ≤ n && n < 0xDC00

def isLowUnit (n : Nat) : Bool := 0xDC00 ≤ n && n < 0xE000

/-- The character of a sixteen-bit unit; a unit that is half of a pair has none of its own. -/
def unitChar (n : Nat) : Char :=
  if isHighUnit n || isLowUnit n then '\ufffd' else Char.ofNat n

/-- The character of a pair of units. -/
def pairChar (high low : Nat) : Char :=
  Char.ofNat (0x10000 + (high - 0xD800) * 0x400 + (low - 0xDC00))

/-- The character of an escape by one letter. -/
def shortEscape? : Char → Option Char
  | '\x22' => some '\x22'
  | '\\' => some '\\'
  | '/' => some '/'
  | 'b' => some '\x08'
  | 'f' => some '\x0c'
  | 'n' => some '\n'
  | 'r' => some '\r'
  | 't' => some '\t'
  | _ => none

/-- A unit that waits for the other half of its pair, as it stands if none comes. -/
def flushHigh : Option Nat → List Char → List Char
  | none, acc => acc
  | some _, acc => '\ufffd' :: acc

/-- Reads up to the closing quote; `acc` holds the characters so far in reverse, `high` the first
half of a pair of units. -/
def textBody (acc : List Char) (high : Option Nat) : List Char → Outcome (List Char × List Char)
  | [] => .error .malformedJson
  | '\x22' :: rest => .ok ((flushHigh high acc).reverse, rest)
  | '\\' :: 'u' :: a :: b :: c :: d :: rest =>
    match unit? a b c d with
    | none => .error .malformedJson
    | some n =>
      match high with
      | some h =>
        if isLowUnit n then textBody (pairChar h n :: acc) none rest
        else if isHighUnit n then textBody ('\ufffd' :: acc) (some n) rest
        else textBody (unitChar n :: '\ufffd' :: acc) none rest
      | none =>
        if isHighUnit n then textBody acc (some n) rest
        else textBody (unitChar n :: acc) none rest
  | '\\' :: e :: rest =>
    match shortEscape? e with
    | some c => textBody (c :: flushHigh high acc) none rest
    | none => .error .malformedJson
  | c :: rest =>
    if c.toNat < 0x20 ∨ c = '\\' then .error .malformedJson
    else textBody (c :: flushHigh high acc) none rest

/-! ### Numbers -/

def digits (cs : List Char) : List Char := cs.takeWhile Char.isDigit

def afterDigits (cs : List Char) : List Char := cs.dropWhile Char.isDigit

/-- The digits before the point: a zero alone, or digits that do not begin with zero. -/
def wholeDigits? : List Char → Option (List Char × List Char)
  | '0' :: rest => some (['0'], rest)
  | cs => if (digits cs).isEmpty then none else some (digits cs, afterDigits cs)

/-- The digits behind a point, if there are any. -/
def fraction (cs : List Char) : Option (List Char) × List Char :=
  match cs with
  | '.' :: rest =>
    if (digits rest).isEmpty then (none, cs) else (some (digits rest), afterDigits rest)
  | _ => (none, cs)

/-- The exponent, if there is one. -/
def exponent (cs : List Char) : Option Int × List Char :=
  match cs with
  | e :: rest =>
    if e = 'e' ∨ e = 'E' then
      let (negative, ds) := match rest with
        | '-' :: ds => (true, ds)
        | '+' :: ds => (false, ds)
        | ds => (false, ds)
      if (digits ds).isEmpty then (none, cs)
      else
        let n : Int := Text.numeralValue (digits ds)
        (some (if negative then -n else n), afterDigits ds)
    else (none, cs)
  | [] => (none, cs)

/-- The number that digits and an exponent write.  More than 310 places before the point are beyond
the largest size, and more than 330 zeros behind it are below the smallest. -/
def scientific (negative : Bool) (ds : List Char) (e : Int) : Double :=
  let ds := ds.dropWhile (· == '0')
  if ds.isEmpty then .zero negative
  else if 310 < ds.length + e then .infinite negative
  else if ds.length + e < -330 then .zero negative
  else .ofScientific negative (Text.numeralValue ds) e

/-- Reads a number without its sign. -/
def magnitude (negative : Bool) (cs : List Char) : Outcome (Json × List Char) := do
  match wholeDigits? cs with
  | none => throw .malformedJson
  | some (whole, rest) =>
    match fraction rest with
    | (none, rest) =>
      match exponent rest with
      | (none, rest) =>
        let n ← Text.readNumeral whole
        return (int (if negative then -(n : Int) else n), rest)
      | (some e, rest) => return (double (scientific negative whole e), rest)
    | (some frac, rest) =>
      let (e, rest) := exponent rest
      return (double (scientific negative (whole ++ frac) (e.getD 0 - frac.length)), rest)

def number (cs : List Char) : Outcome (Json × List Char) :=
  match cs with
  | '-' :: rest => magnitude true rest
  | _ => magnitude false cs

/-- The words that stand for values. -/
def words : List (String × Json) :=
  [("null", null), ("true", bool true), ("false", bool false)]

/-- The words that stand for numbers. -/
def numberWords : List (String × Json) :=
  [("NaN", double .nan), ("Infinity", double (.infinite false)),
    ("-Infinity", double (.infinite true))]

/-- Reads a word or a number. -/
def scalar (cs : List Char) : Outcome (Json × List Char) :=
  match word? (words ++ numberWords) cs with
  | some found => .ok found
  | none => number cs

/-! ### Values -/

/-- The rules in which readers of the format differ. -/
structure Dialect where
  /-- Reads a text up to its closing quote. -/
  text : List Char → Outcome (List Char × List Char)
  /-- Reads a word or a number. -/
  scalar : List Char → Outcome (Json × List Char)
  /-- Whether a comma may stand behind the last member of an object. -/
  commaAtEnd : Bool
  /-- How many arrays and objects may be nested in each other. -/
  depth : Nat
  /-- The fault of an array or an object that is nested deeper. -/
  tooDeep : String → Fault

mutual

/-- Reads a value at the front of a text, in which `room` more arrays and objects may be nested. -/
def value (d : Dialect) (fuel room : Nat) (cs : List Char) : Outcome (Json × List Char) :=
  match fuel with
  | 0 => .error .malformedJson
  | fuel + 1 =>
    match cs with
    | '\x22' :: rest => do
      let (s, rest) ← d.text rest
      return (str (String.ofList s), rest)
    | '[' :: rest =>
      match room with
      | 0 => .error (d.tooDeep "array")
      | room + 1 =>
        match skipSpace rest with
        | ']' :: rest => .ok (arr [], rest)
        | rest => items d fuel room [] rest
    | '\x7b' :: rest =>
      match room with
      | 0 => .error (d.tooDeep "object")
      | room + 1 =>
        match skipSpace rest with
        | '\x7d' :: rest => .ok (obj [], rest)
        | rest => members d fuel room [] rest
    | _ => d.scalar cs

/-- Reads the items of an array; `acc` holds those so far in reverse. -/
def items (d : Dialect) (fuel room : Nat) (acc : List Json) (cs : List Char) :
    Outcome (Json × List Char) :=
  match fuel with
  | 0 => .error .malformedJson
  | fuel + 1 => do
    let (v, rest) ← value d fuel room cs
    match skipSpace rest with
    | ',' :: rest => items d fuel room (v :: acc) (skipSpace rest)
    | ']' :: rest => return (arr (v :: acc).reverse, rest)
    | _ => throw .malformedJson

/-- Reads the members of an object; `acc` holds those so far in order. -/
def members (d : Dialect) (fuel room : Nat) (acc : List (String × Json)) (cs : List Char) :
    Outcome (Json × List Char) :=
  match fuel with
  | 0 => .error .malformedJson
  | fuel + 1 =>
    match cs with
    | '\x22' :: rest => do
      let (name, rest) ← d.text rest
      match skipSpace rest with
      | ':' :: rest => do
        let (v, rest) ← value d fuel room (skipSpace rest)
        let acc := insertMember (String.ofList name) v acc
        match skipSpace rest with
        | ',' :: rest => members d fuel room acc (skipSpace rest)
        | '\x7d' :: rest => return (obj acc, rest)
        | _ => throw .malformedJson
      | _ => throw .malformedJson
    | '\x7d' :: rest =>
      if d.commaAtEnd then .ok (obj acc, rest) else .error .malformedJson
    | _ => .error .malformedJson

end

/-- The value that a whole text writes. -/
def Dialect.read (d : Dialect) (cs : List Char) : Outcome Json := do
  let (v, rest) ← value d (cs.length + 1) d.depth (skipSpace cs)
  if (skipSpace rest).isEmpty then return v else throw .malformedJson

/-- The format itself, up to a depth of nesting. -/
def strict (depth : Nat) : Dialect where
  text := textBody [] none
  scalar := scalar
  commaAtEnd := false
  depth := depth
  tooDeep := .nestedTooDeep

/-- The value that a whole text writes, however deep. -/
def parse? (cs : List Char) : Option Json :=
  ((strict cs.length).read cs).toOption

end LangServer.Json
