import LangServer.Json.Parser
import LangServer.Rpc.Word

/-!
# Message bodies

The body of a message is read more freely than the format asks for, and with narrower bounds.  The
bounds hold for writing too: a value beyond them cannot be sent.

* A text may hold any character as it stands, except the null character.  The first half of a pair
  of escaped units waits for the second half, over any characters between them; a half that waits
  in vain is left out, and another escaped unit in its place is refused.
* A number begins with a minus sign or a digit.  Digits may be missing behind the sign, behind the
  point and behind the mark of the exponent, and zeros may stand in front.
* A comma may stand behind the last member of an object.
* An integer is kept in a word of 64 bits (`Word.integer?`), and one that is seen not to fit is
  refused; so are values nested more than 1024 deep.

Main definitions: `Body.dialect`, `Body.read`, `Body.isWritable`.
-/

namespace LangServer.Rpc.Body

open Json

/-! ### Texts -/

/-- Reads up to the closing quote; `acc` holds the characters so far in reverse, `high` the first
half of a pair of units. -/
def textBody (acc : List Char) (high : Option Nat) : List Char → Outcome (List Char × List Char)
  | [] => .error .malformedJson
  | '\x22' :: rest => .ok (acc.reverse, rest)
  | '\\' :: 'u' :: a :: b :: c :: d :: rest =>
    match unit? a b c d, high with
    | none, _ => .error .malformedJson
    | some n, some h =>
      if isLowUnit n then textBody (pairChar h n :: acc) none rest else .error .malformedJson
    | some n, none =>
      if isHighUnit n then textBody acc (some n) rest else textBody (unitChar n :: acc) none rest
  | '\\' :: e :: rest =>
    match shortEscape? e with
    | some c => textBody (c :: acc) high rest
    | none => .error .malformedJson
  | c :: rest =>
    if c = '\x00' ∨ c = '\\' then .error .malformedJson else textBody (c :: acc) high rest

/-! ### Numbers -/

/-- The digits behind a point, if there is a point. -/
def fraction (cs : List Char) : Option (List Char) × List Char :=
  match cs with
  | '.' :: rest => (some (digits rest), afterDigits rest)
  | _ => (none, cs)

/-- The exponent, if it has a mark. -/
def exponent (cs : List Char) : Option Int × List Char :=
  match cs with
  | e :: rest =>
    if e = 'e' ∨ e = 'E' then
      let (negative, ds) := match rest with
        | '-' :: ds => (true, ds)
        | '+' :: ds => (false, ds)
        | ds => (false, ds)
      let n : Int := Text.numeralValue (digits ds)
      (some (if negative then -n else n), afterDigits ds)
    else (none, cs)
  | [] => (none, cs)

/-- Reads a number without its sign. -/
def magnitude (negative : Bool) (cs : List Char) : Outcome (Json × List Char) :=
  let whole := digits cs
  let (frac, rest) := fraction (afterDigits cs)
  let (e, rest) := exponent rest
  match frac, e with
  | none, none =>
    match Word.integer? negative whole with
    | some n => .ok (int n, rest)
    | none => .error .malformedJson
  | _, _ =>
    let frac := frac.getD []
    -- Without any digit this is zero, and zero has no sign then.
    let negative := negative && !(whole ++ frac).isEmpty
    .ok (double (scientific negative (whole ++ frac) (e.getD 0 - frac.length)), rest)

def number (cs : List Char) : Outcome (Json × List Char) :=
  match cs with
  | '-' :: rest => magnitude true rest
  | c :: _ => if c.isDigit then magnitude false cs else .error .malformedJson
  | [] => .error .malformedJson

def scalar (cs : List Char) : Outcome (Json × List Char) :=
  match word? words cs with
  | some found => .ok found
  | none => number cs

/-! ### Bodies -/

/-- The rules by which bodies are read. -/
def dialect : Dialect where
  text := textBody [] none
  scalar := scalar
  commaAtEnd := true
  depth := 1024
  tooDeep := fun _ => .malformedJson

/-- The message that a body writes. -/
def read (body : List Char) : Outcome Json :=
  dialect.read body

mutual

/-- Whether a value can be written: all its integers fit, and its other numbers are finite. -/
def isWritable : Json → Bool
  | .int n => Word.fits n
  | .double x => x.units?.isSome
  | .arr items => areWritable items
  | .obj members => membersWritable members
  | _ => true

def areWritable : List Json → Bool
  | [] => true
  | v :: rest => isWritable v && areWritable rest

def membersWritable : List (String × Json) → Bool
  | [] => true
  | (_, v) :: rest => isWritable v && membersWritable rest

end

end LangServer.Rpc.Body
