/-!
# UTF-8

A character is written as one to four octets; octets are natural numbers below 256.  Decoding goes
octet by octet.  Octets that begin a character and are not continued as they must be make one
malformed piece; the octet that breaks them is looked at afresh.

Main definitions: `encodeChar`, `encode`, `pieces`, `decode?`, `decodeLossy`.
-/

namespace LangServer.Text.Utf8

/-! ### Encoding -/

/-- The octets of a character. -/
def encodeChar (c : Char) : List Nat :=
  let n := c.toNat
  if n < 0x80 then [n]
  else if n < 0x800 then [0xC0 + n / 64, 0x80 + n % 64]
  else if n < 0x10000 then [0xE0 + n / 4096, 0x80 + n / 64 % 64, 0x80 + n % 64]
  else [0xF0 + n / 262144, 0x80 + n / 4096 % 64, 0x80 + n / 64 % 64, 0x80 + n % 64]

def encode (cs : List Char) : List Nat :=
  cs.flatMap encodeChar

/-! ### Decoding -/

/-- Between two characters, or within one: how many octets it still needs, the least and the
greatest that may come next, and the value of the bits so far. -/
inductive State where
  | between
  | within (owed lo hi value : Nat)
deriving DecidableEq, Repr

/-- What the first octet of a character leads to; none if no character begins with it. -/
def lead? (b : Nat) : Option State :=
  if 0xC2 ≤ b ∧ b ≤ 0xDF then some (.within 1 0x80 0xBF (b - 0xC0))
  else if b = 0xE0 then some (.within 2 0xA0 0xBF 0)
  else if b = 0xED then some (.within 2 0x80 0x9F 0xD)
  else if 0xE1 ≤ b ∧ b ≤ 0xEF then some (.within 2 0x80 0xBF (b - 0xE0))
  else if b = 0xF0 then some (.within 3 0x90 0xBF 0)
  else if 0xF1 ≤ b ∧ b ≤ 0xF3 then some (.within 3 0x80 0xBF (b - 0xF0))
  else if b = 0xF4 then some (.within 3 0x80 0x8F 4)
  else none

/-- An octet at the start of a character: the pieces that end with it, and what follows. -/
def first (b : Nat) : List (Option Char) × State :=
  if b < 0x80 then ([some (Char.ofNat b)], .between)
  else match lead? b with
    | some st => ([], st)
    | none => ([none], .between)

/-- An octet in any state. -/
def step : State → Nat → List (Option Char) × State
  | .between, b => first b
  | .within owed lo hi value, b =>
    if lo ≤ b ∧ b ≤ hi then
      let value := value * 64 + (b - 0x80)
      if owed ≤ 1 then ([some (Char.ofNat value)], .between)
      else ([], .within (owed - 1) 0x80 0xBF value)
    else (none :: (first b).1, (first b).2)

/-- The pieces that the end of the octets brings. -/
def finish : State → List (Option Char)
  | .between => []
  | .within _ _ _ _ => [none]

def run : State → List Nat → List (Option Char)
  | st, [] => finish st
  | st, b :: rest => (step st b).1 ++ run (step st b).2 rest

/-- The characters that octets write, none for each malformed piece. -/
def pieces (bs : List Nat) : List (Option Char) :=
  run .between bs

/-- The text that octets write, if they are well formed. -/
def decode? (bs : List Nat) : Option (List Char) :=
  (pieces bs).mapM id

/-- What stands for a malformed piece. -/
def replacement : Char := '\ufffd'

/-- The text that octets write, with the replacement character for each malformed piece. -/
def decodeLossy (bs : List Nat) : List Char :=
  (pieces bs).map (·.getD replacement)

end LangServer.Text.Utf8
