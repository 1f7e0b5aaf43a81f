import LangServer.Text.Utf8

/-!
# Percent coding

Letters, digits and a few marks stand for themselves; of every other character each octet of its
UTF-8 form is written as a percent sign and two hexadecimal digits.  Decoding takes every run of
ASCII characters and escapes as octets of UTF-8, and leaves other characters and percent signs that
begin no escape as they are.

Main definitions: `Percent.encode`, `Percent.decode`.
-/

namespace LangServer.Uri.Percent

open LangServer.Text

/-! ### Encoding -/

/-- The characters that stand for themselves. -/
def isPlain (c : Char) : Bool :=
  c.isAlphanum || c == '_' || c == '.' || c == '-' || c == '~' || c == '/'

def hexDigit (n : Nat) : Char :=
  if n < 10 then Char.ofNat (0x30 + n) else Char.ofNat (0x41 + (n - 10))

/-- The escape of an octet. -/
def escape (b : Nat) : List Char :=
  ['%', hexDigit (b / 16), hexDigit (b % 16)]

def encodeChar (c : Char) : List Char :=
  if isPlain c then [c] else (Utf8.encodeChar c).flatMap escape

def encode (cs : List Char) : List Char :=
  cs.flatMap encodeChar

/-! ### Decoding -/

def hexValue? (c : Char) : Option Nat :=
  if '0' ≤ c ∧ c ≤ '9' then some (c.toNat - 0x30)
  else if 'A' ≤ c ∧ c ≤ 'F' then some (c.toNat - 0x41 + 10)
  else if 'a' ≤ c ∧ c ≤ 'f' then some (c.toNat - 0x61 + 10)
  else none

/-- The octet that two digits write. -/
def octet? (a b : Char) : Option Nat :=
  match hexValue? a, hexValue? b with
  | some x, some y => some (16 * x + y)
  | _, _ => none

/-- A part of a coded text: an octet, or a character beyond ASCII that stands for itself. -/
inductive Part where
  | octet (b : Nat)
  | char (c : Char)
deriving DecidableEq, Repr

def plainPart (c : Char) : Part :=
  if c.toNat < 0x80 then .octet c.toNat else .char c

def parts : List Char → List Part
  | [] => []
  | '%' :: a :: b :: rest =>
    match octet? a b with
    | some n => .octet n :: parts rest
    | none => .octet 0x25 :: parts (a :: b :: rest)
  | c :: rest => plainPart c :: parts rest

/-- The characters of some parts: runs of octets are decoded together. -/
def assemble : Utf8.State → List Part → List (Option Char)
  | st, [] => Utf8.finish st
  | st, .octet b :: rest => (Utf8.step st b).1 ++ assemble (Utf8.step st b).2 rest
  | st, .char c :: rest => Utf8.finish st ++ some c :: assemble .between rest

def decode (cs : List Char) : List Char :=
  (assemble .between (parts cs)).map (·.getD Utf8.replacement)

end LangServer.Uri.Percent
