import LangServer.Fault

/-!
# Decimal numerals

Every script writes its ten decimal digits at ten consecutive code points, so a digit is known from
the code point of its zero.  A numeral is a run of digits, of any scripts mixed; reading one refuses
more than `maxDigits` digits.

Main definitions: `digitValue?`, `numeralValue`, `readNumeral`, `readInt?`.
-/

namespace LangServer.Text

/-! ### Digits -/

/-- The code points of the zeros of all scripts. -/
def zeros : List Nat := [
    0x30, 0x660, 0x6F0, 0x7C0, 0x966, 0x9E6, 0xA66, 0xAE6, 0xB66, 0xBE6, 0xC66, 0xCE6, 0xD66,
    0xDE6, 0xE50, 0xED0, 0xF20, 0x1040, 0x1090, 0x17E0, 0x1810, 0x1946, 0x19D0, 0x1A80, 0x1A90,
    0x1B50, 0x1BB0, 0x1C40, 0x1C50, 0xA620, 0xA8D0, 0xA900, 0xA9D0, 0xA9F0, 0xAA50, 0xABF0,
    0xFF10, 0x104A0, 0x10D30, 0x11066, 0x110F0, 0x11136, 0x111D0, 0x112F0, 0x11450, 0x114D0,
    0x11650, 0x116C0, 0x11730, 0x118E0, 0x11950, 0x11C50, 0x11D50, 0x11DA0, 0x16A60, 0x16AC0,
    0x16B50, 0x1D7CE, 0x1D7D8, 0x1D7E2, 0x1D7EC, 0x1D7F6, 0x1E140, 0x1E2F0, 0x1E950, 0x1FBF0]

/-- The value of a decimal digit. -/
def digitValue? (c : Char) : Option Nat :=
  (zeros.find? fun z => z ≤ c.toNat && c.toNat < z + 10).map (c.toNat - ·)

def isDigit (c : Char) : Bool :=
  (digitValue? c).isSome

/-! ### Numerals -/

/-- The number that a run of digits writes, most significant digit first. -/
def numeralValue (cs : List Char) : Nat :=
  cs.foldl (fun n c => 10 * n + (digitValue? c).getD 0) 0

/-- The longest numeral that is read. -/
def maxDigits : Nat := 4300

/-- Reads a run of digits, unless it is too long. -/
def readNumeral (cs : List Char) : Outcome Nat :=
  if cs.length ≤ maxDigits then .ok (numeralValue cs)
  else .error (.badValue
    ("Exceeds the limit (" ++ toString maxDigits ++
      " digits) for integer string conversion: value has " ++ toString cs.length ++
      " digits; use sys.set_int_max_str_digits() to increase the limit"))

theorem readNumeral_of_length_le {cs : List Char} (h : cs.length ≤ maxDigits) :
    readNumeral cs = .ok (numeralValue cs) := by
  simp [readNumeral, h]

/-! ### Signed numerals -/

/-- The blanks that may surround a signed numeral. -/
def isBlank (c : Char) : Bool :=
  [0x9, 0xA, 0xB, 0xC, 0xD, 0x20, 0x85, 0xA0, 0x1680, 0x2028, 0x2029, 0x202F, 0x205F,
    0x3000].contains c.toNat || (0x2000 ≤ c.toNat && c.toNat ≤ 0x200A)

def trimBlanks (cs : List Char) : List Char :=
  ((cs.dropWhile isBlank).reverse.dropWhile isBlank).reverse

/-- The digits of a run in which single underscores may stand between digits. -/
def ungroupDigits? : List Char → Option (List Char)
  | [] => none
  | [c] => if isDigit c then some [c] else none
  | c :: '_' :: rest => if isDigit c then (ungroupDigits? rest).map (c :: ·) else none
  | c :: rest => if isDigit c then (ungroupDigits? rest).map (c :: ·) else none

def readDigits? (cs : List Char) : Option Nat :=
  (ungroupDigits? cs).bind fun ds => (readNumeral ds).toOption

/-- Reads an integer with an optional sign, blanks around it and underscores between its digits. -/
def readInt? (cs : List Char) : Option Int :=
  match trimBlanks cs with
  | '-' :: rest => (readDigits? rest).map fun n => -(n : Int)
  | '+' :: rest => (readDigits? rest).map fun n => (n : Int)
  | rest => (readDigits? rest).map fun n => (n : Int)

end LangServer.Text
