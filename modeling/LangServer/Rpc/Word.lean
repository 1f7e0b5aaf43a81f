import LangServer.Text.Numeral

/-!
# Integers in a word

The integers of a message are kept in a word of 64 bits.  A numeral is gathered digit by digit, and
the word turns over where it cannot hold the number.  That is noticed, and the numeral refused, if
the word becomes smaller by a digit, or, for a negative number, if it passes the middle of its
range.  A numeral that turns the word over without that stands for what is left in the word.

Main definitions: `push?`, `gather?`, `integer?`, `fits`.
-/

namespace LangServer.Rpc.Word

/-- How many values a word of 64 bits has. -/
def size : Nat := 0x10000000000000000

/-- The middle of the range of a word. -/
def middle : Nat := 0x8000000000000000

/-- One more digit in a word, unless it is noticed that the word turns over. -/
def push? (negative : Bool) (word : Nat) (digit : Char) : Option Nat :=
  let next := (10 * word + (Text.digitValue? digit).getD 0) % size
  if negative then if next ≤ middle then some next else none
  else if word ≤ next then some next else none

/-- More digits in a word. -/
def gatherFrom? (negative : Bool) (word : Nat) : List Char → Option Nat
  | [] => some word
  | c :: rest => (push? negative word c).bind fun next => gatherFrom? negative next rest

/-- The digits of a numeral in a word. -/
def gather? (negative : Bool) (digits : List Char) : Option Nat :=
  gatherFrom? negative 0 digits

/-- The integer that a sign and digits are read as. -/
def integer? (negative : Bool) (digits : List Char) : Option Int :=
  (gather? negative digits).map fun (word : Nat) => if negative then -(word : Int) else (word : Int)

/-- Whether an integer can be kept in a word, with or without a sign. -/
def fits (n : Int) : Bool :=
  -(middle : Int) ≤ n && n < size

end LangServer.Rpc.Word
