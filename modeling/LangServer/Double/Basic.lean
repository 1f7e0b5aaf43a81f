/-!
# Double-precision numbers

A number with a fraction is kept to 53 binary places.  Every finite one is a whole number of units
of `2 ^ -1074`, the least of them, so comparison and the exact sum are those of integers.  What is
not a double is rounded to the nearest one; halfway between two, to the one with the even last
place.  Zero has a sign, which no comparison sees.

Main definitions: `Double`, `Double.round`, `Double.ofScientific`, `Double.add`.
-/

namespace LangServer

/-- A double-precision number. -/
inductive Double where
  | finite (units : Int)
  /-- Zero with a minus sign, which is equal to zero. -/
  | negativeZero
  | infinite (negative : Bool)
  | nan
deriving DecidableEq, Repr

namespace Double

/-! ### Rounding -/

/-- The number of units in one. -/
@[irreducible] def one : Nat := Nat.pow 2 1074

/-- The size from which on a number is infinite. -/
@[irreducible] def limit : Nat := Nat.pow 2 2098

/-- The whole number nearest to `num / den`; halfway between two, the even one. -/
def nearest (num den : Nat) : Nat :=
  let q := num / den
  let r := num % den
  if 2 * r < den then q
  else if den < 2 * r then q + 1
  else if q % 2 = 0 then q else q + 1

/-- The distance between neighbours of the size of `n` units: it leaves 53 places. -/
def gap (n : Nat) : Nat := Nat.pow 2 (Nat.log2 n - 52)

def zero (negative : Bool) : Double :=
  if negative then negativeZero else finite 0

/-- The double nearest to `num / den` units. -/
def round (negative : Bool) (num den : Nat) : Double :=
  let g := gap (num / den)
  let n := nearest num (den * g) * g
  if limit ≤ n then infinite negative
  else if n = 0 then zero negative
  else finite (if negative then -(n : Int) else n)

/-- The double nearest to `m * 10 ^ e`. -/
def ofScientific (negative : Bool) (m : Nat) (e : Int) : Double :=
  if 0 ≤ e then round negative (m * Nat.pow 10 e.toNat * one) 1
  else round negative (m * one) (Nat.pow 10 (-e).toNat)

/-- The double nearest to an integer, unless that is infinite. -/
def ofInt? (n : Int) : Option Double :=
  match round (n < 0) (n.natAbs * one) 1 with
  | infinite _ => none
  | x => some x

/-! ### Comparison -/

/-- The units of a finite number. -/
def units? : Double → Option Int
  | finite n => some n
  | negativeZero => some 0
  | _ => none

def isZero (x : Double) : Bool :=
  x.units? == some 0

def eqInt (x : Double) (n : Int) : Bool :=
  x.units? == some (n * one)

def ltInt (x : Double) (n : Int) : Bool :=
  match x, x.units? with
  | infinite negative, _ => negative
  | _, some u => u < n * one
  | _, none => false

def gtInt (x : Double) (n : Int) : Bool :=
  match x, x.units? with
  | infinite negative, _ => !negative
  | _, some u => n * one < u
  | _, none => false

def eq (x y : Double) : Bool :=
  match x, y with
  | infinite a, infinite b => a == b
  | _, _ =>
    match x.units?, y.units? with
    | some a, some b => a == b
    | _, _ => false

def lt (x y : Double) : Bool :=
  match x, y with
  | nan, _ => false
  | _, nan => false
  | infinite a, infinite b => a && !b
  | infinite negative, _ => negative
  | _, infinite negative => !negative
  | _, _ =>
    match x.units?, y.units? with
    | some a, some b => a < b
    | _, _ => false

/-! ### Sums -/

/-- The double nearest to the sum. -/
def add (x y : Double) : Double :=
  match x, y with
  | infinite a, infinite b => if a = b then infinite a else nan
  | negativeZero, negativeZero => negativeZero
  | _, _ =>
    match x.units?, y.units? with
    | some a, some b => round (a + b < 0) (a + b).natAbs 1
    | some _, none => y
    | none, some _ => x
    | none, none => nan

def neg : Double → Double
  | finite n => if n = 0 then negativeZero else finite (-n)
  | negativeZero => finite 0
  | infinite negative => infinite !negative
  | nan => nan

end Double

end LangServer
