import LangServer.Double.Basic
import LangServer.Fault

/-!
# Numbers

A number is an integer of any size or a double.  Integers and doubles are compared exactly.  A sum
is exact between integers; as soon as a double takes part, both sides are made doubles first, which
an integer may be too large for.

Main definitions: `Number`, `Number.eq`, `Number.lt`, `Number.add`, `Number.sub`.
-/

namespace LangServer

inductive Number where
  | int (n : Int)
  | double (x : Double)
deriving DecidableEq, Repr

namespace Number

/-! ### Comparison -/

def eq : Number → Number → Bool
  | int m, int n => m == n
  | int m, double y => y.eqInt m
  | double x, int n => x.eqInt n
  | double x, double y => x.eq y

def lt : Number → Number → Bool
  | int m, int n => m < n
  | int m, double y => y.gtInt m
  | double x, int n => x.ltInt n
  | double x, double y => x.lt y

/-! ### Sums -/

def toDouble : Number → Outcome Double
  | double x => .ok x
  | int n =>
    match Double.ofInt? n with
    | some x => .ok x
    | none => .error .beyondDoubles

def add : Number → Number → Outcome Number
  | int m, int n => .ok (int (m + n))
  | x, y => do return double ((← x.toDouble).add (← y.toDouble))

def sub : Number → Number → Outcome Number
  | int m, int n => .ok (int (m - n))
  | x, y => do return double ((← x.toDouble).add (← y.toDouble).neg)

end Number

end LangServer
