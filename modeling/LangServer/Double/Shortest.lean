import LangServer.Double.Basic

/-!
# The shortest decimal of a double

Of the decimals that round to a double, the one with the fewest digits is written, and of several
with as few digits the nearest.

A unit of `2 ^ -1074` is `5 ^ 1074` times `10 ^ -1074`, so a double is also a whole number of units
of `10 ^ -1074`, and so is every decimal that is tried for it.  The numbers that round to `n` units
reach half a gap to either side, a quarter gap below a power of two, where the gap below is half of
the gap above; the ends belong to them if the last place of `n` is even.

Main definition: `Double.shortest`.
-/

namespace LangServer.Double

/-- The size of a unit of `2 ^ -1074` in units of `10 ^ -1074`. -/
@[irreducible] def unitSize : Nat := Nat.pow 5 1074

/-- Whether the neighbour below is half as far away as the neighbour above. -/
def narrowBelow (n : Nat) : Bool :=
  1 < gap n && n == Nat.pow 2 52 * gap n

/-- Whether the decimal `c`, in units of `10 ^ -1074`, rounds to `n` units. -/
def readsBack (n c : Nat) : Bool :=
  let lower := (4 * n - (if narrowBelow n then gap n else 2 * gap n)) * unitSize
  let upper := (4 * n + 2 * gap n) * unitSize
  if n / gap n % 2 = 0 then lower ≤ 4 * c && 4 * c ≤ upper
  else lower < 4 * c && 4 * c < upper

def digitsOf (n : Nat) : List Char :=
  (toString n).toList

/-- The nearer of the two decimals with the given number of digits that enclose `n` units, if one
of them rounds to it. -/
def closest? (n places : Nat) : Option Nat :=
  let exact := n * unitSize
  let step := Nat.pow 10 ((digitsOf exact).length - places)
  let below := exact / step * step
  let above := below + step
  match readsBack n below, readsBack n above with
  | false, false => none
  | true, false => some below
  | false, true => some above
  | true, true =>
    if exact - below < above - exact then some below
    else if above - exact < exact - below then some above
    else some (if exact / step % 2 = 0 then below else above)

/-- The shortest decimal that rounds to `n` units, in units of `10 ^ -1074`. -/
def shortestDecimal (n : Nat) : Nat :=
  ((List.range 17).findSome? fun i => closest? n (i + 1)).getD (n * unitSize)

/-- Drops the zeros at the end of a list of digits. -/
def trimZeros (ds : List Char) : List Char :=
  (ds.reverse.dropWhile (· == '0')).reverse

/-- The digits of the shortest decimal that rounds to `n` units, and how many of them stand before
the point. -/
def shortest (n : Nat) : List Char × Int :=
  let ds := digitsOf (shortestDecimal n)
  (trimZeros ds, ds.length - 1074)

end LangServer.Double
