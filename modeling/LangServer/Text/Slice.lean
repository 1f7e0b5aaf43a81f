/-!
# Slices

Positions in a sequence count from its start, or from its end where they are negative.  A position
beyond either end is moved to that end.

Main definitions: `clampIndex`, `takeTo`, `dropTo`, `item?`.
-/

namespace LangServer.Text

variable {α : Type}

/-- The offset that position `i` means in a sequence of length `n`, at most `n` when counted from
the end. -/
def clampIndex (n : Nat) (i : Int) : Nat :=
  if 0 ≤ i then i.toNat else (n + i).toNat

/-- The items before position `i`. -/
def takeTo (i : Int) (xs : List α) : List α :=
  xs.take (clampIndex xs.length i)

/-- The items from position `i` on. -/
def dropTo (i : Int) (xs : List α) : List α :=
  xs.drop (clampIndex xs.length i)

/-- The item at position `i`, if there is one. -/
def item? (i : Int) (xs : List α) : Option α :=
  if 0 ≤ i then xs[i.toNat]?
  else if 0 ≤ xs.length + i then xs[(xs.length + i).toNat]? else none

/-- The items from position `i` up to position `j`. -/
def slice (i j : Int) (xs : List α) : List α :=
  (takeTo j xs).drop (clampIndex xs.length i)

theorem takeTo_natCast (n : Nat) (xs : List α) : takeTo n xs = xs.take n := by
  simp [takeTo, clampIndex]

theorem dropTo_natCast (n : Nat) (xs : List α) : dropTo n xs = xs.drop n := by
  simp [dropTo, clampIndex]

theorem item?_natCast (n : Nat) (xs : List α) : item? (n : Int) xs = xs[n]? := by
  simp [item?]

end LangServer.Text
