import LangServer.Json.Basic

/-!
# Order and sums of values

Numbers are ordered by size, texts by their characters, and arrays by the first item in which they
differ, or else by their length.  Numbers have a sum and a difference, and texts and arrays are
added by joining them.  Any other pair of values stops with a fault.

Main definitions: `Json.less`, `Json.atMost`, `Json.add`, `Json.sub`.
-/

namespace LangServer.Json

/-! ### Order -/

/-- Whether the value is the number `n`. -/
def eqInt (v : Json) (n : Int) : Bool :=
  v.same (int n)

/-- Whether the number `a` is below the number `b`. -/
def lessNumber (a b : Json) : Outcome Bool :=
  match a.number?, b.number? with
  | some m, some n => .ok (m.lt n)
  | _, _ => .error (.wrongKind
      ("'<' not supported between instances of '" ++ a.kindName ++ "' and '" ++ b.kindName ++ "'"))

mutual

/-- Whether `a` comes before `b`. -/
def less : Json → Json → Outcome Bool
  | str s, str t => .ok (s < t)
  | arr xs, arr ys => lessItems xs ys
  | a, b => lessNumber a b

def lessItems : List Json → List Json → Outcome Bool
  | _, [] => .ok false
  | [], _ :: _ => .ok true
  | x :: xs, y :: ys => if same x y then lessItems xs ys else less x y

end

/-- Whether `a` comes before `b` or is the same. -/
def atMost (a b : Json) : Outcome Bool := do
  return (← a.less b) || a.same b

/-- Whether the value is a number below `n`. -/
def ltInt (v : Json) (n : Int) : Outcome Bool :=
  v.less (int n)

/-- Whether the value is a number above `n`. -/
def gtInt (v : Json) (n : Int) : Outcome Bool :=
  (int n).less v

/-! ### Sums -/

def ofNumber : Number → Json
  | .int n => int n
  | .double x => double x

/-- The fault of an operation on two values that do not have it. -/
def noOperation (sign : String) (a b : Json) : Fault :=
  .wrongKind ("unsupported operand type(s) for " ++ sign ++ ": '" ++ a.kindName ++ "' and '" ++
    b.kindName ++ "'")

/-- The sum of two numbers, or two texts or arrays joined. -/
def add (a b : Json) : Outcome Json :=
  match a, b with
  | str s, str t => .ok (str (s ++ t))
  | arr xs, arr ys => .ok (arr (xs ++ ys))
  | _, _ =>
    match a.number?, b.number? with
    | some m, some n => (m.add n).map ofNumber
    | _, _ => .error (noOperation "+" a b)

/-- The difference of two numbers. -/
def sub (a b : Json) : Outcome Json :=
  match a.number?, b.number? with
  | some m, some n => (m.sub n).map ofNumber
  | _, _ => .error (noOperation "-" a b)

/-- The sum of a number and `n`. -/
def addInt (v : Json) (n : Int) : Outcome Json :=
  v.add (int n)

/-- The difference of a number and `n`. -/
def subInt (v : Json) (n : Int) : Outcome Json :=
  v.sub (int n)

/-! ### Laws for integers -/

theorem eqInt_int (m n : Int) : (int m).eqInt n = (m == n) := by
  simp [eqInt, same, sameAtom, number?, toInt?, Number.eq]

theorem less_int (m n : Int) : (int m).less (int n) = .ok (decide (m < n)) := by
  simp [less, lessNumber, number?, toInt?, Number.lt]

theorem ltInt_int (m n : Int) : (int m).ltInt n = .ok (decide (m < n)) :=
  less_int m n

theorem gtInt_int (m n : Int) : (int m).gtInt n = .ok (decide (n < m)) :=
  less_int n m

theorem atMost_int (m n : Int) : (int m).atMost (int n) = .ok (decide (m ≤ n)) := by
  have hs : (int m).same (int n) = (m == n) := eqInt_int m n
  simp only [atMost, less_int, hs]
  show Except.ok (decide (m < n) || m == n) = _
  congr 1
  rw [Bool.eq_iff_iff]
  simp only [Bool.or_eq_true, decide_eq_true_eq, beq_iff_eq]
  omega

theorem add_int (m n : Int) : (int m).add (int n) = .ok (int (m + n)) := rfl

theorem sub_int (m n : Int) : (int m).sub (int n) = .ok (int (m - n)) := rfl

theorem addInt_int (m n : Int) : (int m).addInt n = .ok (int (m + n)) := rfl

theorem subInt_int (m n : Int) : (int m).subInt n = .ok (int (m - n)) := rfl

end LangServer.Json
