import LangServer.Json.Basic
import LangServer.Text.Slice

/-!
# Access to values that may be of the wrong kind

Operations that take any value and stop with a fault where its kind does not allow them: members by
name, items by position, iteration, slices.
-/

namespace LangServer.Json

/-- The fault of a look-up by name in a value that has no such operation. -/
def notSubscriptable (v : Json) : Fault :=
  .wrongKind ("'" ++ v.kindName ++ "' object is not subscriptable")

/-- The member of an object, which must be there. -/
def field (name : String) (v : Json) : Outcome Json :=
  match v with
  | obj members =>
    match members.lookup name with
    | some w => .ok w
    | none => .error (.missingKey ("'" ++ name ++ "'"))
  | arr _ => .error (.wrongKind "list indices must be integers or slices, not str")
  | str _ => .error (.wrongKind "string indices must be integers, not 'str'")
  | _ => .error v.notSubscriptable

/-- The member of an object, or a default; only objects have members to ask for. -/
def getOr (v : Json) (name : String) (default : Json) : Outcome Json :=
  match v with
  | obj members => .ok ((members.lookup name).getD default)
  | _ => .error (.noAttribute v.kindName "get")

/-- The items over which a value is iterated: the items of an array, the characters of a text, the
names of an object's members. -/
def iterate (v : Json) : Outcome (List Json) :=
  match v with
  | arr items => .ok items
  | str s => .ok (s.toList.map fun c => str (String.singleton c))
  | obj members => .ok (members.map fun m => str m.1)
  | _ => .error (.wrongKind ("'" ++ v.kindName ++ "' object is not iterable"))

/-- The number of items over which a value is iterated. -/
def length (v : Json) : Outcome Nat :=
  match v with
  | arr items => .ok items.length
  | str s => .ok s.length
  | obj members => .ok members.length
  | _ => .error (.wrongKind ("object of type '" ++ v.kindName ++ "' has no len()"))

/-- Exactly `n` items of a value. -/
def unpack (n : Nat) (v : Json) : Outcome (List Json) := do
  let items ← v.iterate
  if items.length < n then
    .error (.badValue ("not enough values to unpack (expected " ++ toString n ++ ", got " ++
      toString items.length ++ ")"))
  else if n < items.length then
    .error (.badValue ("too many values to unpack (expected " ++ toString n ++ ")"))
  else return items

/-- The item at a position, counted from the start. -/
def item (i : Nat) (v : Json) : Outcome Json :=
  match v with
  | arr items =>
    match items[i]? with
    | some w => .ok w
    | none => .error .outOfRange
  | str s =>
    match s.toList[i]? with
    | some c => .ok (str (String.singleton c))
    | none => .error .outOfRange
  | obj _ => .error (.missingKey (toString i))
  | _ => .error v.notSubscriptable

/-- The items from a position on. -/
def itemsFrom (i : Nat) (v : Json) : Outcome (List Json) :=
  match v with
  | arr items => .ok (items.drop i)
  | str s => .ok ((s.toList.drop i).map fun c => str (String.singleton c))
  | obj _ => .error (.wrongKind "unhashable type: 'slice'")
  | _ => .error v.notSubscriptable

/-- The text that a value must be. -/
def expectText (v : Json) : Outcome String :=
  match v with
  | str s => .ok s
  | _ => .error (.wrongKind ("expected str instance, " ++ v.kindName ++ " found"))

/-- The text that a value is; other values lack what a text has. -/
def asText (v : Json) : Outcome String :=
  match v with
  | str s => .ok s
  | _ => .error .absent

/-! ### Slices -/

/-- Where a slice begins or ends: anywhere if the value is null. -/
def bound (v : Json) : Outcome (Option Int) :=
  match v with
  | null => .ok none
  | _ =>
    match v.toInt? with
    | some i => .ok (some i)
    | none => .error (.wrongKind
        "slice indices must be integers or None or have an __index__ method")

/-- The items before a position. -/
def takeBefore {α : Type} (v : Json) (xs : List α) : Outcome (List α) := do
  match ← v.bound with
  | none => return xs
  | some i => return Text.takeTo i xs

/-- The items from a position on. -/
def dropBefore {α : Type} (v : Json) (xs : List α) : Outcome (List α) := do
  match ← v.bound with
  | none => return xs
  | some i => return Text.dropTo i xs

/-- The items between two positions. -/
def slice {α : Type} (start stop : Json) (xs : List α) : Outcome (List α) := do
  match ← start.bound, ← stop.bound with
  | none, none => return xs
  | none, some j => return Text.takeTo j xs
  | some i, none => return Text.dropTo i xs
  | some i, some j => return Text.slice i j xs

/-! ### Laws for integers -/

theorem takeBefore_int {α : Type} (i : Int) (xs : List α) :
    (int i).takeBefore xs = .ok (Text.takeTo i xs) := rfl

theorem dropBefore_int {α : Type} (i : Int) (xs : List α) :
    (int i).dropBefore xs = .ok (Text.dropTo i xs) := rfl

theorem slice_int {α : Type} (i j : Int) (xs : List α) :
    (int i).slice (int j) xs = .ok (Text.slice i j xs) := rfl

end LangServer.Json
