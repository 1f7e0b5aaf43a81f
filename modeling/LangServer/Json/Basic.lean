import LangServer.Number

/-!
# JSON values

The values that clients send.  Members of an object keep the order in which they were written.
Numbers are integers of any size or double-precision numbers.

Two relations on values matter beside identity.  A value is *falsy* when it is null, false, zero or
empty.  Two values are *the same* when they are equal as numbers (so 1, 1.0 and true are the same),
or as texts, or part by part, where the order of an object's members does not count.

Main definitions: `Json`, `Json.truthy`, `Json.same`, `Json.member?`.
-/

namespace LangServer

/-- A value in the order in which it was written. -/
inductive Json where
  | null
  | bool (b : Bool)
  | int (n : Int)
  /-- A number that is not written as an integer. -/
  | double (x : Double)
  | str (s : String)
  | arr (items : List Json)
  | obj (members : List (String × Json))
deriving Repr

instance : Inhabited Json := ⟨.null⟩

/-! ### Kinds and truth -/

namespace Json

/-- The word by which reports call the kind of a value. -/
def kindName : Json → String
  | null => "NoneType"
  | bool _ => "bool"
  | int _ => "int"
  | double _ => "float"
  | str _ => "str"
  | arr _ => "list"
  | obj _ => "dict"

def truthy : Json → Bool
  | null => false
  | bool b => b
  | int n => n != 0
  | double x => !x.isZero
  | str s => s != ""
  | arr items => !items.isEmpty
  | obj members => !members.isEmpty

def isNull : Json → Bool
  | null => true
  | _ => false

/-- The integer that a value stands for where an integer is asked for: true is 1, false is 0. -/
def toInt? : Json → Option Int
  | int n => some n
  | bool b => some (if b then 1 else 0)
  | _ => none

/-- The number that a value stands for where a number is asked for. -/
def number? : Json → Option Number
  | double x => some (.double x)
  | v => v.toInt?.map .int

/-- Whether a value may be the key of a table: arrays and objects may not. -/
def isKey : Json → Bool
  | arr _ => false
  | obj _ => false
  | _ => true

/-! ### Sameness -/

/-- Sameness of values that have no parts. -/
def sameAtom (a b : Json) : Bool :=
  match a.number?, b.number? with
  | some m, some n => m.eq n
  | _, _ =>
    match a, b with
    | null, null => true
    | str s, str t => s == t
    | _, _ => false

mutual

/-- Equality by value: numbers and truth values by size, objects without regard to order. -/
def same : Json → Json → Bool
  | arr xs, arr ys => sameItems xs ys
  | obj xs, obj ys => xs.length == ys.length && sameMembers xs ys
  | a, b => sameAtom a b

def sameItems : List Json → List Json → Bool
  | [], [] => true
  | x :: xs, y :: ys => same x y && sameItems xs ys
  | _, _ => false

/-- Every member of the first has a member of that name with the same value in the second. -/
def sameMembers : List (String × Json) → List (String × Json) → Bool
  | [], _ => true
  | (k, v) :: rest, ys =>
    (match ys.lookup k with
      | some w => same v w
      | none => false) && sameMembers rest ys

end

/-- Only a text is the same as a text. -/
theorem same_str {v : Json} {s : String} : v.same (str s) = true ↔ v = str s := by
  cases v <;> simp [same, sameAtom, number?, toInt?]

/-! ### Members and items -/

/-- The value of a member of an object. -/
def member? (name : String) : Json → Option Json
  | obj members => members.lookup name
  | _ => none

/-- A member's value, or a default where there is none. -/
def memberOr (v : Json) (name : String) (default : Json) : Json :=
  (v.member? name).getD default

/-- Adds a member, or replaces the value of the one that is there. -/
def insertMember (name : String) (value : Json) : List (String × Json) → List (String × Json)
  | [] => [(name, value)]
  | (k, v) :: rest =>
    if k = name then (k, value) :: rest else (k, v) :: insertMember name value rest

def items? : Json → Option (List Json)
  | arr items => some items
  | _ => none

def text? : Json → Option String
  | str s => some s
  | _ => none

end Json

end LangServer
