import LangServer.Double.Shortest
import LangServer.Json.Basic
import LangServer.Text.Quoted

/-!
# Values in messages

The form in which messages show a value.  `Json.quoted` quotes texts, `Json.display` shows a text
as it is and any other value as `quoted` does.

A double is shown by its shortest decimal: positionally while its point stands among the first
sixteen digits or behind at most four zeros, with an exponent otherwise.
-/

namespace LangServer

namespace Double

/-- At least two digits. -/
def twoDigits (n : Nat) : String :=
  if n < 10 then "0" ++ toString n else toString n

/-- The digits `ds` with the point after the first `point` of them. -/
def showDigits (ds : List Char) (point : Int) : String :=
  if -4 < point ∧ point ≤ 16 then
    if point ≤ 0 then "0." ++ String.ofList (List.replicate (-point).toNat '0' ++ ds)
    else if ds.length ≤ point.toNat then
      String.ofList (ds ++ List.replicate (point.toNat - ds.length) '0') ++ ".0"
    else String.ofList (ds.take point.toNat) ++ "." ++ String.ofList (ds.drop point.toNat)
  else
    let e := point - 1
    let tail := if ds.length ≤ 1 then "" else "." ++ String.ofList (ds.drop 1)
    String.ofList (ds.take 1) ++ tail ++ (if e < 0 then "e-" else "e+") ++ twoDigits e.natAbs

def display : Double → String
  | finite n =>
    if n = 0 then "0.0"
    else
      let (ds, point) := shortest n.natAbs
      (if n < 0 then "-" else "") ++ showDigits ds point
  | negativeZero => "-0.0"
  | infinite negative => if negative then "-inf" else "inf"
  | nan => "nan"

end Double

namespace Json

mutual

/-- The quoted form of a value. -/
def quoted : Json → String
  | null => "None"
  | bool b => if b then "True" else "False"
  | int n => toString n
  | double x => x.display
  | str s => Text.quoted s
  | arr items => "[" ++ ", ".intercalate (quotedItems items) ++ "]"
  | obj members => "\x7b" ++ ", ".intercalate (quotedMembers members) ++ "\x7d"

def quotedItems : List Json → List String
  | [] => []
  | v :: rest => quoted v :: quotedItems rest

def quotedMembers : List (String × Json) → List String
  | [] => []
  | (k, v) :: rest => (Text.quoted k ++ ": " ++ quoted v) :: quotedMembers rest

end

/-- A value as a message shows it. -/
def display : Json → String
  | str s => s
  | v => quoted v

end Json

end LangServer
