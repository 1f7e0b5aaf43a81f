import LangServer.Fault

/-!
# Paths

Paths are texts whose names are divided by slashes.  An absolute path begins with a slash.  The
current directory is the root, so the names of a path lead from the root whether it is absolute or
not.

Main definitions: `join`, `dirname`, `basename`, `names`, `relative`, `expandHome`.
-/

namespace LangServer.Path

/-! ### Joining and splitting -/

/-- The path `b` as seen from the directory `a`. -/
def join (a b : List Char) : List Char :=
  match b with
  | '/' :: _ => b
  | _ => if a.isEmpty || a.getLast? == some '/' then a ++ b else a ++ '/' :: b

/-- Several paths joined from the left. -/
def joinAll (root : List Char) (rest : List (List Char)) : List Char :=
  rest.foldl join root

/-- What stands behind the last slash. -/
def basename (p : List Char) : List Char :=
  (p.reverse.takeWhile (· != '/')).reverse

/-- What stands before the last slash, less the slashes at its end unless it has nothing else. -/
def dirname (p : List Char) : List Char :=
  let head := p.take (p.length - (basename p).length)
  if head.all (· == '/') then head else (head.reverse.dropWhile (· == '/')).reverse

/-- The pieces of a text between slashes. -/
def pieces : List Char → List (List Char)
  | [] => [[]]
  | '/' :: rest => [] :: pieces rest
  | c :: rest =>
    match pieces rest with
    | [] => [[c]]
    | p :: ps => (c :: p) :: ps

/-! ### Names from the root -/

/-- One more name: `.` stays, `..` goes up. -/
def descend (at_ : List (List Char)) (name : List Char) : List (List Char) :=
  if name = [] ∨ name = ['.'] then at_
  else if name = ['.', '.'] then at_.dropLast
  else at_ ++ [name]

/-- The names that lead from the root to a path. -/
def names (p : List Char) : List (List Char) :=
  (pieces p).foldl descend []

/-- The longest common beginning of two lists. -/
def common {α : Type} [DecidableEq α] : List α → List α → List α
  | a :: as, b :: bs => if a = b then a :: common as bs else []
  | _, _ => []

/-- The names that lead from the directory `start` to `p`; `.` if they are the same. -/
def relative (p start : List Char) : List (List Char) :=
  let shared := (common (names start) (names p)).length
  let ups := List.replicate ((names start).length - shared) ['.', '.']
  match ups ++ (names p).drop shared with
  | [] => [['.']]
  | steps => steps

/-! ### Home directory -/

/-- Writes out a leading `~`, which stands for the home directory, or for that of the user whose
name follows.  The name of an unknown user stays, and one with a null character is refused. -/
def expandHome (home : List Char) (homes : List (String × String)) (p : List Char) :
    Outcome (List Char) :=
  match p with
  | '~' :: rest =>
    let user := rest.takeWhile (· != '/')
    let tail := rest.drop user.length
    if user.isEmpty then .ok (home ++ tail)
    else if user.contains '\x00' then .error (.badValue "embedded null byte")
    else
      match homes.lookup (String.ofList user) with
      | some dir => .ok (dir.toList ++ tail)
      | none => .ok p
  | _ => .ok p

end LangServer.Path
