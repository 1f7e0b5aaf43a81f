/-!
# Patterns

A pattern fits some beginnings of a text.  It is given by what follows each of them, so a pattern
is a function from a text to the rests that may remain.

Main definitions: `Pattern`, `Pattern.fits`, `Pattern.findIn`.
-/

namespace LangServer.Text

/-- What may follow the beginning of a text that a pattern fits. -/
abbrev Pattern := List Char → List (List Char)

namespace Pattern

/-- One character of a class. -/
def one (p : Char → Bool) : Pattern
  | [] => []
  | c :: rest => if p c then [rest] else []

/-- One certain character. -/
def char (c : Char) : Pattern := one (· == c)

/-- One character out of some. -/
def oneOf (cs : String) : Pattern := one fun c => cs.toList.contains c

/-- One character of a class or more. -/
def oneOrMore (p : Char → Bool) : Pattern
  | [] => []
  | c :: rest => if p c then rest :: oneOrMore p rest else []

/-- One pattern after another. -/
def andThen (p q : Pattern) : Pattern := fun cs => (p cs).flatMap q

/-- Several patterns after each other. -/
def inOrder (ps : List Pattern) : Pattern := ps.foldr andThen fun cs => [cs]

/-- Either of two patterns. -/
def orElse (p q : Pattern) : Pattern := fun cs => p cs ++ q cs

/-- A pattern or nothing. -/
def optional (p : Pattern) : Pattern := fun cs => p cs ++ [cs]

/-- A pattern up to `limit` times. -/
def upTo (limit : Nat) (p : Pattern) : Pattern :=
  match limit with
  | 0 => fun cs => [cs]
  | limit + 1 => optional (andThen p (upTo limit p))

/-- A pattern any number of times.  Where it fits at least one character each time, no more times
than there are characters. -/
def anyNumber (p : Pattern) : Pattern := fun cs => upTo cs.length p cs

/-- Whether a text is at its end, up to a line break. -/
def atEnd : List Char → Bool
  | [] => true
  | ['\n'] => true
  | _ => false

/-- Whether a pattern fits a whole text, up to a line break at its end. -/
def fits (p : Pattern) (cs : List Char) : Bool :=
  (p cs).any atEnd

/-- Whether a pattern fits anywhere in a text. -/
def findIn (p : Pattern) : List Char → Bool
  | [] => !(p []).isEmpty
  | c :: rest => !(p (c :: rest)).isEmpty || findIn p rest

end Pattern

end LangServer.Text
