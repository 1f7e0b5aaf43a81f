/-!
# Lines of a text

A text is divided into lines, each of which keeps the break that ends it.  A carriage return with
the line feed after it is one break.  The lines of a text, joined, are the text.

Main definitions: `isBreak`, `splitLines`, `chomp`, `normalizeNewlines`.
-/

namespace LangServer.Text

/-- The characters that end a line. -/
def isBreak (c : Char) : Bool :=
  c == '\n' || c == '\r' || c == '\x0b' || c == '\x0c' || c == '\x1c' || c == '\x1d' ||
    c == '\x1e' || c == '\x85' || c == '\u2028' || c == '\u2029'

/-- Puts a character in front of the first of some lines. -/
def consLine (c : Char) : List (List Char) → List (List Char)
  | [] => [[c]]
  | l :: ls => (c :: l) :: ls

/-- The lines of a text, breaks included. -/
def splitLines : List Char → List (List Char)
  | [] => []
  | '\r' :: '\n' :: rest => ['\r', '\n'] :: splitLines rest
  | c :: rest => if isBreak c then [c] :: splitLines rest else consLine c (splitLines rest)

theorem splitLines_nil : splitLines [] = [] := rfl

theorem splitLines_pair (rest : List Char) :
    splitLines ('\r' :: '\n' :: rest) = ['\r', '\n'] :: splitLines rest := rfl

theorem splitLines_cons {c : Char} {rest : List Char}
    (hpair : ∀ r, c = '\r' → rest = '\n' :: r → False) :
    splitLines (c :: rest) =
      if isBreak c then [c] :: splitLines rest else consLine c (splitLines rest) := by
  generalize h : c :: rest = text
  fun_cases splitLines text with
  | case1 => cases h
  | case2 r =>
    obtain ⟨rfl, rfl⟩ := List.cons.inj h
    exact (hpair r rfl rfl).elim
  | case3 c' rest' _ hb =>
    obtain ⟨rfl, rfl⟩ := List.cons.inj h
    rw [if_pos hb]
  | case4 c' rest' _ hb =>
    obtain ⟨rfl, rfl⟩ := List.cons.inj h
    rw [if_neg hb]

/-- A line without the break at its end. -/
def chomp (line : List Char) : List Char :=
  line.takeWhile fun c => !isBreak c

/-- Writes every line break of the forms CR LF and CR as LF. -/
def normalizeNewlines : List Char → List Char
  | [] => []
  | '\r' :: '\n' :: rest => '\n' :: normalizeNewlines rest
  | '\r' :: rest => '\n' :: normalizeNewlines rest
  | c :: rest => c :: normalizeNewlines rest

/-- The lines of a text in which only LF ends a line, breaks included. -/
def splitAtNewline : List Char → List (List Char)
  | [] => []
  | '\n' :: rest => ['\n'] :: splitAtNewline rest
  | c :: rest => consLine c (splitAtNewline rest)

/-! ### Nothing is lost -/

theorem flatten_consLine (c : Char) (ls : List (List Char)) :
    (consLine c ls).flatten = c :: ls.flatten := by
  cases ls <;> rfl

theorem flatten_splitLines (s : List Char) : (splitLines s).flatten = s := by
  fun_induction splitLines s with
  | case1 => rfl
  | case2 rest ih => simp [ih]
  | case3 c rest _ _ ih => simp [ih]
  | case4 c rest _ _ ih => rw [flatten_consLine, ih]

theorem flatten_splitAtNewline (s : List Char) : (splitAtNewline s).flatten = s := by
  fun_induction splitAtNewline s with
  | case1 => rfl
  | case2 rest ih => simp [ih]
  | case3 c rest _ ih => rw [flatten_consLine, ih]

end LangServer.Text
