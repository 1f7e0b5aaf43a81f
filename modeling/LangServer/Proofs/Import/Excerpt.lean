import LangServer.Program.Import
import LangServer.Proofs.Program.Innermost

/-!
# The text of an import statement

The text of a statement is cut out of the lines of its file in one piece, if the statement is on one
line, or in three: the end of the first line, the lines between, and the start of the last line.
Either way it is the text of the file between the start and the end of the statement.

The cursor is moved into that text by a shift of the line, and on the first line also of the column.
What stands there is what stands in the file at the cursor, because the text has the lines of the
file again: all but its last end with a line feed, and no line has a line feed elsewhere.

Main statement: `definition_reads_excerpt`.
-/

namespace LangServer

namespace Text

variable {s l : List Char} {ls : List (List Char)} {c : Char} {i n k : Nat}

/-! ### Lines that only a line feed ends -/

/-- No line feed stands before the end of the line. -/
def IsLine (l : List Char) : Prop :=
  ∀ i, l[i]? = some '\n' → i + 1 = l.length

/-- The line ends with a line feed, the only one in it. -/
structure IsEnded (l : List Char) : Prop where
  isLine : IsLine l
  newline : l.getLast? = some '\n'

theorem IsLine.cons (h : IsLine l) (hc : c ≠ '\n') : IsLine (c :: l) := by
  intro i hi
  cases i with
  | zero => exact absurd (Option.some.inj hi) hc
  | succ i =>
    have hend := h i hi
    rw [List.length_cons]
    omega

theorem IsLine.take (h : IsLine l) (n : Nat) : IsLine (l.take n) := by
  intro i hi
  have hlt : i < n := by
    by_contra hle
    rw [List.getElem?_take_eq_none (by omega)] at hi
    cases hi
  rw [List.getElem?_take_of_lt hlt] at hi
  have hend := h i hi
  rw [List.length_take]
  omega

theorem IsLine.drop (h : IsLine l) (n : Nat) : IsLine (l.drop n) := by
  intro i hi
  rw [List.getElem?_drop] at hi
  have hend := h (n + i) hi
  rw [List.length_drop]
  omega

theorem IsLine.eq_nil_of_newline (h : IsLine ('\n' :: l)) : l = [] := by
  have hend := h 0 rfl
  rw [List.length_cons] at hend
  exact List.eq_nil_of_length_eq_zero (by omega)

theorem IsEnded.cons (h : IsEnded l) (hc : c ≠ '\n') : IsEnded (c :: l) where
  isLine := h.isLine.cons hc
  newline := by simp [List.getLast?_cons, h.newline]

theorem IsEnded.drop (h : IsEnded l) (hn : n < l.length) : IsEnded (l.drop n) where
  isLine := h.isLine.drop n
  newline := by rw [List.getLast?_drop, if_neg (by omega), h.newline]

/-! ### Splitting and joining -/

theorem splitAtNewline_cons (hc : c ≠ '\n') (rest : List Char) :
    splitAtNewline (c :: rest) = consLine c (splitAtNewline rest) := by
  rw [splitAtNewline]
  exact hc

theorem splitAtNewline_of_isLine (h : IsLine l) (hne : l ≠ []) : splitAtNewline l = [l] := by
  induction l with
  | nil => exact absurd rfl hne
  | cons c l ih =>
    by_cases hc : c = '\n'
    · subst hc
      rw [h.eq_nil_of_newline]
      rfl
    · rw [splitAtNewline_cons hc]
      cases l with
      | nil => rfl
      | cons c' l =>
        rw [ih (h.drop 1) (by simp)]
        rfl

theorem IsEnded.splitAtNewline_append (h : IsEnded l) (rest : List Char) :
    splitAtNewline (l ++ rest) = l :: splitAtNewline rest := by
  induction l with
  | nil => simpa using h.newline
  | cons c l ih =>
    by_cases hc : c = '\n'
    · subst hc
      rw [h.isLine.eq_nil_of_newline]
      rfl
    · have hne : 1 < (c :: l).length := by
        cases l with
        | nil => exact absurd (Option.some.inj h.newline) hc
        | cons c' l => simp
      rw [List.cons_append, splitAtNewline_cons hc, ih (h.drop hne)]
      rfl

theorem splitAtNewline_flatten_append (h : ∀ l ∈ ls, IsEnded l) (rest : List Char) :
    splitAtNewline (ls.flatten ++ rest) = ls ++ splitAtNewline rest := by
  induction ls with
  | nil => rfl
  | cons l ls ih =>
    rw [List.flatten_cons, List.append_assoc, (h l List.mem_cons_self).splitAtNewline_append,
      ih fun l hl => h l (List.mem_cons_of_mem _ hl)]
    rfl

/-- The lines of a text: only the last may lack its line feed. -/
inductive Lined : List (List Char) → Prop
  | nil : Lined []
  | last {l : List Char} (h : IsLine l) : Lined [l]
  | cons {l : List Char} {ls : List (List Char)} (h : IsEnded l) (hs : Lined ls) : Lined (l :: ls)

theorem isLine_singleton (c : Char) : IsLine [c] := by
  intro i hi
  cases i with
  | zero => rfl
  | succ i => cases hi

theorem Lined.consLine (h : Lined ls) (hc : c ≠ '\n') : Lined (consLine c ls) := by
  cases h with
  | nil => exact .last (isLine_singleton c)
  | last h => exact .last (h.cons hc)
  | cons h hs => exact .cons (h.cons hc) hs

theorem lined_splitAtNewline (s : List Char) : Lined (splitAtNewline s) := by
  induction s with
  | nil => exact .nil
  | cons c s ih =>
    by_cases hc : c = '\n'
    · subst hc
      exact .cons ⟨isLine_singleton _, rfl⟩ ih
    · rw [splitAtNewline_cons hc]
      exact ih.consLine hc

theorem Lined.isLine (h : Lined ls) (hl : l ∈ ls) : IsLine l := by
  induction h with
  | nil => cases hl
  | last h => rwa [List.mem_singleton.1 hl]
  | cons h hs ih =>
    rcases List.mem_cons.1 hl with rfl | hrest
    · exact h.isLine
    · exact ih hrest

theorem Lined.isEnded (h : Lined ls) (hi : i + 1 < ls.length) (hl : ls[i]? = some l) :
    IsEnded l := by
  induction h generalizing i with
  | nil => cases hl
  | last h => simp at hi
  | cons h hs ih =>
    cases i with
    | zero => rwa [← Option.some.inj hl]
    | succ i => exact ih (Nat.lt_of_succ_lt_succ hi) hl

/-! ### Places in lines -/

/-- The character at a line, counted from one, and a column, counted from zero. -/
def charAt (lines : List (List Char)) (line column : Nat) : Option Char :=
  lines[line - 1]?.bind fun l => l[column]?

/-- The number of characters of a text before a line, counted from one, and a column of it. -/
def charsBefore (text : List Char) (line column : Nat) : Nat :=
  ((splitAtNewline text).take (line - 1)).flatten.length + column

/-- The text from one place up to another. -/
def textBetween (text : List Char) (line column endLine endColumn : Nat) : List Char :=
  (text.take (charsBefore text endLine endColumn)).drop (charsBefore text line column)

variable {text first last : List Char} {line column endLine endColumn : Nat}

theorem flatten_eq_append (h : ls[i]? = some l) :
    ls.flatten = (ls.take i).flatten ++ (l ++ (ls.drop (i + 1)).flatten) := by
  obtain ⟨hlt, hget⟩ := List.getElem?_eq_some_iff.1 h
  have hdrop := List.drop_eq_getElem_cons hlt
  rw [hget] at hdrop
  rw [← List.flatten_cons, ← hdrop, ← List.flatten_append, List.take_append_drop]

/-- The lines of a text are the text again, so cutting off characters is cutting off lines. -/
theorem take_charsBefore (h : (splitAtNewline text)[line - 1]? = some l)
    (hcolumn : column ≤ l.length) :
    text.take (charsBefore text line column) =
      ((splitAtNewline text).take (line - 1)).flatten ++ l.take column := by
  calc text.take (charsBefore text line column)
      = (splitAtNewline text).flatten.take (charsBefore text line column) := by
        rw [flatten_splitAtNewline]
    _ = ((splitAtNewline text).take (line - 1)).flatten ++ l.take column := by
        rw [flatten_eq_append h, charsBefore, List.take_length_add_append,
          List.take_append_of_le_length hcolumn]

theorem textBetween_oneLine (h : (splitAtNewline text)[line - 1]? = some l)
    (hend : endColumn ≤ l.length) :
    textBetween text line column line endColumn = (l.take endColumn).drop column := by
  rw [textBetween, take_charsBefore h hend, charsBefore, List.drop_length_add_append]

/-- The lines that lie wholly between two lines. -/
def linesBetween (lines : List (List Char)) (line endLine : Nat) : List (List Char) :=
  (lines.take (endLine - 1)).drop line

theorem flatten_take_linesBetween {lines : List (List Char)} (hpos : 1 ≤ line)
    (hlt : line < endLine) (hfirst : lines[line - 1]? = some first) :
    (lines.take (endLine - 1)).flatten =
      (lines.take (line - 1)).flatten ++ (first ++ (linesBetween lines line endLine).flatten) := by
  have hfirst' : (lines.take (endLine - 1))[line - 1]? = some first := by
    rw [List.getElem?_take_of_lt (by omega), hfirst]
  have hfront : (lines.take (endLine - 1)).take (line - 1) = lines.take (line - 1) := by
    rw [List.take_take, Nat.min_eq_left (by omega)]
  rw [flatten_eq_append hfirst', hfront, show line - 1 + 1 = line by omega, linesBetween]

theorem textBetween_manyLines (hpos : 1 ≤ line) (hlt : line < endLine)
    (hfirst : (splitAtNewline text)[line - 1]? = some first)
    (hlast : (splitAtNewline text)[endLine - 1]? = some last)
    (hcolumn : column ≤ first.length) (hend : endColumn ≤ last.length) :
    textBetween text line column endLine endColumn =
      first.drop column ++
        ((linesBetween (splitAtNewline text) line endLine).flatten ++ last.take endColumn) := by
  rw [textBetween, take_charsBefore hlast hend, flatten_take_linesBetween hpos hlt hfirst,
    charsBefore, List.append_assoc, List.drop_length_add_append, List.append_assoc,
    List.drop_append_of_le_length hcolumn]

end Text

namespace Import

open Text

variable {lines : List (List Char)} {text l first last : List Char}
variable {line column endLine endColumn : Nat}

/-! ### The text of a statement -/

/-- The span lies in the lines.  A span of several lines starts before the end of its first line: a
start behind the line feed there would be a place in the next line. -/
structure SpanIn (lines : List (List Char)) (line column endLine endColumn : Nat) : Prop where
  first : 1 ≤ line
  order : line ≤ endLine
  last : endLine ≤ lines.length
  startsIn : line < endLine → ∀ l, lines[line - 1]? = some l → column < l.length
  endsIn : ∀ l, lines[endLine - 1]? = some l → endColumn ≤ l.length
  columns : line = endLine → column ≤ endColumn

theorem SpanIn.exists_firstLine (h : SpanIn lines line column endLine endColumn) :
    ∃ l, lines[line - 1]? = some l := by
  have hpos := h.first
  have horder := h.order
  have hbound := h.last
  exact ⟨_, List.getElem?_eq_getElem (by omega)⟩

theorem SpanIn.exists_lastLine (h : SpanIn lines line column endLine endColumn) :
    ∃ l, lines[endLine - 1]? = some l := by
  have hpos := h.first
  have horder := h.order
  have hbound := h.last
  exact ⟨_, List.getElem?_eq_getElem (by omega)⟩

theorem lineOf_int (hpos : 1 ≤ line) (h : lines[line - 1]? = some l) :
    lineOf lines (.int line) = .ok l := by
  have hindex : (line : Int) - 1 = (line - 1 : Nat) := by omega
  simp only [lineOf, Json.subInt_int, hindex, Json.toInt?, item?_natCast, h, bind, Except.bind,
    pure, Except.pure]

theorem slice_natCast {α : Type} (i j : Nat) (xs : List α) :
    Text.slice i j xs = (xs.take j).drop i := by
  simp [Text.slice, takeTo_natCast, clampIndex]

theorem excerpt_oneLine (hpos : 1 ≤ line) (h : lines[line - 1]? = some l) :
    excerpt (Span.between line column line endColumn) lines =
      .ok ((l.take endColumn).drop column) := by
  simp only [excerpt, Span.between, Json.same_int, decide_true, if_true, lineOf_int hpos h,
    Json.slice_int, slice_natCast, bind, Except.bind]

theorem excerpt_manyLines (hpos : 1 ≤ line) (hlt : line < endLine)
    (hfirst : lines[line - 1]? = some first) (hlast : lines[endLine - 1]? = some last) :
    excerpt (Span.between line column endLine endColumn) lines =
      .ok (first.drop column ++
        ((linesBetween lines line endLine).flatten ++ last.take endColumn)) := by
  have hne : ¬ (line : Int) = endLine := by omega
  have hindex : (endLine : Int) - 1 = (endLine - 1 : Nat) := by omega
  simp only [excerpt, Span.between, Json.same_int, hne, decide_false, Bool.false_eq_true, if_false,
    lineOf_int hpos hfirst, lineOf_int (show 1 ≤ endLine by omega) hlast, Json.dropBefore_int,
    Json.takeBefore_int, Json.subInt_int, hindex, Json.slice_int, slice_natCast, dropTo_natCast,
    takeTo_natCast, linesBetween, List.append_assoc, bind, Except.bind, pure, Except.pure]

theorem excerpt_eq_textBetween (h : SpanIn (splitAtNewline text) line column endLine endColumn) :
    excerpt (Span.between line column endLine endColumn) (splitAtNewline text) =
      .ok (textBetween text line column endLine endColumn) := by
  have hpos := h.first
  obtain ⟨first, hfirst⟩ := h.exists_firstLine
  obtain ⟨last, hlast⟩ := h.exists_lastLine
  rcases Nat.eq_or_lt_of_le h.order with hsame | hlt
  · subst hsame
    rw [excerpt_oneLine hpos hlast, textBetween_oneLine hlast (h.endsIn last hlast)]
  · have hcolumn := h.startsIn hlt first hfirst
    rw [excerpt_manyLines hpos hlt hfirst hlast, textBetween_manyLines hpos hlt hfirst hlast
      (Nat.le_of_lt hcolumn) (h.endsIn last hlast)]

/-! ### The cursor in the text of a statement -/

variable {k c : Nat}

theorem charAt_oneLine (h : (splitAtNewline text)[line - 1]? = some l)
    (hend : endColumn ≤ l.length) (hstart : column ≤ c) (hlt : c < endColumn) :
    charAt (splitAtNewline (textBetween text line column line endColumn)) 1 (c - column) =
      charAt (splitAtNewline text) line c := by
  have hl : IsLine l := (lined_splitAtNewline text).isLine (List.mem_of_getElem? h)
  have hne : (l.take endColumn).drop column ≠ [] := by
    rw [Ne, List.drop_eq_nil_iff, List.length_take_of_le hend]
    omega
  have hlines := splitAtNewline_of_isLine ((hl.take endColumn).drop column) hne
  have hfile : charAt (splitAtNewline text) line c = l[c]? := by rw [charAt, h, Option.bind_some]
  rw [textBetween_oneLine h hend, hlines, hfile]
  show ((l.take endColumn).drop column)[c - column]? = l[c]?
  rw [List.getElem?_drop, show column + (c - column) = c by omega, List.getElem?_take_of_lt hlt]

theorem getElem?_linesBetween (hlt : line + k < endLine - 1) :
    (linesBetween lines line endLine)[k]? = lines[line + k]? := by
  rw [linesBetween, List.getElem?_drop, List.getElem?_take_of_lt hlt]

theorem length_linesBetween (line : Nat) (hend : endLine ≤ lines.length) :
    (linesBetween lines line endLine).length = endLine - 1 - line := by
  rw [linesBetween, List.length_drop, List.length_take_of_le (by omega)]

/-- The text of a statement on several lines has these lines again, the first and the last cut. -/
theorem splitAtNewline_manyLines (h : SpanIn (splitAtNewline text) line column endLine endColumn)
    (hlt : line < endLine) (hfirst : (splitAtNewline text)[line - 1]? = some first)
    (hlast : (splitAtNewline text)[endLine - 1]? = some last) :
    splitAtNewline (textBetween text line column endLine endColumn) =
      first.drop column :: (linesBetween (splitAtNewline text) line endLine ++
        splitAtNewline (last.take endColumn)) := by
  have hlined := lined_splitAtNewline text
  have hpos := h.first
  have hbound := h.last
  have hcolumn := h.startsIn hlt first hfirst
  have hended : IsEnded first := hlined.isEnded (by omega) hfirst
  have hbetween : ∀ l ∈ linesBetween (splitAtNewline text) line endLine, IsEnded l := by
    intro l hl
    obtain ⟨i, hi⟩ := List.getElem?_of_mem hl
    have hindex := (List.getElem?_eq_some_iff.1 hi).1
    rw [length_linesBetween line hbound] at hindex
    rw [getElem?_linesBetween (by omega)] at hi
    exact hlined.isEnded (by omega) hi
  rw [textBetween_manyLines hpos hlt hfirst hlast (Nat.le_of_lt hcolumn) (h.endsIn last hlast),
    (hended.drop hcolumn).splitAtNewline_append, splitAtNewline_flatten_append hbetween]

theorem charAt_manyLines (h : SpanIn (splitAtNewline text) line column endLine endColumn)
    (hlt : line < endLine) (hstart : line < k ∨ line = k ∧ column ≤ c)
    (hend : k < endLine ∨ k = endLine ∧ c < endColumn) :
    charAt (splitAtNewline (textBetween text line column endLine endColumn))
      (k - line + 1) (if k = line then c - column else c) = charAt (splitAtNewline text) k c := by
  have hpos := h.first
  have hlength := length_linesBetween line h.last
  obtain ⟨first, hfirst⟩ := h.exists_firstLine
  obtain ⟨last, hlast⟩ := h.exists_lastLine
  rw [splitAtNewline_manyLines h hlt hfirst hlast, charAt, charAt, Nat.add_sub_cancel]
  rcases hstart with hafter | ⟨rfl, hcolumn⟩
  · obtain ⟨j, rfl⟩ : ∃ j, k = line + j + 1 := ⟨k - line - 1, by omega⟩
    rw [if_neg (by omega), show line + j + 1 - line = j + 1 by omega, List.getElem?_cons_succ,
      Nat.add_sub_cancel]
    rcases hend with hbetween | ⟨hlastLine, hc⟩
    · -- a line between the first and the last is there as a whole
      rw [List.getElem?_append_left (by omega), getElem?_linesBetween (by omega)]
    · -- the last line is there up to the end of the statement, which is behind the column
      have hline : IsLine last :=
        (lined_splitAtNewline text).isLine (List.mem_of_getElem? hlast)
      have hne : last.take endColumn ≠ [] := by
        have hcolumns := h.endsIn last hlast
        rw [Ne, ← List.length_eq_zero_iff, List.length_take_of_le hcolumns]
        omega
      rw [List.getElem?_append_right (by omega), hlength,
        show j - (endLine - 1 - line) = 0 by omega,
        splitAtNewline_of_isLine (hline.take endColumn) hne,
        show line + j = endLine - 1 by omega, hlast]
      exact List.getElem?_take_of_lt hc
  · -- the first line has lost what stands before the start of the statement
    rw [if_pos rfl, Nat.sub_self, hfirst]
    show (first.drop column)[c - column]? = first[c]?
    rw [List.getElem?_drop, show column + (c - column) = c by omega]

/-- The place to which a cursor is moved holds in the text of the statement what the place of the
cursor holds in the file. -/
theorem charAt_textBetween (h : SpanIn (splitAtNewline text) line column endLine endColumn)
    (hstart : line < k ∨ line = k ∧ column ≤ c) (hend : k < endLine ∨ k = endLine ∧ c < endColumn) :
    charAt (splitAtNewline (textBetween text line column endLine endColumn))
      (k - line + 1) (if k = line then c - column else c) = charAt (splitAtNewline text) k c := by
  rcases Nat.eq_or_lt_of_le h.order with hsame | hlt
  · subst hsame
    obtain rfl : k = line := by omega
    obtain ⟨l, hl⟩ := h.exists_lastLine
    rw [if_pos rfl, Nat.sub_self]
    exact charAt_oneLine hl (h.endsIn l hl) (by omega) (by omega)
  · exact charAt_manyLines h hlt hstart hend

/-! ### The definition under the cursor -/

theorem contains_between_iff :
    (Span.between line column endLine endColumn).contains (.int k) (.int c) = .ok true ↔
      (line < k ∨ line = k ∧ column ≤ c) ∧ (k < endLine ∨ k = endLine ∧ c ≤ endColumn) := by
  obtain ⟨b, hrun, hcovers⟩ := Span.contains_between line column endLine endColumn k c
  rw [hrun, Except.ok.injEq, hcovers, Span.covers_between, Prod.Lex.toLex_le_toLex,
    Prod.Lex.toLex_le_toLex]
  omega

theorem cursorIn_between (hline : line ≤ k) (hcolumn : line = k → column ≤ c) :
    cursorIn (Span.between line column endLine endColumn) (.int k) (.int c) =
      .ok (.int (k - line + 1 : Nat), .int (if k = line then c - column else c : Nat)) := by
  have hinner : (k : Int) - line + 1 = (k - line + 1 : Nat) := by omega
  by_cases hsame : k = line
  · subst hsame
    have hle := hcolumn rfl
    have hshift : (c : Int) - column = (c - column : Nat) := by omega
    simp only [cursorIn, Span.between, Json.sub_int, Json.addInt_int, Json.same_int, decide_true,
      if_true, hinner, hshift, bind, Except.bind, pure, Except.pure]
  · simp only [cursorIn, Span.between, Json.sub_int, Json.addInt_int, Json.same_int,
      Int.natCast_inj, hsame, decide_false, Bool.false_eq_true, if_false, hinner, bind, Except.bind,
      pure, Except.pure]

/-- What the name at a place of a statement's text means. -/
def definitionIn (p : Program) (statement : Node) (file : Option NodeId) (code : String)
    (line column : Json) : Traced (Option NodeId) :=
  match p.statements.lookup code with
  | none => return none
  | some tree => do
    let selection ← select p file statement.shape tree line column
    Traced.lift (selection.node p)

variable {p : Program} {fs : FileSystem} {statement : Node} {file : Option NodeId} {path : String}

/-- The text that is parsed for a statement is the text of the file between the ends of the
statement.  Where the cursor is looked for in it stands what stands in the file at the cursor. -/
theorem definition_reads_excerpt (hread : fs.readText path.toList = .ok text)
    (hspan : statement.span = Span.between line column endLine endColumn)
    (hin : SpanIn (splitAtNewline text) line column endLine endColumn)
    (hcursor : statement.span.contains (.int k) (.int c) = .ok true) :
    let code := textBetween text line column endLine endColumn
    let innerLine := k - line + 1
    let innerColumn := if k = line then c - column else c
    definition p fs statement file path (.int k) (.int c) = (do
      Traced.record (.parsed (String.ofList code))
      definitionIn p statement file (String.ofList code) (.int innerLine) (.int innerColumn)) ∧
    ((k < endLine ∨ c < endColumn) →
      charAt (splitAtNewline code) innerLine innerColumn = charAt (splitAtNewline text) k c) := by
  intro code innerLine innerColumn
  rw [hspan, contains_between_iff] at hcursor
  obtain ⟨hstart, hend⟩ := hcursor
  constructor
  · have hexcerpt : excerpt statement.span (splitAtNewline text) = .ok code := by
      rw [hspan, excerpt_eq_textBetween hin]
    have hinner : cursorIn statement.span (.int k) (.int c) =
        .ok (.int innerLine, .int innerColumn) := by
      rw [hspan]
      exact cursorIn_between (by omega) (by omega)
    simp only [definition, hread, hexcerpt, Traced.lift, pure_bind]
    refine bind_congr fun _ => ?_
    cases htree : p.statements.lookup (String.ofList code) with
    | none => simp only [definitionIn, htree]
    | some tree => simp only [definitionIn, htree, hinner, Traced.lift, pure_bind]
  · intro hbefore
    exact charAt_textBetween hin hstart (by omega)

/-- A statement that is indented and goes on in a second line, with the cursor on its first name and
on its second one. -/
theorem definition_reads_excerpt_two_lines :
    let text := "if x:\n    from a import (b,\n  c)\n".toList
    let fs : FileSystem := { files := [(["a.py".toList], text.map Char.toNat)] }
    let statement : Node :=
      { shape := .importNames (.int 0) (.str "a"), span := Span.between 2 4 3 4 }
    let code := "from a import (b,\n  c)".toList
    (definition {} fs statement none "/a.py" (.int 2) (.int 19) = (do
      Traced.record (.parsed (String.ofList code))
      definitionIn {} statement none (String.ofList code) (.int 1) (.int 15)) ∧
    charAt (splitAtNewline code) 1 15 = some 'b') ∧
    definition {} fs statement none "/a.py" (.int 3) (.int 2) = (do
      Traced.record (.parsed (String.ofList code))
      definitionIn {} statement none (String.ofList code) (.int 2) (.int 2)) ∧
    charAt (splitAtNewline code) 2 2 = some 'c' := by
  intro text fs statement code
  have hread : fs.readText "/a.py".toList = .ok text := by decide +kernel
  have hcode : textBetween text 2 4 3 4 = code := by decide +kernel
  have hin : SpanIn (splitAtNewline text) 2 4 3 4 := by
    refine ⟨by decide, by decide, by decide +kernel, fun _ l hl => ?_, fun l hl => ?_, by decide⟩
    · obtain rfl := Option.some.inj hl
      decide +kernel
    · obtain rfl := Option.some.inj hl
      decide +kernel
  have hspan : statement.span = Span.between (2 : Nat) (4 : Nat) (3 : Nat) (4 : Nat) := rfl
  have hfirst : statement.span.contains (.int (2 : Nat)) (.int (19 : Nat)) = .ok true := by
    decide +kernel
  have hsecond : statement.span.contains (.int (3 : Nat)) (.int (2 : Nat)) = .ok true := by
    decide +kernel
  obtain ⟨hrun, hchar⟩ := definition_reads_excerpt (p := {}) hread hspan hin hfirst
  obtain ⟨hrun', hchar'⟩ := definition_reads_excerpt (p := {}) hread hspan hin hsecond
  rw [hcode] at hrun hchar hrun' hchar'
  exact ⟨⟨hrun, hchar (by decide)⟩, hrun', hchar' (by decide)⟩

end Import

end LangServer
