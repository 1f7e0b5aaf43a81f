import LangServer.Document
import Mathlib.Data.List.DropRight

/-!
# The word around a position

The word around a position is put together from two halves: the word characters that end the part of
the line before the column, and those that begin the part from the column on.  The first half is
looked for in front of a line feed at the end of its part, but there is none within a line.  So the
halves are one stretch of the line, and any other stretch of word characters that reaches the column
lies within it.

Main statement: `Document.wordAt_is_whole_word`.
-/

namespace LangServer

namespace Text

/-! ### Words in a line -/

/-- The characters of a line from `a` up to `b` are word characters, and the column is among them or
at one of their ends. -/
structure IsWordAround (l : List Char) (column a b : Nat) : Prop where
  before : a ≤ column
  behind : column ≤ b
  inside : b ≤ l.length
  word : ∀ c ∈ (l.take b).drop a, isIdentifierChar c = true

/-- A word around the column with no word character before it and none behind it. -/
structure IsWholeWord (l : List Char) (column a b : Nat) : Prop extends
    IsWordAround l column a b where
  stopsBefore : 0 < a → ∀ c, l[a - 1]? = some c → isIdentifierChar c = false
  stopsBehind : ∀ c, l[b]? = some c → isIdentifierChar c = false

variable {l x y : List Char} {column a b a' b' : Nat}

theorem IsWordAround.isIdentifierChar (h : IsWordAround l column a b) {i : Nat} (hi : a ≤ i)
    (hib : i < b) {c : Char} (hc : l[i]? = some c) : isIdentifierChar c = true := by
  refine h.word c (List.mem_of_getElem? (i := i - a) ?_)
  rw [List.getElem?_drop, show a + (i - a) = i by omega, List.getElem?_take_of_lt hib, hc]

theorem IsWholeWord.holds (h : IsWholeWord l column a b) (h' : IsWordAround l column a' b') :
    a ≤ a' ∧ b' ≤ b := by
  have hbefore := h.before
  have hbehind := h.behind
  have hbefore' := h'.before
  have hbehind' := h'.behind
  have hinside := h'.inside
  constructor
  · by_contra hlt
    have hindex : a - 1 < l.length := by omega
    have hc := List.getElem?_eq_getElem hindex
    have hword := h'.isIdentifierChar (by omega) (by omega) hc
    simp [h.stopsBefore (by omega) _ hc] at hword
  · by_contra hlt
    have hindex : b < l.length := by omega
    have hc := List.getElem?_eq_getElem hindex
    have hword := h'.isIdentifierChar (by omega) (by omega) hc
    simp [h.stopsBehind _ hc] at hword

theorem isWholeWord_of_parts {u v : List Char} (hl : l = x ++ (u ++ v) ++ y)
    (hword : ∀ c ∈ u ++ v, isIdentifierChar c = true)
    (hx : ∀ c, x.getLast? = some c → isIdentifierChar c = false)
    (hy : ∀ c, y.head? = some c → isIdentifierChar c = false) :
    IsWholeWord l (x ++ u).length x.length (x ++ (u ++ v)).length where
  before := by simp
  behind := by simp
  inside := by simp [hl]
  word := by
    rw [hl, List.take_left, List.drop_left]
    exact hword
  stopsBefore hpos c hc := by
    refine hx c ?_
    rw [hl, List.append_assoc, List.getElem?_append_left (by omega)] at hc
    rw [List.getLast?_eq_getElem?, hc]
  stopsBehind c hc := by
    refine hy c ?_
    rw [hl, List.getElem?_append_right (Nat.le_refl _), Nat.sub_self] at hc
    rw [List.head?_eq_getElem?, hc]

/-- Within a line, that is up to its break, no part of it holds a line feed. -/
theorem ne_newline_of_mem_take (h : column ≤ (chomp l).length) {c : Char} (hc : c ∈ l.take column) :
    c ≠ '\n' := by
  rintro rfl
  have hbody : l.take column = (chomp l).take column := by
    obtain ⟨rest, hrest⟩ := List.takeWhile_prefix (l := l) fun c => !isBreak c
    rw [chomp] at h ⊢
    nth_rewrite 1 [← hrest]
    rw [List.take_append_of_le_length h]
  rw [hbody] at hc
  have hbreak := List.mem_takeWhile_imp (List.mem_of_mem_take hc)
  exact absurd hbreak (by decide)

end Text

namespace Document

open Text

variable {l cs : List Char} {column : Nat}

/-! ### The two halves -/

theorem wordEnd_eq_rtakeWhile (h : ∀ c ∈ cs, c ≠ '\n') :
    wordEnd cs = cs.rtakeWhile isIdentifierChar := by
  have hback : ∀ rest, cs.reverse = '\n' :: rest → False := by
    intro rest hrest
    have hmem : '\n' ∈ cs.reverse := by simp [hrest]
    exact h '\n' (List.mem_reverse.1 hmem) rfl
  unfold wordEnd
  split
  · next rest hrest => exact (hback rest hrest).elim
  · rfl

theorem isWholeWord_halves (hcolumn : column ≤ l.length) :
    ∃ a b, IsWholeWord l column a b ∧
      (l.take b).drop a =
        (l.take column).rtakeWhile isIdentifierChar ++ wordStart (l.drop column) := by
  let x := (l.take column).rdropWhile isIdentifierChar
  let u := (l.take column).rtakeWhile isIdentifierChar
  let v := (l.drop column).takeWhile isIdentifierChar
  let y := (l.drop column).dropWhile isIdentifierChar
  have hfront : x ++ u = l.take column := List.rdropWhile_append_rtakeWhile
  have hback : v ++ y = l.drop column := List.takeWhile_append_dropWhile
  have hl : l = x ++ (u ++ v) ++ y := by
    calc l = l.take column ++ l.drop column := (List.take_append_drop column l).symm
      _ = (x ++ u) ++ (v ++ y) := by rw [hfront, hback]
      _ = x ++ (u ++ v) ++ y := by simp only [List.append_assoc]
  have hlength : (x ++ u).length = column := by rw [hfront, List.length_take_of_le hcolumn]
  have hword : ∀ c ∈ u ++ v, isIdentifierChar c = true := by
    intro c hc
    rcases List.mem_append.1 hc with hu | hv
    · exact List.mem_rtakeWhile_imp hu
    · exact List.mem_takeWhile_imp hv
  have hx : ∀ c, x.getLast? = some c → isIdentifierChar c = false := by
    intro c hc
    obtain ⟨hne, rfl⟩ := List.mem_getLast?_eq_getLast hc
    exact Bool.eq_false_iff.2 (List.rdropWhile_last_not _ _ hne)
  have hy : ∀ c, y.head? = some c → isIdentifierChar c = false := by
    intro c hc
    have hhead := List.head?_dropWhile_not isIdentifierChar (l.drop column)
    rw [show ((l.drop column).dropWhile isIdentifierChar).head? = some c from hc] at hhead
    exact hhead
  have hwhole := isWholeWord_of_parts hl hword hx hy
  rw [hlength] at hwhole
  refine ⟨_, _, hwhole, ?_⟩
  nth_rewrite 1 [hl]
  rw [List.take_left, List.drop_left]
  rfl

/-! ### The word of a document -/

variable {m : Machine} {d : Document} {source : List Char} {position : Json} {line : Nat}

theorem wordAt_behind (hd : d.chars m = .ok source)
    (hline : position.field "line" = .ok (.int line)) (h : (splitLines source).length ≤ line) :
    d.wordAt m position = .ok "" := by
  have hbehind : (decide (((splitLines source).length : Int) < line) ||
      (line : Int) == (splitLines source).length) = true := by
    rw [Bool.or_eq_true, decide_eq_true_eq, beq_iff_eq]
    omega
  simp only [wordAt, hline, lines, hd, Json.gtInt_int, Json.eqInt_int, hbehind, if_true, bind,
    Except.bind, pure, Except.pure]

theorem wordAt_of_line (hd : d.chars m = .ok source)
    (hline : position.field "line" = .ok (.int line)) (hl : (splitLines source)[line]? = some l)
    (hposition : position.field "character" = .ok (.int column)) :
    d.wordAt m position =
      .ok (String.ofList (wordEnd (l.take column) ++ wordStart (l.drop column))) := by
  have hlt : line < (splitLines source).length := (List.getElem?_eq_some_iff.1 hl).1
  have hthere : (decide (((splitLines source).length : Int) < line) ||
      (line : Int) == (splitLines source).length) = false := by
    rw [Bool.or_eq_false_iff, decide_eq_false_iff_not, beq_eq_false_iff_ne]
    omega
  have hat : lineAt (splitLines source) (.int line) = .ok l := by
    simp only [lineAt, Json.toInt?, item?_natCast, hl]
  simp only [wordAt, hline, lines, hd, Json.gtInt_int, Json.eqInt_int, hthere, hat, hposition,
    Json.takeBefore_int, Json.dropBefore_int, takeTo_natCast, dropTo_natCast, Bool.false_eq_true,
    if_false, bind, Except.bind, pure, Except.pure]

/-- At a position in a line the word is the longest stretch of word characters that holds the column
or ends at it; behind the last line there is none. -/
theorem wordAt_is_whole_word (hd : d.chars m = .ok source)
    (hline : position.field "line" = .ok (.int line))
    (hposition : ∀ l, (splitLines source)[line]? = some l →
      position.field "character" = .ok (.int column) ∧ column ≤ (chomp l).length) :
    ((splitLines source).length ≤ line → d.wordAt m position = .ok "") ∧
    ∀ l, (splitLines source)[line]? = some l → ∃ a b,
      IsWholeWord l column a b ∧
      (∀ a' b', IsWordAround l column a' b' → a ≤ a' ∧ b' ≤ b) ∧
      d.wordAt m position = .ok (String.ofList ((l.take b).drop a)) := by
  refine ⟨wordAt_behind hd hline, fun l hl => ?_⟩
  obtain ⟨hcharacter, hcolumn⟩ := hposition l hl
  have hle : column ≤ l.length :=
    Nat.le_trans hcolumn (List.takeWhile_prefix _).length_le
  obtain ⟨a, b, hwhole, hcut⟩ := isWholeWord_halves hle
  refine ⟨a, b, hwhole, fun _ _ => hwhole.holds, ?_⟩
  have hfront : ∀ c ∈ l.take column, c ≠ '\n' := fun _ => ne_newline_of_mem_take hcolumn
  rw [wordAt_of_line hd hline hl hcharacter, wordEnd_eq_rtakeWhile hfront, hcut]

/-- The column is right behind a word, at the end of a line that has a break of two characters. -/
theorem wordAt_is_whole_word_at_end :
    let d : Document := ⟨.str "file:///w/a.py", .int 1, "/w/a.py", "a.py", .str "x\r\n(foo_1\r\ny"⟩
    let position : Json := .obj [("line", .int 1), ("character", .int 6)]
    d.wordAt {} position = .ok "foo_1" ∧
    ∃ a b, IsWholeWord "(foo_1\r\n".toList 6 a b ∧
      (∀ a' b', IsWordAround "(foo_1\r\n".toList 6 a' b' → a ≤ a' ∧ b' ≤ b) ∧
      d.wordAt {} position = .ok (String.ofList (("(foo_1\r\n".toList.take b).drop a)) := by
  intro d position
  refine ⟨rfl, ?_⟩
  have hline : position.field "line" = .ok (.int (1 : Nat)) := rfl
  have hposition : ∀ l, (splitLines "x\r\n(foo_1\r\ny".toList)[1]? = some l →
      position.field "character" = .ok (.int (6 : Nat)) ∧ 6 ≤ (chomp l).length := by
    intro l hl
    obtain rfl := Option.some.inj hl
    exact ⟨rfl, by decide⟩
  exact (wordAt_is_whole_word (d := d) (m := {}) rfl hline hposition).2 _ rfl

end Document

end LangServer
