import LangServer.Document
import Mathlib.Data.List.Basic

/-!
# An edit is a splice

An edit goes through the lines of a text one by one.  For a range of natural numbers its effect is
that of a splice: the text before one offset, the new text, and the text from another offset on.
Columns beyond the end of a line stand for its end, and lines beyond the last for the end of the
text.

Main statement: `Document.edit_ofNat`.
-/

namespace LangServer

namespace Text

/-- The number of characters before a column of a line, in a text that is given by its lines. -/
def offsetIn : List (List Char) → Nat → Nat → Nat
  | [], _, _ => 0
  | l :: _, 0, column => min column l.length
  | l :: ls, n + 1, column => l.length + offsetIn ls n column

theorem offsetIn_zero_zero (ls : List (List Char)) : offsetIn ls 0 0 = 0 := by
  cases ls <;> simp [offsetIn]

theorem offsetIn_eq_length_flatten {ls : List (List Char)} {n : Nat} (h : ls.length ≤ n)
    (column : Nat) : offsetIn ls n column = ls.flatten.length := by
  induction ls generalizing n with
  | nil => rfl
  | cons l ls ih =>
    cases n with
    | zero => simp at h
    | succ n =>
      have hle : ls.length ≤ n := by simpa using h
      simp only [offsetIn, ih hle, List.flatten_cons, List.length_append]

theorem offsetIn_le_offsetIn_succ (ls : List (List Char)) (n column column' : Nat) :
    offsetIn ls n column ≤ offsetIn ls (n + 1) column' := by
  induction ls generalizing n with
  | nil => simp [offsetIn]
  | cons l ls ih =>
    cases n with
    | zero =>
      simp only [offsetIn]
      omega
    | succ n =>
      have h := ih n
      simp only [offsetIn]
      omega

theorem offsetIn_consLine_zero (c : Char) (ls : List (List Char)) (column : Nat) :
    offsetIn (consLine c ls) 0 (column + 1) = offsetIn ls 0 column + 1 := by
  cases ls with
  | nil => simp [consLine, offsetIn]
  | cons l ls =>
    simp only [consLine, offsetIn, List.length_cons]
    omega

theorem offsetIn_consLine_succ (c : Char) (ls : List (List Char)) (n column : Nat) :
    offsetIn (consLine c ls) (n + 1) column = offsetIn ls (n + 1) column + 1 := by
  cases ls with
  | nil => simp [consLine, offsetIn]
  | cons l ls =>
    simp only [consLine, offsetIn, List.length_cons]
    omega

theorem take_append_min (l r : List Char) (n : Nat) :
    (l ++ r).take (min n l.length) = l.take n := by
  rw [List.take_append_of_le_length (Nat.min_le_right ..), ← List.take_eq_take_min]

theorem drop_append_min (l r : List Char) (n : Nat) :
    (l ++ r).drop (min n l.length) = l.drop n ++ r := by
  rw [List.drop_append_of_le_length (Nat.min_le_right ..), ← List.drop_eq_drop_min]

end Text

namespace Document

open Text

/-- The range from one line and column to another. -/
def Range.ofNat (startLine startColumn endLine endColumn : Nat) : Range where
  startLine := .int startLine
  startColumn := .int startColumn
  endLine := .int endLine
  endColumn := .int endColumn

variable {sl el : Nat} (sc ec : Nat) (new : String)

/-! ### One line -/

theorem eqInt_natCast (m n : Nat) : (Json.int m).eqInt n = decide (m = n) := by
  rw [Json.eqInt_int, Bool.eq_iff_iff, beq_iff_eq, decide_eq_true_eq, Int.natCast_inj]

theorem editLine_outside {i : Nat} (h : i < sl ∨ el < i) (line : List Char) :
    editLine (Range.ofNat sl sc el ec) (.str new) i line = .ok line := by
  by_cases hs : i < sl
  · simp [editLine, Range.ofNat, Json.gtInt_int, hs, bind, Except.bind, pure, Except.pure]
  · have he : el < i := by omega
    simp [editLine, Range.ofNat, Json.gtInt_int, Json.ltInt_int, hs, he, bind, Except.bind, pure,
      Except.pure]

theorem editLine_inside {i : Nat} (hs : sl ≤ i) (he : i ≤ el) (line : List Char) :
    editLine (Range.ofNat sl sc el ec) (.str new) i line =
      .ok ((if sl = i then line.take sc ++ new.toList else []) ++
        if el = i then line.drop ec else []) := by
  have hs' : ¬ i < sl := by omega
  have he' : ¬ el < i := by omega
  by_cases hsi : sl = i <;> by_cases hei : el = i <;>
    simp [editLine, Range.ofNat, Json.gtInt_int, Json.ltInt_int, eqInt_natCast, hs', he', hsi,
      hei, Json.takeBefore_int, Json.dropBefore_int, Json.expectText, takeTo_natCast,
      dropTo_natCast, bind, Except.bind, pure, Except.pure]

/-! ### All lines -/

theorem editLines_cons {r : Range} {text : Json} {i : Nat} {line edited tail : List Char}
    {rest : List (List Char)} (hline : editLine r text i line = .ok edited)
    (hrest : editLines r text (i + 1) rest = .ok tail) :
    editLines r text i (line :: rest) = .ok (edited ++ tail) := by
  simp only [editLines, hline, hrest, bind, Except.bind, pure, Except.pure]

theorem editLines_behind {i : Nat} (h : el < i) (ls : List (List Char)) :
    editLines (Range.ofNat sl sc el ec) (.str new) i ls = .ok ls.flatten := by
  induction ls generalizing i with
  | nil => rfl
  | cons l ls ih => exact editLines_cons (editLine_outside sc ec new (.inr h) l) (ih (by omega))

theorem editLines_after_start {i n : Nat} (hs : sl < i) (he : el = i + n) (ls : List (List Char)) :
    editLines (Range.ofNat sl sc el ec) (.str new) i ls =
      .ok (ls.flatten.drop (offsetIn ls n ec)) := by
  induction ls generalizing i n with
  | nil => rfl
  | cons l ls ih =>
    have hline := editLine_inside sc ec new (Nat.le_of_lt hs) (show i ≤ el by omega) l
    have hsi : ¬ sl = i := by omega
    cases n with
    | zero =>
      -- The last line of the range keeps what stands behind the end.
      have hei : el = i := he
      rw [editLines_cons hline (editLines_behind sc ec new (by omega) ls)]
      simp only [hsi, hei, ↓reduceIte, List.nil_append, offsetIn, List.flatten_cons,
        drop_append_min]
    | succ n =>
      have hei : ¬ el = i := by omega
      rw [editLines_cons hline (ih (n := n) (by omega) (by omega))]
      simp only [hsi, hei, ↓reduceIte, List.nil_append, offsetIn, List.flatten_cons,
        List.drop_length_add_append]

theorem editLines_up_to_start {i a b : Nat} (hs : sl = i + a) (he : el = i + b) (hab : a ≤ b)
    {ls : List (List Char)} (hlen : a < ls.length) :
    editLines (Range.ofNat sl sc el ec) (.str new) i ls =
      .ok (ls.flatten.take (offsetIn ls a sc) ++ new.toList ++
        ls.flatten.drop (offsetIn ls b ec)) := by
  induction ls generalizing i a b with
  | nil => simp at hlen
  | cons l ls ih =>
    cases a with
    | zero =>
      have hline := editLine_inside sc ec new (show sl ≤ i by omega) (show i ≤ el by omega) l
      have hsi : sl = i := hs
      cases b with
      | zero =>
        have hei : el = i := he
        rw [editLines_cons hline (editLines_behind sc ec new (by omega) ls)]
        simp only [hsi, hei, ↓reduceIte, offsetIn, List.flatten_cons, take_append_min,
          drop_append_min, List.append_assoc]
      | succ b =>
        have hei : ¬ el = i := by omega
        rw [editLines_cons hline
          (editLines_after_start sc ec new (n := b) (by omega) (by omega) ls)]
        simp only [hsi, hei, ↓reduceIte, offsetIn, List.flatten_cons, take_append_min,
          List.drop_length_add_append, List.append_nil]
    | succ a =>
      obtain ⟨b, rfl⟩ : ∃ k, b = k + 1 := ⟨b - 1, by omega⟩
      have hlen' : a < ls.length := by simpa using hlen
      rw [editLines_cons (editLine_outside sc ec new (.inl (by omega)) l)
        (ih (a := a) (b := b) (by omega) (by omega) (by omega) hlen')]
      simp only [offsetIn, List.flatten_cons, List.take_length_add_append,
        List.drop_length_add_append, List.append_assoc]

/-! ### The whole text -/

/-- An edit of a range that begins no later than behind the last line is a splice. -/
theorem edit_ofNat {source : List Char} (hle : sl ≤ el)
    (hlen : sl ≤ (splitLines source).length) :
    edit (Range.ofNat sl sc el ec) (.str new) source =
      .ok (source.take (offsetIn (splitLines source) sl sc) ++ new.toList ++
        source.drop (offsetIn (splitLines source) el ec)) := by
  have hflat := flatten_splitLines source
  have heq : (Range.ofNat sl sc el ec).startLine.eqInt (splitLines source).length =
      decide (sl = (splitLines source).length) := eqInt_natCast _ _
  rw [edit, heq]
  by_cases hend : sl = (splitLines source).length
  · -- The range begins behind the last line: both offsets are the length of the text.
    have hs := offsetIn_eq_length_flatten (Nat.le_of_eq hend.symm) sc
    have he := offsetIn_eq_length_flatten (hend ▸ hle) ec
    rw [hflat] at hs he
    rw [hs, he, List.take_length, List.drop_length]
    simp [hend, Json.expectText, bind, Except.bind, pure, Except.pure]
  · have hlt : sl < (splitLines source).length := by omega
    have hrun := editLines_up_to_start sc ec new (i := 0) (Nat.zero_add sl).symm
      (Nat.zero_add el).symm hle hlt
    rw [hflat] at hrun
    simp only [hend, decide_false, Bool.false_eq_true, ↓reduceIte, hrun]

end Document

end LangServer
