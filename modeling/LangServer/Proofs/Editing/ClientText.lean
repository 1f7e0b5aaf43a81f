import LangServer.Proofs.Editing.Splice
import Mathlib.Data.List.Flatten

/-!
# The text as the client counts it

For a client only LF, CR LF and CR end a line, and behind the last of them one more line follows,
which may be empty.  A column is at most the length of its line without the end.

A document knows more line breaks than that.  Its offsets are compared here with the client's: they
are never greater, and they agree exactly if none of the other breaks stands before the character in
front of the position.

Main statement: `agrees_offsetIn`.
-/

namespace LangServer.ClientText

open Text

/-! ### Lines and positions -/

def isEnd (c : Char) : Bool :=
  c == '\n' || c == '\r'

/-- A break that ends no line for the client. -/
def isForeign (c : Char) : Bool :=
  isBreak c && !isEnd c

/-- The lines of a text, ends included; the last has none. -/
def lines : List Char → List (List Char)
  | [] => [[]]
  | '\r' :: '\n' :: rest => ['\r', '\n'] :: lines rest
  | c :: rest => if isEnd c then [c] :: lines rest else consLine c (lines rest)

def content (line : List Char) : List Char :=
  line.takeWhile fun c => !isEnd c

/-- A line has so many characters before its end. -/
def ValidAt (ls : List (List Char)) (n column : Nat) : Prop :=
  ∃ l ∈ ls[n]?, column ≤ (content l).length

/-- The number of characters before a line. -/
def lineStart (ls : List (List Char)) (n : Nat) : Nat :=
  (ls.take n).flatten.length

structure Position where
  line : Nat
  column : Nat
deriving DecidableEq, Repr

def Position.ValidIn (p : Position) (text : List Char) : Prop :=
  ValidAt (lines text) p.line p.column

def Position.Le (p q : Position) : Prop :=
  p.line < q.line ∨ p.line = q.line ∧ p.column ≤ q.column

/-- The number of characters before a position. -/
def offset (text : List Char) (p : Position) : Nat :=
  lineStart (lines text) p.line + p.column

/-- No foreign break stands before the character in front of an offset. -/
def Clear (text : List Char) (o : Nat) : Prop :=
  ∀ c ∈ text.take (o - 1), isForeign c = false

instance (p : Position) (text : List Char) : Decidable (p.ValidIn text) :=
  inferInstanceAs (Decidable (∃ l ∈ (lines text)[p.line]?, p.column ≤ (content l).length))

instance (p q : Position) : Decidable (p.Le q) :=
  inferInstanceAs (Decidable (p.line < q.line ∨ p.line = q.line ∧ p.column ≤ q.column))

instance (text : List Char) (o : Nat) : Decidable (Clear text o) :=
  decidable_of_iff ((text.take (o - 1)).all (fun c => !isForeign c) = true) (by simp [Clear])

theorem lines_ne_nil (text : List Char) : lines text ≠ [] := by
  fun_induction lines text with
  | case1 => simp
  | case2 rest ih => simp
  | case3 c rest _ h ih => simp
  | case4 c rest _ h ih => cases hl : lines rest <;> simp [consLine]

theorem flatten_lines (text : List Char) : (lines text).flatten = text := by
  fun_induction lines text with
  | case1 => rfl
  | case2 rest ih => simp [ih]
  | case3 c rest _ h ih => simp [ih]
  | case4 c rest _ h ih => rw [flatten_consLine, ih]

/-! ### Lines with one more in front, or one more character -/

theorem validAt_cons_succ (l : List Char) (ls : List (List Char)) (n k : Nat) :
    ValidAt (l :: ls) (n + 1) k ↔ ValidAt ls n k := by
  simp [ValidAt]

theorem eq_zero_of_validAt_cons {l : List Char} (hl : content l = []) {ls : List (List Char)}
    {k : Nat} (h : ValidAt (l :: ls) 0 k) : k = 0 := by
  simpa [ValidAt, hl] using h

theorem lineStart_cons_succ (l : List Char) (ls : List (List Char)) (n : Nat) :
    lineStart (l :: ls) (n + 1) = l.length + lineStart ls n := by
  simp [lineStart]

theorem lineStart_zero (ls : List (List Char)) : lineStart ls 0 = 0 := rfl

theorem ValidAt.of_le {ls : List (List Char)} {n j k : Nat} (h : ValidAt ls n k) (hjk : j ≤ k) :
    ValidAt ls n j := by
  obtain ⟨l, hl, hk⟩ := h
  exact ⟨l, hl, Nat.le_trans hjk hk⟩

section ConsLine

variable {c : Char} {ls : List (List Char)} (hls : ls ≠ [])

include hls

theorem validAt_consLine_succ (n k : Nat) :
    ValidAt (consLine c ls) (n + 1) k ↔ ValidAt ls (n + 1) k := by
  cases ls with
  | nil => exact absurd rfl hls
  | cons l ls => simp only [consLine, validAt_cons_succ]

theorem lineStart_consLine_succ (n : Nat) :
    lineStart (consLine c ls) (n + 1) = lineStart ls (n + 1) + 1 := by
  cases ls with
  | nil => exact absurd rfl hls
  | cons l ls =>
    simp only [consLine, lineStart_cons_succ, List.length_cons]
    omega

theorem validAt_consLine_zero (hc : isEnd c = false) {k : Nat}
    (h : ValidAt (consLine c ls) 0 (k + 1)) : ValidAt ls 0 k := by
  cases ls with
  | nil => exact absurd rfl hls
  | cons l ls => simpa [ValidAt, consLine, content, hc] using h

end ConsLine

/-! ### Foreign breaks before an offset -/

theorem clear_zero (text : List Char) : Clear text 0 := by
  simp [Clear]

theorem Clear.mono {text : List Char} {o o' : Nat} (h : Clear text o') (hle : o ≤ o') :
    Clear text o := by
  intro c hc
  have hsub : text.take (o - 1) <+: text.take (o' - 1) := List.take_prefix_take_left (by omega)
  exact h c (hsub.subset hc)

theorem clear_append_iff {w : List Char} (hw : ∀ c ∈ w, isForeign c = false) (rest : List Char)
    (o : Nat) : Clear (w ++ rest) (w.length + o) ↔ Clear rest o := by
  cases o with
  | zero =>
    refine iff_of_true ?_ (clear_zero rest)
    intro c hc
    rw [List.take_append_of_le_length (by omega)] at hc
    exact hw c (List.mem_of_mem_take hc)
  | succ o =>
    have ho : w.length + (o + 1) - 1 = w.length + o := by omega
    simp only [Clear, ho, List.take_length_add_append, List.mem_append, Nat.add_sub_cancel]
    constructor
    · exact fun h c hc => h c (.inr hc)
    · rintro h c (hc | hc)
      · exact hw c hc
      · exact h c hc

theorem not_clear_cons {c : Char} (hc : isForeign c = true) (rest : List Char) {o : Nat}
    (ho : 2 ≤ o) : ¬ Clear (c :: rest) o := by
  intro h
  have hmem : c ∈ (c :: rest).take (o - 1) := by
    obtain ⟨k, rfl⟩ : ∃ k, o = k + 2 := ⟨o - 2, by omega⟩
    simp
  rw [h c hmem] at hc
  cases hc

/-! ### The two ways of counting -/

theorem splitLines_cons_of_isEnd {c : Char} {rest : List Char}
    (hpair : ∀ r, c = '\r' → rest = '\n' :: r → False) (hc : isEnd c = true) :
    splitLines (c :: rest) = [c] :: splitLines rest := by
  have hbreak : isBreak c = true := by
    simp only [isEnd, Bool.or_eq_true] at hc
    simp only [isBreak, Bool.or_eq_true]
    tauto
  rw [splitLines_cons hpair, if_pos hbreak]

theorem splitLines_cons_of_isForeign {c : Char} {rest : List Char} (hc : isForeign c = true) :
    splitLines (c :: rest) = [c] :: splitLines rest := by
  simp only [isForeign, Bool.and_eq_true, Bool.not_eq_true'] at hc
  have hpair : ∀ r, c = '\r' → rest = '\n' :: r → False := by
    rintro r rfl -
    exact absurd hc.2 (by decide)
  rw [splitLines_cons hpair, if_pos hc.1]

theorem splitLines_cons_of_not {c : Char} {rest : List Char} (he : isEnd c = false)
    (hf : isForeign c = false) : splitLines (c :: rest) = consLine c (splitLines rest) := by
  have hbreak : ¬ isBreak c = true := by
    simpa [isForeign, he] using hf
  have hpair : ∀ r, c = '\r' → rest = '\n' :: r → False := by
    rintro r rfl -
    exact absurd he (by decide)
  rw [splitLines_cons hpair, if_neg hbreak]

/-- Every line of the client begins behind all columns of the line before it in the document. -/
theorem offsetIn_splitLines_lt {text : List Char} {n k : Nat} (h : ValidAt (lines text) (n + 1) k) :
    offsetIn (splitLines text) n k < lineStart (lines text) (n + 1) + k := by
  fun_induction lines text generalizing n k with
  | case1 => simp [ValidAt] at h
  | case2 rest ih =>
    rw [validAt_cons_succ] at h
    rw [splitLines_pair, lineStart_cons_succ]
    cases n with
    | zero => simp only [offsetIn, lineStart_zero, List.length_cons, List.length_nil]; omega
    | succ n =>
      have hrest := ih h
      simp only [offsetIn]
      omega
  | case3 c rest hpair hc ih =>
    rw [validAt_cons_succ] at h
    rw [splitLines_cons_of_isEnd hpair hc, lineStart_cons_succ]
    cases n with
    | zero => simp only [offsetIn, lineStart_zero, List.length_cons, List.length_nil]; omega
    | succ n =>
      have hrest := ih h
      simp only [offsetIn]
      omega
  | case4 c rest _ hc ih =>
    have hne := lines_ne_nil rest
    have hend : isEnd c = false := by simpa using hc
    rw [validAt_consLine_succ hne] at h
    rw [lineStart_consLine_succ hne]
    by_cases hf : isForeign c = true
    · rw [splitLines_cons_of_isForeign hf]
      cases n with
      | zero =>
        simp only [offsetIn, List.length_cons, List.length_nil]
        have hrest := ih h
        omega
      | succ n =>
        have hrest := ih h
        have hmono := offsetIn_le_offsetIn_succ (splitLines rest) n k k
        simp only [offsetIn, List.length_cons, List.length_nil]
        omega
    · have hf : isForeign c = false := by simpa using hf
      rw [splitLines_cons_of_not hend hf]
      cases n with
      | zero =>
        cases k with
        | zero =>
          rw [offsetIn_zero_zero]
          omega
        | succ k =>
          have hrest := ih (h.of_le (Nat.le_succ k))
          rw [offsetIn_consLine_zero]
          omega
      | succ n =>
        have hrest := ih h
        rw [offsetIn_consLine_succ]
        omega

/-- The document's offset is at most the client's, and the same exactly if no foreign break stands
before the character in front of it. -/
def Agrees (text : List Char) (o o' : Nat) : Prop :=
  o ≤ o' ∧ (o = o' ↔ Clear text o')

theorem agrees_zero (text : List Char) : Agrees text 0 0 :=
  ⟨Nat.le_refl 0, iff_of_true rfl (clear_zero text)⟩

theorem Agrees.append {rest : List Char} {o o' : Nat} (h : Agrees rest o o') {w : List Char}
    (hw : ∀ c ∈ w, isForeign c = false) :
    Agrees (w ++ rest) (w.length + o) (w.length + o') := by
  obtain ⟨hle, hiff⟩ := h
  refine ⟨by omega, ?_⟩
  rw [clear_append_iff hw, ← hiff]
  omega

/-- A line that ends for both, in front of lines that are counted alike. -/
theorem agrees_cons {w rest : List Char} {ds ls : List (List Char)} (hcontent : content w = [])
    (hw : ∀ c ∈ w, isForeign c = false)
    (ih : ∀ n k, ValidAt ls n k → Agrees rest (offsetIn ds n k) (lineStart ls n + k)) {n k : Nat}
    (h : ValidAt (w :: ls) n k) :
    Agrees (w ++ rest) (offsetIn (w :: ds) n k) (lineStart (w :: ls) n + k) := by
  cases n with
  | zero =>
    obtain rfl := eq_zero_of_validAt_cons hcontent h
    rw [offsetIn_zero_zero, lineStart_zero]
    exact agrees_zero _
  | succ n =>
    rw [validAt_cons_succ] at h
    rw [lineStart_cons_succ, offsetIn, Nat.add_assoc]
    exact (ih n k h).append hw

theorem agrees_offsetIn {text : List Char} {n k : Nat} (h : ValidAt (lines text) n k) :
    Agrees text (offsetIn (splitLines text) n k) (lineStart (lines text) n + k) := by
  fun_induction lines text generalizing n k with
  | case1 =>
    cases n with
    | zero =>
      obtain rfl := eq_zero_of_validAt_cons rfl h
      exact agrees_zero []
    | succ n => simp [ValidAt] at h
  | case2 rest ih =>
    have hforeign : ∀ x ∈ ['\r', '\n'], isForeign x = false := by simp [isForeign, isEnd]
    rw [splitLines_pair]
    exact agrees_cons (by decide) hforeign (fun _ _ => ih) h
  | case3 c rest hpair hc ih =>
    have hforeign : ∀ x ∈ [c], isForeign x = false := by simp [isForeign, hc]
    rw [splitLines_cons_of_isEnd hpair hc]
    exact agrees_cons (by simp [content, hc]) hforeign (fun _ _ => ih) h
  | case4 c rest _ hc ih =>
    have hne := lines_ne_nil rest
    have hend : isEnd c = false := by simpa using hc
    by_cases hf : isForeign c = true
    · -- The document ends its line here, so from the second column on it falls behind.
      rw [splitLines_cons_of_isForeign hf]
      cases n with
      | zero =>
        simp only [offsetIn, lineStart_zero, List.length_cons, List.length_nil, Nat.zero_add]
        by_cases hk : k ≤ 1
        · have hclear : Clear (c :: rest) k := by
            have hzero : k - 1 = 0 := by omega
            simp [Clear, hzero]
          exact ⟨by omega, iff_of_true (by omega) hclear⟩
        · exact ⟨by omega, iff_of_false (by omega) (not_clear_cons hf rest (by omega))⟩
      | succ n =>
        rw [validAt_consLine_succ hne] at h
        have hlt := offsetIn_splitLines_lt h
        rw [lineStart_consLine_succ hne]
        simp only [offsetIn, List.length_cons, List.length_nil]
        exact ⟨by omega, iff_of_false (by omega) (not_clear_cons hf rest (by omega))⟩
    · have hf : isForeign c = false := by simpa using hf
      have hforeign : ∀ x ∈ [c], isForeign x = false := by simp [hf]
      rw [splitLines_cons_of_not hend hf]
      cases n with
      | zero =>
        cases k with
        | zero =>
          rw [offsetIn_zero_zero, lineStart_zero]
          exact agrees_zero _
        | succ k =>
          have hrest := (ih (validAt_consLine_zero hne hend h)).append hforeign
          rw [lineStart_zero] at hrest
          rw [offsetIn_consLine_zero, lineStart_zero]
          simpa [Nat.add_comm] using hrest
      | succ n =>
        rw [validAt_consLine_succ hne] at h
        have hrest := (ih h).append hforeign
        rw [offsetIn_consLine_succ, lineStart_consLine_succ hne]
        simpa [Nat.add_comm, Nat.add_left_comm] using hrest

/-! ### Bounds -/

theorem lineStart_mono (ls : List (List Char)) {n n' : Nat} (h : n ≤ n') :
    lineStart ls n ≤ lineStart ls n' := by
  induction ls generalizing n n' with
  | nil => simp [lineStart]
  | cons l ls ih =>
    cases n with
    | zero => simp [lineStart_zero]
    | succ n =>
      obtain ⟨k, rfl⟩ : ∃ k, n' = k + 1 := ⟨n' - 1, by omega⟩
      have hrest := ih (show n ≤ k by omega)
      simp only [lineStart_cons_succ]
      omega

theorem lineStart_add_le {ls : List (List Char)} {n k : Nat} (h : ValidAt ls n k) :
    lineStart ls n + k ≤ lineStart ls (n + 1) := by
  induction ls generalizing n with
  | nil => simp [ValidAt] at h
  | cons l ls ih =>
    cases n with
    | zero =>
      have hk : k ≤ (content l).length := by simpa [ValidAt] using h
      have hl : (content l).length ≤ l.length := (List.takeWhile_sublist _).length_le
      simp only [lineStart_cons_succ, lineStart_zero]
      omega
    | succ n =>
      rw [validAt_cons_succ] at h
      have hrest := ih h
      simp only [lineStart_cons_succ]
      omega

theorem offset_le_offset {text : List Char} {p q : Position} (hp : p.ValidIn text) (h : p.Le q) :
    offset text p ≤ offset text q := by
  have hnext := lineStart_add_le hp
  unfold offset
  rcases h with hline | ⟨hline, hcolumn⟩
  · have hmono := lineStart_mono (lines text) (show p.line + 1 ≤ q.line from hline)
    omega
  · rw [hline]
    omega

theorem offset_le_length {text : List Char} {p : Position} (hp : p.ValidIn text) :
    offset text p ≤ text.length := by
  have hnext := lineStart_add_le hp
  have hall : lineStart (lines text) (p.line + 1) ≤ text.length := by
    have hsub := (List.take_sublist (p.line + 1) (lines text)).flatten
    have hlen := hsub.length_le
    rwa [flatten_lines] at hlen
  exact Nat.le_trans hnext hall

theorem length_lines_le (text : List Char) :
    (lines text).length ≤ (splitLines text).length + 1 := by
  fun_induction lines text with
  | case1 => simp [splitLines_nil]
  | case2 rest ih => simpa [splitLines_pair] using ih
  | case3 c rest hpair hc ih =>
    rw [splitLines_cons_of_isEnd hpair hc]
    simpa using ih
  | case4 c rest _ hc ih =>
    have hend : isEnd c = false := by simpa using hc
    have hlength : ∀ ls : List (List Char), (consLine c ls).length = max 1 ls.length := by
      intro ls
      cases ls <;> simp [consLine]
    rw [hlength]
    by_cases hf : isForeign c = true
    · rw [splitLines_cons_of_isForeign hf, List.length_cons]
      omega
    · rw [splitLines_cons_of_not hend (by simpa using hf), hlength]
      omega

theorem line_le_length_splitLines {text : List Char} {p : Position} (hp : p.ValidIn text) :
    p.line ≤ (splitLines text).length := by
  obtain ⟨l, hl, -⟩ := hp
  obtain ⟨hlt, -⟩ := List.getElem?_eq_some_iff.1 hl
  have hle := length_lines_le text
  omega

end LangServer.ClientText
