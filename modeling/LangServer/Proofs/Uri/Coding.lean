import LangServer.Uri.Percent

/-!
# Decoding undoes coding

A character is written as octets of UTF-8, and an octet as an escape.  Read from between two
characters, the octets of a character give back the character and lead to between two characters
again; so the characters of a text are read one after the other, each whether or not it is escaped.

Main statement: `Percent.decode_encode`.
-/

namespace LangServer.Text.Utf8

/-! ### Octets of a character -/

theorem toNat_lt (c : Char) : c.toNat < 0x110000 := by
  have hvalid := c.valid
  simp only [UInt32.isValidChar, Nat.isValidChar] at hvalid
  simp only [Char.toNat]
  omega

theorem not_surrogate (c : Char) : ¬ (0xD800 ≤ c.toNat ∧ c.toNat < 0xE000) := by
  have hvalid := c.valid
  simp only [UInt32.isValidChar, Nat.isValidChar] at hvalid
  simp only [Char.toNat]
  omega

/-- The pieces that end within some octets, and the state behind them. -/
def steps : State → List Nat → List (Option Char) × State
  | st, [] => ([], st)
  | st, b :: bs => ((step st b).1 ++ (steps (step st b).2 bs).1, (steps (step st b).2 bs).2)

theorem step_more (owed lo hi value d : Nat) (howed : 1 < owed) (hlo : lo ≤ 0x80 + d)
    (hhi : 0x80 + d ≤ hi) :
    step (.within owed lo hi value) (0x80 + d) =
      ([], .within (owed - 1) 0x80 0xBF (value * 64 + d)) := by
  have hmore : ¬ owed ≤ 1 := by omega
  simp [step, hlo, hhi, hmore]

theorem step_last (lo hi value d : Nat) (hlo : lo ≤ 0x80 + d) (hhi : 0x80 + d ≤ hi) :
    step (.within 1 lo hi value) (0x80 + d) =
      ([some (Char.ofNat (value * 64 + d))], .between) := by
  simp [step, hlo, hhi]

theorem first_two {n : Nat} (hlo : 0x80 ≤ n) (hhi : n < 0x800) :
    first (0xC0 + n / 64) = ([], .within 1 0x80 0xBF (n / 64)) := by
  have hascii : ¬ 0xC0 + n / 64 < 0x80 := by omega
  have hlead : 0xC2 ≤ 0xC0 + n / 64 ∧ 0xC0 + n / 64 ≤ 0xDF := by omega
  have hvalue : 0xC0 + n / 64 - 0xC0 = n / 64 := by omega
  simp only [first, if_neg hascii, lead?, if_pos hlead, hvalue]

/-- The bounds of the second octet keep out what has a shorter form and what is no character. -/
theorem first_three {n : Nat} (hlo : 0x800 ≤ n) (hhi : n < 0x10000)
    (hchar : ¬ (0xD800 ≤ n ∧ n < 0xE000)) :
    ∃ lo hi, first (0xE0 + n / 4096) = ([], .within 2 lo hi (n / 4096)) ∧
      lo ≤ 0x80 + n / 64 % 64 ∧ 0x80 + n / 64 % 64 ≤ hi := by
  have hascii : ¬ 0xE0 + n / 4096 < 0x80 := by omega
  have htwo : ¬ (0xC2 ≤ 0xE0 + n / 4096 ∧ 0xE0 + n / 4096 ≤ 0xDF) := by omega
  simp only [first, if_neg hascii, lead?, if_neg htwo]
  by_cases hleast : n / 4096 = 0
  · refine ⟨0xA0, 0xBF, ?_, by omega, by omega⟩
    simp only [hleast, Nat.add_zero, if_true]
  · by_cases hsurrogate : n / 4096 = 13
    · refine ⟨0x80, 0x9F, ?_, by omega, by omega⟩
      simp [hsurrogate]
    · refine ⟨0x80, 0xBF, ?_, by omega, by omega⟩
      have hlead : 0xE1 ≤ 0xE0 + n / 4096 ∧ 0xE0 + n / 4096 ≤ 0xEF := by omega
      have hvalue : 0xE0 + n / 4096 - 0xE0 = n / 4096 := by omega
      rw [if_neg (by omega), if_neg (by omega), if_pos hlead, hvalue]

theorem first_four {n : Nat} (hlo : 0x10000 ≤ n) (hhi : n < 0x110000) :
    ∃ lo hi, first (0xF0 + n / 262144) = ([], .within 3 lo hi (n / 262144)) ∧
      lo ≤ 0x80 + n / 4096 % 64 ∧ 0x80 + n / 4096 % 64 ≤ hi := by
  have hascii : ¬ 0xF0 + n / 262144 < 0x80 := by omega
  have htwo : ¬ (0xC2 ≤ 0xF0 + n / 262144 ∧ 0xF0 + n / 262144 ≤ 0xDF) := by omega
  have hthree : ¬ (0xE1 ≤ 0xF0 + n / 262144 ∧ 0xF0 + n / 262144 ≤ 0xEF) := by omega
  have hleastThree : ¬ 0xF0 + n / 262144 = 0xE0 := by omega
  have hsurrogate : ¬ 0xF0 + n / 262144 = 0xED := by omega
  simp only [first, if_neg hascii, lead?, if_neg htwo, if_neg hthree, if_neg hleastThree,
    if_neg hsurrogate]
  by_cases hleast : n / 262144 = 0
  · refine ⟨0x90, 0xBF, ?_, by omega, by omega⟩
    simp only [hleast, Nat.add_zero, if_true]
  · by_cases hgreatest : n / 262144 = 4
    · refine ⟨0x80, 0x8F, ?_, by omega, by omega⟩
      simp [hgreatest]
    · refine ⟨0x80, 0xBF, ?_, by omega, by omega⟩
      have hlead : 0xF1 ≤ 0xF0 + n / 262144 ∧ 0xF0 + n / 262144 ≤ 0xF3 := by omega
      have hvalue : 0xF0 + n / 262144 - 0xF0 = n / 262144 := by omega
      rw [if_neg (by omega), if_pos hlead, hvalue]

theorem steps_encodeChar (c : Char) : steps .between (encodeChar c) = ([some c], .between) := by
  have hmax := toNat_lt c
  have hchar := not_surrogate c
  have hback := Char.ofNat_toNat c
  unfold encodeChar
  generalize c.toNat = n at hmax hchar hback ⊢
  by_cases h1 : n < 0x80
  · simp [h1, steps, step, first, hback]
  by_cases h2 : n < 0x800
  · have hlead := first_two (by omega) h2
    have hlast := step_last 0x80 0xBF (n / 64) (n % 64) (by omega) (by omega)
    have hvalue : n / 64 * 64 + n % 64 = n := by omega
    simp only [if_neg h1, if_pos h2, steps, step.eq_1, hlead, hlast, hvalue, hback]
    rfl
  by_cases h3 : n < 0x10000
  · obtain ⟨lo, hi, hlead, hlo, hhi⟩ := first_three (by omega) h3 hchar
    have hnext := step_more 2 lo hi (n / 4096) (n / 64 % 64) (by omega) hlo hhi
    have hlast := step_last 0x80 0xBF (n / 4096 * 64 + n / 64 % 64) (n % 64) (by omega) (by omega)
    have hvalue : (n / 4096 * 64 + n / 64 % 64) * 64 + n % 64 = n := by omega
    simp only [if_neg h1, if_neg h2, if_pos h3, steps, step.eq_1, hlead, hnext, hlast, hvalue,
      hback]
    rfl
  · obtain ⟨lo, hi, hlead, hlo, hhi⟩ := first_four (by omega) hmax
    have hnext := step_more 3 lo hi (n / 262144) (n / 4096 % 64) (by omega) hlo hhi
    have hthird := step_more 2 0x80 0xBF (n / 262144 * 64 + n / 4096 % 64) (n / 64 % 64)
      (by omega) (by omega) (by omega)
    have hlast := step_last 0x80 0xBF ((n / 262144 * 64 + n / 4096 % 64) * 64 + n / 64 % 64)
      (n % 64) (by omega) (by omega)
    have hvalue : ((n / 262144 * 64 + n / 4096 % 64) * 64 + n / 64 % 64) * 64 + n % 64 = n := by
      omega
    simp only [if_neg h1, if_neg h2, if_neg h3, steps, step.eq_1, hlead, hnext, hthird, hlast,
      hvalue, hback]
    rfl

theorem lt_of_mem_encodeChar {c : Char} {b : Nat} (h : b ∈ encodeChar c) : b < 256 := by
  have hmax := toNat_lt c
  unfold encodeChar at h
  simp only at h
  split at h
  · simp only [List.mem_singleton] at h
    omega
  split at h
  · simp only [List.mem_cons, List.not_mem_nil, or_false] at h
    omega
  split at h
  · simp only [List.mem_cons, List.not_mem_nil, or_false] at h
    omega
  · simp only [List.mem_cons, List.not_mem_nil, or_false] at h
    omega

theorem encodeChar_of_lt {c : Char} (h : c.toNat < 0x80) : encodeChar c = [c.toNat] := by
  simp only [encodeChar, if_pos h]

end LangServer.Text.Utf8

namespace LangServer.Uri.Percent

open LangServer.Text

/-! ### Escapes -/

theorem hexValue?_hexDigit {n : Nat} (h : n < 16) : hexValue? (hexDigit n) = some n := by
  have hall : ∀ n < 16, hexValue? (hexDigit n) = some n := by decide
  exact hall n h

theorem octet?_hexDigit {b : Nat} (h : b < 256) :
    octet? (hexDigit (b / 16)) (hexDigit (b % 16)) = some b := by
  have hhigh : b / 16 < 16 := by omega
  have hlow : b % 16 < 16 := by omega
  have hvalue : 16 * (b / 16) + b % 16 = b := by omega
  simp only [octet?, hexValue?_hexDigit hhigh, hexValue?_hexDigit hlow, hvalue]

theorem parts_escape {b : Nat} (h : b < 256) (rest : List Char) :
    parts (escape b ++ rest) = .octet b :: parts rest := by
  simp only [escape, List.cons_append, List.nil_append, parts, octet?_hexDigit h]

theorem parts_flatMap_escape {bs : List Nat} (h : ∀ b ∈ bs, b < 256) (rest : List Char) :
    parts (bs.flatMap escape ++ rest) = bs.map .octet ++ parts rest := by
  induction bs with
  | nil => rfl
  | cons b bs ih =>
    have hb := h b List.mem_cons_self
    have hbs := ih fun x hx => h x (List.mem_cons_of_mem _ hx)
    rw [List.flatMap_cons, List.append_assoc, parts_escape hb, hbs]
    rfl

theorem parts_cons_of_ne {c : Char} (h : c ≠ '%') (rest : List Char) :
    parts (c :: rest) = plainPart c :: parts rest := by
  rw [parts]
  intro _ _ _ heq
  exact absurd heq h

/-! ### Coded characters -/

theorem isAlphanum_lt {c : Char} (h : c.isAlphanum = true) : c.toNat < 0x80 := by
  have hz : c.val ≤ 'z'.val := by
    have hkind : ((c.isUpper || c.isLower) || c.isDigit) = true := h
    rw [Bool.or_eq_true, Bool.or_eq_true] at hkind
    rcases hkind with (hupper | hlower) | hdigit
    · exact UInt32.le_trans (of_decide_eq_true hupper).2 (by decide)
    · exact of_decide_eq_true (Bool.and_eq_true_iff.mp hlower).2
    · exact UInt32.le_trans (of_decide_eq_true (Bool.and_eq_true_iff.mp hdigit).2) (by decide)
  exact Nat.lt_of_le_of_lt (UInt32.le_iff_toNat_le.1 hz) (by decide)

theorem isPlain_lt {c : Char} (h : isPlain c = true) : c.toNat < 0x80 := by
  simp only [isPlain, Bool.or_eq_true, beq_iff_eq] at h
  rcases h with ((((h | rfl) | rfl) | rfl) | rfl) | rfl
  · exact isAlphanum_lt h
  all_goals decide

theorem parts_cons_of_lt {c : Char} (hne : c ≠ '%') (hlt : c.toNat < 0x80) (rest : List Char) :
    parts (c :: rest) = (Utf8.encodeChar c).map .octet ++ parts rest := by
  rw [parts_cons_of_ne hne, plainPart, if_pos hlt, Utf8.encodeChar_of_lt hlt]
  rfl

theorem parts_encodeChar (c : Char) (rest : List Char) :
    parts (encodeChar c ++ rest) = (Utf8.encodeChar c).map .octet ++ parts rest := by
  unfold encodeChar
  split
  · next hplain =>
    have hne : c ≠ '%' := by
      rintro rfl
      cases hplain
    exact parts_cons_of_lt hne (isPlain_lt hplain) rest
  · exact parts_flatMap_escape (fun b hb => Utf8.lt_of_mem_encodeChar hb) rest

theorem assemble_octets (st : Utf8.State) (bs : List Nat) (rest : List Part) :
    assemble st (bs.map .octet ++ rest) =
      (Utf8.steps st bs).1 ++ assemble (Utf8.steps st bs).2 rest := by
  induction bs generalizing st with
  | nil => rfl
  | cons b bs ih =>
    simp only [List.map_cons, List.cons_append, assemble, ih, Utf8.steps, List.append_assoc]

/-! ### Whole texts -/

theorem decode_of_parts {c : Char} {cs rest : List Char}
    (h : parts cs = (Utf8.encodeChar c).map .octet ++ parts rest) :
    decode cs = c :: decode rest := by
  rw [decode, h, assemble_octets, Utf8.steps_encodeChar]
  rfl

/-- An ASCII character that begins no escape is read as itself. -/
theorem decode_cons_of_lt {c : Char} (hne : c ≠ '%') (hlt : c.toNat < 0x80) (rest : List Char) :
    decode (c :: rest) = c :: decode rest :=
  decode_of_parts (parts_cons_of_lt hne hlt rest)

theorem decode_encode (cs : List Char) : decode (encode cs) = cs := by
  induction cs with
  | nil => rfl
  | cons c cs ih =>
    have hparts : parts (encode (c :: cs)) =
        (Utf8.encodeChar c).map .octet ++ parts (encode cs) := parts_encodeChar c (encode cs)
    rw [decode_of_parts hparts, ih]

end LangServer.Uri.Percent
