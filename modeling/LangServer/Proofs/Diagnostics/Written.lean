import LangServer.Proofs.Diagnostics.Grammar
import Mathlib.Data.PNat.Notation

/-!
# Lines that report a finding

An entry is what the checker has to say in one line: a path, where in the file, a word for the
severity and a message.  It is written with its numbers in decimal digits, and so its line has the
form of a finding.

Reading the line gives back the parts.  Their diagnostic follows, unless a number has more digits
than are read.

Main statements: `Entry.read?_text`, `Entry.ofLine_text`.
-/

namespace LangServer

/-! ### Entries -/

/-- Where in a file an entry is: numbers count from one. -/
inductive Spot where
  | whole
  | line (n : ℕ+)
  | column (n k : ℕ+)

/-- What the checker says in one line. -/
structure Entry where
  path : List Char
  spot : Spot
  severity : List Char
  message : List Char
  path_ne_nil : path ≠ []
  colon_not_mem : ':' ∉ path
  path_unbroken : ∀ c ∈ path, Text.isBreak c = false
  severity_ne_nil : severity ≠ []
  severity_isWord : ∀ c ∈ severity, Text.isWordChar c = true
  message_unbroken : ∀ c ∈ message, Text.isBreak c = false

namespace Spot

def lineNumber? : Spot → Option ℕ+
  | whole => none
  | line n => some n
  | column n _ => some n

def columnNumber? : Spot → Option ℕ+
  | column _ k => some k
  | _ => none

def decimal (n : ℕ+) : List Char :=
  Nat.toDigits 10 n

/-- A colon and the digits of a number, if there is one. -/
def numberText (n : Option ℕ+) : List Char :=
  n.elim [] fun n => ':' :: decimal n

def text (p : Spot) : List Char :=
  numberText p.lineNumber? ++ numberText p.columnNumber?

/-- A number as diagnostics count, from zero; zero stands for one that is missing. -/
def index (n : Option ℕ+) : Int :=
  n.elim 0 fun n => (n : Int) - 1

/-- The numbers have no more digits than are read. -/
def Fits (p : Spot) : Prop :=
  ∀ n, p.lineNumber? = some n ∨ p.columnNumber? = some n → (decimal n).length ≤ Text.maxDigits

end Spot

namespace Entry

def text (e : Entry) : List Char :=
  e.path ++ e.spot.text ++ ": ".toList ++ e.severity ++ ": ".toList ++ e.message

/-- The parts of the line. -/
def finding (e : Entry) : Finding where
  path := e.path
  line := e.spot.lineNumber?.map Spot.decimal
  column := e.spot.columnNumber?.map Spot.decimal
  severity := e.severity
  message := e.message

def diagnostic (e : Entry) : Diagnostic where
  line := Spot.index e.spot.lineNumber?
  character := Spot.index e.spot.columnNumber?
  message := String.ofList e.message
  severity := if e.severity = "error".toList then .error else .information

end Entry

/-! ### Decimal digits -/

namespace Spot

theorem digitValue?_of_isDigit {c : Char} (h : c.isDigit = true) :
    Text.digitValue? c = some (c.toNat - 0x30) := by
  simp only [Char.isDigit, Bool.and_eq_true, decide_eq_true_eq, ge_iff_le,
    UInt32.le_iff_toNat_le] at h
  have hlo : 0x30 ≤ c.toNat := h.1
  have hhi : c.toNat < 0x30 + 10 := Nat.lt_succ_of_le h.2
  have hzero : (Text.zeros.find? fun z => z ≤ c.toNat && c.toNat < z + 10) = some 0x30 :=
    List.find?_cons_of_pos (by simp [hlo, hhi])
  rw [Text.digitValue?, hzero]
  rfl

theorem isDigit_of_mem_decimal {n : ℕ+} {c : Char} (h : c ∈ decimal n) : c.isDigit = true :=
  Nat.isDigit_of_mem_toDigits (by decide) (by decide) h

theorem isDigit_decimal (n : ℕ+) : ∀ c ∈ decimal n, Text.isDigit c = true := by
  intro c hc
  rw [Text.isDigit, digitValue?_of_isDigit (isDigit_of_mem_decimal hc)]
  rfl

theorem decimal_ne_nil (n : ℕ+) : decimal n ≠ [] :=
  Nat.toDigits_ne_nil

theorem foldl_digitValue? {cs : List Char} (h : ∀ c ∈ cs, c.isDigit = true) (start : Nat) :
    cs.foldl (fun n c => 10 * n + (Text.digitValue? c).getD 0) start =
      Nat.ofDigitChars 10 cs start := by
  induction cs generalizing start with
  | nil => rfl
  | cons c cs ih =>
    have hc := digitValue?_of_isDigit (h c List.mem_cons_self)
    have hcs : ∀ d ∈ cs, d.isDigit = true := fun d hd => h d (List.mem_cons_of_mem _ hd)
    rw [List.foldl_cons, ih hcs, hc]
    rfl

theorem numeralValue_decimal (n : ℕ+) : Text.numeralValue (decimal n) = n := by
  have hdigits : ∀ c ∈ decimal n, c.isDigit = true := fun c hc => isDigit_of_mem_decimal hc
  rw [Text.numeralValue, foldl_digitValue? hdigits]
  exact Nat.ofDigitChars_toDigits (by decide) (by decide)

theorem placeValue_decimal (n : ℕ+) : Text.placeValue (decimal n) = n := by
  rw [← Text.numeralValue_eq_placeValue, numeralValue_decimal]

theorem isNumeral_decimal (n : ℕ+) : Finding.IsNumeral (decimal n) :=
  ⟨decimal_ne_nil n, isDigit_decimal n⟩

theorem index_map_decimal (n : Option ℕ+) : Finding.index (n.map decimal) = index n := by
  cases n with
  | none => rfl
  | some n => simp [Finding.index, index, placeValue_decimal]

end Spot

/-! ### Reading an entry -/

namespace Entry

theorem isWellFormed_finding (e : Entry) : e.finding.IsWellFormed where
  path_ne_nil := e.path_ne_nil
  colon_not_mem := e.colon_not_mem
  isNumeral_line := by
    intro ds hds
    obtain ⟨n, -, rfl⟩ := Option.map_eq_some_iff.1 hds
    exact Spot.isNumeral_decimal n
  isNumeral_column := by
    intro ds hds
    obtain ⟨n, -, rfl⟩ := Option.map_eq_some_iff.1 hds
    exact Spot.isNumeral_decimal n
  line_of_column := by
    intro hline
    rw [finding] at hline ⊢
    cases h : e.spot with
    | column n k => simp [h, Spot.lineNumber?] at hline
    | _ => rfl
  severity_ne_nil := e.severity_ne_nil
  severity_isWord := e.severity_isWord

theorem text_finding (e : Entry) : e.finding.text = e.text := by
  rw [text, Finding.text_eq, finding]
  cases e.spot <;> simp [Finding.numberText, Spot.text, Spot.numberText, Spot.lineNumber?,
    Spot.columnNumber?]

theorem text_eq (e : Entry) :
    e.text = e.path ++ (e.spot.text ++ ':' :: ' ' :: (e.severity ++ ':' :: ' ' :: e.message)) := by
  simp [text]

theorem newline_not_mem_message (e : Entry) : '\n' ∉ e.message := by
  intro h
  cases e.message_unbroken _ h

theorem read?_text (e : Entry) : Finding.read? e.text = some e.finding := by
  rw [← text_finding]
  exact Finding.read?_text e.isWellFormed_finding e.newline_not_mem_message

theorem fits_finding_iff {e : Entry} : e.finding.Fits ↔ e.spot.Fits := by
  constructor
  · rintro ⟨hline, hcolumn⟩ n (hn | hn)
    · exact hline _ (by simp [finding, hn])
    · exact hcolumn _ (by simp [finding, hn])
  · intro h
    constructor
    · intro ds hds
      obtain ⟨n, hn, rfl⟩ := Option.map_eq_some_iff.1 hds
      exact h n (.inl hn)
    · intro ds hds
      obtain ⟨n, hn, rfl⟩ := Option.map_eq_some_iff.1 hds
      exact h n (.inr hn)

theorem diagnostic_finding (e : Entry) : e.finding.diagnostic = e.diagnostic := by
  have hline : Finding.index e.finding.line = Spot.index e.spot.lineNumber? :=
    Spot.index_map_decimal _
  have hcolumn : Finding.index e.finding.column = Spot.index e.spot.columnNumber? :=
    Spot.index_map_decimal _
  rw [Finding.diagnostic, hline, hcolumn]
  rfl

theorem ofFinding_finding {e : Entry} (h : e.spot.Fits) :
    Diagnostic.ofFinding e.finding = .ok e.diagnostic := by
  rw [Finding.ofFinding_of_fits (fits_finding_iff.2 h), diagnostic_finding]

theorem exists_ofFinding_finding_error {e : Entry} (h : ¬ e.spot.Fits) :
    ∃ f, Diagnostic.ofFinding e.finding = .error f := by
  obtain ⟨reason, hreason⟩ := Finding.ofFinding_of_not_fits (mt fits_finding_iff.1 h)
  exact ⟨_, hreason⟩

theorem ofLine_text (e : Entry) :
    Diagnostic.ofLine e.text =
      (Diagnostic.ofFinding e.finding).map fun d => some (String.ofList e.path, d) := by
  rw [Diagnostic.ofLine, read?_text]
  rfl

/-! ### No break in an entry -/

theorem isBreak_of_isWordChar {c : Char} (h : Text.isWordChar c = true) :
    Text.isBreak c = false := by
  by_contra hbreak
  simp only [Bool.not_eq_false, Text.isBreak, Bool.or_eq_true, beq_iff_eq] at hbreak
  rcases hbreak with ((((((((rfl | rfl) | rfl) | rfl) | rfl) | rfl) | rfl) | rfl) | rfl) | rfl
  all_goals
    revert h
    decide +kernel

theorem isBreak_of_isDigit {c : Char} (h : c.isDigit = true) : Text.isBreak c = false :=
  isBreak_of_isWordChar (Text.isWordChar_of_isIdentifierChar (by
    simp [Text.isIdentifierChar, Char.isAlphanum, h]))

theorem isBreak_of_mem_spot {p : Spot} {c : Char} (h : c ∈ p.text) : Text.isBreak c = false := by
  have hnumber : ∀ n : Option ℕ+, c ∈ Spot.numberText n → Text.isBreak c = false := by
    intro n hn
    cases n with
    | none => cases hn
    | some n =>
      rcases List.mem_cons.1 hn with rfl | hn
      · decide
      · exact isBreak_of_isDigit (Spot.isDigit_of_mem_decimal hn)
  rcases List.mem_append.1 h with h | h
  · exact hnumber _ h
  · exact hnumber _ h

theorem text_unbroken (e : Entry) : ∀ c ∈ e.text, Text.isBreak c = false := by
  intro c hc
  simp only [text_eq, List.mem_append, List.mem_cons] at hc
  rcases hc with hc | hc | rfl | rfl | hc | rfl | rfl | hc
  · exact e.path_unbroken c hc
  · exact isBreak_of_mem_spot hc
  · decide
  · decide
  · exact isBreak_of_isWordChar (e.severity_isWord c hc)
  · decide
  · decide
  · exact e.message_unbroken c hc

end Entry

end LangServer
