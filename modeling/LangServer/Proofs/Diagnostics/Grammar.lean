import LangServer.Diagnostic
import Mathlib.Data.List.TakeWhile
import Mathlib.Data.Nat.Digits.Defs
import Mathlib.Tactic.ByContra

/-!
# The grammar of a finding

A line reports a finding if it has the form

    path ':' [line ':' [column ':']] ' ' severity ': ' message

with a path that is not empty and has no colon, numbers of one or more decimal digits and a severity
of one or more word characters.  A path may end in digits, digits are word characters, and a message
may hold anything, but the form can be read in one way only: the path ends at the first colon, a
number at the next one, and the severity at the first character that is not part of a word.

Such a line gives the diagnostic of its finding, unless a number has more digits than are read; any
other line gives none.

Main statements: `Finding.read?_eq_some_iff`, `Finding.ofLine_eq_of_grammar`.
-/

namespace LangServer

/-! ### The value of a numeral -/

namespace Text

/-- The number that some digits write: the last counts ones, the one before it tens. -/
def placeValue (ds : List Char) : Nat :=
  Nat.ofDigits 10 (ds.map fun c => (digitValue? c).getD 0).reverse

theorem numeralValue_eq_placeValue (ds : List Char) : numeralValue ds = placeValue ds := by
  rw [numeralValue, placeValue, Nat.ofDigits_eq_foldr, List.foldr_reverse, List.foldl_map]
  simp only [Nat.cast_id, Nat.add_comm]

end Text

namespace Finding

/-! ### Lines of the form -/

def IsNumeral (ds : List Char) : Prop :=
  ds ≠ [] ∧ ∀ c ∈ ds, Text.isDigit c = true

/-- The parts are such as a line can have. -/
structure IsWellFormed (f : Finding) : Prop where
  path_ne_nil : f.path ≠ []
  colon_not_mem : ':' ∉ f.path
  isNumeral_line : ∀ ds, f.line = some ds → IsNumeral ds
  isNumeral_column : ∀ ds, f.column = some ds → IsNumeral ds
  /-- A column stands behind a line only. -/
  line_of_column : f.line = none → f.column = none
  severity_ne_nil : f.severity ≠ []
  severity_isWord : ∀ c ∈ f.severity, Text.isWordChar c = true

/-- A number and the colon behind it, if there is one. -/
def numberText (digits : Option (List Char)) : List Char :=
  digits.elim [] fun ds => ds ++ [':']

/-- The line that reports a finding. -/
def text (f : Finding) : List Char :=
  f.path ++ [':'] ++ numberText f.line ++ numberText f.column ++ [' '] ++ f.severity ++
    [':', ' '] ++ f.message

variable {f : Finding} {cs : List Char}

theorem text_eq (f : Finding) :
    f.text = f.path ++ ':' :: (numberText f.line ++ (numberText f.column ++
      ' ' :: (f.severity ++ ':' :: ' ' :: f.message))) := by
  simp [text]

/-! ### What is read has the form -/

theorem number?_cases (cs : List Char) :
    (∃ ds rest, IsNumeral ds ∧ cs = ds ++ ':' :: rest ∧ number? cs = (some ds, rest)) ∨
      number? cs = (none, cs) := by
  unfold number?
  split
  · next rest hrest =>
    split
    · exact .inr rfl
    · next hne =>
      have hcs : cs = cs.takeWhile Text.isDigit ++ ':' :: rest := by
        rw [← hrest, List.takeWhile_append_dropWhile]
      refine .inl ⟨_, rest, ⟨by simpa using hne, ?_⟩, hcs, rfl⟩
      exact fun c hc => List.mem_takeWhile_imp hc
  · exact .inr rfl

theorem numberText_append_of_number? {digits : Option (List Char)} {rest : List Char}
    (h : number? cs = (digits, rest)) :
    cs = numberText digits ++ rest ∧ ∀ ds, digits = some ds → IsNumeral ds := by
  rcases number?_cases cs with ⟨ds, tail, hds, hcs, heq⟩ | heq
  · obtain ⟨rfl, rfl⟩ := Prod.mk.inj (h.symm.trans heq)
    refine ⟨by simpa [numberText] using hcs, ?_⟩
    rintro _ ⟨⟩
    exact hds
  · obtain ⟨rfl, rfl⟩ := Prod.mk.inj (h.symm.trans heq)
    exact ⟨rfl, by simp⟩

/-- Where no line number is read, none is read as a column either. -/
theorem number?_of_none {rest : List Char} (h : number? cs = (none, rest)) :
    number? rest = (none, rest) := by
  obtain rfl : cs = rest := (numberText_append_of_number? h).1
  exact h

theorem eq_append_of_wordAndMessage? {word message : List Char} (hnl : '\n' ∉ cs)
    (h : wordAndMessage? cs = some (word, message)) :
    cs = ' ' :: (word ++ ':' :: ' ' :: message) ∧ word ≠ [] ∧
      ∀ c ∈ word, Text.isWordChar c = true := by
  unfold wordAndMessage? at h
  split at h
  · next rest =>
    split at h
    · next tail htail =>
      split at h
      · cases h
      · next hne =>
        obtain ⟨rfl, rfl⟩ := Prod.mk.inj (Option.some.inj h)
        have hrest : rest = rest.takeWhile Text.isWordChar ++ ':' :: ' ' :: tail := by
          rw [← htail, List.takeWhile_append_dropWhile]
        have htailnl : ∀ c ∈ tail, (c != '\n') = true := by
          intro c hc
          refine bne_iff_ne.mpr (ne_of_mem_of_not_mem ?_ hnl)
          rw [hrest]
          simp [hc]
        rw [List.takeWhile_eq_self_iff.mpr htailnl, ← hrest]
        exact ⟨rfl, by simpa using hne, fun c hc => List.mem_takeWhile_imp hc⟩
    · cases h
  · cases h

theorem exists_of_read? (h : read? cs = some f) :
    ∃ body rest tail, cs = f.path ++ ':' :: body ∧ f.path ≠ [] ∧ ':' ∉ f.path ∧
      number? body = (f.line, rest) ∧ number? rest = (f.column, tail) ∧
      wordAndMessage? tail = some (f.severity, f.message) := by
  unfold read? at h
  split at h
  · next body hbody =>
    split at h
    · cases h
    · next hne =>
      rcases hline : number? body with ⟨line, rest⟩
      rcases hcolumn : number? rest with ⟨column, tail⟩
      simp only [hline, hcolumn] at h
      obtain ⟨⟨word, message⟩, htail, rfl⟩ := Option.map_eq_some_iff.mp h
      have hcs : cs = cs.takeWhile (· != ':') ++ ':' :: body := by
        rw [← hbody, List.takeWhile_append_dropWhile]
      refine ⟨body, rest, tail, hcs, by simpa using hne, fun hmem => ?_, hline, hcolumn, htail⟩
      exact absurd (List.mem_takeWhile_imp hmem) (by decide)
  · cases h

theorem isWellFormed_of_read? (hnl : '\n' ∉ cs) (h : read? cs = some f) :
    f.IsWellFormed ∧ f.text = cs := by
  obtain ⟨body, rest, tail, hcs, hne, hcolon, hline, hcolumn, htail⟩ := exists_of_read? h
  obtain ⟨hbody, hlines⟩ := numberText_append_of_number? hline
  obtain ⟨hrest, hcolumns⟩ := numberText_append_of_number? hcolumn
  rw [hbody, hrest] at hcs
  have htailnl : '\n' ∉ tail := fun hmem => hnl (by simp [hcs, hmem])
  obtain ⟨hword, hwordne, hwords⟩ := eq_append_of_wordAndMessage? htailnl htail
  refine ⟨⟨hne, hcolon, hlines, hcolumns, fun hnone => ?_, hwordne, hwords⟩, ?_⟩
  · rw [hnone] at hline
    exact (Prod.mk.inj (hcolumn.symm.trans (number?_of_none hline))).1
  · rw [text_eq, ← hword, ← hcs]

/-! ### What has the form is read -/

theorem number?_of_not_isDigit {c : Char} (hdigit : Text.isDigit c = false) (hcolon : c ≠ ':')
    (cs : List Char) : number? (c :: cs) = (none, c :: cs) := by
  have hstay : (c :: cs).dropWhile Text.isDigit = c :: cs := by simp [hdigit]
  rw [number?, hstay]
  split
  · next heq => exact absurd (List.cons.inj heq).1 hcolon
  · rfl

theorem number?_append {ds : List Char} (hne : ds ≠ []) (hdigits : ∀ c ∈ ds, Text.isDigit c = true)
    (rest : List Char) : number? (ds ++ ':' :: rest) = (some ds, rest) := by
  have hcolon : Text.isDigit ':' = false := by decide
  have htake : (ds ++ ':' :: rest).takeWhile Text.isDigit = ds := by
    rw [List.takeWhile_append_of_pos hdigits]
    simp [hcolon]
  have hdrop : (ds ++ ':' :: rest).dropWhile Text.isDigit = ':' :: rest := by
    rw [List.dropWhile_append_of_pos hdigits]
    simp [hcolon]
  have hnonempty : ds.isEmpty = false := by simpa using hne
  simp only [number?, hdrop, htake, hnonempty, Bool.false_eq_true, if_false]

theorem wordAndMessage?_append {word message : List Char} (hne : word ≠ [])
    (hword : ∀ c ∈ word, Text.isWordChar c = true) (hmessage : '\n' ∉ message) :
    wordAndMessage? (' ' :: (word ++ ':' :: ' ' :: message)) = some (word, message) := by
  have hcolon : Text.isWordChar ':' = false := by decide +kernel
  have htake : (word ++ ':' :: ' ' :: message).takeWhile Text.isWordChar = word := by
    rw [List.takeWhile_append_of_pos hword]
    simp [hcolon]
  have hdrop : (word ++ ':' :: ' ' :: message).dropWhile Text.isWordChar =
      ':' :: ' ' :: message := by
    rw [List.dropWhile_append_of_pos hword]
    simp [hcolon]
  have hnonempty : word.isEmpty = false := by simpa using hne
  have hall : message.takeWhile (· != '\n') = message :=
    List.takeWhile_eq_self_iff.mpr fun c hc => bne_iff_ne.mpr (ne_of_mem_of_not_mem hc hmessage)
  simp only [wordAndMessage?, hdrop, htake, hnonempty, hall, Bool.false_eq_true, if_false]

theorem read?_append {path body rest tail word message : List Char}
    {line column : Option (List Char)}
    (hne : path ≠ []) (hcolon : ':' ∉ path) (hline : number? body = (line, rest))
    (hcolumn : number? rest = (column, tail))
    (htail : wordAndMessage? tail = some (word, message)) :
    read? (path ++ ':' :: body) = some { path, line, column, severity := word, message } := by
  have hpath : ∀ c ∈ path, (c != ':') = true :=
    fun c hc => bne_iff_ne.mpr (ne_of_mem_of_not_mem hc hcolon)
  have htake : (path ++ ':' :: body).takeWhile (· != ':') = path := by
    rw [List.takeWhile_append_of_pos hpath]
    simp
  have hdrop : (path ++ ':' :: body).dropWhile (· != ':') = ':' :: body := by
    rw [List.dropWhile_append_of_pos hpath]
    simp
  have hnonempty : path.isEmpty = false := by simpa using hne
  simp only [read?, hdrop, htake, hnonempty, Bool.false_eq_true, if_false, hline, hcolumn, htail,
    Option.map_some]

theorem number?_numberText {digits : Option (List Char)}
    (h : ∀ ds, digits = some ds → IsNumeral ds) (rest : List Char)
    (hrest : digits = none → number? rest = (none, rest)) :
    number? (numberText digits ++ rest) = (digits, rest) := by
  cases digits with
  | none => exact hrest rfl
  | some ds =>
    obtain ⟨hne, hdigits⟩ := h ds rfl
    have htext : numberText (some ds) ++ rest = ds ++ ':' :: rest := by simp [numberText]
    rw [htext, number?_append hne hdigits]

theorem read?_text (hf : f.IsWellFormed) (hnl : '\n' ∉ f.message) : read? f.text = some f := by
  have hblank : ∀ tail, number? (' ' :: tail) = (none, ' ' :: tail) :=
    number?_of_not_isDigit (by decide) (by decide)
  have hcolumn := number?_numberText hf.isNumeral_column
    (' ' :: (f.severity ++ ':' :: ' ' :: f.message)) fun _ => hblank _
  have hline := number?_numberText hf.isNumeral_line
    (numberText f.column ++ ' ' :: (f.severity ++ ':' :: ' ' :: f.message)) fun hnone => by
      rw [hf.line_of_column hnone]
      exact hblank _
  have htail := wordAndMessage?_append hf.severity_ne_nil hf.severity_isWord hnl
  rw [text_eq]
  exact read?_append hf.path_ne_nil hf.colon_not_mem hline hcolumn htail

theorem read?_eq_some_iff (hnl : '\n' ∉ cs) :
    read? cs = some f ↔ f.IsWellFormed ∧ f.text = cs := by
  constructor
  · exact isWellFormed_of_read? hnl
  · rintro ⟨hf, rfl⟩
    refine read?_text hf fun hmem => hnl ?_
    simp [text_eq, hmem]

/-! ### The diagnostic -/

/-- A number as diagnostics count, from zero; zero stands for one that is missing. -/
def index (digits : Option (List Char)) : Int :=
  digits.elim 0 fun ds => (Text.placeValue ds : Int) - 1

def diagnostic (f : Finding) : Diagnostic where
  line := index f.line
  character := index f.column
  message := String.ofList f.message
  severity := if f.severity = "error".toList then .error else .information

/-- A number has no more digits than are read, if there is one. -/
def IsReadable (digits : Option (List Char)) : Prop :=
  ∀ ds, digits = some ds → ds.length ≤ Text.maxDigits

structure Fits (f : Finding) : Prop where
  line : IsReadable f.line
  column : IsReadable f.column

theorem position_of_isReadable {digits : Option (List Char)} (h : IsReadable digits) :
    Diagnostic.position digits = .ok (index digits) := by
  cases digits with
  | none => rfl
  | some ds =>
    simp only [Diagnostic.position, Text.readNumeral_of_length_le (h ds rfl),
      Text.numeralValue_eq_placeValue, Except.map]
    rfl

theorem position_of_not_isReadable {digits : Option (List Char)} (h : ¬ IsReadable digits) :
    ∃ reason, Diagnostic.position digits = .error (.badValue reason) := by
  cases digits with
  | none => exact absurd (fun _ hds => nomatch hds) h
  | some ds =>
    have hlong : ¬ ds.length ≤ Text.maxDigits := by
      intro hle
      refine h ?_
      rintro _ ⟨⟩
      exact hle
    simp only [Diagnostic.position, Text.readNumeral, if_neg hlong, Except.map]
    exact ⟨_, rfl⟩

theorem ofFinding_of_fits (h : f.Fits) : Diagnostic.ofFinding f = .ok f.diagnostic := by
  simp only [Diagnostic.ofFinding, position_of_isReadable h.line, position_of_isReadable h.column,
    bind, Except.bind]
  rfl

theorem ofFinding_of_not_fits (h : ¬ f.Fits) :
    ∃ reason, Diagnostic.ofFinding f = .error (.badValue reason) := by
  by_cases hline : IsReadable f.line
  · have hcolumn : ¬ IsReadable f.column := fun hcolumn => h ⟨hline, hcolumn⟩
    obtain ⟨reason, hreason⟩ := position_of_not_isReadable hcolumn
    refine ⟨reason, ?_⟩
    simp only [Diagnostic.ofFinding, position_of_isReadable hline, hreason, bind, Except.bind]
  · obtain ⟨reason, hreason⟩ := position_of_not_isReadable hline
    refine ⟨reason, ?_⟩
    simp only [Diagnostic.ofFinding, hreason, bind, Except.bind]

/-! ### Lines -/

theorem ofLine_of_fits (h : read? cs = some f) (hfits : f.Fits) :
    Diagnostic.ofLine cs = .ok (some (String.ofList f.path, f.diagnostic)) := by
  simp only [Diagnostic.ofLine, h, ofFinding_of_fits hfits, Except.map]

theorem ofLine_of_not_fits (h : read? cs = some f) (hfits : ¬ f.Fits) :
    ∃ reason, Diagnostic.ofLine cs = .error (.badValue reason) := by
  obtain ⟨reason, hreason⟩ := ofFinding_of_not_fits hfits
  refine ⟨reason, ?_⟩
  simp only [Diagnostic.ofLine, h, hreason, Except.map]

theorem ofLine_eq_none_iff_read? : Diagnostic.ofLine cs = .ok none ↔ read? cs = none := by
  cases h : read? cs with
  | none => simp [Diagnostic.ofLine, h]
  | some f => cases hd : Diagnostic.ofFinding f <;> simp [Diagnostic.ofLine, h, hd, Except.map]

theorem exists_ofLine_eq_some_iff (hnl : '\n' ∉ cs) :
    (∃ found, Diagnostic.ofLine cs = .ok (some found)) ↔
      ∃ f : Finding, f.IsWellFormed ∧ f.text = cs ∧ f.Fits := by
  constructor
  · rintro ⟨found, hfound⟩
    cases hf : read? cs with
    | none =>
      rw [ofLine_eq_none_iff_read?.2 hf] at hfound
      cases hfound
    | some f =>
      obtain ⟨hwell, htext⟩ := isWellFormed_of_read? hnl hf
      refine ⟨f, hwell, htext, ?_⟩
      by_contra hfits
      obtain ⟨reason, hreason⟩ := ofLine_of_not_fits hf hfits
      rw [hreason] at hfound
      cases hfound
  · rintro ⟨f, hf, htext, hfits⟩
    exact ⟨_, ofLine_of_fits ((read?_eq_some_iff hnl).2 ⟨hf, htext⟩) hfits⟩

/-- A line has the form of a finding in one way at most.  If it has, it gives the diagnostic of that
finding, or is refused for a number that is too long; otherwise it gives none. -/
theorem ofLine_eq_of_grammar (hnl : '\n' ∉ cs) :
    (∀ f g : Finding, f.IsWellFormed → f.text = cs → g.IsWellFormed → g.text = cs → f = g) ∧
    (∀ f : Finding, f.IsWellFormed → f.text = cs →
      (f.Fits → Diagnostic.ofLine cs = .ok (some (String.ofList f.path, f.diagnostic))) ∧
      (¬ f.Fits → ∃ reason, Diagnostic.ofLine cs = .error (.badValue reason))) ∧
    ((∃ found, Diagnostic.ofLine cs = .ok (some found)) ↔
      ∃ f : Finding, f.IsWellFormed ∧ f.text = cs ∧ f.Fits) ∧
    (Diagnostic.ofLine cs = .ok none ↔ ∀ f : Finding, f.IsWellFormed → f.text ≠ cs) := by
  have hread : ∀ f : Finding, f.IsWellFormed → f.text = cs → read? cs = some f :=
    fun f hf htext => (read?_eq_some_iff hnl).2 ⟨hf, htext⟩
  refine ⟨fun f g hf htext hg htext' => ?_, fun f hf htext => ?_, exists_ofLine_eq_some_iff hnl, ?_⟩
  · exact Option.some.inj ((hread f hf htext).symm.trans (hread g hg htext'))
  · exact ⟨ofLine_of_fits (hread f hf htext), ofLine_of_not_fits (hread f hf htext)⟩
  · simp only [ofLine_eq_none_iff_read?, Option.eq_none_iff_forall_ne_some, Ne,
      read?_eq_some_iff hnl, not_and]

/-- The path is a digit, the line number is written in another script, the column with a zero in
front, and the message looks like the end of a finding. -/
theorem ofLine_eq_of_grammar_digits :
    let f : Finding :=
      ⟨"7".toList, some "٣".toList, some "04".toList, "note".toList, "1: a: b".toList⟩
    '\n' ∉ "7:٣:04: note: 1: a: b".toList ∧ f.IsWellFormed ∧
    f.text = "7:٣:04: note: 1: a: b".toList ∧
    (∀ g : Finding, g.IsWellFormed → g.text = "7:٣:04: note: 1: a: b".toList → g = f) ∧
    Diagnostic.ofLine "7:٣:04: note: 1: a: b".toList =
      .ok (some ("7", ⟨2, 3, "1: a: b", .information⟩)) := by
  intro f
  have hnl : '\n' ∉ "7:٣:04: note: 1: a: b".toList := by decide
  have hf : f.IsWellFormed := by
    refine ⟨by decide, by decide, ?_, ?_, by decide, by decide,
      List.all_eq_true.mp (by decide +kernel)⟩
    · rintro _ ⟨⟩
      exact ⟨by decide, List.all_eq_true.mp (by decide)⟩
    · rintro _ ⟨⟩
      exact ⟨by decide, List.all_eq_true.mp (by decide)⟩
  have hfits : f.Fits := by
    constructor
    · rintro _ ⟨⟩
      decide
    · rintro _ ⟨⟩
      decide
  obtain ⟨hunique, hgives, -⟩ := ofLine_eq_of_grammar hnl
  refine ⟨hnl, hf, rfl, fun g hg htext => hunique g f hg htext hf rfl, ?_⟩
  exact (hgives f hf rfl).1 hfits

/-- A finding in the first line, the number of which has so many zeros in front. -/
def padded (zeros : Nat) : Finding :=
  ⟨"a".toList, some (List.replicate zeros '0' ++ ['1']), none, "error".toList, "x".toList⟩

theorem isWellFormed_padded (zeros : Nat) : (padded zeros).IsWellFormed := by
  have hpath : (padded zeros).path = ['a'] := rfl
  have hword : ∀ c ∈ "error".toList, Text.isWordChar c = true :=
    List.all_eq_true.mp (by decide +kernel)
  refine ⟨by simp [hpath], by simp [hpath], ?_, by rintro _ ⟨⟩, fun _ => rfl,
    List.cons_ne_nil _ _, hword⟩
  rintro _ ⟨⟩
  refine ⟨by simp, fun c hc => ?_⟩
  rcases List.mem_append.1 hc with hc | hc
  · rw [List.eq_of_mem_replicate hc]
    decide
  · rw [List.mem_singleton.1 hc]
    decide

theorem newline_not_mem_text_padded (zeros : Nat) : '\n' ∉ (padded zeros).text := by
  simp [text_eq, padded, numberText]

theorem diagnostic_padded (zeros : Nat) : (padded zeros).diagnostic = ⟨0, 0, "x", .error⟩ := by
  have hzero : (Text.digitValue? '0').getD 0 = 0 := by decide
  have hone : (Text.digitValue? '1').getD 0 = 1 := by decide
  have hvalue : Text.placeValue (List.replicate zeros '0' ++ ['1']) = 1 := by
    simp [Text.placeValue, hzero, hone, Nat.ofDigits_cons, Nat.ofDigits_replicate_zero]
  simp [diagnostic, padded, index, hvalue]

/-- With so many zeros in front of its number a line is refused, though it has the form and its
finding is in the first line. -/
theorem ofLine_refuses_long_number :
    '\n' ∉ (padded 4300).text ∧ (padded 4300).IsWellFormed ∧
      (padded 4300).diagnostic = ⟨0, 0, "x", .error⟩ ∧
      ¬ ∃ found, Diagnostic.ofLine (padded 4300).text = .ok (some found) := by
  have hf := isWellFormed_padded 4300
  have hnl := newline_not_mem_text_padded 4300
  have hlong : ¬ (padded 4300).Fits := by
    intro hfits
    have hle := hfits.line _ rfl
    rw [List.length_append, List.length_replicate] at hle
    exact absurd hle (by decide)
  refine ⟨hnl, hf, diagnostic_padded 4300, ?_⟩
  rintro ⟨found, hfound⟩
  obtain ⟨reason, hreason⟩ := ofLine_of_not_fits ((read?_eq_some_iff hnl).2 ⟨hf, rfl⟩) hlong
  rw [hreason] at hfound
  cases hfound

end Finding

end LangServer
