import LangServer.Proofs.Diagnostics.Report
import LangServer.Proofs.Diagnostics.Written
import Mathlib.Data.PNat.Defs

/-!
# The report of a written output

An output is a list of lines, each of which holds an entry or is noise, with line feeds between
them and perhaps one at the end.  Its report has the paths of the entries in the order in which they
first appear, and for each path the diagnostics of its entries in their order.  It is made exactly
if no number in the output has more digits than are read.

Main statement: `Report.ofText_written`.
-/

namespace LangServer

/-! ### Outputs -/

/-- A line that reports no finding. -/
structure Noise where
  text : List Char
  unbroken : ∀ c ∈ text, Text.isBreak c = false
  unrecognised : Diagnostic.ofLine text = .ok none

inductive Item where
  | entry (e : Entry)
  | noise (n : Noise)

namespace Item

def text : Item → List Char
  | entry e => e.text
  | noise n => n.text

def entry? : Item → Option Entry
  | entry e => some e
  | noise _ => none

def entries (items : List Item) : List Entry :=
  items.filterMap entry?

/-- The text of an output, with or without a line feed at its end. -/
def written (items : List Item) (final : Bool) : List Char :=
  ['\n'].intercalate (items.map text) ++ if final then ['\n'] else []

theorem unbroken (i : Item) : ∀ c ∈ i.text, Text.isBreak c = false := by
  cases i with
  | entry e => exact e.text_unbroken
  | noise n => exact n.unbroken

end Item

/-! ### Lines of an output -/

namespace Text

theorem splitLines_append_newline {l : List Char} (h : ∀ c ∈ l, isBreak c = false)
    (rest : List Char) : splitLines (l ++ '\n' :: rest) = (l ++ ['\n']) :: splitLines rest := by
  induction l with
  | nil =>
    rw [List.nil_append, splitLines_cons fun _ hc _ => by cases hc]
    rfl
  | cons c l ih =>
    have hc := h c List.mem_cons_self
    have hl := ih fun d hd => h d (List.mem_cons_of_mem _ hd)
    have hreturn : c ≠ '\r' := by
      rintro rfl
      cases hc
    rw [List.cons_append, splitLines_cons fun _ heq _ => hreturn heq, hc, hl]
    rfl

theorem splitLines_of_unbroken {l : List Char} (h : ∀ c ∈ l, isBreak c = false) (hne : l ≠ []) :
    splitLines l = [l] := by
  induction l with
  | nil => exact absurd rfl hne
  | cons c l ih =>
    have hc := h c List.mem_cons_self
    have hreturn : c ≠ '\r' := by
      rintro rfl
      cases hc
    rw [splitLines_cons fun _ heq _ => hreturn heq, hc]
    cases l with
    | nil => rfl
    | cons d l =>
      have hl := ih (fun e he => h e (List.mem_cons_of_mem _ he)) (by simp)
      rw [hl]
      rfl

theorem chomp_append {l : List Char} (h : ∀ c ∈ l, isBreak c = false) (rest : List Char) :
    chomp (l ++ rest) = l ++ chomp rest := by
  have hall : ∀ c ∈ l, (!isBreak c) = true := by
    intro c hc
    rw [h c hc]
    rfl
  exact List.takeWhile_append_of_pos hall

theorem chomp_append_newline {l : List Char} (h : ∀ c ∈ l, isBreak c = false) :
    chomp (l ++ ['\n']) = l := by
  rw [chomp_append h]
  exact List.append_nil l

theorem chomp_of_unbroken {l : List Char} (h : ∀ c ∈ l, isBreak c = false) : chomp l = l := by
  have happend := chomp_append h []
  rw [List.append_nil] at happend
  rw [happend]
  exact List.append_nil l

/-- Some lines with line feeds between them, and perhaps one at the end. -/
def joinLines (ls : List (List Char)) (final : Bool) : List Char :=
  ['\n'].intercalate ls ++ if final then ['\n'] else []

theorem joinLines_cons_cons (l k : List Char) (ls : List (List Char)) (final : Bool) :
    joinLines (l :: k :: ls) final = l ++ '\n' :: joinLines (k :: ls) final := by
  simp only [joinLines, List.intercalate_cons_cons, List.append_assoc, List.cons_append,
    List.nil_append]

end Text

namespace Report

/-- An empty line adds nothing, so it does not matter that one at the end is no line at all. -/
theorem addLines_nil_line (r : Report) : r.addLines [[]] = .ok r := rfl

theorem addLines_cons_congr {ls ls' : List (List Char)}
    (h : ∀ r : Report, r.addLines ls = r.addLines ls') (r : Report) (l : List Char) :
    r.addLines (l :: ls) = r.addLines (l :: ls') := by
  simp only [addLines, h]

theorem addLines_last {l : List Char} (h : ∀ c ∈ l, Text.isBreak c = false) (final : Bool)
    (r : Report) :
    r.addLines ((Text.splitLines (Text.joinLines [l] final)).map Text.chomp) = r.addLines [l] := by
  cases final with
  | true =>
    have hjoined : Text.joinLines [l] true = l ++ '\n' :: [] := by simp [Text.joinLines]
    rw [hjoined, Text.splitLines_append_newline h, Text.splitLines_nil, List.map_singleton,
      Text.chomp_append_newline h]
  | false =>
    have hjoined : Text.joinLines [l] false = l := by simp [Text.joinLines]
    rw [hjoined]
    by_cases hempty : l = []
    · rw [hempty, addLines_nil_line]
      rfl
    · rw [Text.splitLines_of_unbroken h hempty, List.map_singleton, Text.chomp_of_unbroken h]

theorem addLines_joinLines {ls : List (List Char)}
    (h : ∀ l ∈ ls, ∀ c ∈ l, Text.isBreak c = false) (final : Bool) (r : Report) :
    r.addLines ((Text.splitLines (Text.joinLines ls final)).map Text.chomp) = r.addLines ls := by
  induction ls generalizing r with
  | nil =>
    cases final with
    | true => exact addLines_nil_line r
    | false => rfl
  | cons l ls ih =>
    have hl := h l List.mem_cons_self
    cases ls with
    | nil => exact addLines_last hl final r
    | cons k ls =>
      have hrest := ih fun x hx => h x (List.mem_cons_of_mem _ hx)
      rw [Text.joinLines_cons_cons, Text.splitLines_append_newline hl, List.map_cons,
        Text.chomp_append_newline hl]
      exact addLines_cons_congr hrest r l

theorem addLines_written (items : List Item) (final : Bool) (r : Report) :
    r.addLines ((Text.splitLines (Item.written items final)).map Text.chomp) =
      r.addLines (items.map Item.text) :=
  addLines_joinLines (List.forall_mem_map.2 fun i _ => i.unbroken) final r

/-! ### Adding entries -/

end Report

/-- The path of an entry as reports name it. -/
def Entry.key (e : Entry) : String :=
  String.ofList e.path

namespace Report

def addEntry (r : Report) (e : Entry) : Report :=
  r.add e.key e.diagnostic

theorem addLines_noise (r : Report) (n : Noise) (ls : List (List Char)) :
    r.addLines (n.text :: ls) = r.addLines ls := by
  rw [addLines, n.unrecognised]
  rfl

theorem addLines_entry {e : Entry} (h : e.spot.Fits) (r : Report) (ls : List (List Char)) :
    r.addLines (e.text :: ls) = (r.addEntry e).addLines ls := by
  rw [addLines, e.ofLine_text, Entry.ofFinding_finding h]
  rfl

theorem exists_addLines_entry_error {e : Entry} (h : ¬ e.spot.Fits) (r : Report)
    (ls : List (List Char)) : ∃ f, r.addLines (e.text :: ls) = .error f := by
  obtain ⟨f, hf⟩ := Entry.exists_ofFinding_finding_error h
  rw [addLines, e.ofLine_text, hf]
  exact ⟨f, rfl⟩

theorem addLines_of_fits {items : List Item} (h : ∀ e ∈ Item.entries items, e.spot.Fits)
    (r : Report) :
    r.addLines (items.map Item.text) = .ok ((Item.entries items).foldl addEntry r) := by
  induction items generalizing r with
  | nil => rfl
  | cons i items ih =>
    cases i with
    | noise n =>
      rw [List.map_cons]
      exact (addLines_noise r n _).trans (ih h r)
    | entry e =>
      have he : e.spot.Fits := h e List.mem_cons_self
      have hitems : ∀ x ∈ Item.entries items, x.spot.Fits :=
        fun x hx => h x (List.mem_cons_of_mem _ hx)
      rw [List.map_cons]
      exact (addLines_entry he r _).trans (ih hitems (r.addEntry e))

theorem exists_addLines_error {items : List Item}
    (h : ∃ e ∈ Item.entries items, ¬ e.spot.Fits) (r : Report) :
    ∃ f, r.addLines (items.map Item.text) = .error f := by
  induction items generalizing r with
  | nil =>
    obtain ⟨e, he, -⟩ := h
    cases he
  | cons i items ih =>
    rw [List.map_cons]
    cases i with
    | noise n =>
      obtain ⟨f, hf⟩ := ih h r
      exact ⟨f, (addLines_noise r n _).trans hf⟩
    | entry e =>
      by_cases he : e.spot.Fits
      · obtain ⟨x, hx, hlong⟩ := h
        have hx' : x ∈ Item.entries items := by
          rcases List.mem_cons.1 hx with rfl | hx
          · exact absurd he hlong
          · exact hx
        obtain ⟨f, hf⟩ := ih ⟨x, hx', hlong⟩ (r.addEntry e)
        exact ⟨f, (addLines_entry he r _).trans hf⟩
      · exact exists_addLines_entry_error he r _

/-! ### Grouping -/

/-- The diagnostics of the entries of a path. -/
def diagnosticsOf (es : List Entry) (path : String) : List Diagnostic :=
  (es.filter (·.key = path)).map Entry.diagnostic

/-- Each path in the order of first appearance, with the diagnostics of its entries. -/
def grouped (es : List Entry) : Report :=
  (es.map Entry.key).eraseDups.map fun path => (path, diagnosticsOf es path)

theorem grouped_eq (es : List Entry) :
    grouped es = group (es.map fun e => (e.key, e.diagnostic)) := by
  simp only [grouped, group, diagnosticsOf, valuesOf, List.map_map, List.filter_map,
    Function.comp_def]

theorem foldl_addEntry (es : List Entry) : es.foldl addEntry [] = grouped es := by
  rw [grouped_eq, ← foldl_add, List.foldl_map]
  rfl

end Report

/-! ### Reports of outputs -/

/-- A spot as diagnostics give it. -/
def Spot.toJson (p : Spot) : Json :=
  .obj [("line", .int (index p.lineNumber?)), ("character", .int (index p.columnNumber?))]

namespace Report

/-- A report of an output is made exactly if no number has too many digits.  It has the paths of the
entries in the order in which they first appear, each with the diagnostics of its entries in their
order; a diagnostic begins and ends at the entry's spot and has its message. -/
theorem ofText_written (items : List Item) (final : Bool) :
    (∀ r, ofText (Item.written items final) = .ok r ↔
      (∀ e ∈ Item.entries items, e.spot.Fits) ∧ r = grouped (Item.entries items)) ∧
    ∀ e : Entry, e.diagnostic.toJson = .obj [("source", .str "mypy"),
      ("range", .obj [("start", e.spot.toJson), ("end", e.spot.toJson)]),
      ("message", .str (String.ofList e.message)),
      ("severity", .int (if e.severity = "error".toList then 1 else 3))] := by
  constructor
  · intro r
    have hlines : ofText (Item.written items final) = addLines [] (items.map Item.text) :=
      addLines_written items final []
    rw [hlines]
    by_cases hfits : ∀ e ∈ Item.entries items, e.spot.Fits
    · rw [addLines_of_fits hfits, foldl_addEntry]
      constructor
      · intro heq
        exact ⟨hfits, (Except.ok.inj heq).symm⟩
      · rintro ⟨-, rfl⟩
        rfl
    · have hlong : ∃ e ∈ Item.entries items, ¬ e.spot.Fits := by
        simpa using hfits
      obtain ⟨f, hf⟩ := exists_addLines_error hlong []
      rw [hf]
      constructor
      · intro heq
        cases heq
      · rintro ⟨hall, -⟩
        exact absurd hall hfits
  · intro e
    by_cases herror : e.severity = "error".toList
    · simp only [Diagnostic.toJson, Entry.diagnostic, herror, if_true]
      rfl
    · simp only [Diagnostic.toJson, Entry.diagnostic, if_neg herror]
      rfl

/-- An entry for a line of the file `a`. -/
def entryAt (n : ℕ+) : Entry where
  path := ['a']
  spot := .line n
  severity := "error".toList
  message := ['x']
  path_ne_nil := by decide
  colon_not_mem := by decide
  path_unbroken := List.forall_mem_singleton.mpr (by decide)
  severity_ne_nil := by decide
  severity_isWord := List.all_eq_true.mp (by decide +kernel)
  message_unbroken := List.forall_mem_singleton.mpr (by decide)

theorem exists_ofText_entryAt_error {n : ℕ+} (h : ¬ (Spot.decimal n).length ≤ Text.maxDigits) :
    ∃ f, ofText (Item.written [.entry (entryAt n)] false) = .error f := by
  have hlong : ¬ (entryAt n).spot.Fits := fun hfits => h (hfits n (.inl rfl))
  obtain ⟨f, hf⟩ := exists_addLines_entry_error hlong [] []
  exact ⟨f, (addLines_written [.entry (entryAt n)] false []).trans hf⟩

/-- The least number with more digits than a given number of them. -/
def leastLonger (digits : Nat) : ℕ+ :=
  Nat.toPNat (Nat.pow 10 digits) (Nat.pow_pos (by decide))

theorem not_length_leastLonger_le {digits : Nat} (hpos : 0 < digits) :
    ¬ (Spot.decimal (leastLonger digits)).length ≤ digits := by
  rw [Spot.decimal, Nat.length_toDigits_le_iff (by decide) hpos]
  exact Nat.lt_irrefl _

/-- The least number with more digits than are read. -/
def leastUnread : ℕ+ :=
  leastLonger Text.maxDigits

/-- One entry whose line number is too long, and nothing else. -/
theorem ofText_written_ne_grouped :
    ofText (Item.written [.entry (entryAt leastUnread)] false) ≠
      .ok (grouped [entryAt leastUnread]) := by
  have hlong : ¬ (Spot.decimal leastUnread).length ≤ Text.maxDigits :=
    not_length_leastLonger_le (by decide)
  obtain ⟨f, hf⟩ := exists_ofText_entryAt_error hlong
  rw [hf]
  intro heq
  cases heq

end Report

end LangServer
