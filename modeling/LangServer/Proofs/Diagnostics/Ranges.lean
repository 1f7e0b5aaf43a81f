import LangServer.Proofs.Diagnostics.Spelling
import Mathlib.Data.List.TakeWhile

/-!
# Ranges of diagnostics

Clients count lines and characters from zero, and a range does not end before it starts.  The
checker counts from one, so a diagnostic is one place further up and to the left than the numbers of
its finding.  A number that is left out stands for one.  A number that is written with zeros alone
passes for a number too, and its diagnostic lies outside of every document.

Main statement: `legal_iff_counts_from_one`.
-/

namespace LangServer

/-! ### Ranges of the protocol -/

namespace Protocol

structure Place where
  line : Int
  character : Int
deriving DecidableEq

structure Range where
  start : Place
  stop : Place
deriving DecidableEq

namespace Place

def ofJson? (v : Json) : Option Place :=
  match v.member? "line", v.member? "character" with
  | some (.int line), some (.int character) => some { line, character }
  | _, _ => none

def isCounted (p : Place) : Bool :=
  0 ≤ p.line && 0 ≤ p.character

/-- Whether a place is not behind another. -/
def isUpTo (p q : Place) : Bool :=
  p.line < q.line || (p.line == q.line && p.character ≤ q.character)

theorem isUpTo_self (p : Place) : p.isUpTo p = true := by
  simp [isUpTo]

end Place

namespace Range

/-- The range of a diagnostic, if it has one with two places. -/
def ofDiagnostic? (d : Json) : Option Range := do
  let range ← d.member? "range"
  let start ← Place.ofJson? (← range.member? "start")
  let stop ← Place.ofJson? (← range.member? "end")
  return { start, stop }

def isLegal (r : Range) : Bool :=
  r.start.isCounted && r.stop.isCounted && r.start.isUpTo r.stop

theorem isLegal_point (p : Place) : isLegal ⟨p, p⟩ = p.isCounted := by
  simp [isLegal, Place.isUpTo_self]

end Range

/-- Whether a diagnostic has a range that clients can show. -/
def isPlaced (d : Json) : Bool :=
  (Range.ofDiagnostic? d).any Range.isLegal

end Protocol

namespace Diagnostic

def place (d : Diagnostic) : Protocol.Place where
  line := d.line
  character := d.character

theorem ofDiagnostic?_toJson (d : Diagnostic) :
    Protocol.Range.ofDiagnostic? d.toJson = some ⟨d.place, d.place⟩ := rfl

theorem isPlaced_toJson (d : Diagnostic) : Protocol.isPlaced d.toJson = d.place.isCounted := by
  rw [Protocol.isPlaced, ofDiagnostic?_toJson, Option.any_some, Protocol.Range.isLegal_point]

end Diagnostic

/-! ### Numbers that are zero -/

namespace Text

theorem foldl_digits_eq_zero_iff (cs : List Char) (n : Nat) :
    cs.foldl (fun n c => 10 * n + (digitValue? c).getD 0) n = 0 ↔
      n = 0 ∧ ∀ c ∈ cs, (digitValue? c).getD 0 = 0 := by
  induction cs generalizing n with
  | nil => simp
  | cons c cs ih =>
    have hsum : 10 * n + (digitValue? c).getD 0 = 0 ↔ n = 0 ∧ (digitValue? c).getD 0 = 0 := by
      omega
    rw [List.foldl_cons, ih, hsum, List.forall_mem_cons, and_assoc]

def isZero (ds : List Char) : Bool :=
  ds.all fun c => digitValue? c == some 0

theorem numeralValue_eq_zero_iff {ds : List Char} (h : ∀ c ∈ ds, isDigit c = true) :
    numeralValue ds = 0 ↔ isZero ds = true := by
  rw [numeralValue, foldl_digits_eq_zero_iff, isZero, List.all_eq_true]
  constructor
  · rintro ⟨-, hzero⟩ c hc
    obtain ⟨n, hn⟩ := Option.isSome_iff_exists.mp (h c hc)
    have hvalue := hzero c hc
    rw [hn, Option.getD_some] at hvalue
    simp [hn, hvalue]
  · intro hzero
    refine ⟨rfl, fun c hc => ?_⟩
    have hvalue : digitValue? c = some 0 := by simpa using hzero c hc
    rw [hvalue, Option.getD_some]

end Text

namespace Finding

variable {f : Finding} {cs ds rest : List Char}

/-- Whether no number of a finding is zero. -/
def countsFromOne (f : Finding) : Bool :=
  !f.line.any Text.isZero && !f.column.any Text.isZero

theorem isDigit_of_number? (h : (number? cs).1 = some ds) : ∀ c ∈ ds, Text.isDigit c = true := by
  unfold number? at h
  split at h
  · split at h
    · cases h
    · obtain rfl := Option.some.inj h
      exact fun c hc => List.mem_takeWhile_imp hc
  · cases h

theorem isDigit_of_read? (h : read? cs = some f) :
    (∀ ds, f.line = some ds → ∀ c ∈ ds, Text.isDigit c = true) ∧
      ∀ ds, f.column = some ds → ∀ c ∈ ds, Text.isDigit c = true := by
  unfold read? at h
  split at h
  · split at h
    · cases h
    · obtain ⟨parts, -, rfl⟩ := Option.map_eq_some_iff.mp h
      exact ⟨fun ds => isDigit_of_number?, fun ds => isDigit_of_number?⟩
  · cases h

theorem exists_line_of_mem_ofOutput {output : List Char} (h : f ∈ ofOutput output) :
    ∃ l, read? l = some f := by
  obtain ⟨l, -, hl⟩ := List.mem_filterMap.mp h
  exact ⟨l, hl⟩

end Finding

/-! ### Where a diagnostic is -/

namespace Diagnostic

variable {f : Finding} {d : Diagnostic} {digits : Option (List Char)} {n : Int}

theorem eq_of_position_some {ds : List Char} (h : position (some ds) = .ok n) :
    n = Text.numeralValue ds - 1 := by
  by_cases hlength : ds.length ≤ Text.maxDigits
  · rw [position, Text.readNumeral_of_length_le hlength] at h
    exact (Except.ok.inj h).symm
  · rw [position, Text.readNumeral, if_neg hlength] at h
    cases h

theorem le_position (h : position digits = .ok n) : -1 ≤ n := by
  cases digits with
  | none =>
    obtain rfl := Except.ok.inj h
    omega
  | some ds =>
    have hvalue := eq_of_position_some h
    omega

theorem position_nonneg_iff (hdigits : ∀ ds, digits = some ds → ∀ c ∈ ds, Text.isDigit c = true)
    (h : position digits = .ok n) : 0 ≤ n ↔ digits.any Text.isZero = false := by
  cases digits with
  | none =>
    obtain rfl := Except.ok.inj h
    simp
  | some ds =>
    have hvalue := eq_of_position_some h
    have hzero := Text.numeralValue_eq_zero_iff (hdigits ds rfl)
    rw [Option.any_some, ← Bool.not_eq_true, ← hzero]
    omega

theorem positions_of_ofFinding (h : ofFinding f = .ok d) :
    position f.line = .ok d.line ∧ position f.column = .ok d.character := by
  unfold ofFinding at h
  cases hline : position f.line with
  | error e => simp [hline, bind, Except.bind] at h
  | ok line =>
    cases hcolumn : position f.column with
    | error e => simp [hline, hcolumn, bind, Except.bind] at h
    | ok column =>
      simp only [hline, hcolumn, bind, Except.bind, pure, Except.pure, Except.ok.injEq] at h
      exact ⟨by rw [← h], by rw [← h]⟩

theorem isCounted_place_iff {l : List Char} (hread : Finding.read? l = some f)
    (h : ofFinding f = .ok d) : d.place.isCounted = true ↔ f.countsFromOne = true := by
  obtain ⟨hline, hcolumn⟩ := positions_of_ofFinding h
  obtain ⟨hlines, hcolumns⟩ := Finding.isDigit_of_read? hread
  have hl := position_nonneg_iff hlines hline
  have hc := position_nonneg_iff hcolumns hcolumn
  simp [Protocol.Place.isCounted, place, Finding.countsFromOne, hl, hc]

end Diagnostic

/-! ### Reports -/

theorem Finding.forall_of_mapM_entry {fs : List Finding} {es : List (String × Diagnostic)}
    {P : Diagnostic → Prop} {Q : Finding → Prop}
    (hiff : ∀ f ∈ fs, ∀ d, Diagnostic.ofFinding f = .ok d → (P d ↔ Q f))
    (h : fs.mapM entry = .ok es) : (∀ e ∈ es, P e.2) ↔ ∀ f ∈ fs, Q f := by
  induction fs generalizing es with
  | nil =>
    have hnil : [] = es := Except.ok.inj h
    simp [← hnil]
  | cons f fs ih =>
    obtain ⟨d, rest, hd, hrest, rfl⟩ := mapM_entry_cons h
    have hfirst := hiff f List.mem_cons_self d hd
    have hothers := ih (fun g hg => hiff g (List.mem_cons_of_mem f hg)) hrest
    rw [List.forall_mem_cons, List.forall_mem_cons, hfirst, hothers]

namespace Report

variable {r : Report} {output : List Char}

theorem forall_mem_group (es : List (String × Diagnostic)) (P : Diagnostic → Prop) :
    (∀ e ∈ group es, ∀ d ∈ e.2, P d) ↔ ∀ e ∈ es, P e.2 := by
  constructor
  · intro h e he
    have hgroup : (e.1, valuesOf es e.1) ∈ group es :=
      List.mem_map_of_mem (List.mem_eraseDups.2 (List.mem_map_of_mem he))
    refine h _ hgroup e.2 (List.mem_map_of_mem (List.mem_filter.2 ⟨he, ?_⟩))
    exact decide_eq_true rfl
  · intro h e he d hd
    obtain ⟨path, -, rfl⟩ := List.mem_map.1 he
    obtain ⟨x, hx, rfl⟩ := List.mem_map.1 hd
    exact h x (List.mem_filter.1 hx).1

/-- What holds of the diagnostics of a report, from what holds of the findings of its output. -/
theorem forall_of_ofText {P : Diagnostic → Prop} {Q : Finding → Prop}
    (hiff : ∀ f ∈ Finding.ofOutput output, ∀ d, Diagnostic.ofFinding f = .ok d → (P d ↔ Q f))
    (h : ofText output = .ok r) :
    (∀ e ∈ r, ∀ d ∈ e.2, P d) ↔ ∀ f ∈ Finding.ofOutput output, Q f := by
  rw [ofText_eq] at h
  cases hes : (Finding.ofOutput output).mapM Finding.entry with
  | error f => simp [hes, Except.map] at h
  | ok es =>
    simp only [hes, Except.map, Except.ok.injEq] at h
    rw [← h, forall_mem_group]
    exact Finding.forall_of_mapM_entry hiff hes

theorem isPlaced_iff (h : ofText output = .ok r) :
    (∀ e ∈ r, ∀ d ∈ e.2, Protocol.isPlaced d.toJson = true) ↔
      ∀ f ∈ Finding.ofOutput output, f.countsFromOne = true := by
  refine forall_of_ofText (fun f hf d hd => ?_) h
  obtain ⟨l, hl⟩ := Finding.exists_line_of_mem_ofOutput hf
  rw [Diagnostic.isPlaced_toJson, Diagnostic.isCounted_place_iff hl hd]

/-- A diagnostic has no extent, and its numbers are zero or more, or one less than that. -/
theorem exists_place (h : ofText output = .ok r) :
    ∀ e ∈ r, ∀ d ∈ e.2, ∃ p : Protocol.Place,
      Protocol.Range.ofDiagnostic? d.toJson = some ⟨p, p⟩ ∧ -1 ≤ p.line ∧ -1 ≤ p.character := by
  have hplaces : ∀ f ∈ Finding.ofOutput output, ∀ d, Diagnostic.ofFinding f = .ok d →
      (-1 ≤ d.line ∧ -1 ≤ d.character ↔ True) := by
    intro f _ d hd
    obtain ⟨hline, hcolumn⟩ := Diagnostic.positions_of_ofFinding hd
    exact iff_true_intro ⟨Diagnostic.le_position hline, Diagnostic.le_position hcolumn⟩
  intro e he d hd
  obtain ⟨hline, hcolumn⟩ := (forall_of_ofText hplaces h).2 (fun _ _ => trivial) e he d hd
  exact ⟨d.place, d.ofDiagnostic?_toJson, hline, hcolumn⟩

end Report

/-! ### Published diagnostics -/

namespace Session

open ClientView

variable {m : Machine} {w : Workspace} {s s' : Session}

/-- The diagnostics that some messages publish. -/
def publishedIn (messages : List Rpc.Message) : List Json :=
  (messages.filterMap published?).flatMap Prod.snd

/-- The diagnostics that have been published between two sessions. -/
def publishedSince (s s' : Session) : List Json :=
  publishedIn (s'.sent.drop s.sent.length)

theorem publishedIn_append (xs ys : List Rpc.Message) :
    publishedIn (xs ++ ys) = publishedIn xs ++ publishedIn ys := by
  simp [publishedIn, List.filterMap_append]

theorem publishedIn_announcements (es : List (String × List Diagnostic)) :
    publishedIn (es.map announcement) = (es.map Prod.snd).flatten.map Diagnostic.toJson := by
  induction es with
  | nil => rfl
  | cons e es ih =>
    have hfirst : publishedIn [announcement e] = e.2.map Diagnostic.toJson :=
      List.append_nil _
    rw [List.map_cons, ← List.singleton_append, publishedIn_append, hfirst, ih, List.map_cons,
      List.flatten_cons, List.map_append]

theorem publishedIn_retractions (uris : List String) :
    publishedIn (uris.map retraction) = [] := by
  induction uris with
  | nil => rfl
  | cons uri uris ih =>
    rw [List.map_cons, ← List.singleton_append, publishedIn_append, ih]
    rfl

theorem publishedSince_rebuilt (r : Report) (s : Session) :
    publishedSince s (rebuilt m w r s) =
      ((located m w r).map Prod.snd).flatten.map Diagnostic.toJson := by
  have hsent : (rebuilt m w r s).sent = s.sent ++ (located m w r).map announcement := rfl
  rw [publishedSince, hsent, List.drop_left, publishedIn_announcements]

theorem publishedSince_retracted_rebuilt (r : Report) (uris : List String) (s : Session) :
    publishedSince s ((rebuilt m w r s).retracted uris) =
      ((located m w r).map Prod.snd).flatten.map Diagnostic.toJson := by
  have hsent : ((rebuilt m w r s).retracted uris).sent =
      s.sent ++ ((located m w r).map announcement ++ uris.map retraction) :=
    List.append_assoc _ _ _
  rw [publishedSince, hsent, List.drop_left, publishedIn_append, publishedIn_announcements,
    publishedIn_retractions, List.append_nil]

theorem exists_of_mem_located {r : Report} {e : String × List Diagnostic}
    (h : e ∈ located m w r) : ∃ path, (path, e.2) ∈ r := by
  induction r with
  | nil => cases h
  | cons x rest ih =>
    cases hu : uriOf m w x.1 with
    | error f => simp [located, hu] at h
    | ok uri =>
      simp only [located, hu, List.mem_cons] at h
      rcases h with rfl | h
      · exact ⟨x.1, List.mem_cons_self⟩
      · obtain ⟨path, hpath⟩ := ih h
        exact ⟨path, List.mem_cons_of_mem x hpath⟩

theorem map_snd_located {r : Report} (h : fault? m w r = none) :
    (located m w r).map Prod.snd = r.map Prod.snd := by
  induction r with
  | nil => rfl
  | cons e rest ih =>
    cases hu : uriOf m w e.1 with
    | error f => simp [fault?, hu] at h
    | ok uri =>
      simp only [fault?, hu] at h
      simp only [located, hu, List.map_cons, ih h]

theorem forall_mem_map_toJson (r : Report) (P : Json → Prop) :
    (∀ j ∈ (r.map Prod.snd).flatten.map Diagnostic.toJson, P j) ↔
      ∀ e ∈ r, ∀ d ∈ e.2, P d.toJson := by
  simp only [List.forall_mem_map, List.forall_mem_flatten]

/-- A call that fails publishes the diagnostics of some paths of its report or none at all. -/
theorem isPlaced_publishedSince (hopen : s.closed = false) {output : String}
    (hcounts : ∀ f ∈ Finding.ofOutput output.toList, f.countsFromOne = true) (m : Machine)
    (w : Workspace) (order : ClearOrder) :
    ∀ d ∈ publishedSince s (publish m w (.str output) order s).2, Protocol.isPlaced d = true := by
  have hreport : ∀ r, Report.ofText output.toList = .ok r →
      ∀ j ∈ ((located m w r).map Prod.snd).flatten.map Diagnostic.toJson,
        Protocol.isPlaced j = true := by
    intro r hr
    refine (forall_mem_map_toJson (located m w r) _).2 fun e he d hd => ?_
    obtain ⟨path, hpath⟩ := exists_of_mem_located he
    exact (Report.isPlaced_iff hr).2 hcounts _ hpath d hd
  rcases publish_cases hopen m w output order with
    ⟨f, -, hrun⟩ | ⟨r, f, hr, -, hrun⟩ | ⟨r, hr, -, hrun⟩
  · rw [hrun, publishedSince, List.drop_length]
    exact fun d hd => absurd hd List.not_mem_nil
  · rw [hrun, publishedSince_rebuilt]
    exact hreport r hr
  · rw [hrun, publishedSince_retracted_rebuilt]
    exact hreport r hr

theorem isPlaced_publishedSince_iff (hopen : s.closed = false) {output : String}
    {order : ClearOrder} (hrun : publish m w (.str output) order s = (.ok (), s')) :
    (∀ d ∈ publishedSince s s', Protocol.isPlaced d = true) ↔
      ∀ f ∈ Finding.ofOutput output.toList, f.countsFromOne = true := by
  obtain ⟨r, hr, hfault, rfl⟩ := publish_eq_ok hopen hrun
  rw [publishedSince_retracted_rebuilt, map_snd_located hfault, forall_mem_map_toJson,
    Report.isPlaced_iff hr]

/-- The diagnostics of an output end where they start, and none of their numbers is less than minus
one.  All have a range that clients can show if and only if no number of a finding is zero, and the
same holds of those that a call publishes. -/
theorem legal_iff_counts_from_one (output : String) :
    (∀ r, Report.ofText output.toList = .ok r →
      (∀ e ∈ r, ∀ d ∈ e.2, ∃ p : Protocol.Place,
        Protocol.Range.ofDiagnostic? d.toJson = some ⟨p, p⟩ ∧ -1 ≤ p.line ∧ -1 ≤ p.character) ∧
      ((∀ e ∈ r, ∀ d ∈ e.2, Protocol.isPlaced d.toJson = true) ↔
        ∀ f ∈ Finding.ofOutput output.toList, f.countsFromOne = true)) ∧
    ∀ (m : Machine) (w : Workspace) (order : ClearOrder) (s : Session), s.closed = false →
      ((∀ f ∈ Finding.ofOutput output.toList, f.countsFromOne = true) →
        ∀ d ∈ publishedSince s (publish m w (.str output) order s).2,
          Protocol.isPlaced d = true) ∧
      ((publish m w (.str output) order s).1 = .ok () →
        (∀ d ∈ publishedSince s (publish m w (.str output) order s).2,
          Protocol.isPlaced d = true) →
        ∀ f ∈ Finding.ofOutput output.toList, f.countsFromOne = true) := by
  refine ⟨fun r hr => ⟨Report.exists_place hr, Report.isPlaced_iff hr⟩, ?_⟩
  intro m w order s hopen
  refine ⟨fun hcounts => isPlaced_publishedSince hopen hcounts m w order, fun hok => ?_⟩
  exact (isPlaced_publishedSince_iff hopen (Step.eq_ok_of_fst hok)).1

theorem legal_iff_counts_from_one_two_findings :
    (∃ r, Report.ofText "a.py:1: error: x\nb.py:20:1: note: y".toList = .ok r ∧
      ∀ e ∈ r, ∀ d ∈ e.2, Protocol.isPlaced d.toJson = true) ∧
    (publishedSince {} (publish {} (rootedAt "/w")
      (.str "a.py:1: error: x\nb.py:20:1: note: y") {} {}).2).length = 2 ∧
    ∀ d ∈ publishedSince {} (publish {} (rootedAt "/w")
      (.str "a.py:1: error: x\nb.py:20:1: note: y") {} {}).2, Protocol.isPlaced d = true := by
  obtain ⟨hreport, hpublish⟩ :=
    legal_iff_counts_from_one "a.py:1: error: x\nb.py:20:1: note: y"
  have hcounts : ∀ f ∈ Finding.ofOutput "a.py:1: error: x\nb.py:20:1: note: y".toList,
      f.countsFromOne = true := by decide +kernel
  have hlength : (publishedSince {} (publish {} (rootedAt "/w")
      (.str "a.py:1: error: x\nb.py:20:1: note: y") {} {}).2).length = 2 := by decide +kernel
  refine ⟨?_, hlength, (hpublish {} (rootedAt "/w") {} {} rfl).1 hcounts⟩
  cases hr : Report.ofText "a.py:1: error: x\nb.py:20:1: note: y".toList with
  | error f =>
    have hok : (Report.ofText "a.py:1: error: x\nb.py:20:1: note: y".toList).isOk = true := by
      decide +kernel
    rw [hr] at hok
    cases hok
  | ok r => exact ⟨r, rfl, (hreport r hr).2.2 hcounts⟩

/-- The line above the first. -/
theorem not_isPlaced_line_zero :
    ∃ r, Report.ofText "a.py:0: error: x".toList = .ok r ∧
      ∃ e ∈ r, ∃ d ∈ e.2, Protocol.isPlaced d.toJson = false :=
  ⟨[("a.py", [⟨-1, 0, "x", .error⟩])], by decide +kernel, _, List.mem_cons_self, _,
    List.mem_cons_self, by decide⟩

end Session

end LangServer
