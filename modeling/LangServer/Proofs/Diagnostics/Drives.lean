import LangServer.Proofs.Diagnostics.Grouping
import LangServer.Proofs.Diagnostics.Staleness

/-!
# Findings on a drive

An absolute path on Windows begins with a drive: a letter, a colon and a slash of either kind.  In
a line of the checker a path ends at its first colon, so a line comes back with the path it was
written with exactly if that path has no colon.

A path on a drive has one.  What stands behind it is a slash, which is no number and no blank, so
the line has not the form of a finding at all: it gives no diagnostic, and no fault either.  An
output is published as if its findings on drives were not there.

Main statement: `Located.ofLine_eq_some_iff_and_drives_vanish`.
-/

namespace LangServer

/-! ### Findings at a line and a column -/

/-- What the checker says of a place in a file, whatever characters the path has. -/
structure Located where
  path : List Char
  line : ℕ+
  column : ℕ+
  severity : List Char
  message : List Char
  path_unbroken : ∀ c ∈ path, Text.isBreak c = false
  severity_ne_nil : severity ≠ []
  severity_isWord : ∀ c ∈ severity, Text.isWordChar c = true
  message_unbroken : ∀ c ∈ message, Text.isBreak c = false

namespace Located

variable {x : Located}

def spot (x : Located) : Spot :=
  .column x.line x.column

/-- The line `path:line:column: severity: message`. -/
def text (x : Located) : List Char :=
  x.path ++ x.spot.text ++ ": ".toList ++ x.severity ++ ": ".toList ++ x.message

def diagnostic (x : Located) : Diagnostic where
  line := (x.line : Int) - 1
  character := (x.column : Int) - 1
  message := String.ofList x.message
  severity := if x.severity = "error".toList then .error else .information

/-- With a path that can stand in a line it is an entry. -/
def entry (x : Located) (hne : x.path ≠ []) (hcolon : ':' ∉ x.path) : Entry where
  path := x.path
  spot := x.spot
  severity := x.severity
  message := x.message
  path_ne_nil := hne
  colon_not_mem := hcolon
  path_unbroken := x.path_unbroken
  severity_ne_nil := x.severity_ne_nil
  severity_isWord := x.severity_isWord
  message_unbroken := x.message_unbroken

/-! ### Paths that come back -/

theorem ofLine_text_of_colon_not_mem (hne : x.path ≠ []) (hcolon : ':' ∉ x.path) :
    Diagnostic.ofLine x.text =
      (Diagnostic.ofFinding (x.entry hne hcolon).finding).map
        fun d => some (String.ofList x.path, d) :=
  (x.entry hne hcolon).ofLine_text

theorem path_of_ofLine_eq_some {cs path : List Char} {d : Diagnostic}
    (h : Diagnostic.ofLine cs = .ok (some (String.ofList path, d))) : path ≠ [] ∧ ':' ∉ path := by
  rcases Diagnostic.ofLine_cases h with ⟨-, hnone⟩ | ⟨f, d', hread, hsome⟩
  · cases hnone
  · have hpath : path = f.path :=
      String.ofList_injective (congrArg Prod.fst (Option.some.inj hsome))
    obtain ⟨-, -, -, -, hne, hcolon, -⟩ := Finding.exists_of_read? hread
    rw [hpath]
    exact ⟨hne, hcolon⟩

theorem ofLine_eq_some_iff (x : Located) :
    Diagnostic.ofLine x.text = .ok (some (String.ofList x.path, x.diagnostic)) ↔
      x.path ≠ [] ∧ ':' ∉ x.path ∧ x.spot.Fits := by
  constructor
  · intro h
    obtain ⟨hne, hcolon⟩ := path_of_ofLine_eq_some h
    refine ⟨hne, hcolon, ?_⟩
    by_contra hfits
    obtain ⟨f, hf⟩ := Entry.exists_ofFinding_finding_error (e := x.entry hne hcolon) hfits
    rw [ofLine_text_of_colon_not_mem hne hcolon, hf] at h
    cases h
  · rintro ⟨hne, hcolon, hfits⟩
    rw [ofLine_text_of_colon_not_mem hne hcolon, Entry.ofFinding_finding hfits]
    rfl

/-! ### Paths on a drive -/

/-- The path begins with a letter, a colon and a slash, and has no other colon. -/
def IsOnDrive (path : List Char) : Prop :=
  ∃ letter slash names, path = letter :: ':' :: slash :: names ∧ letter.isAlpha = true ∧
    (slash = '\\' ∨ slash = '/') ∧ ':' ∉ names

theorem read?_eq_none {letter c : Char} (hletter : letter ≠ ':') (hdigit : Text.isDigit c = false)
    (hcolon : c ≠ ':') (hblank : c ≠ ' ') (rest : List Char) :
    Finding.read? (letter :: ':' :: c :: rest) = none := by
  -- The path is the letter, and behind its colon stands neither a digit nor a blank.
  have hpath : ∀ d ∈ [letter], (d != ':') = true :=
    List.forall_mem_singleton.2 (bne_iff_ne.2 hletter)
  have hdrop : (letter :: ':' :: c :: rest).dropWhile (· != ':') = ':' :: c :: rest :=
    (List.dropWhile_append_of_pos hpath).trans rfl
  have hnumber : Finding.number? (c :: rest) = (none, c :: rest) :=
    Finding.number?_of_not_isDigit hdigit hcolon rest
  have hword : Finding.wordAndMessage? (c :: rest) = none := by
    unfold Finding.wordAndMessage?
    split
    · next heq => exact absurd (List.cons.inj heq).1 hblank
    · rfl
  simp only [Finding.read?, hdrop, hnumber, hword, Option.map_none, ite_self]

theorem ofLine_text_of_isOnDrive (h : IsOnDrive x.path) : Diagnostic.ofLine x.text = .ok none := by
  obtain ⟨letter, slash, names, hpath, hletter, hslash, -⟩ := h
  have hcolon : letter ≠ ':' := by
    rintro rfl
    cases hletter
  have htext : ∃ rest, x.text = letter :: ':' :: slash :: rest := by
    rw [text, hpath]
    exact ⟨_, rfl⟩
  obtain ⟨rest, hrest⟩ := htext
  rw [Finding.ofLine_eq_none_iff_read?, hrest]
  rcases hslash with rfl | rfl
  · exact read?_eq_none hcolon (by decide) (by decide) (by decide) rest
  · exact read?_eq_none hcolon (by decide) (by decide) (by decide) rest

/-! ### Outputs without them -/

/-- The line reports a finding on a drive. -/
def ReportsOnDrive (l : List Char) : Prop :=
  ∃ x : Located, IsOnDrive x.path ∧ x.text = l

theorem addLines_filter {keep : List Char → Bool} {ls : List (List Char)}
    (h : ∀ l ∈ ls, keep l = false → ReportsOnDrive l) (r : Report) :
    r.addLines (ls.filter keep) = r.addLines ls := by
  induction ls generalizing r with
  | nil => rfl
  | cons l ls ih =>
    have hrest := ih fun k hk => h k (List.mem_cons_of_mem _ hk)
    cases hl : keep l with
    | true =>
      rw [List.filter_cons_of_pos hl]
      exact Report.addLines_cons_congr hrest r l
    | false =>
      obtain ⟨x, hx, rfl⟩ := h l List.mem_cons_self hl
      rw [List.filter_cons_of_neg (by simp [hl]), hrest, Report.addLines,
        ofLine_text_of_isOnDrive hx]
      rfl

theorem ofText_joinLines_filter {keep : List Char → Bool} {ls : List (List Char)}
    (hunbroken : ∀ l ∈ ls, ∀ c ∈ l, Text.isBreak c = false)
    (h : ∀ l ∈ ls, keep l = false → ReportsOnDrive l) (final : Bool) :
    Report.ofText (Text.joinLines (ls.filter keep) final) =
      Report.ofText (Text.joinLines ls final) := by
  have hkept : ∀ l ∈ ls.filter keep, ∀ c ∈ l, Text.isBreak c = false :=
    fun l hl => hunbroken l (List.mem_of_mem_filter hl)
  calc Report.ofText (Text.joinLines (ls.filter keep) final)
      = Report.addLines [] (ls.filter keep) := Report.addLines_joinLines hkept final []
    _ = Report.addLines [] ls := addLines_filter h []
    _ = Report.ofText (Text.joinLines ls final) :=
        (Report.addLines_joinLines hunbroken final []).symm

theorem publish_congr {m : Machine} {w : Workspace} {output output' : List Char}
    (h : Report.ofText output = Report.ofText output') (order : Session.ClearOrder) :
    Session.publish m w (.str (String.ofList output)) order =
      Session.publish m w (.str (String.ofList output')) order := by
  simp only [Session.publish, Report.ofJson, String.toList_ofList, h]

/-- A line comes back with its path, and with the diagnostic of its place, if and only if the path
is not empty and has no colon and no number is too long.  A path on a drive never comes back: its
line gives no diagnostic, and publishing an output is the same step, from any session, as publishing
it without any of its lines that report findings on drives. -/
theorem ofLine_eq_some_iff_and_drives_vanish (x : Located) :
    (Diagnostic.ofLine x.text = .ok (some (String.ofList x.path, x.diagnostic)) ↔
      x.path ≠ [] ∧ ':' ∉ x.path ∧ x.spot.Fits) ∧
    (IsOnDrive x.path → Diagnostic.ofLine x.text = .ok none) ∧
    ∀ (m : Machine) (w : Workspace) (order : Session.ClearOrder) (final : Bool)
      (ls : List (List Char)) (keep : List Char → Bool),
      (∀ l ∈ ls, ∀ c ∈ l, Text.isBreak c = false) →
      (∀ l ∈ ls, keep l = false → ReportsOnDrive l) →
      Session.publish m w (.str (String.ofList (Text.joinLines ls final))) order =
        Session.publish m w (.str (String.ofList (Text.joinLines (ls.filter keep) final)))
          order := by
  refine ⟨ofLine_eq_some_iff x, ofLine_text_of_isOnDrive, ?_⟩
  intro m w order final ls keep hunbroken hdrives
  exact publish_congr (ofText_joinLines_filter hunbroken hdrives final).symm order

theorem unbroken_of_all {l : List Char} (h : (l.all fun c => !Text.isBreak c) = true) :
    ∀ c ∈ l, Text.isBreak c = false := by
  intro c hc
  simpa using List.all_eq_true.mp h c hc

/-- A note at the start of a file whose path is relative. -/
def onRelativePath : Located where
  path := "src\\x.py".toList
  line := 1
  column := 1
  severity := "note".toList
  message := "y".toList
  path_unbroken := unbroken_of_all (by decide)
  severity_ne_nil := by decide
  severity_isWord := List.all_eq_true.mp (by decide +kernel)
  message_unbroken := unbroken_of_all (by decide)

/-- A warning in a file on a drive. -/
def onDrive : Located where
  path := "C:\\a b\\x.py".toList
  line := ⟨3, Nat.succ_pos 2⟩
  column := ⟨7, Nat.succ_pos 6⟩
  severity := "warning".toList
  message := "m: n".toList
  path_unbroken := unbroken_of_all (by decide)
  severity_ne_nil := by decide
  severity_isWord := List.all_eq_true.mp (by decide +kernel)
  message_unbroken := unbroken_of_all (by decide)

theorem isOnDrive_onDrive : IsOnDrive onDrive.path :=
  ⟨'C', '\\', "a b\\x.py".toList, rfl, rfl, .inl rfl, by decide⟩

theorem drives_vanish_beside_relative_path :
    Diagnostic.ofLine onRelativePath.text =
      .ok (some ("src\\x.py", ⟨0, 0, "y", .information⟩)) ∧
    IsOnDrive onDrive.path ∧ Diagnostic.ofLine onDrive.text = .ok none ∧
    Session.publish {} (Session.rootedAt "/w") (.str (String.ofList
        (Text.joinLines [onRelativePath.text, onDrive.text] true))) {} =
      Session.publish {} (Session.rootedAt "/w") (.str (String.ofList
        (Text.joinLines [onRelativePath.text] true))) {} := by
  obtain ⟨hrelative, -, -⟩ := ofLine_eq_some_iff_and_drives_vanish onRelativePath
  obtain ⟨-, hdrive, hpublish⟩ := ofLine_eq_some_iff_and_drives_vanish onDrive
  have hfits : onRelativePath.spot.Fits := by
    rintro n (hn | hn)
    · obtain rfl : 1 = n := Option.some.inj hn
      decide
    · obtain rfl : 1 = n := Option.some.inj hn
      decide
  have hunbroken : ∀ l ∈ [onRelativePath.text, onDrive.text], ∀ c ∈ l, Text.isBreak c = false :=
    List.forall_mem_cons.2 ⟨unbroken_of_all (by decide),
      List.forall_mem_singleton.2 (unbroken_of_all (by decide))⟩
  have hdrives : ∀ l ∈ [onRelativePath.text, onDrive.text],
      (l.head? != some 'C') = false → ReportsOnDrive l := by
    refine List.forall_mem_cons.2 ⟨fun hkept => ?_, List.forall_mem_singleton.2 fun _ => ?_⟩
    · cases hkept
    · exact ⟨onDrive, isOnDrive_onDrive, rfl⟩
  have hkept : [onRelativePath.text, onDrive.text].filter (fun l => l.head? != some 'C') =
      [onRelativePath.text] := rfl
  have hsame := hpublish {} (Session.rootedAt "/w") {} true [onRelativePath.text, onDrive.text]
    (fun l => l.head? != some 'C') hunbroken hdrives
  rw [hkept] at hsame
  exact ⟨hrelative.2 ⟨by decide, by decide, hfits⟩, isOnDrive_onDrive, hdrive isOnDrive_onDrive,
    hsame⟩

/-- An error at the start of a file on a drive does not come back. -/
theorem ofLine_ne_some_on_drive :
    Diagnostic.ofLine "C:\\a.py:1:1: error: x".toList ≠
      .ok (some ("C:\\a.py", ⟨0, 0, "x", .error⟩)) := by
  decide +kernel

end Located

end LangServer
