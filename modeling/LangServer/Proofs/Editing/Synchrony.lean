import LangServer.Proofs.Editing.ClientText

/-!
# The document keeps in step with the client's text

A client that edits its text tells the server the range and the new text of each edit.  The document
has the client's text after all edits as long as each edit ends in a clear place: one that has no
foreign break before the character in front of it.  Behind such a break the document counts other
lines than the client, and for some new text it replaces other characters.

Main statement: `follow_eq_applyAll_and_iff_isClear`.
-/

namespace LangServer.ClientText

open Text

/-! ### Changes of the client -/

/-- The text between two positions is replaced. -/
structure Change where
  start : Position
  stop : Position
  text : String

/-- The text with the characters between two offsets replaced. -/
def splice (text : List Char) (a b : Nat) (new : List Char) : List Char :=
  text.take a ++ new ++ text.drop b

namespace Change

structure ValidIn (c : Change) (text : List Char) : Prop where
  start : c.start.ValidIn text
  stop : c.stop.ValidIn text
  le : c.start.Le c.stop

/-- The client's text after a change. -/
def apply (c : Change) (text : List Char) : List Char :=
  splice text (offset text c.start) (offset text c.stop) c.text.toList

/-- No foreign break stands before the character in front of the end of the range. -/
def IsClear (c : Change) (text : List Char) : Prop :=
  Clear text (offset text c.stop)

def rangeJson (c : Change) : Json :=
  let place (p : Position) : Json := .obj [("line", .int p.line), ("character", .int p.column)]
  .obj [("start", place c.start), ("end", place c.stop)]

def toJson (c : Change) : Json :=
  .obj [("range", c.rangeJson), ("text", .str c.text)]

/-- The range as the document reads it. -/
def range (c : Change) : Document.Range :=
  .ofNat c.start.line c.start.column c.stop.line c.stop.column

end Change

/-- Each change has a property in the client's text of that moment. -/
def Throughout (P : Change → List Char → Prop) : List Char → List Change → Prop
  | _, [] => True
  | text, c :: cs => P c text ∧ Throughout P (c.apply text) cs

instance (c : Change) (text : List Char) : Decidable (c.ValidIn text) :=
  decidable_of_iff (c.start.ValidIn text ∧ c.stop.ValidIn text ∧ c.start.Le c.stop)
    ⟨fun h => ⟨h.1, h.2.1, h.2.2⟩, fun h => ⟨h.start, h.stop, h.le⟩⟩

instance (c : Change) (text : List Char) : Decidable (c.IsClear text) :=
  inferInstanceAs (Decidable (Clear text (offset text c.stop)))

instance instDecidableThroughout (P : Change → List Char → Prop) [∀ c text, Decidable (P c text)] :
    ∀ (text : List Char) (cs : List Change), Decidable (Throughout P text cs)
  | _, [] => inferInstanceAs (Decidable True)
  | text, c :: cs =>
    have := instDecidableThroughout P (c.apply text) cs
    inferInstanceAs (Decidable (P c text ∧ Throughout P (c.apply text) cs))

def applyAll (text : List Char) (cs : List Change) : List Char :=
  cs.foldl (fun t c => c.apply t) text

/-! ### Two splices -/

theorem exists_splice_ne {text : List Char} {a b a' b' : Nat} (ha : a ≤ a') (hb : b < b')
    (hab : a' ≤ b') (hlen : b' ≤ text.length) :
    ∃ new : String, splice text a b new.toList ≠ splice text a' b' new.toList := by
  by_cases hshift : b' - b = a' - a
  · -- Both ranges have the same length, so the new character stands in different places.
    have hlt : a < text.length := by omega
    obtain ⟨x, hx⟩ : ∃ x : Char, x ≠ text[a] := by
      by_cases h : text[a] = 'a'
      · exact ⟨'b', by rw [h]; decide⟩
      · exact ⟨'a', fun e => h e.symm⟩
    refine ⟨String.singleton x, fun heq => hx ?_⟩
    have hat := congrArg (fun t => t[a]?) heq
    have hleft : (splice text a b [x])[a]? = some x := by
      have hlength : (text.take a).length = a := by rw [List.length_take]; omega
      simp [splice, List.append_assoc, hlength]
    have hright : (splice text a' b' [x])[a]? = some text[a] := by
      have hlength : a < (text.take a').length := by rw [List.length_take]; omega
      rw [splice, List.append_assoc, List.getElem?_append_left hlength,
        List.getElem?_take_of_lt (by omega), List.getElem?_eq_getElem hlt]
    simp only [String.toList_singleton, hleft, hright] at hat
    exact Option.some.inj hat
  · refine ⟨"", fun heq => hshift ?_⟩
    have hlength := congrArg List.length heq
    simp only [splice, List.length_append, List.length_take, List.length_drop] at hlength
    omega

/-! ### What the document does -/

variable {m : Machine} {d : Document} {c : Change} {text : String}

/-- The document after its text is replaced. -/
def withText (d : Document) (text : List Char) : Document :=
  { d with source := .str (String.ofList text) }

theorem applyChange_toJson (hd : d.source = .str text) {edited : List Char}
    (hedit : Document.edit c.range (.str c.text) text.toList = .ok edited) :
    d.applyChange m c.toJson = .ok (withText d edited) := by
  have htext : c.toJson.field "text" = .ok (.str c.text) := rfl
  have hrange : c.toJson.getOr "range" .null = .ok c.rangeJson := rfl
  have hread : Document.Range.ofJson c.rangeJson = .ok c.range := rfl
  have htruthy : c.rangeJson.truthy = true := rfl
  have hchars : d.chars m = .ok text.toList := by
    simp [Document.chars, Document.contents, hd, bind, Except.bind, pure, Except.pure]
  simp [Document.applyChange, htext, hrange, hread, htruthy, hchars, hedit, withText, bind,
    Except.bind, pure, Except.pure]

/-- The number of characters before a position, as the document counts them. -/
def documentOffset (text : List Char) (p : Position) : Nat :=
  offsetIn (splitLines text) p.line p.column

theorem applyChange_eq_splice (hd : d.source = .str text) (hc : c.ValidIn text.toList) :
    d.applyChange m c.toJson = .ok (withText d (splice text.toList
      (documentOffset text.toList c.start) (documentOffset text.toList c.stop) c.text.toList)) := by
  have hle : c.start.line ≤ c.stop.line := by
    rcases hc.le with h | h
    · exact Nat.le_of_lt h
    · exact Nat.le_of_eq h.1
  exact applyChange_toJson hd (Document.edit_ofNat c.start.column c.stop.column c.text hle
    (line_le_length_splitLines hc.start))

theorem applyChange_of_isClear (hd : d.source = .str text) (hc : c.ValidIn text.toList)
    (hclear : c.IsClear text.toList) :
    d.applyChange m c.toJson = .ok (withText d (c.apply text.toList)) := by
  have hclearStart : Clear text.toList (offset text.toList c.start) :=
    hclear.mono (offset_le_offset hc.start hc.le)
  have hstart : documentOffset text.toList c.start = offset text.toList c.start :=
    (agrees_offsetIn hc.start).2.2 hclearStart
  have hstop : documentOffset text.toList c.stop = offset text.toList c.stop :=
    (agrees_offsetIn hc.stop).2.2 hclear
  rw [applyChange_eq_splice hd hc, hstart, hstop, Change.apply]

theorem exists_apply_ne_of_not_isClear {text : List Char} (hc : c.ValidIn text)
    (hclear : ¬ c.IsClear text) :
    ∃ new : String, splice text (documentOffset text c.start) (documentOffset text c.stop)
      new.toList ≠ splice text (offset text c.start) (offset text c.stop) new.toList := by
  have hstart : documentOffset text c.start ≤ offset text c.start := (agrees_offsetIn hc.start).1
  have hstop : Agrees text (documentOffset text c.stop) (offset text c.stop) :=
    agrees_offsetIn hc.stop
  have hne : documentOffset text c.stop ≠ offset text c.stop := fun h => hclear (hstop.2.1 h)
  exact exists_splice_ne hstart (Nat.lt_of_le_of_ne hstop.1 hne) (offset_le_offset hc.start hc.le)
    (offset_le_length hc.stop)

/-! ### Runs -/

/-- The document after the changes of the client, as far as none fails. -/
def follow (m : Machine) (d : Document) (cs : List Change) : Outcome Document :=
  cs.foldlM (fun d c => d.applyChange m c.toJson) d

theorem follow_of_isClear {cs : List Change} (hd : d.source = .str text)
    (hvalid : Throughout Change.ValidIn text.toList cs)
    (hclear : Throughout Change.IsClear text.toList cs) :
    ∃ d', follow m d cs = .ok d' ∧
      d'.source = .str (String.ofList (applyAll text.toList cs)) := by
  induction cs generalizing d text with
  | nil => exact ⟨d, rfl, by simp [hd, applyAll]⟩
  | cons c cs ih =>
    have hrun := applyChange_of_isClear (m := m) hd hvalid.1 hclear.1
    have hlist : (String.ofList (c.apply text.toList)).toList = c.apply text.toList := by simp
    have hwith : (withText d (c.apply text.toList)).source =
        .str (String.ofList (c.apply text.toList)) := rfl
    obtain ⟨d', hrest, hsource⟩ := ih hwith (by rw [hlist]; exact hvalid.2)
      (by rw [hlist]; exact hclear.2)
    rw [hlist] at hsource
    refine ⟨d', ?_, hsource⟩
    rw [follow, List.foldlM_cons, hrun]
    exact hrest

/-- A document has the client's text along every run in which each change ends in a clear place.
For a single change this is exact: the document does with every new text what the client does if and
only if the change ends in a clear place. -/
theorem follow_eq_applyAll_and_iff_isClear (m : Machine) :
    (∀ (d : Document) (text : String) (cs : List Change), d.source = .str text →
      Throughout Change.ValidIn text.toList cs → Throughout Change.IsClear text.toList cs →
      ∃ d', follow m d cs = .ok d' ∧
        d'.source = .str (String.ofList (applyAll text.toList cs))) ∧
    ∀ (d : Document) (text : String) (c : Change), d.source = .str text →
      c.ValidIn text.toList →
      ((∀ new : String, ∃ d', d.applyChange m ({ c with text := new } : Change).toJson = .ok d' ∧
        d'.source = .str (String.ofList (({ c with text := new } : Change).apply text.toList))) ↔
      c.IsClear text.toList) := by
  refine ⟨fun d text cs hd hvalid hclear => follow_of_isClear hd hvalid hclear, ?_⟩
  intro d text c hd hc
  have hnew : ∀ new, ({ c with text := new } : Change).ValidIn text.toList :=
    fun _ => ⟨hc.start, hc.stop, hc.le⟩
  constructor
  · intro hall
    by_contra hclear
    obtain ⟨new, hne⟩ := exists_apply_ne_of_not_isClear hc hclear
    obtain ⟨d', hrun, hsource⟩ := hall new
    rw [applyChange_eq_splice hd (hnew new)] at hrun
    obtain rfl := Except.ok.inj hrun
    simp only [withText, Json.str.injEq, String.ofList_inj] at hsource
    exact hne hsource
  · intro hclear new
    exact ⟨_, applyChange_of_isClear hd (hnew new) hclear, rfl⟩

/-- Behind a form feed the document counts one line more, so it replaces the last character of the
first line where the client replaces the second line. -/
theorem follow_ne_applyAll_behind_form_feed :
    let c : Change := ⟨⟨1, 0⟩, ⟨1, 1⟩, "X"⟩
    Throughout Change.ValidIn "a\x0cb\nc".toList [c] ∧
    applyAll "a\x0cb\nc".toList [c] = "a\x0cb\nX".toList ∧
    ∀ d : Document, d.source = .str "a\x0cb\nc" →
      follow {} d [c] = .ok (withText d "a\x0cX\nc".toList) := by
  intro c
  have hvalid : c.ValidIn "a\x0cb\nc".toList := by decide +kernel
  refine ⟨⟨hvalid, trivial⟩, by decide +kernel, fun d hd => ?_⟩
  have hsplice : splice "a\x0cb\nc".toList (documentOffset "a\x0cb\nc".toList c.start)
      (documentOffset "a\x0cb\nc".toList c.stop) c.text.toList = "a\x0cX\nc".toList := by
    decide +kernel
  rw [follow, List.foldlM_cons, applyChange_eq_splice hd hvalid, hsplice]
  rfl

/-- Two lines are joined behind a carriage return, and then a foreign break is put at the end. -/
theorem follow_eq_applyAll_two_changes :
    let cs : List Change := [⟨⟨1, 1⟩, ⟨2, 0⟩, ""⟩, ⟨⟨1, 2⟩, ⟨1, 2⟩, "\x0c"⟩]
    let d : Document := ⟨.str "file:///w/a.py", .int 1, "/w/a.py", "a.py", .str "a\rb\nc"⟩
    applyAll "a\rb\nc".toList cs = "a\rbc\x0c".toList ∧
    ∃ d', follow {} d cs = .ok d' ∧ d'.source = .str "a\rbc\x0c" := by
  intro cs d
  have happly : applyAll "a\rb\nc".toList cs = "a\rbc\x0c".toList := by decide +kernel
  obtain ⟨d', hrun, hsource⟩ := (follow_eq_applyAll_and_iff_isClear {}).1 d "a\rb\nc" cs rfl
    (by decide +kernel) (by decide +kernel)
  rw [happly] at hsource
  exact ⟨happly, d', hrun, hsource⟩

end LangServer.ClientText
