import LangServer.Proofs.Editing.Splice

/-!
# An edit is a splice at the document's own offsets

A document counts the characters before a position as those of the lines in front of it and the
column, without a look at the line itself: a position behind the last line may lie far behind the
end of the text.  An edit goes through the lines and does not count at all.  The two agree: an edit
puts the new text between the characters before the offset of its start and those from the offset of
its end on.

Lines in front of the first have offsets too, counted from the end of the text.  An edit that starts
there finds no line in which to put the new text, and drops it.

Main statement: `applyChange_splices_iff_nonneg`.
-/

namespace LangServer

/-! ### Members of objects -/

namespace Json

variable {v w : Json} {name : String}

theorem getOr_of_field (h : v.field name = .ok w) (default : Json) :
    v.getOr name default = .ok w := by
  cases v with
  | obj members =>
    cases hmember : members.lookup name with
    | none => simp [field, hmember] at h
    | some u =>
      simp only [field, hmember, Except.ok.injEq] at h
      simp [getOr, hmember, h]
  | _ => cases h

theorem truthy_of_field (h : v.field name = .ok w) : v.truthy = true := by
  cases v with
  | obj members =>
    cases members with
    | nil => cases h
    | cons _ _ => rfl
  | _ => cases h

end Json

/-! ### Offsets in lines -/

namespace Text

/-- A column that is not beyond the end of its line lies so many characters behind the lines before
it, unless the text ends earlier. -/
theorem offsetIn_eq_min {ls : List (List Char)} {n column : Nat}
    (h : ∀ l, ls[n]? = some l → column ≤ l.length) :
    offsetIn ls n column = min (column + (ls.take n).flatten.length) ls.flatten.length := by
  induction ls generalizing n with
  | nil => simp [offsetIn]
  | cons l ls ih =>
    cases n with
    | zero =>
      have hle : column ≤ l.length := h l rfl
      simp only [offsetIn, List.take_zero, List.flatten_nil, List.length_nil, List.flatten_cons,
        List.length_append]
      omega
    | succ n =>
      have hrest := ih (n := n) h
      simp only [offsetIn, hrest, List.take_succ_cons, List.flatten_cons, List.length_append]
      omega

end Text

namespace Document

open Text

/-! ### Positions and edits -/

/-- The value is a position, whatever else it holds. -/
structure IsPosition (v : Json) (line column : Int) : Prop where
  line : v.field "line" = .ok (.int line)
  column : v.field "character" = .ok (.int column)

/-- The value is a change of the text between two positions, whatever else it holds. -/
structure IsEdit (change start stop : Json) (new : String) : Prop where
  text : change.field "text" = .ok (.str new)
  range : ∃ range, change.field "range" = .ok range ∧ range.field "start" = .ok start ∧
    range.field "end" = .ok stop

/-- The column is in the line or at its end, if there is such a line. -/
structure ColumnFits (lines : List (List Char)) (line column : Int) : Prop where
  nonneg : 0 ≤ column
  le : ∀ l, item? line lines = some l → column ≤ l.length

/-- The number of characters before a position: its column, and the lines before it. -/
def offset (source : List Char) (line : Int) (column : Nat) : Nat :=
  column + (takeTo line (splitLines source)).flatten.length

variable {m : Machine} {d : Document} {source : List Char} {start stop change : Json}
variable {sl sc el ec : Int} {new : String}

theorem offsetAt_eq {column : Nat} (hd : d.chars m = .ok source) (h : IsPosition start sl column) :
    d.offsetAt m start = .ok (.int (offset source sl column)) := by
  have hlines : d.lines m = .ok (splitLines source) := by
    simp only [lines, hd, bind, Except.bind, pure, Except.pure]
  simp only [offsetAt, h.column, hlines, h.line, bind, Except.bind, offset, Int.natCast_add]
  rfl

theorem applyChange_eq (hd : d.chars m = .ok source) (h : IsEdit change start stop new)
    (hstart : IsPosition start sl sc) (hstop : IsPosition stop el ec) :
    d.applyChange m change =
      (edit ⟨.int sl, .int sc, .int el, .int ec⟩ (.str new) source).map fun text =>
        { d with source := .str (String.ofList text) } := by
  obtain ⟨range, hrange, hfirst, hlast⟩ := h.range
  have hread : Range.ofJson range = .ok ⟨.int sl, .int sc, .int el, .int ec⟩ := by
    simp only [Range.ofJson, hfirst, hlast, hstart.line, hstart.column, hstop.line, hstop.column,
      bind, Except.bind, pure, Except.pure]
  simp only [applyChange, h.text, Json.getOr_of_field hrange, Json.truthy_of_field hfirst, hread,
    hd, if_true, bind, Except.bind, pure, Except.pure]
  rfl

/-! ### Edits that start at a line of the text or behind it -/

theorem offsetIn_splitLines {n k : Nat} (h : ColumnFits (splitLines source) n k) :
    offsetIn (splitLines source) n k = min (offset source n k) source.length := by
  have hcolumn : ∀ l, (splitLines source)[n]? = some l → k ≤ l.length := by
    intro l hl
    rw [← item?_natCast] at hl
    exact Int.ofNat_le.1 (h.le l hl)
  rw [offsetIn_eq_min hcolumn, flatten_splitLines, offset, takeTo_natCast]

theorem edit_eq_splice {sl sc el ec : Nat} (hle : sl ≤ el) (hlen : sl ≤ (splitLines source).length)
    (hsc : ColumnFits (splitLines source) sl sc) (hec : ColumnFits (splitLines source) el ec)
    (new : String) :
    edit (Range.ofNat sl sc el ec) (.str new) source =
      .ok (source.take (offset source sl sc) ++ new.toList ++
        source.drop (offset source el ec)) := by
  rw [edit_ofNat sc ec new hle hlen, offsetIn_splitLines hsc, offsetIn_splitLines hec,
    ← List.take_eq_take_min, ← List.drop_eq_drop_min]

/-! ### Edits that start before the first line -/

theorem editLine_of_neg (h : sl < 0) (r : Range) (text text' : Json) (i : Nat) (line : List Char) :
    editLine { r with startLine := .int sl } text i line =
      editLine { r with startLine := .int sl } text' i line := by
  have hne : (Json.int sl).eqInt i = false := by
    rw [Json.eqInt_int, beq_eq_false_iff_ne]
    omega
  simp only [editLine, hne, Bool.false_eq_true, if_false]

theorem edit_of_neg (h : sl < 0) (r : Range) (text text' : Json) (source : List Char) :
    edit { r with startLine := .int sl } text source =
      edit { r with startLine := .int sl } text' source := by
  have hne : (Json.int sl).eqInt (splitLines source).length = false := by
    rw [Json.eqInt_int, beq_eq_false_iff_ne]
    omega
  have hlines : ∀ (ls : List (List Char)) (i : Nat),
      editLines { r with startLine := .int sl } text i ls =
        editLines { r with startLine := .int sl } text' i ls := by
    intro ls
    induction ls with
    | nil => exact fun _ => rfl
    | cons l ls ih =>
      intro i
      rw [editLines, editLines, editLine_of_neg h r text text' i l, ih]
  simp only [edit, hne, Bool.false_eq_true, if_false, hlines]

/-- An edit that starts there does the same whatever the new text is. -/
theorem applyChange_of_neg (hd : d.chars m = .ok source) (hstart : IsPosition start sl sc)
    (hstop : IsPosition stop el ec) (hneg : sl < 0) {change' : Json} {new' : String}
    (h : IsEdit change start stop new) (h' : IsEdit change' start stop new') :
    d.applyChange m change = d.applyChange m change' := by
  rw [applyChange_eq hd h hstart hstop, applyChange_eq hd h' hstart hstop,
    edit_of_neg hneg ⟨.null, .int sc, .int el, .int ec⟩ (.str new) (.str new') source]

/-! ### The exact condition -/

/-- An edit of a range puts every new text in the place of what stands between the offsets of the
two ends, if and only if the range does not start before the first line.  If it does, no new text is
put in: all of them give the same. -/
theorem applyChange_splices_iff_nonneg (hd : d.chars m = .ok source)
    (hstart : IsPosition start sl sc) (hstop : IsPosition stop el ec) (hle : sl ≤ el)
    (hlen : sl ≤ (splitLines source).length) (hsc : ColumnFits (splitLines source) sl sc)
    (hec : ColumnFits (splitLines source) el ec) :
    ((∀ change new, IsEdit change start stop new → ∃ a b : Nat,
      d.offsetAt m start = .ok (.int a) ∧ d.offsetAt m stop = .ok (.int b) ∧
      d.applyChange m change = .ok { d with
        source := .str (String.ofList (source.take a ++ new.toList ++ source.drop b)) }) ↔
      0 ≤ sl) ∧
    (sl < 0 → ∀ change change' new new', IsEdit change start stop new →
      IsEdit change' start stop new' → d.applyChange m change = d.applyChange m change') := by
  refine ⟨⟨?_, ?_⟩, fun hneg _ _ _ _ => applyChange_of_neg hd hstart hstop hneg⟩
  · -- Before the first line all new texts give the same, but no two splices of one text and a
    -- longer one do.
    intro h
    by_contra hneg
    let editOf (new : String) : Json :=
      .obj [("text", .str new), ("range", .obj [("start", start), ("end", stop)])]
    have hedit : ∀ new, IsEdit (editOf new) start stop new := fun _ => ⟨rfl, _, rfl, rfl, rfl⟩
    obtain ⟨a, b, ha, hb, hshort⟩ := h _ _ (hedit "")
    obtain ⟨a', b', ha', hb', hlong⟩ := h _ _ (hedit "x")
    obtain rfl : a = a' := by simpa [ha, Int.natCast_inj] using ha'
    obtain rfl : b = b' := by simpa [hb, Int.natCast_inj] using hb'
    rw [applyChange_of_neg hd hstart hstop (Int.not_le.1 hneg) (hedit _) (hedit "x"),
      hlong] at hshort
    simp at hshort
  · intro hnonneg change new hchange
    obtain ⟨sl, rfl⟩ := Int.eq_ofNat_of_zero_le hnonneg
    obtain ⟨el, rfl⟩ := Int.eq_ofNat_of_zero_le (Int.le_trans hnonneg hle)
    obtain ⟨sc, rfl⟩ := Int.eq_ofNat_of_zero_le hsc.nonneg
    obtain ⟨ec, rfl⟩ := Int.eq_ofNat_of_zero_le hec.nonneg
    have hrun := edit_eq_splice (Int.ofNat_le.1 hle) (Int.ofNat_le.1 hlen) hsc hec new
    refine ⟨_, _, offsetAt_eq hd hstart, offsetAt_eq hd hstop, ?_⟩
    rw [applyChange_eq hd hchange hstart hstop]
    exact congrArg (Except.map _) hrun

/-- A range that begins between the two characters of a line break and ends far behind the text. -/
theorem applyChange_splices_behind_end :
    let place (line column : Int) : Json := .obj [("line", .int line), ("character", .int column)]
    let d : Document := ⟨.str "file:///w/a.py", .int 1, "/w/a.py", "a.py", .str "ab\r\ncd"⟩
    let change : Json := .obj [("range", .obj [("start", place 0 3), ("end", place 5 9)]),
      ("text", .str "X")]
    d.offsetAt {} (place 0 3) = .ok (.int 3) ∧ d.offsetAt {} (place 5 9) = .ok (.int 15) ∧
    d.applyChange {} change = .ok { d with source := .str "ab\rX" } := by
  intro place d change
  have hplace : ∀ line column, IsPosition (place line column) line column := fun _ _ => ⟨rfl, rfl⟩
  have hsc : ColumnFits (splitLines "ab\r\ncd".toList) 0 3 := by
    refine ⟨by decide, fun l hl => ?_⟩
    obtain rfl := Option.some.inj hl
    decide
  have hec : ColumnFits (splitLines "ab\r\ncd".toList) 5 9 := by
    refine ⟨by decide, fun l hl => ?_⟩
    cases hl
  obtain ⟨hsplices, -⟩ := applyChange_splices_iff_nonneg (d := d) (m := {}) rfl (hplace 0 3)
    (hplace 5 9) (by decide) (by decide) hsc hec
  obtain ⟨a, b, ha, hb, hrun⟩ := hsplices.2 (by decide) change "X" ⟨rfl, _, rfl, rfl, rfl⟩
  have hstart : d.offsetAt {} (place 0 3) = .ok (.int 3) := rfl
  have hstop : d.offsetAt {} (place 5 9) = .ok (.int 15) := rfl
  have hthree : (3 : Int) = a := by simpa [hstart] using ha
  have hfifteen : (15 : Int) = b := by simpa [hstop] using hb
  obtain rfl : a = 3 := by omega
  obtain rfl : b = 15 := by omega
  exact ⟨hstart, hstop, hrun⟩

/-- Before the first line nothing is put in, though both ends have the first offset of the text. -/
theorem applyChange_drops_before_first_line :
    let place : Json := .obj [("line", .int (-1)), ("character", .int 0)]
    let d : Document := ⟨.str "file:///w/a.py", .int 1, "/w/a.py", "a.py", .str "a"⟩
    let change : Json := .obj [("range", .obj [("start", place), ("end", place)]),
      ("text", .str "X")]
    IsPosition place (-1) 0 ∧ IsEdit change place place "X" ∧
    (-1 : Int) ≤ (splitLines "a".toList).length ∧ ColumnFits (splitLines "a".toList) (-1) 0 ∧
    d.offsetAt {} place = .ok (.int 0) ∧
    d.applyChange {} change = .ok { d with source := .str "a" } ∧
    String.ofList ("a".toList.take 0 ++ "X".toList ++ "a".toList.drop 0) ≠ "a" := by
  intro place d change
  refine ⟨⟨rfl, rfl⟩, ⟨rfl, _, rfl, rfl, rfl⟩, by decide, ⟨by decide, by simp⟩, ?_, ?_, by decide⟩
  · rfl
  · rfl

end Document

end LangServer
