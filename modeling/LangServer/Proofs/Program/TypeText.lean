import LangServer.Program.Hover
import Mathlib.Data.List.Basic

/-!
# Built-in names in the text of a type

A type is shown without the name of the module of built-in objects where that name stands free: at
the start of the text, or behind a character that no name holds.  The scan goes from left to right
and deletes as it goes.  Which occurrences it deletes can be said of the text alone.  No two
occurrences overlap, because the first letter of the name does not come again in it; so no deletion
hides an occurrence or makes one stand free.

In a text that is a name itself only the start is free, and the scan does what is done to the full
name of a symbol.

Main statement: `typeText_deletes_free`.
-/

namespace LangServer.Hover

/-! ### Occurrences that stand free -/

/-- ASCII letters and digits, the dot and the underscore. -/
def isNameChar (c : Char) : Bool :=
  c.isAlphanum || c == '.' || c == '_'

/-- Whether an occurrence of the module's name at `i` stands free. -/
def standsFree (s : List Char) (i : Nat) : Bool :=
  "builtins.".toList.isPrefixOf (s.drop i) && (s.take i).getLast?.all fun c => !isNameChar c

/-- Whether the character at `k` belongs to an occurrence that stands free. -/
def isDeleted (s : List Char) (k : Nat) : Bool :=
  (List.range (k + 1)).any fun i => standsFree s i && decide (k < i + "builtins.".length)

/-- The characters that belong to no occurrence that stands free, in their order. -/
def withoutBuiltins (s : List Char) : List Char :=
  (s.zipIdx.filter fun p => !isDeleted s p.2).map Prod.fst

variable {s pre rest : List Char} {c : Char} {free : Bool} {i j k skip : Nat}

theorem endsName_eq (c : Char) : endsName c = !isNameChar c := by
  simp only [endsName, isNameChar, beq_eq_decide]

theorem isDeleted_iff :
    isDeleted s k = true ↔ ∃ i ≤ k, standsFree s i = true ∧ k < i + builtins.length := by
  have hlength : "builtins.".length = builtins.length := rfl
  simp only [isDeleted, List.any_eq_true, List.mem_range, Bool.and_eq_true, decide_eq_true_eq,
    Nat.lt_succ_iff, hlength]

theorem standsFree_iff_of_append (hs : s = pre ++ rest) :
    standsFree s pre.length = true ↔
      builtins.isPrefixOf rest = true ∧ (pre.getLast?.all fun c => !isNameChar c) = true := by
  rw [standsFree, hs, List.drop_left, List.take_left, Bool.and_eq_true]
  rfl

theorem getElem?_of_standsFree (h : standsFree s i = true) {d : Nat} (hd : d < builtins.length) :
    s[i + d]? = builtins[d]? := by
  rw [standsFree, Bool.and_eq_true] at h
  obtain ⟨tail, htail⟩ := List.isPrefixOf_iff_prefix.1 h.1
  rw [← List.getElem?_drop, ← htail]
  exact List.getElem?_append_left hd

theorem builtins_getElem?_ne {d : Nat} (hpos : 0 < d) (hd : d < builtins.length) :
    builtins[d]? ≠ builtins[0]? := by
  have hall : ∀ d < 9, 0 < d → builtins[d]? ≠ builtins[0]? := by decide
  exact hall d hd hpos

theorem standsFree_apart (hi : standsFree s i = true) (hj : standsFree s j = true) (hlt : i < j) :
    i + builtins.length ≤ j := by
  by_contra hnot
  have hd : j - i < builtins.length := by omega
  have hfirst : s[j]? = builtins[j - i]? := by
    have h := getElem?_of_standsFree hi hd
    rwa [show i + (j - i) = j by omega] at h
  have hsecond : s[j]? = builtins[0]? := getElem?_of_standsFree (d := 0) hj (by decide)
  exact builtins_getElem?_ne (by omega) hd (hfirst.symm.trans hsecond)

/-! ### The scan -/

/-- The scan is at position `k`, with `skip` more characters to delete: those that are left of the
occurrence that stands free and reaches farthest. -/
structure Scanning (s : List Char) (k skip : Nat) : Prop where
  reaches : ∀ i < k, standsFree s i = true → i + builtins.length ≤ k + skip
  within : 0 < skip → ∃ i < k, standsFree s i = true ∧ i + builtins.length = k + skip

theorem Scanning.start (s : List Char) : Scanning s 0 0 where
  reaches i hi := by omega
  within h := by omega

theorem Scanning.isDeleted_of_skip (h : Scanning s k (skip + 1)) : isDeleted s k = true := by
  obtain ⟨i, hi, hfree, hend⟩ := h.within (by omega)
  exact isDeleted_iff.2 ⟨i, by omega, hfree, by omega⟩

theorem Scanning.pass (h : Scanning s k (skip + 1)) : Scanning s (k + 1) skip := by
  obtain ⟨i, hi, hfree, hend⟩ := h.within (by omega)
  refine ⟨fun j hj hfree' => ?_, fun _ => ⟨i, by omega, hfree, by omega⟩⟩
  by_cases hjk : j = k
  · -- an occurrence that began here would overlap the one that is being deleted
    have hapart := standsFree_apart hfree hfree' (by omega)
    omega
  · have hreach := h.reaches j (by omega) hfree'
    omega

theorem Scanning.found (h : Scanning s k 0) (hfree : standsFree s k = true) :
    Scanning s (k + 1) (builtins.length - 1) := by
  have hpos : 0 < builtins.length := by decide
  refine ⟨fun j hj hfree' => ?_, fun _ => ⟨k, by omega, hfree, by omega⟩⟩
  by_cases hjk : j = k
  · omega
  · have hreach := h.reaches j (by omega) hfree'
    omega

theorem Scanning.isDeleted_eq (h : Scanning s k 0) : isDeleted s k = standsFree s k := by
  have hpos : 0 < builtins.length := by decide
  rw [Bool.eq_iff_iff, isDeleted_iff]
  constructor
  · rintro ⟨i, hik, hfree, hend⟩
    obtain rfl : i = k := by
      by_contra hne
      have hreach := h.reaches i (by omega) hfree
      omega
    exact hfree
  · intro hfree
    exact ⟨k, Nat.le_refl k, hfree, by omega⟩

theorem Scanning.keep (h : Scanning s k 0) (hfree : standsFree s k = false) :
    Scanning s (k + 1) 0 := by
  refine ⟨fun j hj hfree' => ?_, fun hpos => by omega⟩
  have hjk : j ≠ k := by
    rintro rfl
    simp [hfree] at hfree'
  have hreach := h.reaches j (by omega) hfree'
  omega

/-- What the scan leaves of the rest of a text is what belongs to no occurrence that stands free in
the whole text. -/
theorem stripFrom_eq (hs : s = pre ++ rest)
    (hfree : free = pre.getLast?.all fun c => !isNameChar c)
    (hscan : Scanning s pre.length skip) :
    stripFrom free skip rest =
      ((rest.zipIdx pre.length).filter fun p => !isDeleted s p.2).map Prod.fst := by
  -- the text is kept whole while the scan moves characters from the rest to what lies behind it
  induction rest generalizing pre free skip with
  | nil => rfl
  | cons c rest ih =>
    have hs' : s = (pre ++ [c]) ++ rest := by simp [hs]
    have hlength : (pre ++ [c]).length = pre.length + 1 := by simp
    have hnext : endsName c = (pre ++ [c]).getLast?.all fun c => !isNameChar c := by
      simp [endsName_eq]
    rw [List.zipIdx_cons]
    cases skip with
    | succ skip =>
      rw [List.filter_cons_of_neg (by simp [hscan.isDeleted_of_skip]), ← hlength]
      exact ih hs' hnext (hlength ▸ hscan.pass)
    | zero =>
      have hdeleted := hscan.isDeleted_eq
      cases hstands : standsFree s pre.length with
      | true =>
        have hfound := (standsFree_iff_of_append hs).1 hstands
        rw [hstands] at hdeleted
        rw [List.filter_cons_of_neg (by simp [hdeleted]), stripFrom, hfree, hfound.1, hfound.2,
          ← hlength]
        exact ih hs' hnext (hlength ▸ hscan.found hstands)
      | false =>
        have hnot : ¬ (free && builtins.isPrefixOf (c :: rest)) = true := by
          intro h
          rw [Bool.and_eq_true] at h
          have hfound := (standsFree_iff_of_append hs).2 ⟨h.2, hfree ▸ h.1⟩
          rw [hstands] at hfound
          cases hfound
        rw [hstands] at hdeleted
        rw [List.filter_cons_of_pos (by simp [hdeleted]), stripFrom, if_neg hnot, List.map_cons,
          ← hlength]
        exact congrArg (c :: ·) (ih hs' hnext (hlength ▸ hscan.keep hstands))

theorem strip_eq_withoutBuiltins (s : List Char) : strip s = withoutBuiltins s := by
  have hstart : s = [] ++ s := rfl
  exact stripFrom_eq hstart rfl (Scanning.start s)

/-! ### Names -/

/-- Behind a character of a name nothing stands free. -/
theorem stripFrom_of_name (h : ∀ c ∈ s, isNameChar c = true) (skip : Nat) :
    stripFrom false skip s = s.drop skip := by
  induction s generalizing skip with
  | nil => simp [stripFrom]
  | cons c s ih =>
    have hends : endsName c = false := by simp [endsName_eq, h c]
    have hrest := ih fun c hc => h c (List.mem_cons_of_mem _ hc)
    cases skip with
    | zero => simp [stripFrom, hends, hrest]
    | succ skip => simp [stripFrom, hends, hrest]

theorem strip_of_name (h : ∀ c ∈ s, isNameChar c = true) : strip s = unqualified s := by
  cases s with
  | nil => rfl
  | cons c s =>
    have hends : endsName c = false := by simp [endsName_eq, h c]
    have hrest := stripFrom_of_name fun c hc => h c (List.mem_cons_of_mem _ hc)
    rw [strip, stripFrom, unqualified, hends, hrest, hrest, Bool.true_and, List.drop_zero]
    rfl

/-- The text of a type, or of any value, is shown without exactly those characters that belong to an
occurrence of the module's name at the start or behind a character that no name holds.  A text that
is a name is shown as a symbol of that full name is. -/
theorem typeText_deletes_free {p : Program} {type : Option NodeId} {t : Node} {text : String}
    (ht : p.node? type = some t) (htext : t.written = .str text) :
    p.typeText type = .ok (withoutBuiltins text.toList) ∧
    (∀ v, stripValue v = String.ofList (withoutBuiltins v.display.toList)) ∧
    ((∀ c ∈ text.toList, isNameChar c = true) →
      unqualifiedValue (.str text) = (p.typeText type).map String.ofList) := by
  have hrun : p.typeText type = .ok (strip text.toList) := by
    simp only [Program.typeText, ht, htext, Json.expectText, bind, Except.bind, pure, Except.pure]
  refine ⟨by rw [hrun, strip_eq_withoutBuiltins], fun v => ?_, fun hname => ?_⟩
  · rw [stripValue, strip_eq_withoutBuiltins]
  · rw [hrun, strip_of_name hname]
    rfl

/-- The module's name goes at the start and behind a bracket, and stays behind a dot and within a
longer name; a full name loses it once. -/
theorem typeText_deletes_free_nested :
    let text := "builtins.dict[builtins.str, builtins.builtins.x, my_builtins.y]"
    let name := "builtins.builtins.x"
    let p : Program := { nodes := #[{ shape := .otherType, written := .str text },
      { shape := .otherType, written := .str name }] }
    p.typeText (some 0) = .ok "dict[str, builtins.x, my_builtins.y]".toList ∧
    p.typeText (some 1) = .ok "builtins.x".toList ∧
    unqualifiedValue (.str name) = (p.typeText (some 1)).map String.ofList := by
  intro text name p
  have htext : withoutBuiltins text.toList = "dict[str, builtins.x, my_builtins.y]".toList := by
    decide +kernel
  have hname : withoutBuiltins name.toList = "builtins.x".toList := by decide +kernel
  have hchars : ∀ c ∈ name.toList, isNameChar c = true := List.all_eq_true.mp (by decide)
  rw [← htext, ← hname]
  have hfirst : p.node? (some 0) = some { shape := .otherType, written := .str text } := rfl
  have hsecond : p.node? (some 1) = some { shape := .otherType, written := .str name } := rfl
  obtain ⟨hdeleted, -, -⟩ := typeText_deletes_free hfirst rfl
  obtain ⟨hshown, -, hsame⟩ := typeText_deletes_free hsecond rfl
  exact ⟨hdeleted, hshown, hsame hchars⟩

end LangServer.Hover
