import LangServer.Diagnostic
import Mathlib.Data.List.Induction
import Mathlib.Data.List.Nodup
import Mathlib.Tactic.Tauto

/-!
# What a report holds of an output

The findings of an output are those of its lines that have the form of a finding.  A report of the
output has the paths of these findings, each with at least one diagnostic.  It groups the
diagnostics of the findings by their paths, and it fails where one of the findings has no
diagnostic.

Main statements: `Report.inhabited_of_ofText`, `Report.mem_paths_of_ofText`, `Report.ofText_eq`.
-/

namespace LangServer

/-- The findings among some lines. -/
def Finding.among (lines : List (List Char)) : List Finding :=
  lines.filterMap Finding.read?

/-- The findings of an output of the checker. -/
def Finding.ofOutput (output : List Char) : List Finding :=
  Finding.among ((Text.splitLines output).map Text.chomp)

theorem Finding.among_cons_of_none {l : List Char} (h : Finding.read? l = none)
    (ls : List (List Char)) : Finding.among (l :: ls) = Finding.among ls := by
  simp only [Finding.among, List.filterMap_cons, h]

theorem Finding.among_cons_of_some {l : List Char} {f : Finding} (h : Finding.read? l = some f)
    (ls : List (List Char)) : Finding.among (l :: ls) = f :: Finding.among ls := by
  simp only [Finding.among, List.filterMap_cons, h]

/-- A line gives no diagnostic, or that of the finding it reports. -/
theorem Diagnostic.ofLine_cases {l : List Char} {found : Option (String × Diagnostic)}
    (h : Diagnostic.ofLine l = .ok found) :
    (Finding.read? l = none ∧ found = none) ∨
      ∃ f d, Finding.read? l = some f ∧ found = some (String.ofList f.path, d) := by
  unfold Diagnostic.ofLine at h
  cases hf : Finding.read? l with
  | none =>
    rw [hf] at h
    exact .inl ⟨rfl, (Except.ok.inj h).symm⟩
  | some f =>
    rw [hf] at h
    cases hd : Diagnostic.ofFinding f with
    | error e => simp [hd, Except.map] at h
    | ok d =>
      simp only [hd, Except.map] at h
      exact .inr ⟨f, d, rfl, (Except.ok.inj h).symm⟩

namespace Report

/-- The paths of a report, in its order. -/
def paths (r : Report) : List String :=
  r.map Prod.fst

/-- No path of a report is without diagnostics. -/
def Inhabited (r : Report) : Prop :=
  ∀ e ∈ r, e.2 ≠ []

/-! ### Adding a diagnostic -/

theorem mem_paths_add (path p : String) (d : Diagnostic) (r : Report) :
    p ∈ (r.add path d).paths ↔ p ∈ r.paths ∨ p = path := by
  induction r with
  | nil => simp [add, paths]
  | cons e rest ih =>
    by_cases he : e.1 = path
    · simp only [add, he, ↓reduceIte, paths, List.map_cons, List.mem_cons]
      tauto
    · simp only [add, he, ↓reduceIte, paths, List.map_cons, List.mem_cons]
      simp only [paths] at ih
      rw [ih, or_assoc]

theorem inhabited_add {r : Report} (h : r.Inhabited) (path : String) (d : Diagnostic) :
    (r.add path d).Inhabited := by
  induction r with
  | nil => simp [add, Inhabited]
  | cons e rest ih =>
    have hrest : Inhabited rest := fun x hx => h x (List.mem_cons_of_mem _ hx)
    intro x hx
    by_cases he : e.1 = path
    · simp only [add, he, ↓reduceIte, List.mem_cons] at hx
      rcases hx with rfl | hx
      · simp
      · exact hrest x hx
    · simp only [add, he, ↓reduceIte, List.mem_cons] at hx
      rcases hx with rfl | hx
      · exact h _ List.mem_cons_self
      · exact ih hrest x hx

/-! ### Adding lines -/

theorem inhabited_addLines {r r' : Report} {ls : List (List Char)} (h : r.Inhabited)
    (hr : r.addLines ls = .ok r') : r'.Inhabited := by
  induction ls generalizing r with
  | nil =>
    have heq : r = r' := Except.ok.inj hr
    exact heq ▸ h
  | cons l ls ih =>
    simp only [addLines] at hr
    cases hl : Diagnostic.ofLine l with
    | error e => simp [hl, bind, Except.bind] at hr
    | ok found =>
      simp only [hl, bind, Except.bind] at hr
      cases found with
      | none => exact ih h hr
      | some e => exact ih (inhabited_add h e.1 e.2) hr

theorem mem_paths_addLines {r r' : Report} {ls : List (List Char)} (hr : r.addLines ls = .ok r')
    (p : String) :
    p ∈ r'.paths ↔ p ∈ r.paths ∨ ∃ f ∈ Finding.among ls, String.ofList f.path = p := by
  induction ls generalizing r with
  | nil =>
    have heq : r = r' := Except.ok.inj hr
    simp [heq, Finding.among]
  | cons l ls ih =>
    simp only [addLines] at hr
    cases hl : Diagnostic.ofLine l with
    | error e => simp [hl, bind, Except.bind] at hr
    | ok found =>
      simp only [hl, bind, Except.bind] at hr
      rcases Diagnostic.ofLine_cases hl with ⟨hnone, rfl⟩ | ⟨f, d, hsome, rfl⟩
      · rw [ih hr, Finding.among_cons_of_none hnone]
      · rw [ih hr, Finding.among_cons_of_some hsome, mem_paths_add]
        simp only [List.mem_cons, exists_eq_or_imp, or_assoc, @eq_comm _ p]

theorem addLines_of_among_eq_nil (r : Report) {ls : List (List Char)}
    (h : Finding.among ls = []) : r.addLines ls = .ok r := by
  induction ls with
  | nil => rfl
  | cons l ls ih =>
    cases hl : Finding.read? l with
    | none =>
      rw [Finding.among_cons_of_none hl] at h
      have hline : Diagnostic.ofLine l = .ok none := by rw [Diagnostic.ofLine, hl]
      rw [addLines, hline]
      exact ih h
    | some f =>
      rw [Finding.among_cons_of_some hl] at h
      cases h

/-! ### Reports of an output -/

theorem inhabited_of_ofText {output : List Char} {r : Report} (h : ofText output = .ok r) :
    r.Inhabited :=
  inhabited_addLines (fun _ he => absurd he List.not_mem_nil) h

/-- The paths of a report are those of the findings of its output. -/
theorem mem_paths_of_ofText {output : List Char} {r : Report} (h : ofText output = .ok r)
    (p : String) : p ∈ r.paths ↔ ∃ f ∈ Finding.ofOutput output, String.ofList f.path = p := by
  rw [mem_paths_addLines h]
  simp [paths, Finding.ofOutput]

theorem ofText_of_ofOutput_eq_nil {output : List Char} (h : Finding.ofOutput output = []) :
    ofText output = .ok [] :=
  addLines_of_among_eq_nil [] h

/-! ### Grouping -/

/-- The diagnostics that some entries have for a path. -/
def valuesOf (es : List (String × Diagnostic)) (path : String) : List Diagnostic :=
  (es.filter (·.1 = path)).map Prod.snd

/-- Each path of some entries in the order of first appearance, with its diagnostics. -/
def group (es : List (String × Diagnostic)) : Report :=
  (es.map Prod.fst).eraseDups.map fun path => (path, valuesOf es path)

theorem eraseDups_append_singleton (ks : List String) (k : String) :
    (ks ++ [k]).eraseDups = if k ∈ ks then ks.eraseDups else ks.eraseDups ++ [k] := by
  rw [List.eraseDups_append]
  by_cases hk : k ∈ ks
  · simp [List.removeAll, hk]
  · simp [List.removeAll, hk, List.eraseDups_cons]

theorem nodup_eraseDups (ks : List String) : ks.eraseDups.Nodup := by
  induction ks using List.reverseRecOn with
  | nil => exact List.nodup_nil
  | append_singleton ks k ih =>
    rw [eraseDups_append_singleton]
    by_cases hk : k ∈ ks
    · rw [if_pos hk]
      exact ih
    · rw [if_neg hk]
      refine List.nodup_append'.2 ⟨ih, List.nodup_singleton k, ?_⟩
      rw [List.disjoint_singleton]
      exact fun hmem => hk (List.mem_eraseDups.1 hmem)

theorem add_of_not_mem {r : Report} {path : String} (h : path ∉ r.paths) (d : Diagnostic) :
    r.add path d = r ++ [(path, [d])] := by
  induction r with
  | nil => rfl
  | cons e rest ih =>
    have hne : e.1 ≠ path := fun heq => h (by simp [paths, heq])
    have hrest : path ∉ paths rest := fun hmem => h (List.mem_cons_of_mem _ hmem)
    simp only [add, if_neg hne, ih hrest, List.cons_append]

theorem add_map {ks : List String} (hnodup : ks.Nodup) {k : String} (hk : k ∈ ks)
    (f : String → List Diagnostic) (d : Diagnostic) :
    add k d (ks.map fun path => (path, f path)) =
      ks.map fun path => (path, if path = k then f path ++ [d] else f path) := by
  induction ks with
  | nil => cases hk
  | cons x ks ih =>
    obtain ⟨hx, hks⟩ := List.nodup_cons.1 hnodup
    by_cases hxk : x = k
    · subst hxk
      have hsame : (ks.map fun path => (path, if path = x then f path ++ [d] else f path)) =
          ks.map fun path => (path, f path) := by
        refine List.map_congr_left fun path hpath => ?_
        have hne : path ≠ x := by
          rintro rfl
          exact hx hpath
        rw [if_neg hne]
      simp only [List.map_cons, add, if_true, hsame]
    · have hk' : k ∈ ks := by
        rcases List.mem_cons.1 hk with heq | hk
        · exact absurd heq.symm hxk
        · exact hk
      simp only [List.map_cons, add, if_neg hxk, ih hks hk']

theorem valuesOf_append_singleton (es : List (String × Diagnostic)) (e : String × Diagnostic)
    (path : String) :
    valuesOf (es ++ [e]) path =
      if path = e.1 then valuesOf es path ++ [e.2] else valuesOf es path := by
  by_cases hpath : path = e.1
  · simp [valuesOf, hpath]
  · simp [valuesOf, hpath, Ne.symm hpath]

theorem valuesOf_eq_nil {es : List (String × Diagnostic)} {path : String}
    (h : path ∉ es.map Prod.fst) : valuesOf es path = [] := by
  have hnone : es.filter (·.1 = path) = [] := by
    rw [List.filter_eq_nil_iff]
    intro e he
    simp only [decide_eq_true_eq]
    rintro rfl
    exact h (List.mem_map_of_mem he)
  rw [valuesOf, hnone]
  rfl

theorem group_append_singleton (es : List (String × Diagnostic)) (e : String × Diagnostic) :
    group (es ++ [e]) = (group es).add e.1 e.2 := by
  have hkeys : ((es ++ [e]).map Prod.fst).eraseDups =
      if e.1 ∈ es.map Prod.fst then (es.map Prod.fst).eraseDups
      else (es.map Prod.fst).eraseDups ++ [e.1] := by
    rw [List.map_append, List.map_singleton, eraseDups_append_singleton]
  simp only [group, hkeys, valuesOf_append_singleton]
  by_cases hold : e.1 ∈ es.map Prod.fst
  · -- A path that has appeared keeps its place and gets one more diagnostic.
    rw [if_pos hold, add_map (nodup_eraseDups _) (List.mem_eraseDups.2 hold)]
  · -- A new path goes behind the others, which stay as they are.
    have hnew : e.1 ∉ paths (group es) := by
      simpa [paths, group, Function.comp_def] using hold
    have hothers : ∀ path ∈ (es.map Prod.fst).eraseDups, path ≠ e.1 := by
      rintro path hpath rfl
      exact hold (List.mem_eraseDups.1 hpath)
    have hfirst : ((es.map Prod.fst).eraseDups.map fun path => (path,
        if path = e.1 then valuesOf es path ++ [e.2] else valuesOf es path)) =
        (es.map Prod.fst).eraseDups.map fun path => (path, valuesOf es path) := by
      refine List.map_congr_left fun path hpath => ?_
      rw [if_neg (hothers path hpath)]
    have hadd := add_of_not_mem hnew e.2
    rw [if_neg hold, List.map_append, hfirst, List.map_singleton, if_pos rfl,
      valuesOf_eq_nil hold]
    exact hadd.symm

theorem foldl_add (es : List (String × Diagnostic)) :
    es.foldl (fun (r : Report) e => r.add e.1 e.2) [] = group es := by
  induction es using List.reverseRecOn with
  | nil => rfl
  | append_singleton es e ih =>
    rw [List.foldl_append, List.foldl_cons, List.foldl_nil, ih, group_append_singleton]

end Report

/-- The path and the diagnostic of a finding. -/
def Finding.entry (f : Finding) : Outcome (String × Diagnostic) :=
  (Diagnostic.ofFinding f).map fun d => (String.ofList f.path, d)

namespace Report

theorem addLines_eq (r : Report) (ls : List (List Char)) :
    r.addLines ls = ((Finding.among ls).mapM Finding.entry).map
      fun es => es.foldl (fun (r : Report) e => r.add e.1 e.2) r := by
  induction ls generalizing r with
  | nil => rfl
  | cons l ls ih =>
    cases hl : Finding.read? l with
    | none =>
      have hline : Diagnostic.ofLine l = .ok none := by rw [Diagnostic.ofLine, hl]
      rw [Finding.among_cons_of_none hl, addLines, hline]
      exact ih r
    | some f =>
      have hline : Diagnostic.ofLine l = f.entry.map some := by
        simp only [Diagnostic.ofLine, hl, Finding.entry]
        cases Diagnostic.ofFinding f with
        | error e => rfl
        | ok d => rfl
      rw [Finding.among_cons_of_some hl, List.mapM_cons, addLines, hline]
      cases f.entry with
      | error e => rfl
      | ok e =>
        have hrest := ih (r.add e.1 e.2)
        simp only [Except.map, bind, Except.bind] at hrest ⊢
        rw [hrest]
        cases (Finding.among ls).mapM Finding.entry with
        | error e => rfl
        | ok es => rfl

/-- The report of an output groups the entries of its findings. -/
theorem ofText_eq (output : List Char) :
    ofText output = ((Finding.ofOutput output).mapM Finding.entry).map group := by
  have hlines : ofText output = addLines [] ((Text.splitLines output).map Text.chomp) := rfl
  rw [hlines, addLines_eq]
  simp only [foldl_add]
  rfl

end Report

end LangServer
