import LangServer.Proofs.Diagnostics.Staleness

/-!
# Paths that are spelled in several ways

The findings of an output are grouped by their paths as they are written, and the client keeps one
list for each URI.  Where two paths have the same URI, the list of the later path takes the place of
that of the earlier one.  So the client shows all diagnostics of a document exactly if all its
findings spell the path in the same way.

Main statement: `view_eq_iff_one_spelling`.
-/

namespace LangServer

/-! ### Entries of findings -/

namespace Finding

variable {f : Finding} {fs : List Finding} {es : List (String × Diagnostic)}

theorem mapM_entry_cons (h : (f :: fs).mapM entry = .ok es) :
    ∃ d rest, Diagnostic.ofFinding f = .ok d ∧ fs.mapM entry = .ok rest ∧
      es = (String.ofList f.path, d) :: rest := by
  rw [List.mapM_cons, entry] at h
  cases hd : Diagnostic.ofFinding f with
  | error e => simp [hd, Except.map, bind, Except.bind] at h
  | ok d =>
    cases hrest : fs.mapM entry with
    | error e => simp [hd, hrest, Except.map, bind, Except.bind] at h
    | ok rest =>
      simp only [hd, hrest, Except.map, bind, Except.bind] at h
      exact ⟨d, rest, rfl, rfl, (Except.ok.inj h).symm⟩

theorem map_fst_of_mapM_entry (h : fs.mapM entry = .ok es) :
    es.map Prod.fst = fs.map fun f => String.ofList f.path := by
  induction fs generalizing es with
  | nil =>
    have hnil : [] = es := Except.ok.inj h
    rw [← hnil, List.map_nil, List.map_nil]
  | cons f fs ih =>
    obtain ⟨d, rest, -, hrest, rfl⟩ := mapM_entry_cons h
    rw [List.map_cons, List.map_cons, ih hrest]

theorem mapM_entry_filter (h : fs.mapM entry = .ok es) (p : String → Bool) :
    (fs.filter fun f => p (String.ofList f.path)).mapM entry = .ok (es.filter fun e => p e.1) := by
  induction fs generalizing es with
  | nil =>
    have hnil : [] = es := Except.ok.inj h
    rw [← hnil]
    rfl
  | cons f fs ih =>
    obtain ⟨d, rest, hd, hrest, rfl⟩ := mapM_entry_cons h
    simp only [List.filter_cons]
    by_cases hp : p (String.ofList f.path) = true
    · rw [if_pos hp, if_pos hp, List.mapM_cons, ih hrest, entry, hd]
      rfl
    · rw [if_neg hp, if_neg hp, ih hrest]

theorem mapM_ofFinding (h : fs.mapM entry = .ok es) :
    fs.mapM Diagnostic.ofFinding = .ok (es.map Prod.snd) := by
  induction fs generalizing es with
  | nil =>
    have hnil : [] = es := Except.ok.inj h
    rw [← hnil]
    rfl
  | cons f fs ih =>
    obtain ⟨d, rest, hd, hrest, rfl⟩ := mapM_entry_cons h
    rw [List.mapM_cons, hd, ih hrest]
    rfl

end Finding

namespace Session

open ClientView

variable {m : Machine} {w : Workspace} {s s' : Session}

/-! ### What is shown for a document -/

/-- The findings of an output whose path has a URI. -/
def findingsAt (m : Machine) (w : Workspace) (output uri : String) : List Finding :=
  (Finding.ofOutput output.toList).filter fun f => uriOf m w (String.ofList f.path) = .ok uri

theorem filter_located {r : Report} (h : fault? m w r = none) (uri : String) :
    (located m w r).filter (·.1 = uri) =
      (r.filter fun e => uriOf m w e.1 = .ok uri).map fun e => (uri, e.2) := by
  induction r with
  | nil => rfl
  | cons e rest ih =>
    cases hu : uriOf m w e.1 with
    | error f => simp [fault?, hu] at h
    | ok u =>
      simp only [fault?, hu] at h
      have hrest := ih h
      by_cases heq : u = uri
      · simp [located, hu, heq, hrest]
      · simp [located, hu, heq, hrest]

theorem view_retracted_rebuilt {r : Report} (h : fault? m w r = none) (s : Session)
    (order : ClearOrder) (uri : String) :
    ((rebuilt m w r s).retracted (order.arrange (outdated m w r s))).view uri =
      ((r.filter fun e => uriOf m w e.1 = .ok uri).getLast?.map
        fun e => e.2.map Diagnostic.toJson).getD (if uri ∈ s.reported then [] else s.view uri) := by
  have hrebuilt : (rebuilt m w r s).view uri =
      ((r.filter fun e => uriOf m w e.1 = .ok uri).getLast?.map
        fun e => e.2.map Diagnostic.toJson).getD (s.view uri) := by
    rw [view_rebuilt, receiveAll_announcement, filter_located h, List.getLast?_map, Option.map_map]
    rfl
  have hcleared : uri ∈ order.arrange (outdated m w r s) ↔
      uri ∈ s.reported ∧ ¬ ∃ path ∈ r.paths, uriOf m w path = .ok uri := by
    rw [mem_arrange, mem_outdated, mem_reached_of_fault?_eq_none h]
  rw [view_retracted, receiveAll_retraction, hrebuilt]
  cases hlast : (r.filter fun e => uriOf m w e.1 = .ok uri).getLast? with
  | none =>
    -- No path of the report has the URI, so the document is cleared if it was remembered.
    have hnone : ∀ e ∈ r, uriOf m w e.1 ≠ .ok uri := by
      simpa [List.filter_eq_nil_iff] using hlast
    have hiff : uri ∈ order.arrange (outdated m w r s) ↔ uri ∈ s.reported := by
      rw [hcleared, and_iff_left]
      rintro ⟨path, hpath, hu⟩
      obtain ⟨e, he, rfl⟩ := List.mem_map.1 hpath
      exact hnone e he hu
    exact if_congr hiff rfl rfl
  | some e =>
    have he := List.mem_of_getLast? hlast
    rw [List.mem_filter, decide_eq_true_eq] at he
    have hkept : uri ∉ order.arrange (outdated m w r s) := fun hmem =>
      (hcleared.1 hmem).2 ⟨e.1, List.mem_map_of_mem he.1, he.2⟩
    rw [if_neg hkept]
    rfl

/-- After a call that returns, a document without findings is cleared if it was remembered and left
as it is if not, and any other has the diagnostics of one of the paths that have its URI. -/
theorem view_publish {output : String} {order : ClearOrder} (hopen : s.closed = false)
    (hrun : publish m w (.str output) order s = (.ok (), s')) (uri : String) :
    ∃ es, (Finding.ofOutput output.toList).mapM Finding.entry = .ok es ∧
      ((findingsAt m w output uri = [] ∧
          s'.view uri = if uri ∈ s.reported then [] else s.view uri) ∨
        ∃ f ∈ findingsAt m w output uri,
          s'.view uri = (Report.valuesOf es (String.ofList f.path)).map Diagnostic.toJson) := by
  obtain ⟨r, hr, hf, rfl⟩ := publish_eq_ok hopen hrun
  rw [Report.ofText_eq] at hr
  obtain ⟨es, hes, rfl⟩ : ∃ es, (Finding.ofOutput output.toList).mapM Finding.entry = .ok es ∧
      Report.group es = r := by
    cases hes : (Finding.ofOutput output.toList).mapM Finding.entry with
    | error f => simp [hes, Except.map] at hr
    | ok es => exact ⟨es, rfl, Except.ok.inj (by rw [hes] at hr; exact hr)⟩
  have hpaths := Finding.map_fst_of_mapM_entry hes
  have hgroup : ((Report.group es).filter fun e => uriOf m w e.1 = .ok uri).getLast? =
      ((es.map Prod.fst).eraseDups.filter fun path => uriOf m w path = .ok uri).getLast?.map
        fun path => (path, Report.valuesOf es path) := by
    rw [Report.group, List.filter_map, List.getLast?_map]
    rfl
  refine ⟨es, hes, ?_⟩
  rw [view_retracted_rebuilt hf, hgroup]
  cases hlast : ((es.map Prod.fst).eraseDups.filter
      fun path => uriOf m w path = .ok uri).getLast? with
  | none =>
    refine .inl ⟨?_, rfl⟩
    rw [List.getLast?_eq_none_iff, List.filter_eq_nil_iff, hpaths] at hlast
    rw [findingsAt, List.filter_eq_nil_iff]
    intro f hfind
    exact hlast _ (List.mem_eraseDups.2 (List.mem_map_of_mem hfind))
  | some path =>
    have hpath := List.mem_of_getLast? hlast
    rw [List.mem_filter, List.mem_eraseDups, hpaths] at hpath
    obtain ⟨f, hfind, rfl⟩ := List.mem_map.1 hpath.1
    exact .inr ⟨f, List.mem_filter.2 ⟨hfind, hpath.2⟩, rfl⟩

/-! ### One spelling -/

theorem map_valuesOf_eq_iff {es : List (String × Diagnostic)} {path uri : String}
    (h : uriOf m w path = .ok uri) (toJson : Diagnostic → Json) :
    (Report.valuesOf es path).map toJson =
        ((es.filter fun e => uriOf m w e.1 = .ok uri).map Prod.snd).map toJson ↔
      ∀ e ∈ es, uriOf m w e.1 = .ok uri → e.1 = path := by
  have hvalues : Report.valuesOf es path =
      ((es.filter fun e => uriOf m w e.1 = .ok uri).filter (·.1 = path)).map Prod.snd := by
    rw [List.filter_filter, Report.valuesOf]
    congr 1
    refine List.filter_congr fun e _ => ?_
    by_cases he : e.1 = path
    · simp [he, h]
    · simp [he]
  have hmem : (∀ e ∈ es, uriOf m w e.1 = .ok uri → e.1 = path) ↔
      ∀ e ∈ es.filter fun e => uriOf m w e.1 = .ok uri, decide (e.1 = path) = true := by
    simp only [List.mem_filter, decide_eq_true_eq, and_imp]
  rw [hvalues, hmem, ← List.filter_eq_self]
  constructor
  · -- A list keeps its length under the filter only if it keeps all its members.
    intro hsame
    have hlength := congrArg List.length hsame
    simp only [List.length_map] at hlength
    exact List.filter_sublist.eq_of_length hlength
  · intro hall
    rw [hall]

theorem forall_mem_findingsAt_iff {output : String} {es : List (String × Diagnostic)}
    (h : (Finding.ofOutput output.toList).mapM Finding.entry = .ok es) (uri path : String) :
    (∀ e ∈ es, uriOf m w e.1 = .ok uri → e.1 = path) ↔
      ∀ f ∈ findingsAt m w output uri, String.ofList f.path = path := by
  have hpaths := Finding.map_fst_of_mapM_entry h
  calc (∀ e ∈ es, uriOf m w e.1 = .ok uri → e.1 = path)
      ↔ ∀ p ∈ es.map Prod.fst, uriOf m w p = .ok uri → p = path := by
        rw [List.forall_mem_map]
    _ ↔ ∀ f ∈ findingsAt m w output uri, String.ofList f.path = path := by
        rw [hpaths, List.forall_mem_map]
        simp only [findingsAt, List.mem_filter, decide_eq_true_eq, and_imp]

/-- After a call that returns, the client shows the diagnostics of all findings for a document if
and only if these findings spell their path in one way and, where there are none, a document that
was shown was remembered.  If there are findings, those of one spelling are shown. -/
theorem view_eq_iff_one_spelling {output : String} {order : ClearOrder} (hopen : s.closed = false)
    (hrun : publish m w (.str output) order s = (.ok (), s')) (uri : String) :
    (∃ ds, (findingsAt m w output uri).mapM Diagnostic.ofFinding = .ok ds ∧
      (s'.view uri = ds.map Diagnostic.toJson ↔
        (∀ f ∈ findingsAt m w output uri, ∀ g ∈ findingsAt m w output uri, f.path = g.path) ∧
        (findingsAt m w output uri = [] → s.view.Shows uri → uri ∈ s.reported))) ∧
    (findingsAt m w output uri ≠ [] →
      ∃ f ∈ findingsAt m w output uri, ∃ ds,
        ((findingsAt m w output uri).filter (·.path = f.path)).mapM Diagnostic.ofFinding = .ok ds ∧
        s'.view uri = ds.map Diagnostic.toJson) := by
  obtain ⟨es, hes, hview⟩ := view_publish hopen hrun uri
  have hall : (findingsAt m w output uri).mapM Diagnostic.ofFinding =
      .ok ((es.filter fun e => uriOf m w e.1 = .ok uri).map Prod.snd) :=
    Finding.mapM_ofFinding
      (Finding.mapM_entry_filter hes fun path => uriOf m w path = .ok uri)
  rcases hview with ⟨hnone, hview⟩ | ⟨f, hf, hview⟩
  · refine ⟨⟨_, hall, ?_⟩, fun hsome => absurd hnone hsome⟩
    have hempty : (es.filter fun e => uriOf m w e.1 = .ok uri).map Prod.snd = [] := by
      rw [hnone] at hall
      exact (Except.ok.inj hall).symm
    rw [hview, hempty, hnone]
    by_cases hmem : uri ∈ s.reported
    · simp [hmem]
    · simp [hmem, ClientView.Shows]
  · have huri : uriOf m w (String.ofList f.path) = .ok uri := by
      simpa using (List.mem_filter.1 hf).2
    refine ⟨⟨_, hall, ?_⟩, fun _ => ⟨f, hf, _, ?_, hview⟩⟩
    · rw [hview, map_valuesOf_eq_iff huri, forall_mem_findingsAt_iff hes]
      constructor
      · intro hone
        refine ⟨fun g hg g' hg' => ?_, fun hnil => absurd hf (by simp [hnil])⟩
        exact String.ofList_injective ((hone g hg).trans (hone g' hg').symm)
      · intro hone g hg
        rw [hone.1 g hg f hf]
    · have hspelled : (findingsAt m w output uri).filter (·.path = f.path) =
          (Finding.ofOutput output.toList).filter
            fun g => String.ofList g.path = String.ofList f.path := by
        rw [findingsAt, List.filter_filter]
        refine List.filter_congr fun g _ => ?_
        by_cases hg : g.path = f.path
        · simp [hg, huri]
        · have hne : String.ofList g.path ≠ String.ofList f.path :=
            fun heq => hg (String.ofList_injective heq)
          simp [hg, hne]
      rw [hspelled]
      exact Finding.mapM_ofFinding
        (Finding.mapM_entry_filter hes fun path => path = String.ofList f.path)

theorem view_eq_interleaved :
    ∃ s' ds,
      publish {} (rootedAt "/w")
        (.str "a.py:1: error: x\nb.py:2: note: y\na.py:3: error: z") {} {} = (.ok (), s') ∧
      (findingsAt {} (rootedAt "/w") "a.py:1: error: x\nb.py:2: note: y\na.py:3: error: z"
        "file:///w/a.py").mapM Diagnostic.ofFinding = .ok ds ∧
      s'.view "file:///w/a.py" = ds.map Diagnostic.toJson := by
  have hrun := Step.eq_ok_of_fst (a := ()) (s := {}) (x := publish {} (rootedAt "/w")
    (.str "a.py:1: error: x\nb.py:2: note: y\na.py:3: error: z") {}) (by decide +kernel)
  obtain ⟨ds, hds, hiff⟩ := (view_eq_iff_one_spelling rfl hrun "file:///w/a.py").1
  exact ⟨_, ds, hrun, hds, hiff.2 ⟨by decide +kernel, fun hnil => absurd hnil (by decide +kernel)⟩⟩

/-- Two findings of one document, of which the client shows one. -/
theorem view_ne_two_spellings :
    ∃ s' ds,
      publish {} (rootedAt "/w") (.str "a.py:1: error: x\n/w/a.py:2: error: y") {} {} =
        (.ok (), s') ∧
      (findingsAt {} (rootedAt "/w") "a.py:1: error: x\n/w/a.py:2: error: y"
        "file:///w/a.py").mapM Diagnostic.ofFinding = .ok ds ∧
      s'.view "file:///w/a.py" ≠ ds.map Diagnostic.toJson := by
  have hrun := Step.eq_ok_of_fst (a := ()) (s := {}) (x := publish {} (rootedAt "/w")
    (.str "a.py:1: error: x\n/w/a.py:2: error: y") {}) (by decide +kernel)
  have hall : ((findingsAt {} (rootedAt "/w") "a.py:1: error: x\n/w/a.py:2: error: y"
      "file:///w/a.py").mapM Diagnostic.ofFinding).toOption.map List.length = some 2 := by
    decide +kernel
  have hshown : ((publish {} (rootedAt "/w") (.str "a.py:1: error: x\n/w/a.py:2: error: y") {}
      {}).2.view "file:///w/a.py").length = 1 := by decide +kernel
  cases hds : (findingsAt {} (rootedAt "/w") "a.py:1: error: x\n/w/a.py:2: error: y"
      "file:///w/a.py").mapM Diagnostic.ofFinding with
  | error f =>
    rw [hds] at hall
    cases hall
  | ok ds =>
    refine ⟨_, ds, hrun, rfl, fun hsame => ?_⟩
    rw [hds] at hall
    have htwo : ds.length = 2 := Option.some.inj hall
    rw [hsame, List.length_map, htwo] at hshown
    cases hshown

end Session

end LangServer
