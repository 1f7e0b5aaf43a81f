import LangServer.Proofs.Diagnostics.Publish
import Mathlib.Data.List.Induction

/-!
# Diagnostics do not go stale

A session remembers the documents for which it has published diagnostics.  As long as every call
comes to its end, these are at any time the documents for which the client shows diagnostics, and
they are the documents of the findings of the latest output.

A call that stops on its way through a report has already forgotten what was remembered before.  The
client may then show diagnostics that no later call clears; the last part of this module says
exactly when.

Main statements: `shows_iff_reported_of_publishAll`, `remembers_throughout_iff`.
-/

namespace LangServer.Session

open ClientView

variable {m : Machine} {w : Workspace} {s s' : Session}

/-- An output that is published, and the order in which outdated documents are cleared. -/
structure Publication where
  output : String
  order : ClearOrder := {}

/-- A session that can send and has published nothing. -/
structure IsNew (s : Session) : Prop where
  isOpen : s.closed = false
  reported : s.reported = []
  view : ∀ uri, ¬ s.view.Shows uri

/-- The remembered documents are those for which the client shows diagnostics. -/
structure IsAccurate (s : Session) : Prop where
  isOpen : s.closed = false
  shows_iff : ∀ uri, s.view.Shows uri ↔ uri ∈ s.reported

theorem IsNew.isAccurate (h : s.IsNew) : s.IsAccurate where
  isOpen := h.isOpen
  shows_iff uri := by simp [h.view uri, h.reported]

/-! ### Calls that come to their end -/

/-- Publishes outputs one after the other. -/
def publishAll (m : Machine) (w : Workspace) : List Publication → Run Unit
  | [] => pure ()
  | p :: ps => do
    publish m w (.str p.output) p.order
    publishAll m w ps

theorem publish_eq_ok {output : String} {order : ClearOrder} (hopen : s.closed = false)
    (h : publish m w (.str output) order s = (.ok (), s')) :
    ∃ r, Report.ofText output.toList = .ok r ∧ fault? m w r = none ∧
      s' = (rebuilt m w r s).retracted (order.arrange (outdated m w r s)) := by
  rcases publish_cases hopen m w output order with
    ⟨f, -, hrun⟩ | ⟨r, f, -, -, hrun⟩ | ⟨r, hr, hf, hrun⟩
  · rw [hrun] at h
    cases (Prod.mk.inj h).1
  · rw [hrun] at h
    cases (Prod.mk.inj h).1
  · rw [hrun] at h
    exact ⟨r, hr, hf, (Prod.mk.inj h).2.symm⟩

theorem mem_arrange (order : ClearOrder) (uris : List String) (uri : String) :
    uri ∈ order.arrange uris ↔ uri ∈ uris :=
  (order.perm uris).mem_iff

theorem shows_retracted_rebuilt {r : Report} (h : r.Inhabited) (m : Machine) (w : Workspace)
    (s : Session) (order : ClearOrder) (uri : String) :
    ((rebuilt m w r s).retracted (order.arrange (outdated m w r s))).view.Shows uri ↔
      uri ∈ reached m w r ∨ (s.view.Shows uri ∧ uri ∉ s.reported) := by
  rw [shows_retracted, mem_arrange, mem_outdated, shows_rebuilt h]
  tauto

theorem IsAccurate.publish {output : String} {order : ClearOrder} (h : s.IsAccurate)
    (hrun : Session.publish m w (.str output) order s = (.ok (), s')) : s'.IsAccurate := by
  obtain ⟨r, hr, -, rfl⟩ := publish_eq_ok h.isOpen hrun
  refine ⟨h.isOpen, fun uri => ?_⟩
  have hreported : uri ∈ ((rebuilt m w r s).retracted (order.arrange (outdated m w r s))).reported ↔
      uri ∈ reached m w r := mem_reported_rebuilt m w r s uri
  rw [shows_retracted_rebuilt (Report.inhabited_of_ofText hr), hreported, h.shows_iff uri]
  tauto

theorem IsAccurate.publishAll {ps : List Publication} (h : s.IsAccurate)
    (hrun : Session.publishAll m w ps s = (.ok (), s')) : s'.IsAccurate := by
  induction ps generalizing s with
  | nil =>
    have hsame : s = s' := (Prod.mk.inj hrun).2
    exact hsame ▸ h
  | cons p ps ih =>
    rw [Session.publishAll] at hrun
    rcases hp : Session.publish m w (.str p.output) p.order s with ⟨_ | u, t⟩
    · rw [Step.bind_of_error hp] at hrun
      cases (Prod.mk.inj hrun).1
    · rw [Step.bind_of_ok hp] at hrun
      exact ih (h.publish hp) hrun

theorem mem_reported_of_publish {output : String} {order : ClearOrder} (hopen : s.closed = false)
    (hrun : publish m w (.str output) order s = (.ok (), s')) (uri : String) :
    uri ∈ s'.reported ↔
      ∃ f ∈ Finding.ofOutput output.toList, uriOf m w (String.ofList f.path) = .ok uri := by
  obtain ⟨r, hr, hf, rfl⟩ := publish_eq_ok hopen hrun
  have hreported : uri ∈ ((rebuilt m w r s).retracted (order.arrange (outdated m w r s))).reported ↔
      uri ∈ reached m w r := mem_reported_rebuilt m w r s uri
  rw [hreported, mem_reached_of_fault?_eq_none hf]
  simp only [Report.mem_paths_of_ofText hr]
  constructor
  · rintro ⟨path, ⟨f, hfind, rfl⟩, huri⟩
    exact ⟨f, hfind, huri⟩
  · rintro ⟨f, hfind, huri⟩
    exact ⟨_, ⟨f, hfind, rfl⟩, huri⟩

theorem retraction_mem_of_publish {output : String} {order : ClearOrder} (hopen : s.closed = false)
    (hrun : publish m w (.str output) order s = (.ok (), s')) :
    ∃ sent, s'.sent = s.sent ++ sent ∧
      ∀ uri, uri ∈ s.reported → uri ∉ s'.reported → retraction uri ∈ sent := by
  obtain ⟨r, hr, hf, rfl⟩ := publish_eq_ok hopen hrun
  refine ⟨(located m w r).map announcement ++
    (order.arrange (outdated m w r s)).map retraction, List.append_assoc _ _ _, ?_⟩
  intro uri hbefore hnow
  have hnow' : uri ∉ reached m w r := fun h => hnow ((mem_reported_rebuilt m w r s uri).2 h)
  refine List.mem_append_right _ (List.mem_map_of_mem ?_)
  rw [mem_arrange, mem_outdated]
  exact ⟨hbefore, hnow'⟩

/-- After every call of a run in which all calls come to their end, whatever the order of clearing:
the client shows diagnostics for the remembered documents and no other, these are the documents of
the findings of the latest output, and each document that lost its diagnostics was sent an empty
list. -/
theorem shows_iff_reported_of_publishAll {s₀ : Session} (hnew : s₀.IsNew)
    (earlier : List Publication) (latest : Publication)
    (hearlier : publishAll m w earlier s₀ = (.ok (), s))
    (hlatest : publish m w (.str latest.output) latest.order s = (.ok (), s')) :
    (∀ uri, s'.view.Shows uri ↔ uri ∈ s'.reported) ∧
    (∀ uri, uri ∈ s'.reported ↔
      ∃ f ∈ Finding.ofOutput latest.output.toList, uriOf m w (String.ofList f.path) = .ok uri) ∧
    (∃ sent, s'.sent = s.sent ++ sent ∧
      ∀ uri, s.view.Shows uri → ¬ s'.view.Shows uri → retraction uri ∈ sent) := by
  have haccurate : s.IsAccurate := hnew.isAccurate.publishAll hearlier
  have haccurate' : s'.IsAccurate := haccurate.publish hlatest
  refine ⟨haccurate'.shows_iff, mem_reported_of_publish haccurate.isOpen hlatest, ?_⟩
  obtain ⟨sent, hsent, hcleared⟩ := retraction_mem_of_publish haccurate.isOpen hlatest
  refine ⟨sent, hsent, fun uri hbefore hnow => hcleared uri ?_ ?_⟩
  · exact (haccurate.shows_iff uri).1 hbefore
  · exact fun h => hnow ((haccurate'.shows_iff uri).2 h)

/-- A workspace under a path. -/
def rootedAt (path : String) : Workspace :=
  { rootUri := .str ("file://" ++ path), scheme := "file", rootPath := path }

/-- The order opposite to that of reporting. -/
def ClearOrder.backwards : ClearOrder where
  arrange := List.reverse
  perm := List.reverse_perm

theorem shows_iff_reported_two_outputs :
    ∃ s s' : Session,
      publishAll {} (rootedAt "/w") [⟨"a.py:1: error: x\nb.py:2: note: y", {}⟩] {} = (.ok (), s) ∧
      publish {} (rootedAt "/w") (.str "b.py:4:2: error: x") .backwards s = (.ok (), s') ∧
      s.view.Shows "file:///w/a.py" ∧ ¬ s'.view.Shows "file:///w/a.py" ∧
      s'.view.Shows "file:///w/b.py" := by
  have hnew : IsNew {} := ⟨rfl, rfl, fun _ h => h rfl⟩
  have hfirst := Step.eq_ok_of_fst (a := ()) (s := {}) (x := publishAll {} (rootedAt "/w")
    [⟨"a.py:1: error: x\nb.py:2: note: y", {}⟩]) (by decide +kernel)
  have hsecond := Step.eq_ok_of_fst (a := ()) (x := publish {} (rootedAt "/w")
    (.str "b.py:4:2: error: x") .backwards) (s := (publishAll {} (rootedAt "/w")
    [⟨"a.py:1: error: x\nb.py:2: note: y", {}⟩] {}).2) (by decide +kernel)
  have hshows := (shows_iff_reported_of_publishAll hnew _ ⟨_, .backwards⟩ hfirst hsecond).1
  refine ⟨_, _, hfirst, hsecond, by decide +kernel, ?_, ?_⟩
  · rw [hshows]
    decide +kernel
  · rw [hshows]
    decide +kernel

/-! ### Calls that may stop -/

/-- Every document for which the client shows diagnostics is remembered. -/
def Remembers (s : Session) : Prop :=
  ∀ uri, s.view.Shows uri → uri ∈ s.reported

/-- The session after some calls, of which any may have stopped with a fault. -/
def afterAll (m : Machine) (w : Workspace) (ps : List Publication) (s : Session) : Session :=
  ps.foldl (fun s p => (publish m w (.str p.output) p.order s).2) s

/-- A call that stops on its way through its report has reached all documents that are shown. -/
def ReachesShown (m : Machine) (w : Workspace) (s : Session) (p : Publication) : Prop :=
  ∀ r, Report.ofText p.output.toList = .ok r → fault? m w r ≠ none →
    ∀ uri, s.view.Shows uri → uri ∈ reached m w r

theorem afterAll_append_singleton (m : Machine) (w : Workspace) (ps : List Publication)
    (p : Publication) (s : Session) :
    afterAll m w (ps ++ [p]) s =
      (publish m w (.str p.output) p.order (afterAll m w ps s)).2 := by
  simp only [afterAll, List.foldl_append, List.foldl_cons, List.foldl_nil]

theorem closed_publish (hopen : s.closed = false) (m : Machine) (w : Workspace) (output : String)
    (order : ClearOrder) : (publish m w (.str output) order s).2.closed = false := by
  rcases publish_cases hopen m w output order with
    ⟨f, -, hrun⟩ | ⟨r, f, -, -, hrun⟩ | ⟨r, -, -, hrun⟩
  · rw [hrun]; exact hopen
  · rw [hrun]; exact hopen
  · rw [hrun]; exact hopen

theorem closed_afterAll (hopen : s.closed = false) (m : Machine) (w : Workspace)
    (ps : List Publication) : (afterAll m w ps s).closed = false := by
  induction ps using List.reverseRecOn with
  | nil => exact hopen
  | append_singleton ps p ih =>
    rw [afterAll_append_singleton]
    exact closed_publish ih m w p.output p.order

theorem remembers_publish_iff (hopen : s.closed = false) (h : s.Remembers) (m : Machine)
    (w : Workspace) (p : Publication) :
    (publish m w (.str p.output) p.order s).2.Remembers ↔ ReachesShown m w s p := by
  rcases publish_cases hopen m w p.output p.order with
    ⟨f, hr, hrun⟩ | ⟨r, f, hr, hf, hrun⟩ | ⟨r, hr, hf, hrun⟩
  · rw [hrun]
    constructor
    · intro _ r hr'
      rw [hr] at hr'
      cases hr'
    · exact fun _ => h
  · -- The call stops: what was remembered is gone, what was shown is still shown.
    have hinhabited := Report.inhabited_of_ofText hr
    rw [hrun]
    constructor
    · intro hafter r' hr' _ uri hshown
      obtain rfl : r = r' := Except.ok.inj (hr.symm.trans hr')
      exact (mem_reported_rebuilt m w r s uri).1
        (hafter uri ((shows_rebuilt hinhabited m w s uri).2 (.inr hshown)))
    · intro hreaches uri hshown
      refine (mem_reported_rebuilt m w r s uri).2 ?_
      rcases (shows_rebuilt hinhabited m w s uri).1 hshown with hreached | hbefore
      · exact hreached
      · exact hreaches r hr (by simp [hf]) uri hbefore
  · -- The call ends: a document outside the report was remembered, so it has been cleared.
    have hinhabited := Report.inhabited_of_ofText hr
    rw [hrun]
    constructor
    · intro _ r' hr' hstop
      obtain rfl : r = r' := Except.ok.inj (hr.symm.trans hr')
      exact absurd hf hstop
    · intro _ uri hshown
      refine (mem_reported_rebuilt m w r s uri).2 ?_
      rcases (shows_retracted_rebuilt hinhabited m w s p.order uri).1 hshown with hreached | hlost
      · exact hreached
      · exact absurd (h uri hlost.1) hlost.2

theorem remembers_of_isNew (h : s.IsNew) : s.Remembers :=
  fun uri hshown => absurd hshown (h.view uri)

theorem shows_publish_of_ofOutput_eq_nil (hopen : s.closed = false) (m : Machine) (w : Workspace)
    {p : Publication} (h : Finding.ofOutput p.output.toList = []) (uri : String) :
    (publish m w (.str p.output) p.order s).2.view.Shows uri ↔
      s.view.Shows uri ∧ uri ∉ s.reported := by
  have hempty : Report.ofText p.output.toList = .ok [] := Report.ofText_of_ofOutput_eq_nil h
  rcases publish_cases hopen m w p.output p.order with
    ⟨f, hr, -⟩ | ⟨r, f, hr, hf, -⟩ | ⟨r, hr, -, hrun⟩
  · rw [hempty] at hr
    cases hr
  · obtain rfl : [] = r := Except.ok.inj (hempty.symm.trans hr)
    cases hf
  · obtain rfl : [] = r := Except.ok.inj (hempty.symm.trans hr)
    rw [hrun, shows_retracted_rebuilt (Report.inhabited_of_ofText hr)]
    simp [reached, located]

/-- Along a run in which any call may stop, every shown document stays remembered exactly if each
call that stops on its way through its report has reached all documents shown by then.  And it is
exactly the remembered documents that a later output without findings clears. -/
theorem remembers_throughout_iff (hnew : s.IsNew) (m : Machine) (w : Workspace)
    (ps : List Publication) :
    ((∀ earlier, earlier <+: ps → (afterAll m w earlier s).Remembers) ↔
      ∀ earlier p, earlier ++ [p] <+: ps → ReachesShown m w (afterAll m w earlier s) p) ∧
    ∀ p : Publication, Finding.ofOutput p.output.toList = [] →
      ((afterAll m w ps s).Remembers ↔
        ∀ uri, ¬ (afterAll m w (ps ++ [p]) s).view.Shows uri) := by
  have hopen : ∀ earlier, (afterAll m w earlier s).closed = false :=
    closed_afterAll hnew.isOpen m w
  refine ⟨⟨?_, ?_⟩, ?_⟩
  · intro hall earlier p hp
    have hbefore := hall earlier ((List.prefix_append earlier [p]).trans hp)
    have hafter := hall _ hp
    rw [afterAll_append_singleton] at hafter
    exact (remembers_publish_iff (hopen earlier) hbefore m w p).1 hafter
  · intro hreaches earlier hearlier
    induction earlier using List.reverseRecOn with
    | nil => exact remembers_of_isNew hnew
    | append_singleton earlier p ih =>
      have hbefore := ih ((List.prefix_append earlier [p]).trans hearlier)
      rw [afterAll_append_singleton]
      exact (remembers_publish_iff (hopen earlier) hbefore m w p).2 (hreaches earlier p hearlier)
  · intro p hp
    rw [afterAll_append_singleton]
    simp only [shows_publish_of_ofOutput_eq_nil (hopen ps) m w hp, Remembers, not_and, not_not]

/-- The first call shows `a.py`.  The second stops at the path `//x`, which has no URI, and from
then on the first document is shown but not remembered. -/
theorem not_remembers_after_fault :
    ¬ (afterAll {} (rootedAt "/w")
      [⟨"a.py:1: error: x", {}⟩, ⟨"//x:1: error: y", {}⟩] {}).Remembers := by
  intro h
  have hreported := h "file:///w/a.py" (by decide +kernel)
  revert hreported
  decide +kernel

/-- The second call stops too, but only after it has reached the document that is shown. -/
theorem remembers_throughout_two_outputs :
    IsNew {} ∧ (afterAll {} (rootedAt "/w")
      [⟨"a.py:1: error: x", {}⟩, ⟨"a.py:2: error: x\n//x:1: error: y", {}⟩] {}).Remembers := by
  have hnew : IsNew {} := ⟨rfl, rfl, fun _ h => h rfl⟩
  refine ⟨hnew, (remembers_throughout_iff hnew {} (rootedAt "/w") _).1.2 ?_ _ (List.prefix_refl _)⟩
  intro earlier p hp r hr hstop uri hshown
  rcases earlier with _ | ⟨q, _ | ⟨q', earlier⟩⟩
  · exact absurd hshown (hnew.view uri)
  · simp only [List.cons_append, List.nil_append, List.cons_prefix_cons] at hp
    obtain ⟨rfl, rfl, -⟩ := hp
    have hfirst := Step.eq_ok_of_fst (a := ()) (s := {}) (x := publish {} (rootedAt "/w")
      (.str "a.py:1: error: x") {}) (by decide +kernel)
    have hreported := ((hnew.isAccurate.publish hfirst).shows_iff uri).1 hshown
    have hfile : (publish {} (rootedAt "/w") (.str "a.py:1: error: x") {} {}).2.reported =
        ["file:///w/a.py"] := by decide +kernel
    rw [hfile, List.mem_singleton] at hreported
    have hreach : (Report.ofText "a.py:2: error: x\n//x:1: error: y".toList).toOption.map
        (reached {} (rootedAt "/w")) = some ["file:///w/a.py"] := by decide +kernel
    rw [hr] at hreach
    simp [Option.some.inj hreach, hreported]
  · simp at hp

end LangServer.Session
