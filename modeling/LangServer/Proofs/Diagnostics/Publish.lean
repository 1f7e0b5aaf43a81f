import LangServer.Proofs.Diagnostics.ClientView
import LangServer.Proofs.Diagnostics.Report
import LangServer.Proofs.Step

/-!
# What publishing does to a session

Publishing an output forgets all documents, goes through the report path by path and stops at the
first path that has no URI.  The documents reached by then are remembered and announced.  If no path
stopped it, the documents that were remembered before and are not now are cleared.

`publish_cases` says so; the rest of the theory uses only this statement.
-/

namespace LangServer.Session

open ClientView

/-! ### The documents of a report -/

/-- The entries of a report under the URIs of their paths, up to the first path that has none. -/
def located (m : Machine) (w : Workspace) : Report → List (String × List Diagnostic)
  | [] => []
  | (path, ds) :: rest =>
    match uriOf m w path with
    | .ok uri => (uri, ds) :: located m w rest
    | .error _ => []

/-- The documents that a report reaches. -/
def reached (m : Machine) (w : Workspace) (r : Report) : List String :=
  (located m w r).map Prod.fst

/-- The fault of the first path that has no URI. -/
def fault? (m : Machine) (w : Workspace) : Report → Option Fault
  | [] => none
  | (path, _) :: rest =>
    match uriOf m w path with
    | .ok _ => fault? m w rest
    | .error f => some f

theorem ne_nil_of_mem_located {m : Machine} {w : Workspace} {r : Report} (h : r.Inhabited) :
    ∀ e ∈ located m w r, e.2 ≠ [] := by
  induction r with
  | nil => simp [located]
  | cons e rest ih =>
    intro x hx
    have hrest : Report.Inhabited rest := fun y hy => h y (List.mem_cons_of_mem _ hy)
    cases hu : uriOf m w e.1 with
    | error f => simp [located, hu] at hx
    | ok uri =>
      simp only [located, hu, List.mem_cons] at hx
      rcases hx with rfl | hx
      · exact h e List.mem_cons_self
      · exact ih hrest x hx

theorem mem_reached_of_fault?_eq_none {m : Machine} {w : Workspace} {r : Report}
    (h : fault? m w r = none) (uri : String) :
    uri ∈ reached m w r ↔ ∃ path ∈ r.paths, uriOf m w path = .ok uri := by
  induction r with
  | nil => simp [reached, located, Report.paths]
  | cons e rest ih =>
    cases hu : uriOf m w e.1 with
    | error f => simp [fault?, hu] at h
    | ok u =>
      simp only [fault?, hu] at h
      have hrest := ih h
      simp only [reached, Report.paths] at hrest
      simp only [reached, located, hu, Report.paths, List.map_cons, List.mem_cons, hrest,
        exists_eq_or_imp, Except.ok.injEq, @eq_comm _ uri]

/-! ### What is remembered -/

/-- The documents that are remembered once some more are reported. -/
def remember (reported uris : List String) : List String :=
  uris.foldl (fun rs uri => if rs.contains uri then rs else rs ++ [uri]) reported

theorem mem_remember (reported uris : List String) (uri : String) :
    uri ∈ remember reported uris ↔ uri ∈ reported ∨ uri ∈ uris := by
  induction uris generalizing reported with
  | nil => simp [remember]
  | cons u rest ih =>
    have hstep : remember reported (u :: rest) =
        remember (if reported.contains u then reported else reported ++ [u]) rest := rfl
    rw [hstep, ih]
    by_cases hu : u ∈ reported
    · simp only [List.contains_eq_mem, hu, decide_true, ↓reduceIte, List.mem_cons]
      constructor
      · tauto
      · rintro (h | rfl | h) <;> tauto
    · simp only [List.contains_eq_mem, hu, decide_false, Bool.false_eq_true, ↓reduceIte,
        List.mem_append, List.mem_cons, List.not_mem_nil, or_false, or_assoc]

/-! ### Going through a report -/

/-- The session after some entries are announced. -/
def announced (s : Session) (entries : List (String × List Diagnostic)) : Session :=
  { s with
    reported := remember s.reported (entries.map Prod.fst)
    sent := s.sent ++ entries.map announcement }

/-- The session after some documents are cleared. -/
def retracted (s : Session) (uris : List String) : Session :=
  { s with sent := s.sent ++ uris.map retraction }

theorem send_eq {s : Session} (h : s.closed = false) (message : Rpc.Message) :
    send message s = (.ok (), { s with sent := s.sent ++ [message] }) := by
  have hrun : send message s =
      (.ok (), if s.closed then s else { s with sent := s.sent ++ [message] }) := rfl
  rw [hrun, h]
  rfl

theorem publishFor_eq {s : Session} (h : s.closed = false) (uri : String) (ds : List Diagnostic) :
    publishFor uri ds s = (.ok (), s.announced [(uri, ds)]) := by
  have hrun : publishFor uri ds s =
      send (announcement (uri, ds)) { s with reported := remember s.reported [uri] } := rfl
  rw [hrun, send_eq (s := { s with reported := remember s.reported [uri] }) h]
  rfl

theorem announced_cons (s : Session) (e : String × List Diagnostic)
    (rest : List (String × List Diagnostic)) :
    (s.announced [e]).announced rest = s.announced (e :: rest) := by
  simp only [announced, remember, List.map_cons, List.map_nil, List.foldl_cons, List.foldl_nil,
    List.append_assoc, List.cons_append, List.nil_append]

theorem publishReport_eq {s : Session} (h : s.closed = false) (m : Machine) (w : Workspace)
    (r : Report) :
    publishReport m w r s =
      ((fault? m w r).elim (.ok ()) .error, s.announced (located m w r)) := by
  induction r generalizing s with
  | nil =>
    have hsame : s.announced [] = s := by simp [announced, remember]
    rw [located, hsame]
    rfl
  | cons e rest ih =>
    cases hu : uriOf m w e.1 with
    | error f =>
      have hstop : lift (uriOf m w e.1) s = (.error f, s) := by rw [hu]; rfl
      have hsame : s.announced [] = s := by simp [announced, remember]
      simp only [publishReport, fault?, located, hu, hsame]
      rw [← hu, Step.bind_of_error hstop]
      rfl
    | ok uri =>
      have hgo : lift (uriOf m w e.1) s = (.ok uri, s) := by rw [hu]; rfl
      simp only [publishReport, fault?, located, hu]
      rw [← hu, Step.bind_of_ok hgo, Step.bind_of_ok (publishFor_eq h uri e.2),
        ih (s := s.announced [(uri, e.2)]) h, announced_cons]

theorem clearAll_eq {s : Session} (h : s.closed = false) (uris : List String) :
    clearAll uris s = (.ok (), s.retracted uris) := by
  induction uris generalizing s with
  | nil =>
    have hsame : s.retracted [] = s := by simp [retracted]
    rw [hsame]
    rfl
  | cons uri rest ih =>
    have hfirst : clearFor uri s = (.ok (), s.retracted [uri]) := send_eq h (retraction uri)
    have hrest := ih (s := s.retracted [uri]) h
    rw [clearAll, Step.bind_of_ok hfirst, hrest]
    simp [retracted]

/-! ### A whole call -/

/-- The session after a report is gone through, with what was remembered before forgotten. -/
def rebuilt (m : Machine) (w : Workspace) (r : Report) (s : Session) : Session :=
  { s with reported := [] }.announced (located m w r)

/-- The documents that were remembered before and are not now. -/
def outdated (m : Machine) (w : Workspace) (r : Report) (s : Session) : List String :=
  s.reported.filter fun uri => !(rebuilt m w r s).reported.contains uri

/-- What a call can do: it fails before it changes anything, or it stops on its way through the
report, or it ends and clears what is outdated. -/
theorem publish_cases {s : Session} (h : s.closed = false) (m : Machine) (w : Workspace)
    (output : String) (order : ClearOrder) :
    (∃ f, Report.ofText output.toList = .error f ∧
      publish m w (.str output) order s = (.error f, s)) ∨
    (∃ r f, Report.ofText output.toList = .ok r ∧ fault? m w r = some f ∧
      publish m w (.str output) order s = (.error f, rebuilt m w r s)) ∨
    (∃ r, Report.ofText output.toList = .ok r ∧ fault? m w r = none ∧
      publish m w (.str output) order s =
        (.ok (), (rebuilt m w r s).retracted (order.arrange (outdated m w r s)))) := by
  unfold publish
  cases hr : Report.ofText output.toList with
  | error f =>
    have hstop : lift (Report.ofJson (.str output)) s = (.error f, s) := by
      rw [Report.ofJson, hr]; rfl
    exact .inl ⟨f, rfl, Step.bind_of_error hstop⟩
  | ok r =>
    have hgo : lift (Report.ofJson (.str output)) s = (.ok r, s) := by
      rw [Report.ofJson, hr]; rfl
    have hthrough := publishReport_eq (s := { s with reported := [] }) h m w r
    rw [Step.bind_of_ok hgo, Step.bind_of_ok (x := get) (s := s) rfl,
      Step.bind_of_ok (x := modify _) (s := s) rfl]
    cases hf : fault? m w r with
    | some f =>
      rw [hf] at hthrough
      exact .inr (.inl ⟨r, f, rfl, hf, Step.bind_of_error hthrough⟩)
    | none =>
      rw [hf] at hthrough
      rw [Step.bind_of_ok hthrough, Step.bind_of_ok (x := get) rfl]
      exact .inr (.inr ⟨r, rfl, hf, clearAll_eq (s := rebuilt m w r s) h _⟩)

/-! ### What the client shows afterwards -/

theorem mem_reported_rebuilt (m : Machine) (w : Workspace) (r : Report) (s : Session)
    (uri : String) : uri ∈ (rebuilt m w r s).reported ↔ uri ∈ reached m w r := by
  have hreported : (rebuilt m w r s).reported = remember [] (reached m w r) := rfl
  rw [hreported, mem_remember]
  simp

theorem view_rebuilt (m : Machine) (w : Workspace) (r : Report) (s : Session) :
    (rebuilt m w r s).view = s.view.receiveAll ((located m w r).map announcement) :=
  receiveAll_append _ _ _

theorem view_retracted (s : Session) (uris : List String) :
    (s.retracted uris).view = s.view.receiveAll (uris.map retraction) :=
  receiveAll_append _ _ _

theorem shows_rebuilt {r : Report} (h : r.Inhabited) (m : Machine) (w : Workspace) (s : Session)
    (uri : String) :
    (rebuilt m w r s).view.Shows uri ↔ uri ∈ reached m w r ∨ s.view.Shows uri := by
  rw [view_rebuilt, shows_receiveAll_announcement (ne_nil_of_mem_located h)]
  rfl

theorem shows_retracted (s : Session) (uris : List String) (uri : String) :
    (s.retracted uris).view.Shows uri ↔ uri ∉ uris ∧ s.view.Shows uri := by
  rw [view_retracted, shows_receiveAll_retraction]

theorem mem_outdated (m : Machine) (w : Workspace) (r : Report) (s : Session) (uri : String) :
    uri ∈ outdated m w r s ↔ uri ∈ s.reported ∧ uri ∉ reached m w r := by
  simp [outdated, List.mem_filter, mem_reported_rebuilt]

end LangServer.Session
