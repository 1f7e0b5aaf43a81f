import LangServer.Checker.Session
import LangServer.Proofs.Step

/-!
# What a check leaves as it is

A check sends reports and publishes diagnostics.  It does not touch the settings or the questions
that the client has still to answer, it asks no new one, and it neither starts a checker nor loses
one that has been started.  `Steady` says so.  `IsCheckFrame` lists the steps of which a check is
made; a relation that each of them keeps is kept by the whole check.

A check ends with a fault in one case only: the checker is one that can be told to report its
progress, and none has been started.

Main statements: `IsCheckFrame.check`, `steady_check`, `check_fst`.
-/

namespace LangServer

def Event.isStart : Event → Bool
  | .started _ => true
  | _ => false

/-- A message that asks the client for settings. -/
def Rpc.Message.isQuestion : Rpc.Message → Bool
  | .request _ method _ => method == "workspace/configuration"
  | _ => false

namespace Session

/-- How many checkers have been started. -/
def starts (s : Session) : Nat :=
  s.events.countP Event.isStart

/-- How many questions have been sent. -/
def questions (s : Session) : Nat :=
  s.sent.countP Rpc.Message.isQuestion

/-- Whether a checker has been started for the workspace of a number. -/
def isRunning (s : Session) (serial : Nat) : Bool :=
  (s.running.lookup serial).isSome

/-- The second session differs from the first in what a check may change. -/
structure Steady (s s' : Session) : Prop where
  settings : s'.settings = s.settings
  pending : s'.pending = s.pending
  requests : s'.requests = s.requests
  starts : s'.starts = s.starts
  questions : s'.questions = s.questions
  isRunning : ∀ serial, s'.isRunning serial = s.isRunning serial

theorem isFrame_steady : Step.IsFrame Steady where
  refl _ := ⟨rfl, rfl, rfl, rfl, rfl, fun _ => rfl⟩
  trans h h' := {
    settings := h'.settings.trans h.settings
    pending := h'.pending.trans h.pending
    requests := h'.requests.trans h.requests
    starts := h'.starts.trans h.starts
    questions := h'.questions.trans h.questions
    isRunning := fun serial => (h'.isRunning serial).trans (h.isRunning serial) }

theorem Steady.refl (s : Session) : Steady s s :=
  isFrame_steady.refl s

variable {m : Machine} {c : Checker} {w : Workspace} {s s' : Session}

/-! ### Single steps -/

theorem send_eq_ok (message : Rpc.Message) (s : Session) :
    send message s = (.ok (), (send message s).2) := rfl

theorem send_snd (message : Rpc.Message) (s : Session) :
    (send message s).2 = if s.closed then s else { s with sent := s.sent ++ [message] } := rfl

theorem attempt_eq {α : Type} (step : Run α) (s : Session) :
    attempt step s = (.ok (step s).1, (step s).2) := rfl

theorem steady_send {message : Rpc.Message} (h : message.isQuestion = false) :
    Step.Keeps Steady (send message) := by
  intro s
  rw [send_snd]
  split
  · exact Steady.refl s
  · refine ⟨rfl, rfl, rfl, rfl, ?_, fun _ => rfl⟩
    simp [questions, h]

theorem steady_tell (text : String) : Step.Keeps Steady (tell text) :=
  steady_send rfl

theorem steady_record {e : Event} (h : e.isStart = false) : Step.Keeps Steady (record e) := by
  intro s
  refine ⟨rfl, rfl, rfl, ?_, rfl, fun _ => rfl⟩
  have hevents : (record e s).2.events = s.events ++ [e] := rfl
  simp [starts, hevents, h]

theorem runningOf_eq_ok {r : Running} (h : s.running.lookup w.serial = some r) :
    runningOf w s = (.ok r, s) := by
  rw [runningOf, Step.get_bind, h]
  rfl

theorem runningOf_eq_error (h : s.running.lookup w.serial = none) :
    runningOf w s = (.error (.noAttribute "Workspace" "mypy_server"), s) := by
  rw [runningOf, Step.get_bind, h]
  rfl

theorem lookup_cons_of_ne {rs : List (Nat × Running)} {n k : Nat} (h : n ≠ k) (r : Running) :
    ((k, r) :: rs).lookup n = rs.lookup n := by
  have hne : (n == k) = false := by simpa using h
  rw [List.lookup_cons, hne]

theorem lookup_filter_ne {rs : List (Nat × Running)} {n k : Nat} (h : n ≠ k) :
    (rs.filter fun p => p.1 != k).lookup n = rs.lookup n := by
  induction rs with
  | nil => rfl
  | cons p rs ih =>
    obtain ⟨j, r⟩ := p
    by_cases hj : j = k
    · rw [List.filter_cons_of_neg (by simp [hj]), ih, hj, lookup_cons_of_ne h]
    · rw [List.filter_cons_of_pos (by simp [hj]), List.lookup_cons, List.lookup_cons, ih]

theorem isRunning_setRunning (w : Workspace) (r : Running) (s : Session) (serial : Nat) :
    (setRunning w r s).2.isRunning serial = (serial == w.serial || s.isRunning serial) := by
  have hrunning : (setRunning w r s).2.running =
      (w.serial, r) :: s.running.filter fun p => p.1 != w.serial := rfl
  rw [isRunning, hrunning]
  by_cases h : serial = w.serial
  · rw [h, List.lookup_cons_self]
    simp
  · rw [lookup_cons_of_ne h, lookup_filter_ne h]
    simp [h, isRunning]

theorem steady_setRunning (h : s.isRunning w.serial = true) (r : Running) :
    Steady s (setRunning w r s).2 := by
  refine ⟨rfl, rfl, rfl, rfl, rfl, fun serial => ?_⟩
  rw [isRunning_setRunning]
  by_cases hserial : serial = w.serial
  · simp [hserial, h]
  · simp [hserial]

/-! ### The parts of a check -/

section Frames

variable {R : Session → Session → Prop} (hframe : Step.IsFrame R)
include hframe

theorem keeps_lift {α : Type} (r : Outcome α) : Step.Keeps R (lift r) := by
  cases r with
  | ok a => exact hframe.refl
  | error f => exact hframe.refl

theorem keeps_runningOf (w : Workspace) : Step.Keeps R (runningOf w) := by
  intro s
  cases h : s.running.lookup w.serial with
  | some r =>
    rw [runningOf_eq_ok h]
    exact hframe.refl s
  | none =>
    rw [runningOf_eq_error h]
    exact hframe.refl s

theorem keeps_reportEach
    (hsend : ∀ text, Step.Keeps R (send (Workspace.reportProgress (.str text))))
    (ns : List Json) : Step.Keeps R (reportEach ns) := by
  induction ns with
  | nil => exact hframe.refl
  | cons n rest ih => exact hframe.bind (hsend _) fun _ => ih

theorem keeps_nextReply (hset : ∀ rest, Step.Keeps R (modify fun s => { s with replies := rest })) :
    Step.Keeps R nextReply := by
  refine hframe.bind hframe.get fun s => ?_
  cases s.replies with
  | nil => exact hframe.refl
  | cons r rest => exact hframe.bind (hset rest) fun _ => hframe.pure r

theorem keeps_tellResult (hfailed : ∀ text, Step.Keeps R (tell ("Error running mypy: " ++ text)))
    (haborted : Step.Keeps R (tell "Internal error running mypy. Open output pane for details."))
    (r : Except Fault Result) : Step.Keeps R (tellResult r) := by
  cases r with
  | error f => exact hfailed _
  | ok result =>
    cases result with
    | done => exact hframe.refl
    | failed text => exact hfailed _
    | aborted => exact haborted

/-- Publishing is made of messages with diagnostics and of changes to what is remembered. -/
theorem keeps_publish
    (hsend : ∀ uri ds, Step.Keeps R (send (Workspace.publishDiagnostics (.str uri) (.arr ds))))
    (hset : ∀ f : List String → List String,
      Step.Keeps R (modify fun s => { s with reported := f s.reported }))
    (m : Machine) (w : Workspace) (output : Json) (order : ClearOrder) :
    Step.Keeps R (publish m w output order) := by
  have hreport : ∀ r, Step.Keeps R (publishReport m w r) := by
    intro r
    induction r with
    | nil => exact hframe.refl
    | cons e rest ih =>
      refine hframe.bind (keeps_lift hframe _) fun uri => ?_
      have hremember := hset fun uris => if uris.contains uri then uris else uris ++ [uri]
      exact hframe.bind (hframe.bind hremember fun _ => hsend uri _) fun _ => ih
  have hclear : ∀ uris, Step.Keeps R (clearAll uris) := by
    intro uris
    induction uris with
    | nil => exact hframe.refl
    | cons uri rest ih => exact hframe.bind (hsend uri []) fun _ => ih
  refine hframe.bind (keeps_lift hframe _) fun report => ?_
  refine hframe.bind hframe.get fun before => ?_
  refine hframe.bind (hset fun _ => []) fun _ => ?_
  refine hframe.bind (hreport report) fun _ => ?_
  exact hframe.bind hframe.get fun now => hclear _

end Frames

theorem steady_lift {α : Type} (r : Outcome α) : Step.Keeps Steady (lift r) :=
  keeps_lift isFrame_steady r

/-! ### Checking -/

/-- A relation that every step within a check keeps.  A checker is set to report its progress, or
not to, only where it has been started. -/
structure IsCheckFrame (R : Session → Session → Prop) : Prop extends Step.IsFrame R where
  progress : ∀ v, Step.Keeps R (send (Workspace.reportProgress v))
  publication : ∀ uri ds, Step.Keeps R (send (Workspace.publishDiagnostics (.str uri) (.arr ds)))
  failed : ∀ text, Step.Keeps R (tell ("Error running mypy: " ++ text))
  aborted : Step.Keeps R (tell "Internal error running mypy. Open output pane for details.")
  checked : ∀ arguments, Step.Keeps R (record (.checked arguments))
  replies : ∀ rest, Step.Keeps R (modify fun s => { s with replies := rest })
  reported : ∀ f : List String → List String,
    Step.Keeps R (modify fun s => { s with reported := f s.reported })
  running : ∀ {w s} r, s.isRunning w.serial = true → R s (setRunning w r s).2

namespace IsCheckFrame

variable {R : Session → Session → Prop} (h : IsCheckFrame R)
include h

/-- What is set for a checker that has been started, before any step that keeps the relation. -/
theorem reset {α : Type} {f : Unit → Run α} (r : Running) (hf : ∀ u, Step.Keeps R (f u)) :
    Step.Keeps R (do let _ ← runningOf w; f (← setRunning w r)) := by
  intro s
  cases hlookup : s.running.lookup w.serial with
  | none =>
    rw [Step.bind_of_error (runningOf_eq_error hlookup)]
    exact h.refl s
  | some old =>
    have hrunning : s.isRunning w.serial = true := by simp [isRunning, hlookup]
    have hset : setRunning w r s = (.ok (), (setRunning w r s).2) := rfl
    rw [Step.bind_of_ok (runningOf_eq_ok hlookup), Step.bind_of_ok hset]
    exact h.trans (h.running r hrunning) (hf () _)

theorem takeIn (m : Machine) (w : Workspace) (result : List (String × Json)) :
    Step.Keeps R (takeIn m w result) := by
  have hframe := h.toIsFrame
  refine hframe.bind (keeps_lift hframe _) fun _ => ?_
  refine hframe.bind (keeps_lift hframe _) fun err => ?_
  refine hframe.bind_if (h.failed _) (fun _ => ?_) ()
  refine hframe.bind (keeps_lift hframe _) fun out => ?_
  have hpublish := keeps_publish hframe h.publication h.reported m w out {}
  exact hframe.bind hpublish fun _ => hframe.pure _

theorem runChecker (m : Machine) (c : Checker) (w : Workspace) :
    Step.Keeps R (runChecker m c w) := by
  have hframe := h.toIsFrame
  unfold Session.runChecker
  extract_lets rest
  have hrest : ∀ u, Step.Keeps R (rest u) := by
    intro _
    refine hframe.bind hframe.get fun s => ?_
    refine hframe.bind (keeps_lift hframe _) fun targets => ?_
    refine hframe.bind (keeps_runningOf hframe w) fun running => ?_
    refine hframe.bind (h.checked _) fun _ => ?_
    refine hframe.bind (keeps_nextReply hframe h.replies) fun reply => ?_
    refine hframe.bind_if (keeps_reportEach hframe (fun _ => h.progress _) _) (fun _ => ?_) ()
    cases reply.ending with
    | raised text => exact hframe.refl
    | exited => exact hframe.refl
    | finished result => exact h.takeIn m w result
  exact Step.Keeps.ite (fun _ => h.reset _ hrest) fun _ => hrest ()

end IsCheckFrame

theorem isCheckFrame_steady : IsCheckFrame Steady where
  toIsFrame := isFrame_steady
  progress _ := steady_send rfl
  publication _ _ := steady_send rfl
  failed _ := steady_tell _
  aborted := steady_tell _
  checked _ := steady_record rfl
  replies _ _ := ⟨rfl, rfl, rfl, rfl, rfl, fun _ => rfl⟩
  reported _ _ := ⟨rfl, rfl, rfl, rfl, rfl, fun _ => rfl⟩
  running r h := steady_setRunning h r

theorem tellResult_eq_ok (r : Except Fault Result) (s : Session) :
    tellResult r s = (.ok (), (tellResult r s).2) := by
  cases r with
  | error f => rfl
  | ok result => cases result <;> rfl

/-- What a check does between its two reports, and the second report. -/
def checkBody (m : Machine) (c : Checker) (w : Workspace) : Run Unit := do
  send (Workspace.reportProgress (.str spinner))
  tellResult (← attempt (runChecker m c w))
  send (Workspace.reportProgress .null)

/-- What is set once the second report is sent. -/
def checkEnd (c : Checker) (w : Workspace) : Run Unit :=
  if c.isPatched then do
    let _ ← runningOf w
    setRunning w { reporting := false }
  else pure ()

theorem IsCheckFrame.checkBody {R : Session → Session → Prop} (h : IsCheckFrame R) (m : Machine)
    (c : Checker) (w : Workspace) : Step.Keeps R (checkBody m c w) := by
  have hframe := h.toIsFrame
  have hattempt : Step.Keeps R (attempt (Session.runChecker m c w)) := h.runChecker m c w
  refine hframe.bind (h.progress _) fun _ => ?_
  refine hframe.bind hattempt fun r => ?_
  exact hframe.bind (keeps_tellResult hframe h.failed h.aborted r) fun _ => h.progress _

theorem checkBody_eq_ok (m : Machine) (c : Checker) (w : Workspace) (s : Session) :
    checkBody m c w s = (.ok (), (checkBody m c w s).2) := by
  rw [checkBody, Step.bind_of_ok (send_eq_ok _ s), Step.bind_of_ok (attempt_eq _ _),
    Step.bind_of_ok (tellResult_eq_ok _ _)]
  exact send_eq_ok _ _

theorem check_eq (hroot : w.rootPath ≠ "") (hsettings : s.settings.isNull = false) :
    check m c w s = (checkBody m c w >>= fun _ => checkEnd c w) s := by
  rw [check, if_neg hroot, Step.get_bind, hsettings]
  simp only [checkBody, bind_assoc]
  rfl

theorem check_of_root_eq (hroot : w.rootPath = "") : check m c w s = (.ok (), s) := by
  rw [check, if_pos hroot]
  rfl

theorem check_of_isNull (hsettings : s.settings.isNull = true) : check m c w s = (.ok (), s) := by
  rw [check]
  split
  · rfl
  · rw [Step.get_bind, hsettings]
    rfl

theorem IsCheckFrame.check {R : Session → Session → Prop} (h : IsCheckFrame R) (m : Machine)
    (c : Checker) (w : Workspace) : Step.Keeps R (check m c w) := by
  intro s
  have hend : Step.Keeps R (checkEnd c w) := by
    refine Step.Keeps.ite (fun _ => ?_) fun _ => h.refl
    exact h.reset (f := pure) { reporting := false } fun u => h.toIsFrame.pure u
  by_cases hroot : w.rootPath = ""
  · rw [check_of_root_eq hroot]
    exact h.refl s
  · cases hsettings : s.settings.isNull with
    | true =>
      rw [check_of_isNull hsettings]
      exact h.refl s
    | false =>
      rw [check_eq hroot hsettings]
      exact h.toIsFrame.bind (h.checkBody m c w) (fun _ => hend) s

theorem steady_checkBody (m : Machine) (c : Checker) (w : Workspace) :
    Step.Keeps Steady (checkBody m c w) :=
  isCheckFrame_steady.checkBody m c w

theorem steady_check (m : Machine) (c : Checker) (w : Workspace) :
    Step.Keeps Steady (check m c w) :=
  isCheckFrame_steady.check m c w

theorem checkEnd_fst (c : Checker) (w : Workspace) (s : Session) :
    (checkEnd c w s).1 =
      if c.isPatched && !s.isRunning w.serial then .error (.noAttribute "Workspace" "mypy_server")
      else .ok () := by
  unfold checkEnd isRunning
  cases c.isPatched with
  | false => rfl
  | true =>
    cases h : s.running.lookup w.serial with
    | none =>
      simp only [if_true]
      rw [Step.bind_of_error (runningOf_eq_error h)]
      rfl
    | some r =>
      simp only [if_true]
      rw [Step.bind_of_ok (runningOf_eq_ok h)]
      rfl

/-- A check of settings that have arrived fails exactly if the checker could report its progress and
has not been started. -/
theorem check_fst (hroot : w.rootPath ≠ "") (hsettings : s.settings.isNull = false) (m : Machine)
    (c : Checker) :
    (check m c w s).1 =
      if c.isPatched && !s.isRunning w.serial then .error (.noAttribute "Workspace" "mypy_server")
      else .ok () := by
  rw [check_eq hroot hsettings, Step.bind_of_ok (checkBody_eq_ok m c w s), checkEnd_fst,
    (steady_checkBody m c w s).isRunning]

end Session

end LangServer
