import LangServer.Proofs.Checking.Check

/-!
# A check is bracketed and fails cleanly

Whatever the checker answers, the client is told first that a check begins and last that it has
ended, and once only.  If the checker fails, or leaves out a part of its result, nothing is
published and the documents with diagnostics stay remembered as they were.

A check has three kinds of steps.  Those before the checker is asked are seen by nobody: `Aside`.
Those that follow up to the end send messages, but none that ends the report of the progress:
`Within`.  Only a result that is complete lets them publish, which is what the parameter of `Within`
says.

Main statement: `check_brackets`.
-/

namespace LangServer

/-! ### Messages and replies -/

namespace Rpc.Message

/-- Whether a message says that there is no progress to report any more. -/
def endsProgress : Message → Bool
  | notification method params => method == "mypyls/reportProgress" && params.isNull
  | _ => false

/-- Whether a message publishes the diagnostics of a document. -/
def isPublication : Message → Bool
  | notification method _ => method == "textDocument/publishDiagnostics"
  | _ => false

end Rpc.Message

/-- Whether a check does not come to its end, or to one without a part of the result. -/
def Reply.fails (r : Reply) : Bool :=
  match r.ending with
  | .raised _ => true
  | .exited => true
  | .finished result => ["status", "err", "out"].any fun key => (result.lookup key).isNone

namespace Session

/-- How the next check goes. -/
def next (s : Session) : Reply :=
  s.replies.headD Reply.clean

variable {m : Machine} {c : Checker} {w : Workspace} {s s' : Session} {publishing : Bool}

/-! ### Steps that nobody sees -/

/-- Neither the client nor the checker can tell the second session from the first. -/
structure Aside (s s' : Session) : Prop where
  closed : s'.closed = s.closed
  sent : s'.sent = s.sent
  reported : s'.reported = s.reported
  replies : s'.replies = s.replies

theorem isFrame_aside : Step.IsFrame Aside where
  refl _ := ⟨rfl, rfl, rfl, rfl⟩
  trans h h' := ⟨h'.closed.trans h.closed, h'.sent.trans h.sent, h'.reported.trans h.reported,
    h'.replies.trans h.replies⟩

theorem aside_record (e : Event) : Step.Keeps Aside (record e) :=
  fun _ => ⟨rfl, rfl, rfl, rfl⟩

theorem aside_setRunning (w : Workspace) (r : Running) : Step.Keeps Aside (setRunning w r) :=
  fun _ => ⟨rfl, rfl, rfl, rfl⟩

/-- What a check does before it asks the checker. -/
def prepare (c : Checker) (w : Workspace) : Run Running := do
  if c.isPatched then
    let _ ← runningOf w
    setRunning w { reporting := true }
  let targets ← lift (targetPaths w (← get).settings)
  let running ← runningOf w
  record (.checked (checkArguments c targets))
  return running

/-- What a check does with the answer of the checker. -/
def takeReply (m : Machine) (w : Workspace) (running : Running) (reply : Reply) : Run Result := do
  if running.reporting then reportEach reply.progress
  match reply.ending with
  | .raised text => return .failed text
  | .exited => return .aborted
  | .finished result => takeIn m w result

theorem runChecker_eq (m : Machine) (c : Checker) (w : Workspace) :
    runChecker m c w = prepare c w >>= fun running => nextReply >>= takeReply m w running := by
  unfold runChecker prepare
  cases c.isPatched with
  | false =>
    simp only [if_false, Bool.false_eq_true, bind_assoc, pure_bind]
    rfl
  | true =>
    simp only [if_true, bind_assoc, pure_bind]
    rfl

theorem aside_prepare (c : Checker) (w : Workspace) : Step.Keeps Aside (prepare c w) := by
  have hrest : ∀ _ : Unit, Step.Keeps Aside (do
      let targets ← lift (targetPaths w (← get).settings)
      let running ← runningOf w
      record (.checked (checkArguments c targets))
      return running : Run Running) := by
    intro _
    refine isFrame_aside.bind isFrame_aside.get fun s => ?_
    refine isFrame_aside.bind (keeps_lift isFrame_aside _) fun targets => ?_
    refine isFrame_aside.bind (keeps_runningOf isFrame_aside w) fun running => ?_
    exact isFrame_aside.bind (aside_record _) fun _ => isFrame_aside.pure running
  refine Step.Keeps.ite (fun _ => ?_) fun _ => hrest ()
  refine isFrame_aside.bind (keeps_runningOf isFrame_aside w) fun _ => ?_
  exact isFrame_aside.bind (aside_setRunning w _) hrest

/-! ### Steps within a check -/

/-- What a step within a check may do: it sends messages that do not end the report of the progress,
and it publishes only where that is allowed. -/
structure Within (publishing : Bool) (s s' : Session) : Prop where
  closed : s'.closed = s.closed
  sent : ∃ messages, s'.sent = s.sent ++ messages ∧
    (∀ message ∈ messages, message.endsProgress = false ∧
      (publishing = false → message.isPublication = false)) ∧
    (s.closed = true → messages = [])
  reported : publishing = false → s'.reported = s.reported

theorem Aside.within (h : Aside s s') : Within publishing s s' where
  closed := h.closed
  sent := ⟨[], by rw [h.sent, List.append_nil], by simp, fun _ => rfl⟩
  reported := fun _ => h.reported

theorem isFrame_within (publishing : Bool) : Step.IsFrame (Within publishing) where
  refl s := (isFrame_aside.refl s).within
  trans := by
    rintro s t u ⟨hclosed, ⟨ms, hsent, hms, hnone⟩, hreported⟩
      ⟨hclosed', ⟨ms', hsent', hms', hnone'⟩, hreported'⟩
    refine ⟨hclosed'.trans hclosed, ⟨ms ++ ms', ?_, ?_, fun h => ?_⟩,
      fun h => (hreported' h).trans (hreported h)⟩
    · rw [hsent', hsent, List.append_assoc]
    · intro message hmessage
      rcases List.mem_append.1 hmessage with hmessage | hmessage
      · exact hms message hmessage
      · exact hms' message hmessage
    · rw [hnone h, hnone' (hclosed.trans h), List.nil_append]

/-- What follows an operation that changes nothing matters only where the operation has a result. -/
theorem within_lift_bind {α β : Type} {r : Outcome α} {f : α → Run β}
    (hf : ∀ a, r = .ok a → Step.Keeps (Within publishing) (f a)) :
    Step.Keeps (Within publishing) (lift r >>= f) := by
  cases r with
  | ok a => exact hf a rfl
  | error e => exact (isFrame_within publishing).refl

theorem within_send {message : Rpc.Message} (hend : message.endsProgress = false)
    (hpublication : publishing = false → message.isPublication = false) :
    Step.Keeps (Within publishing) (send message) := by
  intro s
  rw [send_snd]
  split
  · exact (isFrame_within publishing).refl s
  · next hopen =>
    refine ⟨rfl, ⟨[message], rfl, ?_, fun h => absurd h hopen⟩, fun _ => rfl⟩
    simpa using ⟨hend, hpublication⟩

theorem within_tell (text : String) : Step.Keeps (Within publishing) (tell text) :=
  within_send rfl fun _ => rfl

theorem within_reportEach (ns : List Json) : Step.Keeps (Within publishing) (reportEach ns) :=
  keeps_reportEach (isFrame_within publishing) (fun _ => within_send rfl fun _ => rfl) ns

theorem within_publish (m : Machine) (w : Workspace) (output : Json) (order : ClearOrder) :
    Step.Keeps (Within true) (publish m w output order) := by
  refine keeps_publish (isFrame_within true) (fun uri ds => within_send rfl (by simp)) ?_ m w
    output order
  exact fun _ _ => ⟨rfl, ⟨[], (List.append_nil _).symm, by simp, fun _ => rfl⟩, by simp⟩

/-! ### The answer of the checker -/

/-- A result is taken in without publishing if a part of it is left out. -/
theorem within_takeIn (m : Machine) (w : Workspace) {result : List (String × Json)}
    (h : publishing = false → ∃ key ∈ ["status", "err", "out"], result.lookup key = none) :
    Step.Keeps (Within publishing) (takeIn m w result) := by
  have hframe := isFrame_within publishing
  refine within_lift_bind fun status hstatus => ?_
  refine within_lift_bind fun err herr => ?_
  refine hframe.bind_if (within_tell _) (fun _ => ?_) ()
  refine within_lift_bind fun out hout => ?_
  cases publishing with
  | true => exact hframe.bind (within_publish m w out _) fun _ => hframe.pure _
  | false =>
    obtain ⟨key, hkey, hnone⟩ := h rfl
    simp only [List.mem_cons, List.not_mem_nil, or_false] at hkey
    rcases hkey with rfl | rfl | rfl
    · simp [Json.field, hnone] at hstatus
    · simp [Json.field, hnone] at herr
    · simp [Json.field, hnone] at hout

theorem within_takeReply (m : Machine) (w : Workspace) (running : Running) {reply : Reply}
    (h : publishing = false → reply.fails = true) :
    Step.Keeps (Within publishing) (takeReply m w running reply) := by
  have hframe := isFrame_within publishing
  refine hframe.bind_if (within_reportEach _) (fun _ => ?_) ()
  cases hending : reply.ending with
  | raised text => exact hframe.pure _
  | exited => exact hframe.pure _
  | finished result =>
    refine within_takeIn m w fun hpublishing => ?_
    simpa [Reply.fails, hending] using h hpublishing

theorem nextReply_fst (s : Session) : (nextReply s).1 = .ok s.next := by
  rw [nextReply, Step.get_bind, next]
  cases s.replies with
  | nil => rfl
  | cons r rest => rfl

theorem within_nextReply : Step.Keeps (Within publishing) nextReply := by
  refine keeps_nextReply (isFrame_within publishing) fun rest s => ?_
  exact ⟨rfl, ⟨[], (List.append_nil _).symm, by simp, fun _ => rfl⟩, fun _ => rfl⟩

/-- The checker runs without publishing if the next check fails. -/
theorem within_runChecker (m : Machine) (c : Checker) (w : Workspace)
    (h : publishing = false → s.next.fails = true) :
    Within publishing s (runChecker m c w s).2 := by
  have hframe := isFrame_within publishing
  have hprepare := aside_prepare c w s
  rw [runChecker_eq]
  rcases Step.bind_cases (prepare c w) (fun running => nextReply >>= takeReply m w running) s with
    ⟨running, t, ht, hrun⟩ | ⟨e, t, ht, hrun⟩
  · rw [ht] at hprepare
    have hnext : t.next = s.next := by rw [next, next, hprepare.replies]
    rw [hrun, Step.bind_of_ok (Step.eq_ok_of_fst (nextReply_fst t))]
    refine hframe.trans hprepare.within (hframe.trans (within_nextReply t) ?_)
    exact within_takeReply m w running (hnext ▸ h) _
  · rw [ht] at hprepare
    rw [hrun]
    exact hprepare.within

/-! ### The whole check -/

/-- What a check does between its two reports. -/
def amid (m : Machine) (c : Checker) (w : Workspace) : Run Unit := do
  tellResult (← attempt (runChecker m c w))

theorem amid_eq (m : Machine) (c : Checker) (w : Workspace) (s : Session) :
    amid m c w s = tellResult (runChecker m c w s).1 (runChecker m c w s).2 := by
  rw [amid, Step.bind_of_ok (attempt_eq _ s)]

theorem within_amid (m : Machine) (c : Checker) (w : Workspace)
    (h : publishing = false → s.next.fails = true) : Within publishing s (amid m c w s).2 := by
  rw [amid_eq]
  have hframe := isFrame_within publishing
  have htell := keeps_tellResult hframe (fun _ => within_tell _) (within_tell _)
  exact hframe.trans (within_runChecker m c w h) (htell _ _)

theorem sent_send (message : Rpc.Message) (s : Session) :
    (send message s).2.sent = s.sent ++ if s.closed then [] else [message] := by
  rw [send_snd]
  cases s.closed with
  | true => simp
  | false => simp

theorem send_frame (message : Rpc.Message) (s : Session) :
    (send message s).2.closed = s.closed ∧ (send message s).2.reported = s.reported ∧
      (send message s).2.replies = s.replies := by
  rw [send_snd]
  split <;> exact ⟨rfl, rfl, rfl⟩

theorem checkBody_snd (m : Machine) (c : Checker) (w : Workspace) (s : Session) :
    (checkBody m c w s).2 =
      (send (Workspace.reportProgress .null)
        (amid m c w (send (Workspace.reportProgress (.str spinner)) s).2).2).2 := by
  rw [checkBody, Step.bind_of_ok (send_eq_ok _ s), Step.bind_of_ok (attempt_eq _ _),
    Step.bind_of_ok (tellResult_eq_ok _ _), amid_eq]

/-- What the client receives of a check, up to the report that it has ended. -/
theorem exists_sent_checkBody (m : Machine) (c : Checker) (w : Workspace)
    (h : publishing = false → s.next.fails = true) :
    (publishing = false → (checkBody m c w s).2.reported = s.reported) ∧
    ∃ between, (checkBody m c w s).2.sent = s.sent ++ (if s.closed then [] else
        Workspace.reportProgress (.str spinner) :: (between ++ [Workspace.reportProgress .null])) ∧
      ∀ message ∈ between, message.endsProgress = false ∧
        (publishing = false → message.isPublication = false) := by
  obtain ⟨hclosed, hreported, hreplies⟩ := send_frame (Workspace.reportProgress (.str spinner)) s
  have hsent := sent_send (Workspace.reportProgress (.str spinner)) s
  rw [checkBody_snd]
  generalize (send (Workspace.reportProgress (.str spinner)) s).2 = t at *
  have hnext : t.next = s.next := by rw [next, next, hreplies]
  obtain ⟨hclosed', ⟨between, hsent', hbetween, hnone⟩, hreported'⟩ :=
    within_amid (s := t) m c w (hnext ▸ h)
  generalize (amid m c w t).2 = u at *
  refine ⟨fun hp => ?_, between, ?_, hbetween⟩
  · rw [(send_frame _ u).2.1, hreported' hp, hreported]
  · rw [sent_send, hsent', hsent, hclosed', hclosed]
    cases hs : s.closed with
    | true => simp [hnone (hclosed.trans hs)]
    | false => simp

theorem aside_checkEnd (c : Checker) (w : Workspace) : Step.Keeps Aside (checkEnd c w) := by
  refine Step.Keeps.ite (fun _ => ?_) fun _ => isFrame_aside.refl
  exact isFrame_aside.bind (keeps_runningOf isFrame_aside w) fun _ => aside_setRunning w _

theorem lookup_running_checkEnd (hpatched : c.isPatched = true)
    (hrunning : s.isRunning w.serial = true) :
    (checkEnd c w s).2.running.lookup w.serial = some { reporting := false } := by
  obtain ⟨r, hr⟩ := Option.isSome_iff_exists.1 hrunning
  rw [checkEnd, if_pos hpatched, Step.bind_of_ok (runningOf_eq_ok hr)]
  exact List.lookup_cons_self

/-- Whatever the checker answers, a check returns.  What it sends begins with the report that a
check is going on and ends with the report that none is, which is sent once.  The checker does not
report its progress afterwards.  If the next check fails, nothing is published, and the documents
with diagnostics are those of before.  Nothing is sent where the channel is closed. -/
theorem check_brackets (hroot : w.rootPath ≠ "") (hsettings : s.settings.isNull = false)
    (hrunning : s.isRunning w.serial = true) (m : Machine) (c : Checker) :
    ∃ s' between, check m c w s = (.ok (), s') ∧
      s'.sent = s.sent ++ (if s.closed then [] else
        Workspace.reportProgress (.str "$(gear~spin) mypy") ::
          (between ++ [Workspace.reportProgress .null])) ∧
      (∀ message ∈ between, message.endsProgress = false) ∧
      (c.isPatched = true → s'.running.lookup w.serial = some { reporting := false }) ∧
      (s.next.fails = true →
        (∀ message ∈ between, message.isPublication = false) ∧ s'.reported = s.reported) := by
  have hfst := check_fst hroot hsettings m c
  rw [hrunning, Bool.not_true, Bool.and_false, if_neg Bool.false_ne_true] at hfst
  have hbody : (check m c w s).2 = (checkEnd c w (checkBody m c w s).2).2 := by
    rw [check_eq hroot hsettings, Step.bind_of_ok (checkBody_eq_ok m c w s)]
  have hend := aside_checkEnd c w (checkBody m c w s).2
  have hstarted : (checkBody m c w s).2.isRunning w.serial = true := by
    rw [(steady_checkBody m c w s).isRunning, hrunning]
  have hnext : (!s.next.fails) = false → s.next.fails = true := by simp
  obtain ⟨hreported, between, hsent, hbetween⟩ := exists_sent_checkBody m c w hnext
  refine ⟨_, between, Step.eq_ok_of_fst hfst, ?_, fun message h => (hbetween message h).1, ?_, ?_⟩
  · rw [hbody, hend.sent, hsent]
    rfl
  · intro hpatched
    rw [hbody]
    exact lookup_running_checkEnd hpatched hstarted
  · intro hfails
    have hquiet : (!s.next.fails) = false := by rw [hfails]; rfl
    refine ⟨fun message h => (hbetween message h).2 hquiet, ?_⟩
    rw [hbody, hend.reported, hreported hquiet]

/-- The checker reports its progress twice and leaves out what it has written. -/
theorem check_brackets_without_output :
    let w : Workspace := { rootUri := .str "file:///w", scheme := "file", rootPath := "/w" }
    let s : Session := {
      settings := .obj [], reported := ["file:///w/a.py"], running := [(0, {})],
      replies := [⟨[.int 1, .int 2], .finished [("status", .int 0), ("err", .str "")]⟩] }
    ∃ s' between, check {} { version := "0.800+langserver" } w s = (.ok (), s') ∧
      s'.sent = Workspace.reportProgress (.str "$(gear~spin) mypy") ::
        (between ++ [Workspace.reportProgress .null]) ∧
      (∀ message ∈ between, message.endsProgress = false ∧ message.isPublication = false) ∧
      s'.running.lookup 0 = some { reporting := false } ∧ s'.reported = ["file:///w/a.py"] := by
  intro w s
  obtain ⟨s', between, hrun, hsent, hbetween, hcallback, hfails⟩ :=
    check_brackets (s := s) (w := w) (by decide) rfl rfl {} { version := "0.800+langserver" }
  obtain ⟨hquiet, hreported⟩ := hfails rfl
  exact ⟨s', between, hrun, hsent, fun message h => ⟨hbetween message h, hquiet message h⟩,
    hcallback (by decide +kernel), hreported⟩

end Session

end LangServer
