import LangServer.Proofs.Server.Handling

/-!
# After the client has asked the server to stop

A call that stops the server sets a flag, which nothing takes back and no other call sets.  From
then on a handler is chosen for one method only, which closes the channel.  Every other request is
answered by a failure and every other notification is passed over, both before a handler runs.  So
what the server holds stays as it was, but for the messages that it sends and the channel.

Answers are no calls: an answer goes to the question that it names and not to a handler.

Main statement: `only_exit_after_stop`.
-/

namespace LangServer.Server

variable {env : Environment} {s s' : Server} {message v id params : Json} {h : Handler}

/-! ### Calls -/

/-- Whether a message is not an answer. -/
def isCall (message : Json) : Bool :=
  (message.member? "id").isNone || (message.member? "method").isSome

/-- Whether a message calls the handler that stops the server, with parameters that it takes. -/
def isStop (message : Json) : Bool :=
  match message.member? "method" with
  | some (.str name) =>
    (isOurs message).toOption == some true && Handler.ofMethod? name == some .stop &&
      (Handler.parameters .stop (message.memberOr "params" .null)).isOk
  | _ => false

theorem field_eq_ok_of_member? {name : String} (hmember : message.member? name = some v) :
    message.field name = .ok v := by
  cases message with
  | obj members =>
    rw [Json.member?] at hmember
    simp only [Json.field, hmember]
  | _ => cases hmember

theorem exists_field_error {name : String} (hmember : message.member? name = none) :
    ∃ f, message.field name = .error f := by
  cases message with
  | obj members =>
    rw [Json.member?] at hmember
    exact ⟨_, by simp only [Json.field, hmember]; rfl⟩
  | _ => exact ⟨_, rfl⟩

theorem consume_of_method_none (hid : message.member? "id" = none)
    (hmethod : message.member? "method" = none) : (consume env message s).2 = s := by
  by_cases hours : isOurs message = .ok true
  · obtain ⟨f, hf⟩ := exists_field_error hmethod
    rw [consume, Step.bind_of_ok (lift_ok hours s)]
    simp only [Bool.not_true, Bool.false_eq_true, if_false, hid, hmethod]
    rw [Step.bind_of_error (lift_error hf s)]
  · exact consume_of_not_ours hours

theorem notified_cancel (hcancel : v.same (.str cancelMethod) = true) :
    (notified env v params s).2 = s := by
  rw [notified, hcancel]
  simp only [if_true]
  cases hid : params.field "id" with
  | error f => rw [Step.bind_of_error (lift_error rfl s)]
  | ok w =>
    rw [Step.bind_of_ok (lift_ok rfl s)]
    rfl

theorem notified_of_error {f : Fault} (hchoose : Handler.choose s.stopping v = .error f) :
    (notified env v params s).2 = s := by
  cases hcancel : v.same (.str cancelMethod) with
  | true => exact notified_cancel hcancel
  | false =>
    rw [notified, hcancel]
    simp only [Bool.false_eq_true, if_false]
    rw [Step.get_bind, hchoose]
    cases f <;> rfl

theorem requested_of_error {f : Fault} (hchoose : Handler.choose s.stopping v = .error f) :
    requested env id v params s =
      send (if f = .unhandled then noHandler id v else failure id f) s := by
  rw [requested, Step.get_bind, hchoose]
  cases f <;> rfl

/-! ### What sets the flag -/

/-- The flag is as before. -/
def Same (s s' : Server) : Prop :=
  s'.stopping = s.stopping

theorem isFrame_same : Step.IsFrame Same where
  refl _ := rfl
  trans h h' := h'.trans h

theorem same_inSession {α : Type} (step : Session.Run α) : Step.Keeps Same (inSession step) :=
  fun _ => rfl

theorem same_lift {α : Type} (r : Outcome α) : Step.Keeps Same (lift r) :=
  keeps_lift isFrame_same r

theorem same_theWorkspace : Step.Keeps Same theWorkspace :=
  keeps_theWorkspace isFrame_same

theorem same_close : Step.Keeps Same close :=
  fun _ => rfl

theorem same_setWorkspace (w : Workspace) : Step.Keeps Same (setWorkspace w) :=
  fun _ => rfl

theorem same_handleSetUp (env : Environment) (ps : List (String × Json)) :
    Step.Keeps Same (handleSetUp env ps) := by
  have hset : Step.Keeps Same (setUpWorkspace env ps) :=
    keeps_setUpWorkspace isFrame_same (fun _ _ _ => rfl) (fun _ _ => rfl) env ps
  refine isFrame_same.bind hset fun _ => ?_
  cases env.checker with
  | none => exact isFrame_same.bind (same_inSession _) fun _ => isFrame_same.pure _
  | some c =>
    have hwatch : Step.Keeps Same (beginWatch env (parameter ps "processId")) :=
      keeps_beginWatch isFrame_same same_close (fun _ => rfl) env
    refine isFrame_same.bind_if hwatch (fun _ => ?_) ()
    exact isFrame_same.bind (same_lift _) fun _ => isFrame_same.pure _

theorem same_handleOpened (env : Environment) (ps : List (String × Json)) :
    Step.Keeps Same (handleOpened env ps) := by
  refine isFrame_same.bind same_theWorkspace fun w => ?_
  refine isFrame_same.bind (same_lift _) fun uri => isFrame_same.bind (same_lift _) fun source => ?_
  refine isFrame_same.bind (same_lift _) fun version => isFrame_same.bind (same_lift _) fun w' => ?_
  exact isFrame_same.bind (same_setWorkspace w') fun _ => isFrame_same.pure _

theorem same_handleClosed (ps : List (String × Json)) : Step.Keeps Same (handleClosed ps) := by
  refine isFrame_same.bind same_theWorkspace fun w => ?_
  refine isFrame_same.bind (same_lift _) fun uri => isFrame_same.bind (same_lift _) fun w' => ?_
  exact isFrame_same.bind (same_setWorkspace w') fun _ => isFrame_same.pure _

theorem same_applyChanges (env : Environment) (document : Json) (changes : List Json) :
    Step.Keeps Same (applyChanges env document changes) := by
  induction changes with
  | nil => exact isFrame_same.pure ()
  | cons change rest ih =>
    refine isFrame_same.bind (isFrame_same.bind same_theWorkspace fun w => ?_) fun _ => ih
    refine isFrame_same.bind (same_lift _) fun uri => ?_
    refine isFrame_same.bind (same_lift _) fun version => ?_
    exact isFrame_same.bind (same_lift _) fun w' => same_setWorkspace w'

theorem same_handleChanged (env : Environment) (ps : List (String × Json)) :
    Step.Keeps Same (handleChanged env ps) := by
  refine isFrame_same.bind (same_lift _) fun changes => ?_
  exact isFrame_same.bind (same_applyChanges env _ changes) fun _ => isFrame_same.pure _

theorem same_handleSaved (env : Environment) : Step.Keeps Same (handleSaved env) := by
  refine isFrame_same.bind (keeps_theChecker isFrame_same env) fun c => ?_
  refine isFrame_same.bind same_theWorkspace fun w => ?_
  exact isFrame_same.bind (same_inSession _) fun _ => isFrame_same.pure _

theorem same_handleConfigured (env : Environment) (ps : List (String × Json)) :
    Step.Keeps Same (handleConfigured env ps) := by
  refine isFrame_same.bind (keeps_theChecker isFrame_same env) fun c => ?_
  refine isFrame_same.bind (keeps_theConfiguration isFrame_same) fun configuration => ?_
  refine isFrame_same.bind (same_lift _) fun settings => ?_
  refine isFrame_same.bind (fun _ => rfl) fun _ => ?_
  refine isFrame_same.bind same_theWorkspace fun w => ?_
  exact isFrame_same.bind (same_inSession _) fun _ => isFrame_same.pure _

theorem same_documentOf (env : Environment) (uri : Json) :
    Step.Keeps Same (documentOf env uri) := by
  refine Step.Keeps.ite (fun _ => isFrame_same.pure _) fun _ => ?_
  refine isFrame_same.bind same_theWorkspace fun w => ?_
  exact isFrame_same.bind (same_lift _) fun d => isFrame_same.pure _

theorem same_handleQuery (env : Environment) (ps : List (String × Json)) (unknown : Json)
    (ask : Program → String → Json → Json → Traced Json) :
    Step.Keeps Same (handleQuery env ps unknown ask) := by
  refine isFrame_same.bind (keeps_theChecker isFrame_same env) fun _ => ?_
  refine isFrame_same.bind (same_lift _) fun uri => ?_
  refine isFrame_same.bind (same_documentOf env uri) fun document => ?_
  refine isFrame_same.bind same_theWorkspace fun w => ?_
  refine isFrame_same.bind (same_inSession _) fun _ => ?_
  cases env.program with
  | none => exact isFrame_same.pure _
  | some p =>
    cases document with
    | none => exact isFrame_same.throw _
    | some d =>
      refine isFrame_same.bind (same_lift _) fun line => ?_
      exact isFrame_same.bind (same_lift _) fun column => fun _ => rfl

theorem same_handle (env : Environment) (hne : h ≠ .stop) (ps : List (String × Json)) :
    Step.Keeps Same (handle env h ps) := by
  cases h with
  | setUp => exact same_handleSetUp env ps
  | ready => exact isFrame_same.pure _
  | stop => exact absurd rfl hne
  | exit => exact fun _ => rfl
  | opened => exact same_handleOpened env ps
  | changed => exact same_handleChanged env ps
  | closed => exact same_handleClosed ps
  | saved => exact same_handleSaved env
  | configured => exact same_handleConfigured env ps
  | hover => exact same_handleQuery env ps _ _
  | definition => exact same_handleQuery env ps _ _

theorem stopping_call (env : Environment) (h : Handler) (params : Json) (s : Server) :
    (call env h params s).2.stopping =
      (s.stopping || h == .stop && (h.parameters params).isOk) := by
  rw [call]
  cases hps : h.parameters params with
  | error f =>
    rw [Step.bind_of_error (lift_error rfl s)]
    simp [Except.isOk, Except.toBool]
  | ok ps =>
    rw [Step.bind_of_ok (lift_ok rfl s)]
    by_cases hstop : h = .stop
    · subst hstop
      have hset : (handle env .stop ps s).2.stopping = true := rfl
      rw [hset]
      simp [Except.isOk, Except.toBool]
    · rw [same_handle env hstop ps s]
      simp [hstop]

/-! ### The choice of a handler -/

theorem choose_of_stopping (v : Json) :
    Handler.choose true v = if v.same (.str "exit") then .ok .exit else .error .unhandled := by
  cases hexit : v.same (.str "exit") with
  | true =>
    obtain rfl := Json.same_str.1 hexit
    rfl
  | false =>
    rw [Handler.choose, hexit]
    rfl

theorem choose_str (name : String) :
    Handler.choose false (.str name) =
      (Handler.ofMethod? name).elim (.error .unhandled) .ok := by
  simp only [Handler.choose, Bool.false_and, Bool.false_eq_true, if_false, Json.asText, bind,
    Except.bind]
  cases Handler.ofMethod? name <;> rfl

theorem choose_eq_unhandled_iff (v : Json) :
    Handler.choose false v = .error .unhandled ↔
      ∃ name, v = .str name ∧ Handler.ofMethod? name = none := by
  cases v with
  | str name =>
    rw [choose_str]
    cases hname : Handler.ofMethod? name with
    | some h => simp [hname]
    | none => simp [hname]
  | _ =>
    constructor
    · intro h
      cases h
    · rintro ⟨name, hname, -⟩
      cases hname

theorem exists_name_of_choose {stopping : Bool} (hchoose : Handler.choose stopping v = .ok h) :
    ∃ name, v = .str name := by
  cases v with
  | str name => exact ⟨name, rfl⟩
  | _ => cases stopping <;> cases hchoose

theorem ofMethod?_of_choose {stopping : Bool} {name : String}
    (hchoose : Handler.choose stopping (.str name) = .ok h) : Handler.ofMethod? name = some h := by
  unfold Handler.choose at hchoose
  split at hchoose
  · cases hchoose
  · simp only [Json.asText, bind, Except.bind] at hchoose
    cases hname : Handler.ofMethod? name with
    | none => simp [hname, throw, throwThe, MonadExceptOf.throw] at hchoose
    | some h' =>
      simp only [hname] at hchoose
      exact congrArg some (Except.ok.inj hchoose)

/-! ### The flag over a run -/

theorem stopping_send (m : Rpc.Message) (s : Server) : (send m s).2.stopping = s.stopping := rfl

theorem isStop_of_method (hours : isOurs message = .ok true) {name : String}
    (hmethod : message.member? "method" = some (.str name))
    (hname : Handler.ofMethod? name = some h) :
    isStop message = (h == .stop && (h.parameters (message.memberOr "params" .null)).isOk) := by
  unfold isStop
  simp only [hmethod, hours, hname, Except.toOption]
  by_cases hstop : h = .stop
  · simp [hstop]
  · have hne : (h == Handler.stop) = false := beq_false_of_ne hstop
    simp [hne]

theorem isStop_of_not_ours (hours : isOurs message ≠ .ok true) : isStop message = false := by
  have hno : ((isOurs message).toOption == some true) = false := by
    cases hr : isOurs message with
    | error f => rfl
    | ok ours =>
      cases ours with
      | true => exact absurd hr hours
      | false => rfl
  unfold isStop
  split
  · simp [hno]
  · rfl

theorem isStop_of_ofMethod?_eq_none {name : String}
    (hmethod : message.member? "method" = some (.str name))
    (hname : Handler.ofMethod? name = none) : isStop message = false := by
  simp [isStop, hmethod, hname]

theorem stopping_answered (hours : isOurs message = .ok true)
    (hid : message.member? "id" = some id) (hmethod : message.member? "method" = none) :
    (consume env message s).2.stopping = s.stopping := by
  rw [consume_answered hours hid hmethod]
  exact (answered_answered env id _ _ s).stopping

theorem not_cancel_of_choose {stopping : Bool} {name : String}
    (hchoose : Handler.choose stopping (.str name) = .ok h) :
    (Json.str name).same (.str cancelMethod) = false := by
  cases hcancel : (Json.str name).same (.str cancelMethod) with
  | false => rfl
  | true =>
    obtain rfl : name = cancelMethod := by simpa using Json.same_str.1 hcancel
    have hnone : Handler.ofMethod? cancelMethod = none := rfl
    rw [ofMethod?_of_choose hchoose] at hnone
    cases hnone

/-- A call for which no handler is chosen is answered, if it is a request, and does nothing else. -/
theorem consume_of_choose_error {f : Fault} (hmethod : message.member? "method" = some v)
    (hchoose : Handler.choose s.stopping v = .error f) :
    (isOurs message ≠ .ok true ∨ message.member? "id" = none) ∧ (consume env message s).2 = s ∨
      ∃ id, message.member? "id" = some id ∧
        consume env message s =
          send (if f = .unhandled then noHandler id v else failure id f) s := by
  by_cases hours : isOurs message = .ok true
  · cases hid : message.member? "id" with
    | none =>
      left
      rw [consume_notified hours hid (field_eq_ok_of_member? hmethod)]
      exact ⟨.inr rfl, notified_of_error hchoose⟩
    | some id =>
      right
      refine ⟨id, rfl, ?_⟩
      rw [consume_requested hours hid hmethod, requested_of_error hchoose]
  · exact .inl ⟨.inl hours, consume_of_not_ours hours⟩

/-- A call runs the handler that is chosen, and a request sends one message after that. -/
theorem consume_of_choose_ok (hours : isOurs message = .ok true) {name : String}
    (hmethod : message.member? "method" = some (.str name))
    (hchoose : Handler.choose s.stopping (.str name) = .ok h) :
    (consume env message s).2 = (call env h (message.memberOr "params" .null) s).2 ∨
      ∃ m, (consume env message s).2 =
        (send m (call env h (message.memberOr "params" .null) s).2).2 := by
  cases hid : message.member? "id" with
  | none =>
    left
    have hfield := field_eq_ok_of_member? hmethod
    rw [consume_notified hours hid hfield, notified_eq (not_cancel_of_choose hchoose) hchoose]
  | some id =>
    right
    refine ⟨outcomeMessage id (call env h (message.memberOr "params" .null) s).1, ?_⟩
    rw [consume_requested hours hid hmethod, requested_eq hchoose]

theorem isStop_of_choose_error {f : Fault} (hmethod : message.member? "method" = some v)
    (hchoose : Handler.choose false v = .error f) : isStop message = false := by
  cases v with
  | str name =>
    cases hname : Handler.ofMethod? name with
    | none => exact isStop_of_ofMethod?_eq_none hmethod hname
    | some h =>
      rw [choose_str, hname] at hchoose
      cases hchoose
  | _ => simp [isStop, hmethod]

theorem stopping_consume_of_method (env : Environment)
    (hmethod : message.member? "method" = some v) (hours : isOurs message = .ok true)
    (s : Server) : (consume env message s).2.stopping = (s.stopping || isStop message) := by
  cases hchoose : Handler.choose s.stopping v with
  | error f =>
    have hkept : (consume env message s).2.stopping = s.stopping := by
      rcases consume_of_choose_error hmethod hchoose with ⟨-, hrun⟩ | ⟨id, -, hrun⟩
      · rw [hrun]
      · rw [hrun, stopping_send]
    rw [hkept]
    cases hstopping : s.stopping with
    | true => rfl
    | false =>
      rw [hstopping] at hchoose
      rw [isStop_of_choose_error hmethod hchoose]
      rfl
  | ok h =>
    obtain ⟨name, rfl⟩ := exists_name_of_choose hchoose
    rw [isStop_of_method hours hmethod (ofMethod?_of_choose hchoose), ← stopping_call env]
    rcases consume_of_choose_ok hours hmethod hchoose with hrun | ⟨m, hrun⟩
    · rw [hrun]
    · rw [hrun, stopping_send]

/-- The flag is set by a call that stops the server, and by no other message. -/
theorem stopping_consume (env : Environment) (message : Json) (s : Server) :
    (consume env message s).2.stopping = (s.stopping || isStop message) := by
  by_cases hours : isOurs message = .ok true
  · cases hmethod : message.member? "method" with
    | some v => exact stopping_consume_of_method env hmethod hours s
    | none =>
      have hstop : isStop message = false := by simp [isStop, hmethod]
      rw [hstop, Bool.or_false]
      cases hid : message.member? "id" with
      | none => rw [consume_of_method_none hid hmethod]
      | some id => exact stopping_answered hours hid hmethod
  · rw [consume_of_not_ours hours, isStop_of_not_ours hours, Bool.or_false]

/-- The server after some messages, each with what the server can see when it arrives. -/
def afterMessages (s : Server) (ms : List (Environment × Json)) : Server :=
  ms.foldl (fun s m => (consume m.1 m.2 s).2) s

theorem stopping_afterMessages (s : Server) (ms : List (Environment × Json)) :
    (afterMessages s ms).stopping = (s.stopping || ms.any fun m => isStop m.2) := by
  induction ms generalizing s with
  | nil => simp [afterMessages]
  | cons m ms ih =>
    have hstep : afterMessages s (m :: ms) = afterMessages (consume m.1 m.2 s).2 ms := rfl
    rw [hstep, ih, stopping_consume, List.any_cons, Bool.or_assoc]

/-! ### What stays -/

/-- The second server differs from the first in the messages sent and in the channel alone. -/
def Halted (s s' : Server) : Prop :=
  ∃ closed sent, s' = { s with session := { s.session with closed, sent } }

theorem isFrame_halted : Step.IsFrame Halted where
  refl s := ⟨s.session.closed, s.session.sent, rfl⟩
  trans := by
    rintro s t u ⟨c, m, rfl⟩ ⟨c', m', rfl⟩
    exact ⟨c', m', rfl⟩

theorem halted_send (m : Rpc.Message) : Step.Keeps Halted (send m) := by
  intro s
  have hrun : (send m s).2 = { s with session :=
      if s.session.closed then s.session
      else { s.session with sent := s.session.sent ++ [m] } } := rfl
  rw [hrun]
  split
  · exact isFrame_halted.refl s
  · exact ⟨s.session.closed, s.session.sent ++ [m], rfl⟩

theorem halted_call_exit (env : Environment) (params : Json) :
    Step.Keeps Halted (call env .exit params) := by
  refine isFrame_halted.bind (keeps_lift isFrame_halted _) fun ps => ?_
  exact fun s => ⟨true, s.session.sent, rfl⟩

theorem halted_consume (hstopping : s.stopping = true) (hcall : isCall message = true)
    (env : Environment) : Halted s (consume env message s).2 := by
  cases hmethod : message.member? "method" with
  | none =>
    have hid : message.member? "id" = none := by simpa [isCall, hmethod] using hcall
    rw [consume_of_method_none hid hmethod]
    exact isFrame_halted.refl s
  | some v =>
    by_cases hours : isOurs message = .ok true
    · have hchoose : Handler.choose s.stopping v =
          if v.same (.str "exit") then .ok .exit else .error .unhandled := by
        rw [hstopping, choose_of_stopping]
      cases hexit : v.same (.str "exit") with
      | true =>
        obtain rfl := Json.same_str.1 hexit
        have hok : Handler.choose s.stopping (.str "exit") = .ok .exit := by
          rw [hchoose, if_pos hexit]
        have hrun := halted_call_exit env (message.memberOr "params" .null) s
        rcases consume_of_choose_ok hours hmethod hok with heq | ⟨m, heq⟩
        · rw [heq]
          exact hrun
        · rw [heq]
          exact isFrame_halted.trans hrun (halted_send m _)
      | false =>
        rw [hexit] at hchoose
        rcases consume_of_choose_error hmethod hchoose with ⟨-, heq⟩ | ⟨id, -, heq⟩
        · rw [heq]
          exact isFrame_halted.refl s
        · rw [heq]
          exact halted_send _ s
    · rw [consume_of_not_ours hours]
      exact isFrame_halted.refl s

theorem halted_afterMessages (hstopping : s.stopping = true) {ms : List (Environment × Json)}
    (hcalls : ∀ m ∈ ms, isCall m.2 = true) : Halted s (afterMessages s ms) := by
  induction ms generalizing s with
  | nil => exact isFrame_halted.refl s
  | cons m ms ih =>
    obtain ⟨hcall, hothers⟩ := List.forall_mem_cons.1 hcalls
    have hnext : (consume m.1 m.2 s).2.stopping = true := by
      rw [stopping_consume, hstopping]
      rfl
    exact isFrame_halted.trans (halted_consume hstopping hcall m.1) (ih hnext hothers)

/-- The flag is set once a call that stops the server has come.  Then it stays set, and whatever
calls follow, the server keeps all but its channel and what it has sent: for a method other than
`exit` no handler is chosen, so a request is answered by a failure and a notification has no effect.
Before that a method is refused only if no handler has its name. -/
theorem only_exit_after_stop (replies : List Reply) (before after : List (Environment × Json))
    (hcalls : ∀ m ∈ after, isCall m.2 = true) :
    let s := afterMessages { session := { replies } } before
    let t := afterMessages s after
    s.stopping = (before.any fun m => isStop m.2) ∧
    (s.stopping = true →
      t.stopping = true ∧ Halted s t ∧
      ∀ env message v, message.member? "method" = some v → v ≠ .str "exit" →
        Handler.choose t.stopping v = .error .unhandled ∧
        ((isOurs message ≠ .ok true ∨ message.member? "id" = none) ∧
            (consume env message t).2 = t ∨
          ∃ id, message.member? "id" = some id ∧
            consume env message t = send (noHandler id v) t)) ∧
    (s.stopping = false → ∀ v, Handler.choose s.stopping v = .error .unhandled ↔
      ∃ name, v = .str name ∧ Handler.ofMethod? name = none) := by
  intro s t
  refine ⟨?_, fun hstopping => ?_, fun hgoing v => ?_⟩
  · rw [stopping_afterMessages]
    rfl
  · have hlater : t.stopping = true := by
      rw [stopping_afterMessages, hstopping]
      rfl
    refine ⟨hlater, halted_afterMessages hstopping hcalls, fun env message v hmethod hne => ?_⟩
    have hother : v.same (.str "exit") = false := by
      simpa [Bool.eq_false_iff, Json.same_str] using hne
    have hchoose : Handler.choose t.stopping v = .error .unhandled := by
      rw [hlater, choose_of_stopping, hother]
      rfl
    exact ⟨hchoose, consume_of_choose_error hmethod hchoose⟩
  · rw [hgoing]
    exact choose_eq_unhandled_iff v

def checking : Environment :=
  { checker := some {} }

def setUpCall (id : Int) : Json :=
  request (.int id) "initialize" (.obj [("rootUri", .str "file:///w")])

/-- A server is set up and stopped. -/
def stoppedRun : List (Environment × Json) :=
  [(checking, setUpCall 1), (checking, request (.int 2) "shutdown" .null)]

/-- Calls that come too late. -/
def lateCalls : List (Environment × Json) :=
  [(checking, setUpCall 3), (checking, notification "textDocument/didSave" .null),
    (checking, notification "exit" .null)]

theorem only_exit_after_stop_late_calls :
    (∀ m ∈ lateCalls, isCall m.2 = true) ∧
    let s := afterMessages {} stoppedRun
    let t := afterMessages s lateCalls
    s.stopping = true ∧ Halted s t ∧ t.session.closed = true ∧
      Handler.choose t.stopping (.str "initialize") = .error .unhandled := by
  have hcalls : ∀ m ∈ lateCalls, isCall m.2 = true := by
    simp only [lateCalls, List.forall_mem_cons]
    exact ⟨rfl, rfl, rfl, by simp⟩
  obtain ⟨hflag, hstopped, -⟩ := only_exit_after_stop [] stoppedRun lateCalls hcalls
  have hstopping : (afterMessages {} stoppedRun).stopping = true := hflag.trans rfl
  obtain ⟨-, hhalted, hrefused⟩ := hstopped hstopping
  obtain ⟨hchoose, -⟩ := hrefused checking (setUpCall 4) (.str "initialize") rfl (by simp)
  exact ⟨hcalls, hstopping, hhalted, rfl, hchoose⟩

end LangServer.Server
