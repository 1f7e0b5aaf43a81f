import LangServer.Proofs.Step
import LangServer.Server.Endpoint

/-!
# How messages are handled

The parts of a handler, each with its result and the state it leaves, and what a message runs.  A
notification runs its handler and passes over a fault of it.  A request runs its handler and sends
one message with the outcome.  An answer takes its question from those that are open.

Main statements: `consume_notification`, `consume_request`, `answered_answered`.
-/

namespace LangServer.Server

variable {s : Server} {w : Workspace} {env : Environment} {c : Checker} {conf : Configuration}
variable {α : Type}

/-! ### Parts of a handler -/

theorem lift_ok {x : Outcome α} {a : α} (h : x = .ok a) (s : Server) :
    lift x s = (.ok a, s) := by
  rw [h]
  rfl

theorem lift_error {x : Outcome α} {e : Fault} (h : x = .error e) (s : Server) :
    lift x s = (.error e, s) := by
  rw [h]
  rfl

theorem theWorkspace_eq (hw : s.workspace = some w) : theWorkspace s = (.ok w, s) := by
  rw [theWorkspace, Step.get_bind, hw]
  rfl

theorem theWorkspace_none (hw : s.workspace = none) : theWorkspace s = (.error .absent, s) := by
  rw [theWorkspace, Step.get_bind, hw]
  rfl

theorem theConfiguration_eq (h : s.configuration = some conf) :
    theConfiguration s = (.ok conf, s) := by
  rw [theConfiguration, Step.get_bind, h]
  rfl

theorem theConfiguration_none (h : s.configuration = none) :
    theConfiguration s = (.error .absent, s) := by
  rw [theConfiguration, Step.get_bind, h]
  rfl

theorem theChecker_eq (h : env.checker = some c) (s : Server) :
    theChecker env s = (.ok c, s) := by
  rw [theChecker, h]
  rfl

theorem theChecker_none (h : env.checker = none) (s : Server) :
    theChecker env s = (.error .noChecker, s) := by
  rw [theChecker, h]
  rfl

theorem beginWatch_eq (env : Environment) (process : Json) (s : Server) :
    beginWatch env process s = (.ok (), (watch env process s).2) := rfl

/-! ### What the parts of a handler keep -/

section Frame

variable {R : Server → Server → Prop} (hframe : Step.IsFrame R)
include hframe

theorem keeps_lift (r : Outcome α) : Step.Keeps R (lift r) := by
  cases r with
  | ok a => exact hframe.refl
  | error f => exact hframe.refl

theorem keeps_theWorkspace : Step.Keeps R theWorkspace := by
  refine hframe.bind hframe.get fun s => ?_
  cases s.workspace with
  | some w => exact hframe.pure w
  | none => exact hframe.throw _

theorem keeps_theConfiguration : Step.Keeps R theConfiguration := by
  refine hframe.bind hframe.get fun s => ?_
  cases s.configuration with
  | some c => exact hframe.pure c
  | none => exact hframe.throw _

theorem keeps_theChecker (env : Environment) : Step.Keeps R (theChecker env) := by
  rw [theChecker]
  cases env.checker with
  | some c => exact hframe.pure c
  | none => exact hframe.throw _

theorem keeps_beginWatch {process : Json} (hclose : Step.Keeps R close)
    (htimer : ∀ s, R s { s with
      session := { s.session with events := s.session.events ++ [.timer watchInterval process] }
      timers := s.timers ++ [process] }) (env : Environment) :
    Step.Keeps R (beginWatch env process) := by
  have hwatch : Step.Keeps R (watch env process) :=
    hframe.bind (keeps_lift hframe _) fun _ => hframe.bind_if hclose (fun _ s => htimer s) ()
  intro s
  rw [beginWatch_eq]
  exact hwatch s

/-- Setting up a workspace changes nothing but the workspace and its configuration. -/
theorem keeps_setUpWorkspace
    (hworkspace : ∀ s w n, R s { s with workspace := w, workspaces := n })
    (hconfiguration : ∀ s c, R s { s with configuration := c }) (env : Environment)
    (ps : List (String × Json)) : Step.Keeps R (setUpWorkspace env ps) := by
  refine hframe.bind (keeps_lift hframe _) fun uri => ?_
  refine hframe.bind (keeps_lift hframe _) fun w => ?_
  refine hframe.bind (fun s => hworkspace s _ _) fun _ => ?_
  exact hframe.bind (keeps_lift hframe _) fun c => fun s => hconfiguration s _

end Frame

/-! ### Messages of a client -/

def notification (method : String) (params : Json) : Json :=
  .obj [("jsonrpc", .str "2.0"), ("method", .str method), ("params", params)]

def request (id : Json) (method : String) (params : Json) : Json :=
  .obj [("jsonrpc", .str "2.0"), ("id", id), ("method", .str method), ("params", params)]

def response (id result : Json) : Json :=
  .obj [("jsonrpc", .str "2.0"), ("id", id), ("result", result)]

def refusal (id failure : Json) : Json :=
  .obj [("jsonrpc", .str "2.0"), ("id", id), ("error", failure)]

theorem notified_eq {method params : Json} {h : Handler}
    (hcancel : method.same (.str cancelMethod) = false)
    (hchoose : Handler.choose s.stopping method = .ok h) :
    notified env method params s = (.ok (), (call env h params s).2) := by
  rw [notified, hcancel]
  simp only [Bool.false_eq_true, if_false]
  rw [Step.get_bind, hchoose]
  rfl

/-- The message that tells the outcome of a request. -/
def outcomeMessage (id : Json) : Except Fault Json → Rpc.Message
  | .ok result => .response id result
  | .error f => failure id f

theorem requested_eq {id method params : Json} {h : Handler}
    (hchoose : Handler.choose s.stopping method = .ok h) :
    requested env id method params s =
      send (outcomeMessage id (call env h params s).1) (call env h params s).2 := by
  have hattempt : attempt (call env h params) s =
      (.ok (call env h params s).1, (call env h params s).2) := rfl
  rw [requested, Step.get_bind, hchoose]
  simp only
  rw [Step.bind_of_ok hattempt]
  cases (call env h params s).1 <;> rfl

section Consume

variable {message id method : Json}

theorem consume_of_not_ours (hours : isOurs message ≠ .ok true) :
    (consume env message s).2 = s := by
  rw [consume]
  cases hr : isOurs message with
  | error f => rw [Step.bind_of_error (lift_error rfl s)]
  | ok ours =>
    cases ours with
    | true => exact absurd hr hours
    | false =>
      rw [Step.bind_of_ok (lift_ok rfl s)]
      rfl

variable (hours : isOurs message = .ok true)
include hours

theorem consume_notified (hid : message.member? "id" = none)
    (hmethod : message.field "method" = .ok method) :
    consume env message s = notified env method (message.memberOr "params" .null) s := by
  rw [consume, Step.bind_of_ok (lift_ok hours s)]
  simp only [Bool.not_true, Bool.false_eq_true, if_false, hid]
  rw [Step.bind_of_ok (lift_ok hmethod s)]

theorem consume_requested (hid : message.member? "id" = some id)
    (hmethod : message.member? "method" = some method) :
    consume env message s = requested env id method (message.memberOr "params" .null) s := by
  rw [consume, Step.bind_of_ok (lift_ok hours s)]
  simp only [Bool.not_true, Bool.false_eq_true, if_false, hid, hmethod]

theorem consume_answered (hid : message.member? "id" = some id)
    (hmethod : message.member? "method" = none) :
    consume env message s =
      answered env id (message.memberOr "result" .null) (message.memberOr "error" .null) s := by
  rw [consume, Step.bind_of_ok (lift_ok hours s)]
  simp only [Bool.not_true, Bool.false_eq_true, if_false, hid, hmethod]

end Consume

theorem consume_notification {method : String} {params : Json} {h : Handler}
    (hcancel : method ≠ cancelMethod) (hchoose : Handler.choose s.stopping (.str method) = .ok h) :
    consume env (notification method params) s = (.ok (), (call env h params s).2) := by
  have hother : (Json.str method).same (.str cancelMethod) = false := by
    simpa [Bool.eq_false_iff, Json.same_str] using hcancel
  have hrun : consume env (notification method params) s = notified env (.str method) params s :=
    consume_notified rfl rfl rfl
  rw [hrun, notified_eq hother hchoose]

theorem consume_request {id : Json} {method : String} {params : Json} {h : Handler}
    (hchoose : Handler.choose s.stopping (.str method) = .ok h) :
    consume env (request id method params) s =
      send (outcomeMessage id (call env h params s).1) (call env h params s).2 := by
  have hrun : consume env (request id method params) s = requested env id (.str method) params s :=
    consume_requested rfl rfl rfl
  rw [hrun, requested_eq hchoose]

/-! ### Answers -/

theorem consume_response (id result : Json) (s : Server) :
    consume env (response id result) s = answered env id result .null s :=
  consume_answered rfl rfl rfl

theorem consume_refusal (id failure : Json) (s : Server) :
    consume env (refusal id failure) s = answered env id .null failure s :=
  consume_answered rfl rfl rfl

def withPending (s : Server) (rest : List Pending) : Server :=
  { s with session := { s.session with pending := rest } }

/-- Whether an identifier is that of a question. -/
def isNamed (id : Json) (p : Pending) : Bool :=
  id.same (.str (Rpc.Message.requestId p.number))

theorem takePending_eq (id : Json) (s : Server) :
    takePending id s =
      if s.session.pending.isEmpty then (.ok none, s)
      else if id.isKey then
        (.ok (s.session.pending.find? (isNamed id)),
          s.withPending (s.session.pending.filter fun p => !isNamed id p))
      else (.error id.notKey, s) := by
  rw [takePending, Step.get_bind]
  cases s.session.pending.isEmpty <;> cases id.isKey <;> rfl

/-- An identifier takes no question, or takes one of those that are open. -/
theorem takePending_cases (id : Json) (s : Server) :
    ∃ r rest, takePending id s = (r, s.withPending rest) ∧ rest.Sublist s.session.pending ∧
      ∀ p, r = .ok (some p) → p ∈ s.session.pending ∧ rest.length < s.session.pending.length := by
  rw [takePending_eq]
  split
  · exact ⟨_, _, rfl, .refl _, by simp⟩
  · split
    · refine ⟨_, _, rfl, List.filter_sublist, fun p hp => ?_⟩
      have hfind : s.session.pending.find? (isNamed id) = some p := by simpa using hp
      have hmem := List.mem_of_find?_eq_some hfind
      refine ⟨hmem, List.length_filter_lt_length_iff_exists.mpr ⟨p, hmem, ?_⟩⟩
      simpa using List.find?_some hfind
    · exact ⟨_, _, rfl, .refl _, by simp⟩

/-- What is left after an answer: its question is closed, and nothing else has changed or the
session has gone on with the interpreter that the answer tells. -/
inductive Answered (env : Environment) (s : Server) : Server → Prop where
  | closed (rest : List Pending) (hsub : rest.Sublist s.session.pending) :
    Answered env s (s.withPending rest)
  | told (rest : List Pending) (hsub : rest.Sublist s.session.pending)
    (hless : rest.length < s.session.pending.length) (p : Pending) (hp : p ∈ s.session.pending)
    (c : Checker) (hc : env.checker = some c) (a : Session.Answer) :
    Answered env s
      { s with
        session := (Session.interpreterAnswered env.machine c p.workspace a
          { s.session with pending := rest }).2 }

theorem answered_answered (env : Environment) (id result failure : Json) (s : Server) :
    Answered env s (answered env id result failure s).2 := by
  obtain ⟨r, rest, htake, hsub, htaken⟩ := takePending_cases id s
  rw [answered]
  cases r with
  | error e =>
    rw [Step.bind_of_error htake]
    exact .closed rest hsub
  | ok o =>
    rw [Step.bind_of_ok htake]
    cases o with
    | none => exact .closed rest hsub
    | some p =>
      obtain ⟨hp, hless⟩ := htaken p rfl
      cases hc : env.checker with
      | none => exact .closed rest hsub
      | some c =>
        cases hnull : failure.isNull with
        | true =>
          simp only [if_true]
          exact .told rest hsub hless p hp c hc (.value result)
        | false =>
          simp only [Bool.false_eq_true, if_false]
          cases hcheck : checkFailure failure with
          | error e =>
            rw [Step.bind_of_error (lift_error rfl _)]
            exact .closed rest hsub
          | ok u =>
            rw [Step.bind_of_ok (lift_ok rfl _)]
            exact .told rest hsub hless p hp c hc .refused

/-- Where no question is open, an answer changes nothing. -/
theorem Answered.eq_of_pending_nil {s' : Server} (h : Answered env s s')
    (hpending : s.session.pending = []) : s' = s := by
  cases h with
  | closed rest hsub =>
    rw [hpending, List.sublist_nil] at hsub
    rw [hsub, withPending, ← hpending]
  | told rest hsub hless =>
    rw [hpending] at hless
    exact absurd hless (Nat.not_lt_zero _)

theorem Answered.configuration {s' : Server} (h : Answered env s s') :
    s'.configuration = s.configuration := by
  cases h <;> rfl

theorem Answered.stopping {s' : Server} (h : Answered env s s') : s'.stopping = s.stopping := by
  cases h <;> rfl

end LangServer.Server
