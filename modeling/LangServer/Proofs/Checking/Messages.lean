import LangServer.Proofs.Checking.Start
import LangServer.Proofs.Server.Handling

/-!
# Runs of a server with a checker

A client sets a server up and then sends settings, saves documents and answers the server's
questions, in any order.  Each of these messages keeps the workspace, and each is followed here
through its handler to what it does to the session.

A server that cannot check, because no checker is installed, no workspace is set up or the root is
empty, leaves its session as it is.  One that can check keeps `Serves`, which holds the invariant
`Session.Once` of its session.

Main statements: `Rests.step`, `Serves.step`, `Rests.after`, `Serves.after`, `prepared_begun`.
-/

namespace LangServer

/-! ### Messages -/

/-- A client's settings, whose section for the checker is an object or absent. -/
structure SettingsChange where
  settings : Json
  checker : List (String × Json)
  isSection : settings.truthy = false ∧ checker = [] ∨
    ∃ members, settings = .obj members ∧
      (members.lookup "mypy" = some (.obj checker) ∨ members.lookup "mypy" = none ∧ checker = [])

/-- What a client may send once the server is set up. -/
inductive ClientMessage where
  | configured (change : SettingsChange)
  | saved (params : Json)
  | answered (id result : Json)
  | refused (id failure : Json)

namespace SettingsChange

/-- The section for the checker; an absent one stands for an empty one. -/
def forChecker (d : SettingsChange) : Json :=
  .obj d.checker

def params (d : SettingsChange) : Json :=
  .obj [("settings", d.settings)]

def toJson (d : SettingsChange) : Json :=
  Server.notification "workspace/didChangeConfiguration" d.params

theorem checkerSettings_eq (d : SettingsChange) :
    Server.checkerSettings d.settings = .ok d.forChecker := by
  unfold Server.checkerSettings forChecker
  rcases d.isSection with ⟨hfalsy, hchecker⟩ | ⟨members, hmembers, hsection⟩
  · rw [hfalsy, hchecker]
    rfl
  · rcases hsection with hsome | ⟨hnone, hchecker⟩
    · cases htruthy : d.settings.truthy with
      | true => simp [hmembers, Json.getOr, hsome]
      | false =>
        rw [hmembers] at htruthy
        cases members with
        | nil => simp at hsome
        | cons => simp [Json.truthy] at htruthy
    · rw [hchecker]
      cases d.settings.truthy with
      | true => simp [hmembers, Json.getOr, hnone]
      | false => rfl

end SettingsChange

namespace ClientMessage

def toJson : ClientMessage → Json
  | configured change => change.toJson
  | saved params => Server.notification "textDocument/didSave" params
  | answered id result => Server.response id result
  | refused id failure => Server.refusal id failure

def settings? : ClientMessage → Option Json
  | configured change => some change.forChecker
  | _ => none

/-- The settings that arrive first; null where none do. -/
def firstSettings (ms : List ClientMessage) : Json :=
  (ms.findSome? settings?).getD .null

theorem isNull_of_settings? {m : ClientMessage} {v : Json} (h : m.settings? = some v) :
    v.isNull = false := by
  cases m with
  | configured change =>
    cases h
    rfl
  | _ => simp [settings?] at h

end ClientMessage

namespace Server

variable {env : Environment} {c : Checker} {conf : Configuration} {w : Workspace}
variable {s s' : Server}

/-- The server after messages of a client. -/
def after (env : Environment) (s : Server) (ms : List ClientMessage) : Server :=
  ms.foldl (fun s m => (consume env m.toJson s).2) s

/-! ### The handlers of settings and of saved documents -/

theorem handleSaved_eq (hc : env.checker = some c) (hw : s.workspace = some w) :
    handleSaved env s =
      ((Session.check env.machine c w s.session).1.map fun _ => .null,
        { s with session := (Session.check env.machine c w s.session).2 }) := by
  rw [handleSaved, Step.bind_of_ok (theChecker_eq hc s), Step.bind_of_ok (theWorkspace_eq hw)]
  rcases hrun : Session.check env.machine c w s.session with ⟨r, session⟩
  have hin : inSession (Session.check env.machine c w) s = (r, { s with session }) := by
    simp only [inSession, hrun]
  cases r with
  | ok u => exact Step.bind_of_ok hin
  | error f => exact Step.bind_of_error hin

theorem handleSaved_of_checker_none (hc : env.checker = none) :
    handleSaved env s = (.error .noChecker, s) := by
  rw [handleSaved, Step.bind_of_error (theChecker_none hc s)]

theorem handleSaved_of_workspace_none (hc : env.checker = some c) (hw : s.workspace = none) :
    handleSaved env s = (.error .absent, s) := by
  rw [handleSaved, Step.bind_of_ok (theChecker_eq hc s),
    Step.bind_of_error (theWorkspace_none hw)]

theorem call_saved (params : Json) (s : Server) :
    (call env .saved params s).2 = s ∨
      (call env .saved params s).2 = (handleSaved env s).2 := by
  rw [call]
  cases hparams : Handler.parameters .saved params with
  | error f =>
    left
    rw [Step.bind_of_error (lift_error rfl s)]
  | ok ps =>
    right
    rw [Step.bind_of_ok (lift_ok rfl s)]
    rfl

theorem consume_saved (env : Environment) (hstopping : s.stopping = false) (params : Json) :
    (consume env (ClientMessage.saved params).toJson s).2 = s ∨
      (consume env (ClientMessage.saved params).toJson s).2 = (handleSaved env s).2 := by
  have hchoose : Handler.choose s.stopping (.str "textDocument/didSave") = .ok .saved := by
    rw [hstopping]
    rfl
  rw [ClientMessage.toJson, consume_notification (by decide) hchoose]
  exact call_saved params s

theorem consume_configured (hstopping : s.stopping = false) (d : SettingsChange) :
    (consume env d.toJson s).2 = (handleConfigured env [("settings", d.settings)] s).2 := by
  have hchoose : Handler.choose s.stopping (.str "workspace/didChangeConfiguration") =
      .ok .configured := by
    rw [hstopping]
    rfl
  have hparams : Handler.parameters .configured d.params = .ok [("settings", d.settings)] := rfl
  rw [SettingsChange.toJson, consume_notification (by decide) hchoose, call,
    Step.bind_of_ok (lift_ok hparams s)]
  rfl

theorem handleConfigured_eq (hc : env.checker = some c) (hconf : s.configuration = some conf)
    (hw : s.workspace = some w) (d : SettingsChange) :
    (handleConfigured env [("settings", d.settings)] s).2 =
      { s with
        configuration := some (conf.update d.forChecker)
        session := (Session.configurationChanged env.machine c (conf.update d.forChecker) w
          s.session).2 } := by
  have hsettings : checkerSettings (parameter [("settings", d.settings)] "settings") =
      .ok d.forChecker := d.checkerSettings_eq
  have hmodify : (modify fun s =>
      { s with configuration := some (conf.update d.forChecker) } : Run Unit) s =
      (.ok (), { s with configuration := some (conf.update d.forChecker) }) := rfl
  have hworkspace : { s with
      configuration := some (conf.update d.forChecker) : Server }.workspace = some w := hw
  rw [handleConfigured, Step.bind_of_ok (theChecker_eq hc s),
    Step.bind_of_ok (theConfiguration_eq hconf), Step.bind_of_ok (lift_ok hsettings s)]
  rw [Step.bind_of_ok hmodify, Step.bind_of_ok (theWorkspace_eq hworkspace)]
  rcases hrun : Session.configurationChanged env.machine c (conf.update d.forChecker) w s.session
    with ⟨r, session⟩
  have hin : inSession (Session.configurationChanged env.machine c (conf.update d.forChecker) w)
      { s with configuration := some (conf.update d.forChecker) } =
      (r, { s with configuration := some (conf.update d.forChecker), session }) := by
    simp only [inSession, hrun]
  cases r with
  | ok u => rw [Step.bind_of_ok hin]; rfl
  | error f => rw [Step.bind_of_error hin]

theorem handleConfigured_of_checker_none (hc : env.checker = none) (ps : List (String × Json)) :
    handleConfigured env ps s = (.error .noChecker, s) := by
  rw [handleConfigured, Step.bind_of_error (theChecker_none hc s)]

theorem handleConfigured_of_configuration_none (hc : env.checker = some c)
    (hconf : s.configuration = none) (ps : List (String × Json)) :
    handleConfigured env ps s = (.error .absent, s) := by
  rw [handleConfigured, Step.bind_of_ok (theChecker_eq hc s),
    Step.bind_of_error (theConfiguration_none hconf)]

/-! ### A server that cannot check -/

/-- Whether there is a checker, and a workspace with a root. -/
def canCheck (env : Environment) (s : Server) : Bool :=
  env.checker.isSome && s.workspace.any fun w => w.rootPath != ""

structure Rests (env : Environment) (s : Server) : Prop where
  stopping : s.stopping = false
  both : s.workspace.isSome = s.configuration.isSome
  pending : s.session.pending = []
  cannot : s.canCheck env = false

theorem Rests.rootPath_eq (h : Rests env s) (hc : env.checker = some c)
    (hw : s.workspace = some w) : w.rootPath = "" := by
  have hcannot := h.cannot
  simpa [canCheck, hc, hw] using hcannot

theorem Rests.saved (h : Rests env s) : (handleSaved env s).2 = s := by
  cases hc : env.checker with
  | none => rw [handleSaved_of_checker_none hc]
  | some c =>
    cases hw : s.workspace with
    | none => rw [handleSaved_of_workspace_none hc hw]
    | some w =>
      rw [handleSaved_eq hc hw, Session.check_of_root_eq (h.rootPath_eq hc hw)]

/-- Settings are kept with the configuration, if there is one and a checker, and nowhere else. -/
theorem Rests.configured (h : Rests env s) (d : SettingsChange) :
    ∃ conf, conf.isSome = s.configuration.isSome ∧
      (handleConfigured env [("settings", d.settings)] s).2 = { s with configuration := conf } := by
  cases hc : env.checker with
  | none =>
    rw [handleConfigured_of_checker_none hc]
    exact ⟨s.configuration, rfl, rfl⟩
  | some c =>
    cases hconf : s.configuration with
    | none =>
      rw [handleConfigured_of_configuration_none hc hconf]
      exact ⟨s.configuration, by rw [hconf], rfl⟩
    | some conf =>
      have hboth := h.both
      rw [hconf, Option.isSome_some, Option.isSome_iff_exists] at hboth
      obtain ⟨w, hw⟩ := hboth
      rw [handleConfigured_eq hc hconf hw,
        Session.configurationChanged_of_root_eq (h.rootPath_eq hc hw)]
      exact ⟨some (conf.update d.forChecker), rfl, rfl⟩

theorem Rests.step (h : Rests env s) (m : ClientMessage) :
    Rests env (consume env m.toJson s).2 ∧ (consume env m.toJson s).2.session = s.session := by
  cases m with
  | configured change =>
    obtain ⟨conf, hconf, hrun⟩ := h.configured change
    rw [ClientMessage.toJson, consume_configured h.stopping, hrun]
    exact ⟨⟨h.stopping, h.both.trans hconf.symm, h.pending, h.cannot⟩, rfl⟩
  | saved params =>
    have hsame : (consume env (ClientMessage.saved params).toJson s).2 = s := by
      rcases consume_saved env h.stopping params with hrun | hrun
      · exact hrun
      · exact hrun.trans h.saved
    rw [hsame]
    exact ⟨h, rfl⟩
  | answered id result =>
    rw [ClientMessage.toJson, consume_response,
      (answered_answered env id result .null s).eq_of_pending_nil h.pending]
    exact ⟨h, rfl⟩
  | refused id failure =>
    rw [ClientMessage.toJson, consume_refusal,
      (answered_answered env id .null failure s).eq_of_pending_nil h.pending]
    exact ⟨h, rfl⟩

theorem Rests.after (h : Rests env s) (ms : List ClientMessage) :
    Rests env (after env s ms) ∧ (after env s ms).session = s.session := by
  induction ms generalizing s with
  | nil => exact ⟨h, rfl⟩
  | cons m ms ih =>
    obtain ⟨hnext, hsession⟩ := h.step m
    obtain ⟨hlast, hrest⟩ := ih hnext
    exact ⟨hlast, hrest.trans hsession⟩

/-! ### A server that can check -/

structure Serves (w : Workspace) (s : Server) : Prop where
  stopping : s.stopping = false
  workspace : s.workspace = some w
  configuration : s.configuration.isSome = true
  once : s.session.Once w

/-- The frozen settings after a message, from those before it. -/
def freeze (settings : Json) (m : ClientMessage) : Json :=
  if settings.isNull then m.settings?.getD settings else settings

theorem freeze_of_none {m : ClientMessage} (h : m.settings? = none) (settings : Json) :
    freeze settings m = settings := by
  simp [freeze, h]

theorem Serves.saved (h : Serves w s) (hc : env.checker = some c) :
    Serves w (handleSaved env s).2 ∧
      (handleSaved env s).2.session.settings = s.session.settings := by
  have hsteady := Session.steady_check env.machine c w s.session
  rw [handleSaved_eq hc h.workspace]
  exact ⟨⟨h.stopping, h.workspace, h.configuration, h.once.steady hsteady⟩, hsteady.settings⟩

theorem Serves.configured (h : Serves w s) (hc : env.checker = some c)
    (hroot : w.rootPath ≠ "") (d : SettingsChange) :
    Serves w (handleConfigured env [("settings", d.settings)] s).2 ∧
      (handleConfigured env [("settings", d.settings)] s).2.session.settings =
        freeze s.session.settings (.configured d) := by
  obtain ⟨conf, hconf⟩ := Option.isSome_iff_exists.mp h.configuration
  have honce := h.once.configurationChanged (conf.update d.forChecker) rfl env.machine c
  rw [handleConfigured_eq hc hconf h.workspace]
  refine ⟨⟨h.stopping, h.workspace, rfl, honce⟩, ?_⟩
  cases hnull : s.session.settings.isNull with
  | true =>
    have hfreeze : freeze s.session.settings (.configured d) = d.forChecker := by
      simp [freeze, hnull, ClientMessage.settings?]
    rw [hfreeze]
    rcases Session.configurationChanged_cases hroot hnull env.machine c (conf.update d.forChecker)
      with (hsteady | hlaunched) | hasked
    · exact hsteady.settings
    · exact hlaunched.settings
    · exact hasked.settings
  | false =>
    rw [Session.configurationChanged_of_frozen hroot hnull]
    simp [freeze, hnull]

theorem Serves.answered (h : Serves w s) (ha : Answered env s s') :
    Serves w s' ∧ s'.session.settings = s.session.settings := by
  cases ha with
  | closed rest hsub =>
    exact ⟨⟨h.stopping, h.workspace, h.configuration, h.once.close hsub⟩, rfl⟩
  | told rest hsub hless p hp c hc a =>
    rw [h.once.workspace p hp]
    have honce := h.once.interpreterAnswered hsub hless env.machine c a
    refine ⟨⟨h.stopping, h.workspace, h.configuration, honce⟩, ?_⟩
    rcases Session.tried_interpreterAnswered env.machine c w a
      { s.session with pending := rest } with hsteady | hlaunched
    · exact hsteady.settings
    · exact hlaunched.settings

theorem Serves.step (h : Serves w s) (hc : env.checker = some c) (hroot : w.rootPath ≠ "")
    (m : ClientMessage) :
    Serves w (consume env m.toJson s).2 ∧
      (consume env m.toJson s).2.session.settings = freeze s.session.settings m := by
  cases m with
  | configured change =>
    rw [ClientMessage.toJson, consume_configured h.stopping]
    exact h.configured hc hroot change
  | saved params =>
    rw [freeze_of_none rfl]
    rcases consume_saved env h.stopping params with hrun | hrun
    · rw [hrun]
      exact ⟨h, rfl⟩
    · rw [hrun]
      exact h.saved hc
  | answered id result =>
    rw [ClientMessage.toJson, consume_response, freeze_of_none rfl]
    exact h.answered (answered_answered env id result .null s)
  | refused id failure =>
    rw [ClientMessage.toJson, consume_refusal, freeze_of_none rfl]
    exact h.answered (answered_answered env id .null failure s)

theorem foldl_freeze (settings : Json) (ms : List ClientMessage) :
    ms.foldl freeze settings =
      if settings.isNull then (ms.findSome? ClientMessage.settings?).getD settings
      else settings := by
  induction ms generalizing settings with
  | nil => simp
  | cons m ms ih =>
    rw [List.foldl_cons, ih, List.findSome?_cons]
    cases hm : m.settings? with
    | none => rw [freeze_of_none hm]
    | some v =>
      cases hnull : settings.isNull with
      | true => simp [freeze, hnull, hm, ClientMessage.isNull_of_settings? hm]
      | false => simp [freeze, hnull]

theorem Serves.after (h : Serves w s) (hc : env.checker = some c) (hroot : w.rootPath ≠ "")
    (ms : List ClientMessage) :
    Serves w (after env s ms) ∧
      (after env s ms).session.settings = ms.foldl freeze s.session.settings := by
  induction ms generalizing s with
  | nil => exact ⟨h, rfl⟩
  | cons m ms ih =>
    obtain ⟨hnext, hsettings⟩ := h.step hc hroot m
    obtain ⟨hlast, hrest⟩ := ih hnext
    refine ⟨hlast, ?_⟩
    rw [List.foldl_cons, ← hsettings]
    exact hrest

/-! ### Setting up -/

/-- The second server may have a new workspace, with its configuration, and else differs in what a
check may change. -/
structure Prepared (s s' : Server) : Prop where
  session : s.session.Steady s'.session
  stopping : s'.stopping = s.stopping
  both : s.workspace.isSome = s.configuration.isSome →
    s'.workspace.isSome = s'.configuration.isSome

theorem isFrame_prepared : Step.IsFrame Prepared where
  refl _ := ⟨.refl _, rfl, id⟩
  trans h h' := {
    session := Session.isFrame_steady.trans h.session h'.session
    stopping := h'.stopping.trans h.stopping
    both := h'.both ∘ h.both }

theorem prepared_inSession {α : Type} {step : Session.Run α}
    (h : Step.Keeps Session.Steady step) : Step.Keeps Prepared (inSession step) :=
  fun s => ⟨h s.session, rfl, id⟩

theorem prepared_close : Step.Keeps Prepared close :=
  fun _ => ⟨⟨rfl, rfl, rfl, rfl, rfl, fun _ => rfl⟩, rfl, id⟩

theorem prepared_beginWatch (env : Environment) (process : Json) :
    Step.Keeps Prepared (beginWatch env process) :=
  keeps_beginWatch isFrame_prepared prepared_close
    (fun s => ⟨Session.steady_record rfl s.session, rfl, id⟩) env

/-- Where a workspace can be made of a URI, a configuration can. -/
theorem exists_configuration {m : Machine} {uri : Json} (h : Workspace.create m uri = .ok w)
    (options process capabilities : Json) :
    ∃ conf, Configuration.create m uri options process capabilities = .ok conf := by
  unfold Workspace.create at h
  unfold Configuration.create
  cases hpath : Uri.pathOf m.windows uri with
  | ok path => exact ⟨_, rfl⟩
  | error f =>
    rw [hpath] at h
    cases hparts : Uri.partsOf uri with
    | ok parts =>
      rw [hparts] at h
      cases h
    | error f =>
      rw [hparts] at h
      cases h

theorem prepared_setUpWorkspace (env : Environment) (ps : List (String × Json)) :
    Step.Keeps Prepared (setUpWorkspace env ps) := by
  intro s
  rw [setUpWorkspace]
  cases huri : rootUri env (parameter ps "rootUri") (parameter ps "rootPath") with
  | error f =>
    rw [Step.bind_of_error (lift_error rfl s)]
    exact isFrame_prepared.refl s
  | ok uri =>
    rw [Step.bind_of_ok (lift_ok rfl s)]
    cases hw : Workspace.create env.machine uri with
    | error f =>
      rw [Step.bind_of_error (lift_error rfl s)]
      exact isFrame_prepared.refl s
    | ok w =>
      obtain ⟨conf, hconf⟩ := exists_configuration hw
        (if (parameter ps "initializationOptions").truthy then
          parameter ps "initializationOptions" else .obj [])
        (parameter ps "processId") ((ps.lookup "capabilities").getD (.obj []))
      rw [Step.bind_of_ok (lift_ok rfl s)]
      simp only [hconf]
      exact ⟨.refl _, rfl, fun _ => rfl⟩

theorem prepared_handleSetUp (env : Environment) (ps : List (String × Json)) :
    Step.Keeps Prepared (handleSetUp env ps) := by
  refine isFrame_prepared.bind (prepared_setUpWorkspace env ps) fun _ => ?_
  cases env.checker with
  | none =>
    refine isFrame_prepared.bind ?_ fun _ => isFrame_prepared.pure _
    exact prepared_inSession (Session.steady_send rfl)
  | some c =>
    refine isFrame_prepared.bind_if (prepared_beginWatch env _) (fun _ => ?_) ()
    exact isFrame_prepared.bind (keeps_lift isFrame_prepared _) fun _ => isFrame_prepared.pure _

theorem isQuestion_outcomeMessage (id : Json) (r : Except Fault Json) :
    (outcomeMessage id r).isQuestion = false := by
  cases r <;> rfl

/-- The server after the request that sets it up; it has checks to come. -/
def begun (env : Environment) (replies : List Reply) (id params : Json) : Server :=
  (consume env (request id "initialize" params) { session := { replies } }).2

theorem prepared_begun (env : Environment) (replies : List Reply) (id params : Json) :
    Prepared { session := { replies } } (begun env replies id params) := by
  have hcall : Step.Keeps Prepared (call env .setUp params) :=
    isFrame_prepared.bind (keeps_lift isFrame_prepared _) fun ps => prepared_handleSetUp env ps
  rw [begun, consume_request (h := .setUp) rfl]
  refine isFrame_prepared.trans (hcall _) ?_
  exact prepared_inSession (Session.steady_send (isQuestion_outcomeMessage _ _)) _

theorem rests_begun {replies : List Reply} {id params : Json}
    (h : (begun env replies id params).canCheck env = false) :
    Rests env (begun env replies id params) where
  stopping := (prepared_begun env replies id params).stopping
  both := (prepared_begun env replies id params).both rfl
  pending := (prepared_begun env replies id params).session.pending
  cannot := h

theorem serves_begun {replies : List Reply} {id params : Json}
    (hw : (begun env replies id params).workspace = some w) :
    Serves w (begun env replies id params) where
  stopping := (prepared_begun env replies id params).stopping
  workspace := hw
  configuration := by
    rw [← (prepared_begun env replies id params).both rfl, hw]
    rfl
  once := by
    have hsteady := (prepared_begun env replies id params).session
    exact Session.once_of_fresh hsteady.pending hsteady.requests hsteady.starts hsteady.questions
      (hsteady.isRunning w.serial)

theorem exists_of_canCheck (h : s.canCheck env = true) :
    ∃ c w, env.checker = some c ∧ s.workspace = some w ∧ w.rootPath ≠ "" := by
  cases hc : env.checker with
  | none => simp [canCheck, hc] at h
  | some c =>
    cases hw : s.workspace with
    | none => simp [canCheck, hw] at h
    | some w => exact ⟨c, w, rfl, rfl, by simpa [canCheck, hc, hw] using h⟩

end Server

end LangServer
