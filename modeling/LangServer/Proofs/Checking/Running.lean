import LangServer.Proofs.Checking.Lifecycle

/-!
# From settings to a running checker

Settings that arrive are frozen before anything is done with them.  What follows may stop in three
places: the client's capabilities cannot be read, the interpreter that it names is no path, or the
checker cannot read the configuration file that the settings name.  The settings stay frozen then,
the question is closed, and no checker runs, whatever is sent later.

`Stage` says how far a run has come.  Each message takes one stage to the next, and the stage of a
whole run is found from the first settings and the first answer after them.

Main statement: `running_iff_startable`.
-/

namespace LangServer

/-! ### Answers that lead to a start -/

/-- The user whose home directory a path begins with. -/
def Path.homeUser : List Char → List Char
  | '~' :: rest => rest.takeWhile (· != '/')
  | _ => []

theorem Path.isOk_expandHome (home : List Char) (homes : List (String × String)) (p : List Char) :
    (expandHome home homes p).isOk = !(homeUser p).contains '\x00' := by
  cases hp : p.head? == some '~' with
  | false =>
    have hnone : ∀ rest, p ≠ '~' :: rest := by
      rintro rest rfl
      simp at hp
    have hexpand : expandHome home homes p = .ok p := by
      unfold expandHome
      split
      · exact absurd rfl (hnone _)
      · rfl
    have huser : homeUser p = [] := by
      unfold homeUser
      split
      · exact absurd rfl (hnone _)
      · rfl
    rw [hexpand, huser]
    rfl
  | true =>
    obtain ⟨rest, rfl⟩ : ∃ rest, p = '~' :: rest := List.head?_eq_some_iff.1 (eq_of_beq hp)
    simp only [expandHome, homeUser]
    cases hempty : (rest.takeWhile (· != '/')).isEmpty with
    | true =>
      rw [List.isEmpty_iff.1 hempty]
      rfl
    | false =>
      cases hnull : (rest.takeWhile (· != '/')).contains '\x00' with
      | true => rfl
      | false => cases homes.lookup (String.ofList (rest.takeWhile (· != '/'))) <;> rfl

namespace Session

variable {w : Workspace} {s s' : Session}

/-- Whether a value is none, or a text that is the path of an interpreter. -/
def isUsable (v : Json) : Bool :=
  !v.truthy || match v with
    | .str text => !(Path.homeUser text.toList).contains '\x00'
    | _ => false

theorem isOk_interpreterPath (m : Machine) (w : Workspace) {v : Json} (htruthy : v.truthy = true) :
    (interpreterPath m w v).isOk = isUsable v := by
  unfold isUsable
  rw [htruthy]
  cases v with
  | str text =>
    simp only [Bool.not_true, Bool.false_or, ← Path.isOk_expandHome m.home.toList m.otherHomes]
    unfold interpreterPath
    simp only [Json.expectText, bind, Except.bind]
    cases Path.expandHome m.home.toList m.otherHomes text.toList <;> rfl
  | _ => rfl

theorem interpreterAnswered_of_isUsable {a : Answer} (h : isUsable (interpreterOf a) = true)
    (m : Machine) (c : Checker) (w : Workspace) (s : Session) :
    ∃ path, interpreterAnswered m c w a s = start m c w path s := by
  unfold interpreterAnswered
  cases htruthy : (interpreterOf a).truthy with
  | false => exact ⟨interpreterOf a, rfl⟩
  | true =>
    have hok := isOk_interpreterPath m w htruthy
    cases hpath : interpreterPath m w (interpreterOf a) with
    | error f =>
      rw [hpath, h] at hok
      cases hok
    | ok path =>
      refine ⟨path, ?_⟩
      simp only [if_true]
      exact Step.bind_of_ok rfl

theorem interpreterAnswered_of_not_isUsable {a : Answer} (h : isUsable (interpreterOf a) = false)
    (m : Machine) (c : Checker) (w : Workspace) (s : Session) :
    (interpreterAnswered m c w a s).2 = s := by
  have htruthy : (interpreterOf a).truthy = true := by
    cases htruthy : (interpreterOf a).truthy with
    | true => rfl
    | false => simp [isUsable, htruthy] at h
  have hok := isOk_interpreterPath m w htruthy
  unfold interpreterAnswered
  cases hpath : interpreterPath m w (interpreterOf a) with
  | ok path =>
    rw [hpath, h] at hok
    cases hok
  | error f =>
    simp only [htruthy, if_true]
    rfl

theorem Tried.pending (h : Tried w s s') : s'.pending = s.pending := by
  rcases h with hsteady | hlaunched
  · exact hsteady.pending
  · exact hlaunched.pending

theorem Tried.settings (h : Tried w s s') : s'.settings = s.settings := by
  rcases h with hsteady | hlaunched
  · exact hsteady.settings
  · exact hlaunched.settings

theorem isRunning_start (m : Machine) (c : Checker) (w : Workspace) (interpreter : Json)
    (s : Session) :
    (start m c w interpreter s).2.isRunning w.serial =
      (s.isRunning w.serial || readsConfig c s.settings) := by
  cases hreads : readsConfig c s.settings with
  | true => simp [(launched_start_of_readsConfig hreads m w interpreter).isRunning]
  | false => simp [(steady_start_of_not_readsConfig hreads m w interpreter).isRunning]

theorem isRunning_interpreterAnswered (m : Machine) (c : Checker) (w : Workspace) (a : Answer)
    (s : Session) :
    (interpreterAnswered m c w a s).2.isRunning w.serial =
      (s.isRunning w.serial || readsConfig c s.settings && isUsable (interpreterOf a)) := by
  cases husable : isUsable (interpreterOf a) with
  | true =>
    obtain ⟨path, hrun⟩ := interpreterAnswered_of_isUsable husable m c w s
    rw [hrun, isRunning_start, Bool.and_true]
  | false => simp [interpreterAnswered_of_not_isUsable husable]

end Session

/-! ### Stages -/

namespace Server

/-- Whether an answer to the question for the interpreter leads to a start. -/
def accepts (result failure : Json) : Bool :=
  if failure.isNull then Session.isUsable (Session.interpreterOf (.value result))
  else (checkFailure failure).isOk

end Server

/-- The result and the failure of an answer to the first question. -/
def ClientMessage.answer? : ClientMessage → Option (Json × Json)
  | answered id result =>
    if id.same (.str (Rpc.Message.requestId 1)) then some (result, .null) else none
  | refused id failure =>
    if id.same (.str (Rpc.Message.requestId 1)) then some (.null, failure) else none
  | _ => none

/-- The first answer after the first settings. -/
def ClientMessage.firstAnswer (ms : List ClientMessage) : Option (Json × Json) :=
  (ms.dropWhile fun m => m.settings?.isNone).findSome? answer?

/-- How far a run has come: no settings, an open question, or neither. -/
inductive Stage where
  | waiting
  | asked (settings : Json)
  | settled (running : Bool)

namespace Stage

/-- The stage with settings and perhaps an answer. -/
def given (c : Checker) (capabilities settings : Json) (answer : Option (Json × Json)) : Stage :=
  match Session.canAsk capabilities, answer with
  | .ok true, none => asked settings
  | .ok true, some (result, failure) =>
    settled (Session.readsConfig c settings && Server.accepts result failure)
  | .ok false, _ => settled (Session.readsConfig c settings)
  | .error _, _ => settled false

def next (c : Checker) (capabilities : Json) (stage : Stage) (m : ClientMessage) : Stage :=
  match stage with
  | waiting => m.settings?.elim waiting fun settings => given c capabilities settings none
  | asked settings =>
    m.answer?.elim (asked settings) fun a =>
      settled (Session.readsConfig c settings && Server.accepts a.1 a.2)
  | settled running => settled running

variable {c : Checker} {capabilities : Json}

theorem given_of_error {f : Fault} (hask : Session.canAsk capabilities = .error f)
    (settings : Json) (answer : Option (Json × Json)) :
    given c capabilities settings answer = settled false := by
  simp [given, hask]

theorem given_of_cannot (hask : Session.canAsk capabilities = .ok false) (settings : Json)
    (answer : Option (Json × Json)) :
    given c capabilities settings answer = settled (Session.readsConfig c settings) := by
  simp [given, hask]

theorem given_of_can (hask : Session.canAsk capabilities = .ok true) (settings : Json)
    (answer : Option (Json × Json)) :
    given c capabilities settings answer = answer.elim (asked settings) fun a =>
      settled (Session.readsConfig c settings && Server.accepts a.1 a.2) := by
  cases answer <;> simp [given, hask]

theorem foldl_next_settled (running : Bool) (ms : List ClientMessage) :
    ms.foldl (next c capabilities) (settled running) = settled running := by
  induction ms with
  | nil => rfl
  | cons m ms ih => exact ih

theorem foldl_next_given (capabilities settings : Json) (ms : List ClientMessage) :
    ms.foldl (next c capabilities) (given c capabilities settings none) =
      given c capabilities settings (ms.findSome? ClientMessage.answer?) := by
  cases hask : Session.canAsk capabilities with
  | error f => rw [given_of_error hask, given_of_error hask, foldl_next_settled]
  | ok asks =>
    cases asks with
    | false => rw [given_of_cannot hask, given_of_cannot hask, foldl_next_settled]
    | true =>
      rw [given_of_can hask, given_of_can hask]
      induction ms with
      | nil => rfl
      | cons m ms ih =>
        cases hm : m.answer? with
        | none => simpa [next, hm] using ih
        | some answer => simp [next, hm, foldl_next_settled]

/-- The stage of a run, from its first settings and the first answer after them. -/
theorem foldl_next_waiting (capabilities : Json) (ms : List ClientMessage) :
    ms.foldl (next c capabilities) waiting =
      (ms.findSome? ClientMessage.settings?).elim waiting fun settings =>
        given c capabilities settings (ClientMessage.firstAnswer ms) := by
  induction ms with
  | nil => rfl
  | cons m ms ih =>
    cases hm : m.settings? with
    | none => simpa [next, hm, ClientMessage.firstAnswer] using ih
    | some settings =>
      have hno : m.answer? = none := by
        cases m with
        | configured change => rfl
        | _ => simp [ClientMessage.settings?] at hm
      simp [next, hm, hno, ClientMessage.firstAnswer, foldl_next_given]

/-- Whether a session has come as far as a stage. -/
def IsOf (w : Workspace) (s : Session) : Stage → Prop
  | waiting => s.settings.isNull = true
  | asked settings =>
    settings.isNull = false ∧ s.settings = settings ∧
      s.pending = [{ number := 1, workspace := w }]
  | settled running =>
    s.settings.isNull = false ∧ s.pending = [] ∧ s.isRunning w.serial = running

def isSettled : Stage → Bool
  | settled _ => true
  | _ => false

/-- Whether a checker runs at a stage. -/
def runs : Stage → Bool
  | settled running => running
  | _ => false

theorem isSettled_given (capabilities settings : Json) (answer : Option (Json × Json)) :
    (given c capabilities settings answer).isSettled = true ↔
      (Session.canAsk capabilities = .ok true → answer.isSome = true) := by
  cases hask : Session.canAsk capabilities with
  | error f => simp [given_of_error hask, isSettled]
  | ok asks =>
    cases asks with
    | false => simp [given_of_cannot hask, isSettled]
    | true => cases answer <;> simp [given_of_can hask, isSettled]

theorem runs_given (capabilities settings : Json) (answer : Option (Json × Json)) :
    (given c capabilities settings answer).runs = true ↔
      Session.readsConfig c settings = true ∧
      (Session.canAsk capabilities = .ok false ∨
        Session.canAsk capabilities = .ok true ∧
          ∃ a, answer = some a ∧ Server.accepts a.1 a.2 = true) := by
  cases hask : Session.canAsk capabilities with
  | error f => simp [given_of_error hask, runs]
  | ok asks =>
    cases asks with
    | false => simp [given_of_cannot hask, runs]
    | true => cases answer <;> simp [given_of_can hask, runs]

variable {w : Workspace} {s s' : Session} {stage : Stage}

theorem IsOf.steady (h : stage.IsOf w s) (hs : s.Steady s') : stage.IsOf w s' := by
  have hsettings := hs.settings
  cases stage with
  | waiting =>
    rw [IsOf, hsettings]
    exact h
  | asked settings => exact ⟨h.1, hsettings.trans h.2.1, hs.pending.trans h.2.2⟩
  | settled running =>
    rw [IsOf, hsettings]
    exact ⟨h.1, hs.pending.trans h.2.1, (hs.isRunning _).trans h.2.2⟩

theorem IsOf.isRunning (h : stage.IsOf w s) (honce : s.Once w) :
    s.isRunning w.serial = stage.runs := by
  cases stage with
  | waiting =>
    obtain ⟨-, -, hstarts⟩ := honce.untouched h
    rw [honce.isRunning, hstarts]
    rfl
  | asked settings =>
    -- the open question takes the place of the one start
    have hone := honce.one
    rw [h.2.2, List.length_singleton] at hone
    rw [honce.isRunning]
    exact decide_eq_false (by omega)
  | settled running => exact h.2.2

theorem IsOf.isSettled_iff (h : stage.IsOf w s) :
    stage.isSettled = true ↔ s.settings.isNull = false ∧ s.pending = [] := by
  cases stage with
  | waiting =>
    have hnull : s.settings.isNull = true := h
    simp [isSettled, hnull]
  | asked settings => simp [isSettled, h.2.2]
  | settled running => exact ⟨fun _ => ⟨h.1, h.2.1⟩, fun _ => rfl⟩

/-- Settings that come first lead to the question, to a start, or nowhere. -/
theorem isOf_configurationChanged {conf : Configuration} (honce : s.Once w)
    (hroot : w.rootPath ≠ "") (hnull : s.settings.isNull = true)
    (hconf : conf.settings.isNull = false) (m : Machine) (c : Checker) :
    (given c conf.capabilities conf.settings none).IsOf w
      (Session.configurationChanged m c conf w s).2 := by
  obtain ⟨hpending, hrequests, hstarts⟩ := honce.untouched hnull
  have hidle : Session.isRunning { s with settings := conf.settings } w.serial = false := by
    have hrunning := honce.isRunning
    rw [hstarts] at hrunning
    exact hrunning
  rw [Session.configurationChanged_of_null hroot hnull]
  cases hask : Session.canAsk conf.capabilities with
  | error f =>
    rw [given_of_error hask]
    exact ⟨hconf, hpending, hidle⟩
  | ok asks =>
    have hlift : Session.lift (Except.ok asks) { s with settings := conf.settings } =
        (.ok asks, { s with settings := conf.settings }) := rfl
    rw [Step.bind_of_ok hlift]
    cases asks with
    | true =>
      have hasked := Session.asked_askInterpreter w { s with settings := conf.settings }
      rw [given_of_can hask]
      refine ⟨hconf, hasked.settings, hasked.pending.trans ?_⟩
      simp [hpending, hrequests]
    | false =>
      have htried := Session.tried_start m c w .null { s with settings := conf.settings }
      have hstart := Session.isRunning_start m c w .null { s with settings := conf.settings }
      rw [hidle, Bool.false_or] at hstart
      rw [given_of_cannot hask]
      exact ⟨(congrArg Json.isNull htried.settings).trans hconf, htried.pending.trans hpending,
        hstart⟩

end Stage

namespace Server

variable {env : Environment} {c : Checker} {conf : Configuration} {w : Workspace} {s : Server}
variable {replies : List Reply} {id params result failure : Json} {stage : Stage}

/-! ### Answers -/

theorem answered_of_not_named (env : Environment) {p : Pending}
    (hpending : s.session.pending = [p]) (hnamed : isNamed id p = false) (result failure : Json) :
    (answered env id result failure s).2 = s := by
  have htake := takePending_eq id s
  have hsame : s.withPending [p] = s := by rw [withPending, ← hpending]
  simp only [hpending, List.isEmpty_cons, Bool.false_eq_true, if_false, List.find?_cons, hnamed,
    List.find?_nil, List.filter_cons, Bool.not_false, if_true, List.filter_nil, hsame] at htake
  rw [answered]
  split at htake
  · rw [Step.bind_of_ok htake]
    rfl
  · rw [Step.bind_of_error htake]

/-- What the session is given to go on with when its only question is answered. -/
theorem answered_of_named (hc : env.checker = some c) {p : Pending}
    (hpending : s.session.pending = [p]) (hnamed : isNamed id p = true) (result failure : Json) :
    (answered env id result failure s).2 = s.withPending [] ∧ accepts result failure = false ∨
      ∃ a, accepts result failure = Session.isUsable (Session.interpreterOf a) ∧
        (answered env id result failure s).2 =
          { s with
            session := (Session.interpreterAnswered env.machine c p.workspace a
              { s.session with pending := [] }).2 } := by
  have hkey : id.isKey = true := by
    obtain rfl := Json.same_str.1 hnamed
    rfl
  have htake : takePending id s = (.ok (some p), s.withPending []) := by
    rw [takePending_eq, hkey]
    simp [hpending, hnamed]
  rw [answered, Step.bind_of_ok htake, hc]
  cases hnull : failure.isNull with
  | true =>
    right
    refine ⟨.value result, by simp [accepts, hnull], ?_⟩
    simp only [if_true]
    rfl
  | false =>
    simp only [Bool.false_eq_true, if_false]
    cases hcheck : checkFailure failure with
    | error e =>
      left
      rw [Step.bind_of_error (lift_error rfl _)]
      simp [accepts, hnull, hcheck, Except.isOk, Except.toBool]
    | ok u =>
      right
      refine ⟨.refused, by simp [accepts, hnull, hcheck, Except.isOk, Except.toBool]; rfl, ?_⟩
      rw [Step.bind_of_ok (lift_ok rfl _)]
      rfl

/-! ### Stages of a server -/

structure Proceeds (w : Workspace) (capabilities : Json) (stage : Stage) (s : Server) : Prop where
  serves : Serves w s
  capabilities : s.configuration.map (·.capabilities) = some capabilities
  stage : stage.IsOf w s.session

variable {capabilities : Json}

/-- The only question is answered and with it the run is settled, or the answer is to another. -/
theorem Proceeds.answered_of_asked {settings : Json} (hc : env.checker = some c)
    (h : Proceeds w capabilities (.asked settings) s) (id result failure : Json) :
    (if id.same (.str (Rpc.Message.requestId 1)) then
        .settled (Session.readsConfig c settings && accepts result failure)
      else .asked settings : Stage).IsOf w (answered env id result failure s).2.session := by
  obtain ⟨hset, hsettings, hpending⟩ := h.stage
  cases hnamed : id.same (.str (Rpc.Message.requestId 1)) with
  | false =>
    rw [answered_of_not_named env hpending hnamed]
    exact h.stage
  | true =>
    have hidle := h.stage.isRunning h.serves.once
    have hnull : s.session.settings.isNull = false := by rw [hsettings, hset]
    rcases answered_of_named hc hpending hnamed result failure with
      ⟨hrun, hrefused⟩ | ⟨a, husable, hrun⟩
    · rw [hrun, hrefused, Bool.and_false]
      exact ⟨hnull, rfl, hidle⟩
    · rw [hrun, husable, ← hsettings]
      have htried := Session.tried_interpreterAnswered env.machine c w a
        { s.session with pending := [] }
      refine ⟨(congrArg Json.isNull htried.settings).trans hnull, htried.pending, ?_⟩
      rw [Session.isRunning_interpreterAnswered]
      have hkept : Session.isRunning { s.session with pending := [] } w.serial = false := hidle
      rw [hkept, Bool.false_or]

theorem Proceeds.configured (h : Proceeds w capabilities stage s) (hc : env.checker = some c)
    (hroot : w.rootPath ≠ "") (d : SettingsChange) :
    Proceeds w capabilities (stage.next c capabilities (.configured d))
      (handleConfigured env [("settings", d.settings)] s).2 := by
  obtain ⟨hserves, -⟩ := h.serves.configured hc hroot d
  obtain ⟨conf, hconf⟩ := Option.isSome_iff_exists.mp h.serves.configuration
  have hcapabilities : conf.capabilities = capabilities := by
    simpa [hconf] using h.capabilities
  have hrun := handleConfigured_eq hc hconf h.serves.workspace d
  rw [hrun] at hserves ⊢
  refine ⟨hserves, congrArg some hcapabilities, ?_⟩
  cases stage with
  | waiting =>
    have hstage := Stage.isOf_configurationChanged h.serves.once hroot h.stage
      (show (conf.update d.forChecker).settings.isNull = false from rfl) env.machine c
    rw [← hcapabilities]
    exact hstage
  | asked settings =>
    rw [Session.configurationChanged_of_frozen hroot (h.stage.2.1 ▸ h.stage.1)]
    exact h.stage
  | settled running =>
    rw [Session.configurationChanged_of_frozen hroot h.stage.1]
    exact h.stage

theorem Proceeds.saved (h : Proceeds w capabilities stage s) (hc : env.checker = some c) :
    Proceeds w capabilities stage (handleSaved env s).2 := by
  obtain ⟨hserves, -⟩ := h.serves.saved hc
  have hrun := handleSaved_eq hc h.serves.workspace
  rw [hrun] at hserves ⊢
  exact ⟨hserves, h.capabilities, h.stage.steady (Session.steady_check env.machine c w s.session)⟩

/-- A message that answers a question, with the question that it names. -/
theorem Proceeds.answered (h : Proceeds w capabilities stage s) (hc : env.checker = some c)
    {m : ClientMessage} (hsettings : m.settings? = none)
    (hanswer : m.answer? =
      if id.same (.str (Rpc.Message.requestId 1)) then some (result, failure) else none) :
    Proceeds w capabilities (stage.next c capabilities m) (answered env id result failure s).2 := by
  have hanswered := answered_answered env id result failure s
  obtain ⟨hserves, -⟩ := h.serves.answered hanswered
  refine ⟨hserves, ?_, ?_⟩
  · rw [hanswered.configuration]
    exact h.capabilities
  · cases stage with
    | waiting =>
      obtain ⟨hpending, -⟩ := h.serves.once.untouched h.stage
      rw [hanswered.eq_of_pending_nil hpending, Stage.next, hsettings]
      exact h.stage
    | asked settings =>
      have hnext := h.answered_of_asked hc id result failure
      rw [Stage.next, hanswer]
      cases hnamed : id.same (.str (Rpc.Message.requestId 1)) with
      | true => simpa [hnamed] using hnext
      | false => simpa [hnamed] using hnext
    | settled running =>
      rw [hanswered.eq_of_pending_nil h.stage.2.1]
      exact h.stage

theorem Proceeds.step (h : Proceeds w capabilities stage s) (hc : env.checker = some c)
    (hroot : w.rootPath ≠ "") (m : ClientMessage) :
    Proceeds w capabilities (stage.next c capabilities m) (consume env m.toJson s).2 := by
  cases m with
  | configured change =>
    rw [ClientMessage.toJson, consume_configured h.serves.stopping]
    exact h.configured hc hroot change
  | saved params =>
    have hnext : stage.next c capabilities (.saved params) = stage := by cases stage <;> rfl
    rw [hnext]
    rcases consume_saved env h.serves.stopping params with hrun | hrun
    · rw [hrun]
      exact h
    · rw [hrun]
      exact h.saved hc
  | answered id result =>
    rw [ClientMessage.toJson, consume_response]
    exact h.answered hc rfl rfl
  | refused id failure =>
    rw [ClientMessage.toJson, consume_refusal]
    exact h.answered hc rfl rfl

theorem Proceeds.after (h : Proceeds w capabilities stage s) (hc : env.checker = some c)
    (hroot : w.rootPath ≠ "") (ms : List ClientMessage) :
    Proceeds w capabilities (ms.foldl (Stage.next c capabilities) stage) (after env s ms) := by
  induction ms generalizing s stage with
  | nil => exact h
  | cons m ms ih => exact ih (h.step hc hroot m)

theorem proceeds_begun (hw : (begun env replies id params).workspace = some w)
    (hconf : (begun env replies id params).configuration = some conf) :
    Proceeds w conf.capabilities .waiting (begun env replies id params) where
  serves := serves_begun hw
  capabilities := by rw [hconf, Option.map_some]
  stage := by rw [Stage.IsOf, settings_begun]; rfl

/-- Over any run, the settings have arrived and no question is open once the client has answered
the question that it is asked, if it can be asked.  A checker runs exactly if it can read the
configuration file of the settings, and the client cannot be asked or has given an answer from which
a start follows.  Where none runs by then, none ever does. -/
theorem running_iff_startable (hc : env.checker = some c)
    (hw : (begun env replies id params).workspace = some w) (hroot : w.rootPath ≠ "")
    (hconf : (begun env replies id params).configuration = some conf) (ms : List ClientMessage) :
    let s := after env (begun env replies id params) ms
    (s.session.settings.isNull = false ∧ s.session.pending = [] ↔
      (ms.any fun m => m.settings?.isSome) = true ∧
      (Session.canAsk conf.capabilities = .ok true →
        (ClientMessage.firstAnswer ms).isSome = true)) ∧
    (s.session.isRunning w.serial = true ↔
      Session.readsConfig c (ClientMessage.firstSettings ms) = true ∧
      (Session.canAsk conf.capabilities = .ok false ∨
        Session.canAsk conf.capabilities = .ok true ∧
          ∃ a, ClientMessage.firstAnswer ms = some a ∧ accepts a.1 a.2 = true)) ∧
    (s.session.settings.isNull = false → s.session.pending = [] → ∀ more,
      (after env s more).session.isRunning w.serial = s.session.isRunning w.serial) := by
  intro s
  have hrun := (proceeds_begun hw hconf).after hc hroot ms
  have hrunning := hrun.stage.isRunning hrun.serves.once
  have hany : (ms.any fun m => m.settings?.isSome) =
      (ms.findSome? ClientMessage.settings?).isSome := by
    rw [Bool.eq_iff_iff, List.any_eq_true, List.findSome?_isSome_iff]
  refine ⟨?_, ?_, fun hset hpending more => ?_⟩
  · rw [← hrun.stage.isSettled_iff, Stage.foldl_next_waiting, hany]
    cases ms.findSome? ClientMessage.settings? with
    | none => simp [Stage.isSettled]
    | some settings => simp [Stage.isSettled_given]
  · have hnull : Session.readsConfig c .null = false := rfl
    rw [hrunning, Stage.foldl_next_waiting, ClientMessage.firstSettings]
    cases ms.findSome? ClientMessage.settings? with
    | none => simp [Stage.runs, hnull]
    | some settings => exact Stage.runs_given _ _ _
  · -- a settled stage stays, and with it what runs
    have hsettled := hrun.stage.isSettled_iff.2 ⟨hset, hpending⟩
    have hmore := hrun.after hc hroot more
    rw [hrunning, hmore.stage.isRunning hmore.serves.once]
    generalize ms.foldl (Stage.next c conf.capabilities) .waiting = stage at hsettled
    cases stage with
    | settled running => rw [Stage.foldl_next_settled]
    | _ => cases hsettled

theorem running_iff_startable_reporting :
    (begun reporting [] (.int 1) askable).workspace =
      some { rootUri := .str "file:///w", scheme := "file", rootPath := "/w" } ∧
    (begun reporting [] (.int 1) askable).configuration.map (·.capabilities) =
      some (.obj [("workspace", .obj [("configuration", .bool true)])]) ∧
    started.session.settings.isNull = false ∧ started.session.pending = [] ∧
    started.session.isRunning 0 = true ∧
    ∀ more, (after reporting started more).session.isRunning 0 = true := by
  have hworkspace : (begun reporting [] (.int 1) askable).workspace =
      some { rootUri := .str "file:///w", scheme := "file", rootPath := "/w" } := rfl
  have hconfiguration : (begun reporting [] (.int 1) askable).configuration =
      some {
        rootUri := .str "file:///w", rootPath := "/w", initOptions := .obj [], processId := .null
        capabilities := .obj [("workspace", .obj [("configuration", .bool true)])] } := rfl
  have hrun := running_iff_startable rfl hworkspace (by decide) hconfiguration startedRun
  dsimp only at hrun
  rw [← started] at hrun
  obtain ⟨hsettled, hrunning, hstays⟩ := hrun
  obtain ⟨hset, hpending⟩ := hsettled.2 ⟨rfl, fun _ => rfl⟩
  have hstarted := hrunning.2 ⟨rfl, .inr ⟨rfl, (.arr [.null], .null), rfl, rfl⟩⟩
  refine ⟨hworkspace, ?_, hset, hpending, hstarted, fun more => ?_⟩
  · rw [hconfiguration, Option.map_some]
  · exact (hstays hset hpending more).trans hstarted

/-- The interpreter that the client names is a number. -/
def unstartedRun : List ClientMessage :=
  [.configured noSettings, .answered (.str "request-1") (.arr [.int 5])]

theorem not_running_numeric_interpreter :
    let s := after reporting (begun reporting [] (.int 1) askable) unstartedRun
    s.session.settings.isNull = false ∧ s.session.pending = [] ∧
      s.workspace.map (fun w => s.session.isRunning w.serial) = some false := by
  refine ⟨by decide +kernel, List.isEmpty_iff.1 ?_, by decide +kernel⟩
  decide +kernel

end Server

end LangServer
