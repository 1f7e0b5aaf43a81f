import LangServer.Proofs.Checking.Messages

/-!
# One start, and saving

Runs of a server that is set up once and then gets settings, saved documents and answers in any
order.  The first settings are frozen, and there is at most one question and at most one start.  A
saved document fails to be handled in one case: the checker is one that can report its progress,
settings are frozen, and the checker they are for has not been started.

Main statements: `settings_frozen_once`, `saved_fails_iff_unstarted`.
-/

namespace LangServer

theorem ClientMessage.firstSettings_isNull (ms : List ClientMessage) :
    (firstSettings ms).isNull = !ms.any fun m => m.settings?.isSome := by
  induction ms with
  | nil => rfl
  | cons m ms ih =>
    cases hm : m.settings? with
    | none => simpa [firstSettings, hm] using ih
    | some v =>
      have hfirst : firstSettings (m :: ms) = v := by simp [firstSettings, hm]
      simp [hfirst, isNull_of_settings? hm, hm]

namespace Server

variable {env : Environment} {c : Checker} {w : Workspace} {s : Server}
variable {replies : List Reply} {id params : Json}

/-! ### Frozen settings -/

theorem settings_begun (env : Environment) (replies : List Reply) (id params : Json) :
    (begun env replies id params).session.settings = .null :=
  (prepared_begun env replies id params).session.settings

theorem settings_after (hc : env.checker = some c)
    (hw : (begun env replies id params).workspace = some w) (hroot : w.rootPath ≠ "")
    (ms : List ClientMessage) :
    (after env (begun env replies id params) ms).session.settings =
      ClientMessage.firstSettings ms := by
  obtain ⟨-, hsettings⟩ := (serves_begun hw).after hc hroot ms
  rw [hsettings, foldl_freeze, settings_begun]
  rfl

/-- Settings that arrive when others are frozen go to the configuration; the user is told if they
differ. -/
theorem Serves.consume_configured_of_frozen (h : Serves w s) (hc : env.checker = some c)
    (hroot : w.rootPath ≠ "") (hfrozen : s.session.settings.isNull = false) (d : SettingsChange) :
    (consume env d.toJson s).2 =
      { s with
        configuration := s.configuration.map (·.update d.forChecker)
        session := { s.session with
          sent := s.session.sent ++ s.session.reloadNotices d.forChecker } } := by
  obtain ⟨conf, hconf⟩ := Option.isSome_iff_exists.mp h.configuration
  rw [consume_configured h.stopping, handleConfigured_eq hc hconf h.workspace,
    Session.configurationChanged_of_frozen hroot hfrozen, hconf]
  rfl

/-- Over any run the settings are those that arrive first, and there is at most one question and at
most one start.  Later settings have no effect on the session but a notice, sent if they differ.  A
server without a checker, a workspace or a root freezes, asks and starts nothing. -/
theorem settings_frozen_once (env : Environment) (replies : List Reply) (id params : Json)
    (ms : List ClientMessage) :
    (after env (begun env replies id params) ms).session.settings =
      (if (begun env replies id params).canCheck env then ClientMessage.firstSettings ms
        else .null) ∧
    (after env (begun env replies id params) ms).session.questions ≤ 1 ∧
    (after env (begun env replies id params) ms).session.starts ≤ 1 ∧
    ((begun env replies id params).canCheck env = true →
      (ms.any fun m => m.settings?.isSome) = true → ∀ d : SettingsChange,
        let s := after env (begun env replies id params) ms
        (consume env d.toJson s).2 =
          { s with
            configuration := s.configuration.map (·.update d.forChecker)
            session := { s.session with
              sent := s.session.sent ++ s.session.reloadNotices d.forChecker } }) ∧
    ((begun env replies id params).canCheck env = false →
      (after env (begun env replies id params) ms).session =
        (begun env replies id params).session ∧
      (begun env replies id params).session.questions = 0 ∧
      (begun env replies id params).session.starts = 0) := by
  have hsteady := (prepared_begun env replies id params).session
  cases hcan : (begun env replies id params).canCheck env with
  | false =>
    obtain ⟨-, hsession⟩ := (rests_begun hcan).after ms
    have hquestions : (begun env replies id params).session.questions = 0 := hsteady.questions
    have hstarts : (begun env replies id params).session.starts = 0 := hsteady.starts
    rw [hsession, hquestions, hstarts, settings_begun]
    simp
  | true =>
    obtain ⟨c, w, hc, hw, hroot⟩ := exists_of_canCheck hcan
    obtain ⟨hserves, -⟩ := (serves_begun hw).after hc hroot ms
    have hsettings := settings_after hc hw hroot ms
    have hquestions := hserves.once.questions
    have hrequests := hserves.once.requests
    have hone := hserves.once.one
    refine ⟨by simpa using hsettings, by omega, by omega, fun _ hany d => ?_, by simp⟩
    refine hserves.consume_configured_of_frozen hc hroot ?_ d
    rw [hsettings, ClientMessage.firstSettings_isNull, hany]
    rfl

/-- A checker that can report its progress. -/
def reporting : Environment :=
  { checker := some { version := "0.800+langserver" } }

/-- A client that can be asked for settings. -/
def askable : Json :=
  .obj [("rootUri", .str "file:///w"),
    ("capabilities", .obj [("workspace", .obj [("configuration", .bool true)])])]

def noSettings : SettingsChange where
  settings := .null
  checker := []
  isSection := .inl ⟨rfl, rfl⟩

def otherSettings : SettingsChange where
  settings := .obj [("mypy", .obj [("configFile", .str "mypy.ini")])]
  checker := [("configFile", .str "mypy.ini")]
  isSection := .inr ⟨_, rfl, .inl rfl⟩

/-- Settings, the answer to the question that they lead to, and a saved document. -/
def startedRun : List ClientMessage :=
  [.configured noSettings, .answered (.str "request-1") (.arr [.null]), .saved .null]

def started : Server :=
  after reporting (begun reporting [] (.int 1) askable) startedRun

theorem settings_frozen_once_reporting :
    (begun reporting [] (.int 1) askable).canCheck reporting = true ∧
    started.session.questions = 1 ∧ started.session.starts = 1 ∧
    (consume reporting otherSettings.toJson started).2 =
      { started with
        configuration := started.configuration.map (·.update otherSettings.forChecker)
        session := { started.session with
          sent := started.session.sent ++ [Session.reloadNotice] } } ∧
    (begun reporting [] (.int 1) .null).canCheck reporting = false ∧
    (after reporting (begun reporting [] (.int 1) .null) startedRun).session =
      (begun reporting [] (.int 1) .null).session := by
  have hcan : (begun reporting [] (.int 1) askable).canCheck reporting = true := by
    decide +kernel
  have hcannot : (begun reporting [] (.int 1) .null).canCheck reporting = false := by
    decide +kernel
  have hnotices : started.session.reloadNotices otherSettings.forChecker =
      [Session.reloadNotice] := by
    rw [Session.reloadNotices, if_neg (by decide +kernel)]
  obtain ⟨-, -, -, hlater, -⟩ := settings_frozen_once reporting [] (.int 1) askable startedRun
  obtain ⟨-, -, -, -, hrest⟩ := settings_frozen_once reporting [] (.int 1) .null startedRun
  have hnotice := hlater hcan rfl otherSettings
  dsimp only at hnotice
  rw [← started, hnotices] at hnotice
  exact ⟨hcan, by decide +kernel, by decide +kernel, hnotice, hcannot, (hrest hcannot).1⟩

/-! ### Saving -/

theorem Serves.saved_fst (h : Serves w s) (hc : env.checker = some c)
    (hroot : w.rootPath ≠ "") :
    (handleSaved env s).1 =
      if c.isPatched && !s.session.settings.isNull && s.session.starts == 0 then
        .error (.noAttribute "Workspace" "mypy_server")
      else .ok .null := by
  have hrunning : s.session.isRunning w.serial = !(s.session.starts == 0) := by
    rw [h.once.isRunning]
    cases s.session.starts <;> rfl
  rw [handleSaved_eq hc h.workspace]
  cases hnull : s.session.settings.isNull with
  | true =>
    rw [Session.check_of_isNull hnull]
    simp [Except.map]
  | false =>
    rw [Session.check_fst hroot hnull, hrunning]
    cases c.isPatched <;> cases s.session.starts == 0 <;> rfl

/-- Over any run, a saved document fails to be handled exactly if the checker can report its
progress, settings have arrived, and it has not been started. -/
theorem saved_fails_iff_unstarted (hc : env.checker = some c)
    (hw : (begun env replies id params).workspace = some w) (hroot : w.rootPath ≠ "")
    (ms : List ClientMessage) (ps : List (String × Json)) :
    (handle env .saved ps (after env (begun env replies id params) ms)).1 =
      if c.isPatched && (ms.any fun m => m.settings?.isSome) &&
          (after env (begun env replies id params) ms).session.starts == 0 then
        .error (.noAttribute "Workspace" "mypy_server")
      else .ok .null := by
  obtain ⟨hserves, -⟩ := (serves_begun hw).after hc hroot ms
  have hsettings := settings_after hc hw hroot ms
  have hrun : handle env .saved ps (after env (begun env replies id params) ms) =
      handleSaved env (after env (begun env replies id params) ms) := rfl
  rw [hrun, hserves.saved_fst hc hroot, hsettings, ClientMessage.firstSettings_isNull,
    Bool.not_not]

/-- While the question for the interpreter is open, no checker has been started. -/
theorem saved_fails_before_answer :
    (handle reporting .saved []
      (after reporting (begun reporting [] (.int 1) askable) [.configured noSettings])).1 =
      .error (.noAttribute "Workspace" "mypy_server") := rfl

theorem saved_after_answer :
    (begun reporting [] (.int 1) askable).workspace =
      some { rootUri := .str "file:///w", scheme := "file", rootPath := "/w" } ∧
    started.session.starts = 1 ∧ (handle reporting .saved [] started).1 = .ok .null := by
  have hworkspace : (begun reporting [] (.int 1) askable).workspace =
      some { rootUri := .str "file:///w", scheme := "file", rootPath := "/w" } := rfl
  have hstarts : started.session.starts = 1 := by decide +kernel
  refine ⟨hworkspace, hstarts, ?_⟩
  have hsaved := saved_fails_iff_unstarted rfl hworkspace (by decide) startedRun []
  rw [← started, hstarts] at hsaved
  simpa using hsaved

end Server

end LangServer
