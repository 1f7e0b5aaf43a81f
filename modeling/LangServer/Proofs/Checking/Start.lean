import LangServer.Proofs.Checking.Check

/-!
# Settings and the start of the checker

The first settings of a session are frozen.  Either the client is then asked for the interpreter
and its answer starts the checker, or the checker is started at once.  `Once` is the invariant: open
questions and started checkers are one at most, both counted together, and none is there before the
settings.  It holds at the beginning, and new settings, checks and answers keep it.

Main statements: `start_eq`, `launched_start_of_readsConfig`, `configurationChanged_cases`,
`configurationChanged_of_frozen`, `Once.configurationChanged`, `Once.interpreterAnswered`.
-/

namespace LangServer.Session

variable {m : Machine} {c : Checker} {conf : Configuration} {w : Workspace} {s s' t : Session}

/-! ### Starting -/

/-- The second session has one more checker, that of the workspace. -/
structure Launched (w : Workspace) (s s' : Session) : Prop where
  settings : s'.settings = s.settings
  pending : s'.pending = s.pending
  requests : s'.requests = s.requests
  starts : s'.starts = s.starts + 1
  questions : s'.questions = s.questions
  isRunning : ∀ serial, s'.isRunning serial = (serial == w.serial || s.isRunning serial)

/-- The checker has been started, or the attempt has stopped before that. -/
def Tried (w : Workspace) (s s' : Session) : Prop :=
  Steady s s' ∨ Launched w s s'

theorem Launched.trans_steady (h : Launched w s t) (h' : Steady t s') : Launched w s s' where
  settings := h'.settings.trans h.settings
  pending := h'.pending.trans h.pending
  requests := h'.requests.trans h.requests
  starts := h'.starts.trans h.starts
  questions := h'.questions.trans h.questions
  isRunning serial := (h'.isRunning serial).trans (h.isRunning serial)

theorem Steady.trans_launched (h : Steady s t) (h' : Launched w t s') : Launched w s s' where
  settings := h'.settings.trans h.settings
  pending := h'.pending.trans h.pending
  requests := h'.requests.trans h.requests
  starts := by rw [h'.starts, h.starts]
  questions := h'.questions.trans h.questions
  isRunning serial := by rw [h'.isRunning, h.isRunning]

theorem Steady.trans_tried (h : Steady s t) (h' : Tried w t s') : Tried w s s' := by
  rcases h' with hsteady | hlaunched
  · exact .inl (isFrame_steady.trans h hsteady)
  · exact .inr (h.trans_launched hlaunched)

theorem tried_bind {α : Type} {x : Run α} {f : α → Run Unit} (hx : Step.Keeps Steady x)
    (hf : ∀ a, Step.Keeps (Tried w) (f a)) : Step.Keeps (Tried w) (x >>= f) :=
  hx.bind_of_absorbs .inl Steady.trans_tried hf

theorem launched_record_setRunning (w : Workspace) (o : Options) (s : Session) :
    Launched w s (setRunning w {} (record (.started o) s).2).2 := by
  refine ⟨rfl, rfl, rfl, ?_, rfl, fun serial => ?_⟩
  · have hevents : (record (.started o) s).2.events = s.events ++ [.started o] := rfl
    have hkept : (setRunning w {} (record (.started o) s).2).2.events =
      (record (.started o) s).2.events := rfl
    simp [starts, hkept, hevents, Event.isStart]
  · rw [isRunning_setRunning]
    rfl

/-- Whether the checker can read the configuration file of settings; they need not name one. -/
def readsConfig (c : Checker) (settings : Json) : Bool :=
  ((configFileName settings).bind c.readConfig).isOk

theorem exists_readConfig {settings : Json} (h : readsConfig c settings = true) :
    ∃ fileName file, configFileName settings = .ok fileName ∧ c.readConfig fileName = .ok file := by
  unfold readsConfig at h
  cases hname : configFileName settings with
  | error f =>
    rw [hname] at h
    cases h
  | ok fileName =>
    rw [hname] at h
    obtain ⟨file, hread⟩ := Step.exists_eq_ok (r := c.readConfig fileName) h
    exact ⟨fileName, file, rfl, hread⟩

theorem readConfig_of_not_readsConfig {settings fileName : Json}
    (h : readsConfig c settings = false) (hname : configFileName settings = .ok fileName) :
    ∃ f, c.readConfig fileName = .error f := by
  rw [readsConfig, hname] at h
  exact Step.exists_eq_error (r := c.readConfig fileName) h

theorem isNull_of_readsConfig {settings : Json} (h : readsConfig c settings = true) :
    settings.isNull = false := by
  cases settings with
  | null => cases h
  | _ => rfl

/-! ### The start as one step -/

/-- The session after messages have been sent, unless the channel is closed. -/
def notify (s : Session) (ms : List Rpc.Message) : Session :=
  { s with sent := s.sent ++ if s.closed then [] else ms }

theorem notify_nil (s : Session) : s.notify [] = s := by
  simp [notify]

theorem notify_append (s : Session) (ms ms' : List Rpc.Message) :
    (s.notify ms).notify ms' = s.notify (ms ++ ms') := by
  cases h : s.closed with
  | true => simp [notify, h]
  | false => simp [notify, h]

theorem tell_eq (text : String) (s : Session) :
    tell text s = (.ok (), s.notify [Workspace.showText text .info]) := by
  have hsend : tell text s = (.ok (), (send (Workspace.showText text .info) s).2) := rfl
  rw [hsend, send_snd, notify]
  by_cases h : s.closed = true
  · rw [if_pos h, if_pos h, List.append_nil]
  · rw [if_neg h, if_neg h]

/-- The user may be told something before a step goes on. -/
theorem tell_if_bind {p : Prop} [Decidable p] (text : String) (f : Unit → Run Unit) (s : Session) :
    (if p then tell text >>= f else f ()) s =
      f () (s.notify (if p then [Workspace.showText text .info] else [])) := by
  by_cases hp : p
  · rw [if_pos hp, if_pos hp, Step.bind_of_ok (tell_eq text s)]
  · rw [if_neg hp, if_neg hp, notify_nil]

/-- The options once the configuration file has been read. -/
def configured (c : Checker) (interpreter : Json) (f : ConfigFile) : Options :=
  (presetOptions c interpreter).setAll f.options

/-- What the user is told of a way to follow imports that is not used. -/
def importWarning (v : Json) : Rpc.Message :=
  Workspace.showText
    ("Cannot use follow_imports='" ++ v.display ++ "', using 'error' instead.") .info

/-- What the user is told before the checker is started. -/
def notices (c : Checker) (file : ConfigFile) (fileName : Json) (o : Options) : List Rpc.Message :=
  (if complaints c file != "" then
    [Workspace.showText ("Error reading mypy config file:\n" ++ complaints c file) .info]
  else []) ++
  ((if !(o.get "config_file").truthy && fileName.truthy then
    [Workspace.showText ("Mypy config file not found:\n" ++ fileName.display) .info]
  else []) ++
  if !followsImports c o then [importWarning (o.get "follow_imports")] else [])

/-- The session in which the checker has been started, before it is asked to check. -/
def launch (s : Session) (c : Checker) (w : Workspace) (interpreter fileName : Json)
    (file : ConfigFile) : Session :=
  let o := configured c interpreter file
  { s.notify (notices c file fileName o) with
    events := s.events ++ [.configRead (if tellsStrict c then 2 else 1) fileName] ++
      [.started (finalOptions c o)]
    running := (w.serial, {}) :: s.running.filter fun r => r.1 != w.serial }

theorem startWith_eq (m : Machine) (c : Checker) (w : Workspace) (interpreter fileName : Json)
    (file : ConfigFile) (s : Session) :
    let o := configured c interpreter file
    startWith m c w interpreter fileName file s =
      check m c w { s.notify (notices c file fileName o) with
        events := s.events ++ [.started (finalOptions c o)]
        running := (w.serial, {}) :: s.running.filter fun r => r.1 != w.serial } := by
  intro o
  unfold startWith
  -- each of the three notices is sent or not, and then the next one is looked at
  refine (tell_if_bind _ _ _).trans ?_
  refine (tell_if_bind _ _ _).trans ?_
  refine (tell_if_bind _ _ _).trans ?_
  rw [notify_append, notify_append]
  rfl

theorem start_eq {fileName : Json} {file : ConfigFile} (hsettings : s.settings.isNull = false)
    (hname : configFileName s.settings = .ok fileName) (hread : c.readConfig fileName = .ok file)
    (m : Machine) (w : Workspace) (interpreter : Json) :
    start m c w interpreter s = check m c w (s.launch c w interpreter fileName file) := by
  have hnull : ¬ s.settings.isNull = true := by simp [hsettings]
  have hlift : lift (configFileName s.settings) s = (.ok fileName, s) := by
    rw [hname]
    rfl
  have hfile : ∀ t, lift (c.readConfig fileName) t = (.ok file, t) := by
    rw [hread]
    exact fun _ => rfl
  have hrecord : ∀ e, record e s = (.ok (), { s with events := s.events ++ [e] }) := fun _ => rfl
  unfold start
  rw [Step.get_bind, if_neg hnull, Step.bind_of_ok hlift, Step.bind_of_ok (hrecord _),
    Step.bind_of_ok (hfile _), startWith_eq]
  rfl

theorem isQuestion_of_mem_notices {file : ConfigFile} {fileName : Json} {o : Options}
    {message : Rpc.Message} (h : message ∈ notices c file fileName o) :
    message.isQuestion = false := by
  rw [notices, List.mem_append, List.mem_append] at h
  rcases h with h | h | h
  all_goals
    split at h
    · rw [List.mem_singleton.1 h]
      rfl
    · cases h

theorem steady_notify {ms : List Rpc.Message} (h : ∀ message ∈ ms, message.isQuestion = false)
    (s : Session) : Steady s (s.notify ms) := by
  refine ⟨rfl, rfl, rfl, rfl, ?_, fun _ => rfl⟩
  have hnone : ms.countP Rpc.Message.isQuestion = 0 := List.countP_eq_zero.2 (by simpa using h)
  rw [questions, notify, List.countP_append]
  split
  · rfl
  · rw [hnone]
    rfl

theorem launched_launch (c : Checker) (w : Workspace) (interpreter fileName : Json)
    (file : ConfigFile) (s : Session) :
    Launched w s (s.launch c w interpreter fileName file) := by
  let e : Event := .configRead (if tellsStrict c then 2 else 1) fileName
  let o := configured c interpreter file
  have hread : Steady s (record e s).2 := steady_record rfl s
  have htold : Steady (record e s).2 ((record e s).2.notify (notices c file fileName o)) :=
    steady_notify (fun _ => isQuestion_of_mem_notices) _
  exact (isFrame_steady.trans hread htold).trans_launched
    (launched_record_setRunning w (finalOptions c o) _)

theorem launched_start_of_readsConfig (h : readsConfig c s.settings = true) (m : Machine)
    (w : Workspace) (interpreter : Json) : Launched w s (start m c w interpreter s).2 := by
  obtain ⟨fileName, file, hname, hread⟩ := exists_readConfig h
  rw [start_eq (isNull_of_readsConfig h) hname hread]
  exact (launched_launch c w interpreter fileName file s).trans_steady (steady_check m c w _)

theorem steady_start_of_not_readsConfig (h : readsConfig c s.settings = false) (m : Machine)
    (w : Workspace) (interpreter : Json) : Steady s (start m c w interpreter s).2 := by
  unfold start
  rw [Step.get_bind]
  split
  · exact Steady.refl s
  · cases hname : configFileName s.settings with
    | error f => exact Steady.refl s
    | ok fileName =>
      obtain ⟨f, hread⟩ := readConfig_of_not_readsConfig h hname
      have hlift : lift (.ok fileName) s = (.ok fileName, s) := rfl
      have hrecord : ∀ e, record e s = (.ok (), (record e s).2) := fun _ => rfl
      rw [Step.bind_of_ok hlift, Step.bind_of_ok (hrecord _), hread]
      exact steady_record rfl s

theorem tried_start (m : Machine) (c : Checker) (w : Workspace) (interpreter : Json) :
    Step.Keeps (Tried w) (start m c w interpreter) := by
  intro s
  cases h : readsConfig c s.settings with
  | true => exact .inr (launched_start_of_readsConfig h m w interpreter)
  | false => exact .inl (steady_start_of_not_readsConfig h m w interpreter)

theorem tried_interpreterAnswered (m : Machine) (c : Checker) (w : Workspace) (a : Answer) :
    Step.Keeps (Tried w) (interpreterAnswered m c w a) := by
  unfold interpreterAnswered
  refine Step.Keeps.ite (fun _ => ?_) fun _ => tried_start m c w _
  exact tried_bind (steady_lift _) fun path => tried_start m c w path

/-! ### Settings -/

/-- The second session has one more question, asked for the workspace. -/
structure Asked (w : Workspace) (s s' : Session) : Prop where
  settings : s'.settings = s.settings
  pending : s'.pending = s.pending ++ [{ number := s.requests + 1, workspace := w }]
  requests : s'.requests = s.requests + 1
  starts : s'.starts = s.starts
  questions : s'.questions ≤ s.questions + 1
  isRunning : ∀ serial, s'.isRunning serial = s.isRunning serial

theorem questions_send_le (message : Rpc.Message) (s : Session) :
    (send message s).2.questions ≤ s.questions + 1 := by
  rw [send_snd]
  split
  · omega
  · simp only [questions, List.countP_append, List.countP_singleton]
    split <;> omega

theorem asked_askInterpreter (w : Workspace) : Step.Keeps (Asked w) (askInterpreter w) := by
  intro s
  let t : Session :=
    { s with
      requests := s.requests + 1
      pending := s.pending ++ [{ number := s.requests + 1, workspace := w }] }
  let question := Workspace.requestConfiguration (s.requests + 1)
    (.arr [.obj [("section", .str "python.pythonPath")]])
  have hrun : askInterpreter w s = send question t := rfl
  have hsend : (send question t).2 =
      if t.closed then t else { t with sent := t.sent ++ [question] } := rfl
  have hquestions : (send question t).2.questions ≤ s.questions + 1 := questions_send_le question t
  rw [hrun]
  refine ⟨?_, ?_, ?_, ?_, hquestions, fun serial => ?_⟩ <;> rw [hsend] <;> split <;> rfl

/-- What the user is told when settings arrive that differ from the frozen ones. -/
def reloadNotice : Rpc.Message :=
  Workspace.showText "Please reload window to update mypy configuration." .info

/-- The notices that settings bring about when others are frozen. -/
def reloadNotices (s : Session) (settings : Json) : List Rpc.Message :=
  if s.closed || settings.same s.settings then [] else [reloadNotice]

theorem configurationChanged_of_root_eq (hroot : w.rootPath = "") :
    configurationChanged m c conf w s = (.ok (), s) := by
  rw [configurationChanged, if_pos hroot]
  rfl

theorem configurationChanged_of_frozen (hroot : w.rootPath ≠ "")
    (hfrozen : s.settings.isNull = false) :
    configurationChanged m c conf w s =
      (.ok (), { s with sent := s.sent ++ reloadNotices s conf.settings }) := by
  rw [configurationChanged, if_neg hroot, Step.get_bind]
  simp only [hfrozen, Bool.false_eq_true, if_false, reloadNotices]
  cases hsame : conf.settings.same s.settings with
  | true =>
    simp only [Bool.not_true, Bool.false_eq_true, if_false, Bool.or_true, if_true,
      List.append_nil]
    rfl
  | false =>
    have htell : tell "Please reload window to update mypy configuration." s =
        (.ok (), if s.closed then s else { s with sent := s.sent ++ [reloadNotice] }) := rfl
    simp only [Bool.not_false, if_true, htell, Bool.or_false]
    split <;> simp

theorem configurationChanged_of_null (hroot : w.rootPath ≠ "") (hnull : s.settings.isNull = true)
    (m : Machine) (c : Checker) (conf : Configuration) :
    configurationChanged m c conf w s =
      (lift (canAsk conf.capabilities) >>= fun asks =>
        if asks then askInterpreter w else start m c w .null)
        { s with settings := conf.settings } := by
  have hmodify : (modify fun s => { s with settings := conf.settings } : Run Unit) s =
      (.ok (), { s with settings := conf.settings }) := rfl
  rw [configurationChanged, if_neg hroot, Step.get_bind]
  simp only [hnull, if_true]
  rw [Step.bind_of_ok hmodify]

/-- The first settings are frozen; then the client is asked, or the start is tried. -/
theorem configurationChanged_cases (hroot : w.rootPath ≠ "") (hnull : s.settings.isNull = true)
    (m : Machine) (c : Checker) (conf : Configuration) :
    Tried w { s with settings := conf.settings } (configurationChanged m c conf w s).2 ∨
      Asked w { s with settings := conf.settings } (configurationChanged m c conf w s).2 := by
  rw [configurationChanged_of_null hroot hnull]
  cases hask : canAsk conf.capabilities with
  | error f => exact .inl (.inl (Steady.refl _))
  | ok asks =>
    have hlift : lift (Except.ok asks) { s with settings := conf.settings } =
        (.ok asks, { s with settings := conf.settings }) := rfl
    rw [Step.bind_of_ok hlift]
    cases asks with
    | true => exact .inr (asked_askInterpreter w _)
    | false => exact .inl (tried_start m c w .null _)

/-! ### At most once -/

structure Once (w : Workspace) (s : Session) : Prop where
  untouched : s.settings.isNull = true → s.pending = [] ∧ s.requests = 0 ∧ s.starts = 0
  one : s.pending.length + s.starts ≤ 1
  requests : s.requests ≤ 1
  questions : s.questions ≤ s.requests
  workspace : ∀ p ∈ s.pending, p.workspace = w
  isRunning : s.isRunning w.serial = decide (0 < s.starts)

theorem once_of_fresh (hpending : s.pending = []) (hrequests : s.requests = 0)
    (hstarts : s.starts = 0) (hquestions : s.questions = 0)
    (hrunning : s.isRunning w.serial = false) : Once w s where
  untouched _ := ⟨hpending, hrequests, hstarts⟩
  one := by simp [hpending, hstarts]
  requests := by omega
  questions := by omega
  workspace := by simp [hpending]
  isRunning := by simp [hrunning, hstarts]

theorem Once.steady (h : Once w s) (hs : Steady s s') : Once w s' where
  untouched := by
    rw [hs.settings, hs.pending, hs.requests, hs.starts]
    exact h.untouched
  one := by
    rw [hs.pending, hs.starts]
    exact h.one
  requests := by
    rw [hs.requests]
    exact h.requests
  questions := by
    rw [hs.questions, hs.requests]
    exact h.questions
  workspace := by
    rw [hs.pending]
    exact h.workspace
  isRunning := by
    rw [hs.isRunning, hs.starts]
    exact h.isRunning

/-- A checker may be started where none runs and no question is open. -/
theorem Once.launched (h : Once w s) (hset : s.settings.isNull = false) (hnone : s.pending = [])
    (hstarts : s.starts = 0) (hs : Launched w s s') : Once w s' where
  untouched hnull := by
    rw [hs.settings, hset] at hnull
    exact absurd hnull (by simp)
  one := by
    rw [hs.pending, hs.starts, hnone, hstarts]
    simp
  requests := by
    rw [hs.requests]
    exact h.requests
  questions := by
    rw [hs.questions, hs.requests]
    exact h.questions
  workspace := by
    rw [hs.pending]
    exact h.workspace
  isRunning := by simp [hs.isRunning, hs.starts]

theorem Once.tried (h : Once w s) (hset : s.settings.isNull = false) (hnone : s.pending = [])
    (hstarts : s.starts = 0) (hs : Tried w s s') : Once w s' := by
  rcases hs with hsteady | hlaunched
  · exact h.steady hsteady
  · exact h.launched hset hnone hstarts hlaunched

theorem Once.asked (h : Once w s) (hset : s.settings.isNull = false) (hnone : s.pending = [])
    (hrequests : s.requests = 0) (hstarts : s.starts = 0) (hs : Asked w s s') : Once w s' where
  untouched hnull := by
    rw [hs.settings, hset] at hnull
    exact absurd hnull (by simp)
  one := by simp [hs.pending, hs.starts, hnone, hstarts]
  requests := by simp [hs.requests, hrequests]
  questions := by
    have hold := h.questions
    have hnew := hs.questions
    rw [hs.requests]
    omega
  workspace := by simp [hs.pending, hnone]
  isRunning := by
    rw [hs.isRunning, hs.starts]
    exact h.isRunning

theorem Once.freeze (h : Once w s) (v : Json) (hnull : s.settings.isNull = true) :
    Once w { s with settings := v } where
  untouched _ := h.untouched hnull
  one := h.one
  requests := h.requests
  questions := h.questions
  workspace := h.workspace
  isRunning := h.isRunning

theorem Once.configurationChanged (h : Once w s) (conf : Configuration)
    (hconf : conf.settings.isNull = false) (m : Machine) (c : Checker) :
    Once w (configurationChanged m c conf w s).2 := by
  by_cases hroot : w.rootPath = ""
  · rw [configurationChanged_of_root_eq hroot]
    exact h
  cases hnull : s.settings.isNull with
  | true =>
    obtain ⟨hpending, hrequests, hstarts⟩ := h.untouched hnull
    have hfrozen := h.freeze conf.settings hnull
    rcases configurationChanged_cases hroot hnull m c conf with htried | hasked
    · exact hfrozen.tried hconf hpending hstarts htried
    · exact hfrozen.asked hconf hpending hrequests hstarts hasked
  | false =>
    rw [configurationChanged_of_frozen hroot hnull]
    refine h.steady ⟨rfl, rfl, rfl, rfl, ?_, fun _ => rfl⟩
    have hnotice : reloadNotice.isQuestion = false := rfl
    unfold reloadNotices
    split <;> simp [Session.questions, hnotice]

theorem Once.close (h : Once w s) {rest : List Pending} (hsub : rest.Sublist s.pending) :
    Once w { s with pending := rest } where
  untouched hnull := by
    obtain ⟨hpending, hcounts⟩ := h.untouched hnull
    rw [hpending] at hsub
    exact ⟨List.sublist_nil.mp hsub, hcounts⟩
  one := Nat.le_trans (Nat.add_le_add_right hsub.length_le _) h.one
  requests := h.requests
  questions := h.questions
  workspace p hp := h.workspace p (hsub.subset hp)
  isRunning := h.isRunning

/-- Once an answer has closed the only question, the start that it sets off is the first. -/
theorem Once.interpreterAnswered (h : Once w s) {rest : List Pending}
    (hsub : rest.Sublist s.pending) (hless : rest.length < s.pending.length) (m : Machine)
    (c : Checker) (a : Answer) :
    Once w (interpreterAnswered m c w a { s with pending := rest }).2 := by
  have hone := h.one
  have hnone : rest = [] := List.eq_nil_of_length_eq_zero (by omega)
  have hstarts : s.starts = 0 := by omega
  have hset : s.settings.isNull = false := by
    cases hnull : s.settings.isNull with
    | false => rfl
    | true =>
      rw [(h.untouched hnull).1] at hless
      simp at hless
  exact (h.close hsub).tried hset hnone hstarts (tried_interpreterAnswered m c w a _)

end LangServer.Session
