import LangServer.Proofs.Server.Handling

/-!
# The watch over the client's process

A server that is set up for a client looks at the client's process, and again each time its timer
ends.  Each look closes the channel if the process is gone, and sets the timer anew in any case.  So
the watch goes on after it has closed the channel, and closes it again at each later look.  Only a
look to which the machine has no answer ends the watch.

What a watch does is a list of deeds.  Closing twice leaves the server as closing once does, and the
deeds cannot be read off the states that it goes through.  So the watch is taken here with any step
in the place of the one that closes the channel: it makes that step where its deeds say so.

Main statement: `watch_stops_iff_alive`.
-/

namespace LangServer.Server

variable {env : Environment} {ps : List (String × Json)}
variable {process : Json} {s s' : Server} {shut : Run Unit} {m : Machine}

/-! ### Deeds -/

inductive Deed where
  /-- The channel is closed. -/
  | exit
  /-- A timer is set for a process. -/
  | timer (process : Json)
  /-- The oldest timer ends. -/
  | ended

namespace Deed

def isExit : Deed → Bool
  | exit => true
  | _ => false

def isTimer : Deed → Bool
  | timer _ => true
  | _ => false

/-- What a deed does, given the step that closes the channel. -/
def perform (shut : Run Unit) (s : Server) : Deed → Server
  | .exit => (shut s).2
  | .timer process =>
    { s with
      session := { s.session with events := s.session.events ++ [.timer watchInterval process] }
      timers := s.timers ++ [process] }
  | .ended => { s with timers := s.timers.tail }

/-- The channel is closed once at most, and no timer is set after that. -/
def Stop (ds : List Deed) : Prop :=
  ds.countP isExit ≤ 1 ∧
    ∀ before after, ds = before ++ exit :: after → ∀ process, timer process ∉ after

/-- The deeds of a look.  Where the machine gives no answer there are none, and no timer is set. -/
def ofLook (process : Json) (m : Machine) : List Deed :=
  match m.isAlive process with
  | .ok true => [timer process]
  | .ok false => [exit, timer process]
  | .error _ => []

/-- The deeds of a watch: those of its first look and, as long as the looks get an answer, those of
the looks at which a timer ends. -/
def ofWatch (process : Json) (first : Machine) : List Machine → List Deed
  | [] => ofLook process first
  | m :: later =>
    ofLook process first ++
      if (first.isAlive process).isOk then ended :: ofWatch process m later else []

/-- The looks that get an answer: the first without one is the last. -/
def answered (process : Json) (ms : List Machine) : List Machine :=
  ms.takeWhile fun m => (m.isAlive process).isOk

/-- Whether a look finds the process gone. -/
def findsGone (process : Json) (m : Machine) : Bool :=
  match m.isAlive process with
  | .ok alive => !alive
  | .error _ => false

def performAll (shut : Run Unit) (s : Server) (ds : List Deed) : Server :=
  ds.foldl (perform shut) s

theorem performAll_append (shut : Run Unit) (s : Server) (xs ys : List Deed) :
    performAll shut s (xs ++ ys) = performAll shut (performAll shut s xs) ys :=
  List.foldl_append

/-! ### Looks with an answer -/

theorem isOk_of_mem_answered {ms : List Machine} (h : m ∈ answered process ms) :
    (m.isAlive process).isOk = true :=
  List.all_eq_true.1 List.all_takeWhile m h

theorem answered_cons_of_isOk (h : (m.isAlive process).isOk = true) (ms : List Machine) :
    answered process (m :: ms) = m :: answered process ms :=
  List.takeWhile_cons_of_pos h

theorem answered_cons_of_not_isOk (h : (m.isAlive process).isOk = false) (ms : List Machine) :
    answered process (m :: ms) = [] :=
  List.takeWhile_cons_of_neg (by simp [h])

theorem ofLook_of_not_isOk (h : (m.isAlive process).isOk = false) : ofLook process m = [] := by
  obtain ⟨e, hfault⟩ := Step.exists_eq_error h
  unfold ofLook
  rw [hfault]

/-- What a test counts that passes over the ends of timers, look by look. -/
theorem countP_ofWatch {test : Deed → Bool} {counts : Machine → Bool} (hended : test ended = false)
    (hlook : ∀ m, (m.isAlive process).isOk = true →
      (ofLook process m).countP test = if counts m then 1 else 0)
    (first : Machine) (later : List Machine) :
    (ofWatch process first later).countP test =
      (answered process (first :: later)).countP counts := by
  induction later generalizing first with
  | nil =>
    cases hfirst : (first.isAlive process).isOk with
    | false => simp [ofWatch, ofLook_of_not_isOk hfirst, answered_cons_of_not_isOk hfirst]
    | true =>
      rw [ofWatch, hlook first hfirst, answered_cons_of_isOk hfirst, List.countP_cons]
      exact (Nat.zero_add _).symm
  | cons m later ih =>
    cases hfirst : (first.isAlive process).isOk with
    | false => simp [ofWatch, ofLook_of_not_isOk hfirst, answered_cons_of_not_isOk hfirst, hfirst]
    | true =>
      rw [ofWatch, if_pos hfirst, List.countP_append, List.countP_cons, ih m, hended,
        hlook first hfirst, answered_cons_of_isOk hfirst, List.countP_cons, Nat.add_comm]
      rfl

theorem countP_isExit_ofWatch (process : Json) (first : Machine) (later : List Machine) :
    (ofWatch process first later).countP isExit =
      (answered process (first :: later)).countP (findsGone process) := by
  refine countP_ofWatch rfl (fun m hm => ?_) first later
  obtain ⟨alive, halive⟩ := Step.exists_eq_ok hm
  unfold ofLook findsGone
  rw [halive]
  cases alive <;> rfl

theorem countP_isTimer_ofWatch (process : Json) (first : Machine) (later : List Machine) :
    (ofWatch process first later).countP isTimer =
      (answered process (first :: later)).length := by
  rw [← List.countP_true]
  refine countP_ofWatch rfl (fun m hm => ?_) first later
  obtain ⟨alive, halive⟩ := Step.exists_eq_ok hm
  unfold ofLook
  rw [halive]
  cases alive <;> rfl

/-! ### Watches that stop -/

/-- A look at a process that is gone sets a timer right after it has closed the channel. -/
theorem exists_ofWatch_eq {first : Machine} {later : List Machine}
    (hm : m ∈ answered process (first :: later)) (hgone : m.isAlive process = .ok false) :
    ∃ before after, ofWatch process first later = before ++ exit :: timer process :: after := by
  have hlook : ofLook process m = [exit, timer process] := by
    unfold ofLook
    rw [hgone]
  induction later generalizing first with
  | nil =>
    obtain rfl : m = first := List.mem_singleton.1 (List.takeWhile_subset _ hm)
    exact ⟨[], [], hlook⟩
  | cons n later ih =>
    cases hfirst : (first.isAlive process).isOk with
    | false =>
      rw [answered_cons_of_not_isOk hfirst] at hm
      cases hm
    | true =>
      rw [answered_cons_of_isOk hfirst] at hm
      rw [ofWatch, if_pos hfirst]
      rcases List.mem_cons.1 hm with rfl | hm
      · exact ⟨[], _, by rw [hlook]; rfl⟩
      · obtain ⟨before, after, hdeeds⟩ := ih hm
        refine ⟨ofLook process first ++ ended :: before, after, ?_⟩
        rw [hdeeds, List.append_assoc, List.cons_append]

theorem stop_ofWatch_iff (process : Json) (first : Machine) (later : List Machine) :
    Stop (ofWatch process first later) ↔
      ∀ m ∈ answered process (first :: later), m.isAlive process = .ok true := by
  constructor
  · rintro ⟨-, hquiet⟩ m hm
    obtain ⟨alive, halive⟩ := Step.exists_eq_ok (isOk_of_mem_answered hm)
    cases alive with
    | true => exact halive
    | false =>
      obtain ⟨before, after, hdeeds⟩ := exists_ofWatch_eq hm halive
      exact absurd List.mem_cons_self (hquiet before _ hdeeds process)
  · intro halive
    have hcount : (ofWatch process first later).countP isExit = 0 := by
      rw [countP_isExit_ofWatch, List.countP_eq_zero]
      intro m hm
      simp [findsGone, halive m hm]
    refine ⟨by omega, fun before after hdeeds => ?_⟩
    rw [hdeeds, List.countP_append, List.countP_cons] at hcount
    simp [isExit] at hcount

end Deed

/-! ### The watch, step by step -/

/-- A step that returns and leaves the timers as they are. -/
def Minor (shut : Run Unit) : Prop :=
  ∀ s, shut s = (.ok (), (shut s).2) ∧ (shut s).2.timers = s.timers

theorem minor_close : Minor close :=
  fun _ => ⟨rfl, rfl⟩

def setTimer (process : Json) : Run Unit := do
  inSession (Session.record (.timer watchInterval process))
  modify fun s => { s with timers := s.timers ++ [process] }

/-- A look that makes another step where `watch` closes the channel. -/
def watchWith (shut : Run Unit) (env : Environment) (process : Json) : Run Unit := do
  let alive ← lift (env.machine.isAlive process)
  if !alive then shut
  setTimer process

def fireWith (shut : Run Unit) (env : Environment) : Run Unit := do
  match (← get).timers with
  | [] => throw .outOfRange
  | process :: rest =>
    modify fun s => { s with timers := rest }
    watchWith shut env process

theorem watch_eq_watchWith (env : Environment) (process : Json) :
    watch env process = watchWith close env process := rfl

theorem fire_eq_fireWith (env : Environment) : fire env = fireWith close env := rfl

theorem setTimer_eq (shut : Run Unit) (process : Json) (s : Server) :
    setTimer process s = (.ok (), (Deed.timer process).perform shut s) := rfl

theorem watchWith_snd (hshut : Minor shut) (env : Environment) (process : Json) (s : Server) :
    (watchWith shut env process s).2 =
      Deed.performAll shut s (Deed.ofLook process env.machine) := by
  unfold watchWith Deed.ofLook
  cases halive : env.machine.isAlive process with
  | error e => rw [Step.bind_of_error (lift_error rfl s)]; rfl
  | ok alive =>
    rw [Step.bind_of_ok (lift_ok rfl s)]
    cases alive with
    | true => exact congrArg Prod.snd (setTimer_eq shut process s)
    | false =>
      simp only [Bool.not_false, if_true]
      rw [Step.bind_of_ok (hshut s).1]
      exact congrArg Prod.snd (setTimer_eq shut process _)

theorem timers_ofLook (hshut : Minor shut) (hok : (m.isAlive process).isOk = true) (s : Server) :
    (Deed.performAll shut s (Deed.ofLook process m)).timers = s.timers ++ [process] := by
  obtain ⟨alive, halive⟩ := Step.exists_eq_ok hok
  unfold Deed.ofLook
  rw [halive]
  cases alive with
  | true => rfl
  | false => exact congrArg (· ++ [process]) (hshut s).2

theorem fireWith_snd (shut : Run Unit) (env : Environment) (ht : s.timers = [process]) :
    (fireWith shut env s).2 = (watchWith shut env process (Deed.ended.perform shut s)).2 := by
  have hended : { s with timers := [] } = Deed.ended.perform shut s := by
    simp [Deed.perform, ht]
  have hmodify : (modify fun s => { s with timers := [] } : Run Unit) s =
      (.ok (), Deed.ended.perform shut s) := by rw [← hended]; rfl
  rw [fireWith, Step.get_bind, ht]
  simp only
  rw [Step.bind_of_ok hmodify]

theorem foldl_fireWith_of_idle (shut : Run Unit) (ht : s.timers = []) (envs : List Environment) :
    envs.foldl (fun s env => (fireWith shut env s).2) s = s := by
  induction envs with
  | nil => rfl
  | cons env envs ih =>
    have hidle : (fireWith shut env s).2 = s := by
      rw [fireWith, Step.get_bind, ht]
      rfl
    rw [List.foldl_cons, hidle, ih]

/-! ### The whole watch -/

/-- The server after a look and after timers have ended, each with what the server can see then. -/
def afterWatch (shut : Run Unit) (process : Json) (s : Server) (first : Environment)
    (later : List Environment) : Server :=
  later.foldl (fun s env => (fireWith shut env s).2) (watchWith shut first process s).2

theorem afterWatch_eq (hshut : Minor shut) (ht : s.timers = []) (process : Json)
    (first : Environment) (later : List Environment) :
    afterWatch shut process s first later =
      Deed.performAll shut s
        (Deed.ofWatch process first.machine (later.map Environment.machine)) := by
  -- When a timer has ended, the look that follows is the first of the watch that is left.
  induction later generalizing s first with
  | nil => exact watchWith_snd hshut first process s
  | cons env later ih =>
    rw [afterWatch, watchWith_snd hshut, List.map_cons, Deed.ofWatch]
    cases hok : (first.machine.isAlive process).isOk with
    | false =>
      rw [Deed.ofLook_of_not_isOk hok]
      exact foldl_fireWith_of_idle shut ht _
    | true =>
      have htimers := timers_ofLook hshut hok s
      rw [ht, List.nil_append] at htimers
      have hended : ((Deed.ended).perform shut
          (Deed.performAll shut s (Deed.ofLook process first.machine))).timers = [] :=
        congrArg List.tail htimers
      have hrest := ih hended env
      rw [List.foldl_cons, fireWith_snd shut env htimers, if_pos rfl, Deed.performAll_append]
      exact hrest

/-! ### Setting up -/

theorem timers_setUpWorkspace (env : Environment) (ps : List (String × Json)) (s : Server) :
    (setUpWorkspace env ps s).2.timers = s.timers :=
  keeps_setUpWorkspace (R := fun s s' => s'.timers = s.timers)
    ⟨fun _ => rfl, fun h h' => h'.trans h⟩ (fun _ _ _ => rfl) (fun _ _ => rfl) env ps s

/-- Once the workspace is set up, the server looks at the process, and does no more. -/
theorem handleSetUp_eq {c : Checker} (hc : env.checker = some c) (hwatch : env.watchParent = true)
    (hprocess : (parameter ps "processId").isNull = false)
    (hset : setUpWorkspace env ps s = (.ok (), s')) :
    (handleSetUp env ps s).2 = (watch env (parameter ps "processId") s').2 := by
  rw [handleSetUp, Step.bind_of_ok hset, hc]
  simp only [hwatch, hprocess, Bool.not_false, Bool.and_self, if_true]
  rw [Step.bind_of_ok (beginWatch_eq env _ s')]
  cases capabilities env c <;> rfl

/-- A watch that a set-up has started makes its deeds, whatever step closes the channel; on the
server that step is `close`.  Among the looks that the machine answers, it closes the channel at
each that finds the process gone, and sets a timer at every one.  So it stops once it has closed the
channel if and only if it never closes it. -/
theorem watch_stops_iff_alive {c : Checker} (hc : env.checker = some c)
    (hwatch : env.watchParent = true) (hprocess : (parameter ps "processId").isNull = false)
    (htimers : s.timers = []) (hset : setUpWorkspace env ps s = (.ok (), s'))
    (later : List Environment) :
    let process := parameter ps "processId"
    let deeds := Deed.ofWatch process env.machine (later.map Environment.machine)
    let looks := Deed.answered process ((env :: later).map Environment.machine)
    later.foldl (fun s env => (fire env s).2) (handle env .setUp ps s).2 =
      afterWatch close process s' env later ∧
    (∀ shut, Minor shut → afterWatch shut process s' env later = Deed.performAll shut s' deeds) ∧
    deeds.countP Deed.isExit = looks.countP (Deed.findsGone process) ∧
    deeds.countP Deed.isTimer = looks.length ∧
    (Deed.Stop deeds ↔ ∀ m ∈ looks, m.isAlive process = .ok true) := by
  intro process deeds looks
  have htimers' : s'.timers = [] := by
    have hkept := timers_setUpWorkspace env ps s
    rw [hset] at hkept
    exact hkept.trans htimers
  have hrun : (handle env .setUp ps s).2 = (watch env process s').2 :=
    handleSetUp_eq hc hwatch hprocess hset
  refine ⟨?_, fun shut hshut => afterWatch_eq hshut htimers' process env later,
    Deed.countP_isExit_ofWatch process _ _, Deed.countP_isTimer_ofWatch process _ _,
    Deed.stop_ofWatch_iff process _ _⟩
  rw [hrun, afterWatch, watch_eq_watchWith]
  simp only [fire_eq_fireWith]

/-- A server that watches the client's process, where some processes run. -/
def watching (alive : List Json) : Environment :=
  { checker := some {}, watchParent := true
    machine := { isAlive := Machine.processTable alive [] } }

def watchedClient : List (String × Json) :=
  [("processId", .int 5), ("rootUri", .str "file:///w")]

theorem watch_stops_alive_twice :
    (setUpWorkspace (watching [.int 5]) watchedClient {}).1 = .ok () ∧
    Deed.Stop (Deed.ofWatch (.int 5) (watching [.int 5]).machine
      ([watching [.int 5]].map Environment.machine)) ∧
    ([watching [.int 5]].foldl (fun s env => (fire env s).2)
      (handle (watching [.int 5]) .setUp watchedClient {}).2).session.closed = false := by
  have hset : setUpWorkspace (watching [.int 5]) watchedClient {} =
      (.ok (), (setUpWorkspace (watching [.int 5]) watchedClient {}).2) := rfl
  have hchecker : (watching [.int 5]).checker = some {} := rfl
  have hone : (watching [.int 5]).machine.isAlive (.int 5) = .ok true := rfl
  have halive : ∀ m ∈ Deed.answered (.int 5)
      ([watching [.int 5], watching [.int 5]].map Environment.machine),
      m.isAlive (.int 5) = .ok true := by
    intro m hm
    have hmem := List.takeWhile_subset _ hm
    simp only [List.map_cons, List.map_nil, List.mem_cons, List.not_mem_nil, or_false,
      or_self] at hmem
    rw [hmem]
    exact hone
  have hprocess : (parameter watchedClient "processId").isNull = false := rfl
  obtain ⟨hrun, hdeeds, -, -, hstop⟩ :=
    watch_stops_iff_alive hchecker rfl hprocess rfl hset [watching [.int 5]]
  refine ⟨rfl, hstop.2 halive, ?_⟩
  rw [hrun, hdeeds close minor_close]
  rfl

/-- The process is gone from the beginning. -/
theorem not_stop_gone_process :
    ¬ Deed.Stop (Deed.ofWatch (.int 5) (watching []).machine [(watching []).machine]) ∧
    let s := (handle (watching []) .setUp watchedClient {}).2
    s.session.closed = true ∧ s.timers = [.int 5] ∧
      (fire (watching []) s).2.session.events =
        s.session.events ++ [.timer watchInterval (.int 5)] := by
  refine ⟨fun hstop => ?_, rfl, rfl, rfl⟩
  have htwice : (Deed.ofWatch (.int 5) (watching []).machine
      [(watching []).machine]).countP Deed.isExit = 2 := by decide
  have honce := hstop.1
  omega

end LangServer.Server
