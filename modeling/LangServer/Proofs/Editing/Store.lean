import LangServer.Proofs.Editing.Calls

/-!
# The store of documents over whole runs

A client calls the server about documents in any order, and any of its calls may fail.  What is held
for a URI is what the calls that name this URI make of it, one after the other.  A call that fails
has made the changes that stand before the failing one and nothing else.

Main statement: `held_afterCalls_and_stopsCleanly`.
-/

namespace LangServer.Server

variable {s : Server} {w : Workspace} {env : Environment} {c : DocumentCall}

/-! ### Calls that fail -/

theorem applyChange_error (hs : s.Stores) {item : Json} {e : Fault} {s' : Server}
    (h : applyChange env c.document item s = (.error e, s')) : s' = s := by
  obtain ⟨w, hw, -⟩ := hs
  rw [applyChange_eq hw] at h
  split at h
  · exact (Prod.mk.inj h).2.symm
  · split at h
    · cases (Prod.mk.inj h).1
    · exact (Prod.mk.inj h).2.symm

theorem exists_of_applyChanges_error (hs : s.Stores) {items : List Json} {e : Fault} {s' : Server}
    (h : applyChanges env c.document items s = (.error e, s')) :
    ∃ before item after, items = before ++ item :: after ∧
      applyChanges env c.document before s = (.ok (), s') ∧
      applyChange env c.document item s' = (.error e, s') := by
  induction items generalizing s with
  | nil => cases (Prod.mk.inj h).1
  | cons item rest ih =>
    have hfirst := acts_applyChange env c hs item
    rw [applyChanges] at h
    rcases hstep : applyChange env c.document item s with ⟨r, s₁⟩
    cases r with
    | error f =>
      rw [Step.bind_of_error hstep] at h
      obtain ⟨hf, rfl⟩ := Prod.mk.inj h
      obtain rfl := Except.error.inj hf
      obtain rfl := applyChange_error hs hstep
      exact ⟨[], item, rest, rfl, rfl, hstep⟩
    | ok u =>
      rw [Step.bind_of_ok hstep] at h
      rw [hstep] at hfirst
      obtain ⟨before, failing, after, rfl, hbefore, hfailing⟩ := ih hfirst.stores h
      refine ⟨item :: before, failing, after, rfl, ?_, hfailing⟩
      rw [applyChanges, Step.bind_of_ok hstep]
      exact hbefore

/-- Only the changes that stand before the failing one are made; a call that fails otherwise leaves
the server as it was. -/
def StopsCleanly (env : Environment) (c : DocumentCall) (s s' : Server) (e : Fault) : Prop :=
  match c.kind with
  | .changed =>
    (c.changes = .error e ∧ s' = s) ∨
    ∃ before item after, c.changes = .ok (before ++ item :: after) ∧
      (c.withChanges before).run env s = (.ok .null, s') ∧
      (c.withChanges [item]).run env s' = (.error e, s')
  | _ => s' = s

theorem run_withChanges (env : Environment) (hkind : c.kind = .changed) (items : List Json)
    (s : Server) :
    (c.withChanges items).run env s = ((applyChanges env c.document items s).1.map fun _ => .null,
      (applyChanges env c.document items s).2) := by
  have hkind' : (c.withChanges items).kind = .changed := hkind
  have hchanges : (c.withChanges items).changes = .ok items := rfl
  unfold DocumentCall.run
  rw [hkind']
  exact handleChanged_eq_ok hchanges s

theorem stopsCleanly_of_handleChanged (hs : s.Stores) (hkind : c.kind = .changed) {e : Fault}
    {s' : Server} (h : handleChanged env c.params s = (.error e, s')) :
    (c.changes = .error e ∧ s' = s) ∨
    ∃ before item after, c.changes = .ok (before ++ item :: after) ∧
      (c.withChanges before).run env s = (.ok .null, s') ∧
      (c.withChanges [item]).run env s' = (.error e, s') := by
  cases hchanges : c.changes with
  | error f =>
    rw [handleChanged_eq_error hchanges] at h
    obtain ⟨hf, rfl⟩ := Prod.mk.inj h
    exact .inl ⟨congrArg _ (Except.error.inj hf), rfl⟩
  | ok items =>
    rw [handleChanged_eq_ok hchanges] at h
    rcases hall : applyChanges env c.document items s with ⟨r, s₁⟩
    rw [hall] at h
    obtain ⟨hr, rfl⟩ := Prod.mk.inj h
    cases r with
    | ok u => cases hr
    | error f =>
      obtain rfl := Except.error.inj hr
      obtain ⟨before, item, after, rfl, hbefore, hitem⟩ := exists_of_applyChanges_error hs hall
      have hone : applyChanges env c.document [item] s₁ = (.error f, s₁) := by
        rw [applyChanges, Step.bind_of_error hitem]
      refine .inr ⟨before, item, after, rfl, ?_, ?_⟩
      · rw [run_withChanges env hkind, hbefore]
        rfl
      · rw [run_withChanges env hkind, hone]
        rfl

theorem stopsCleanly_of_run (hs : s.Stores) {e : Fault} {s' : Server}
    (h : c.run env s = (.error e, s')) : StopsCleanly env c s s' e := by
  unfold DocumentCall.run at h
  unfold StopsCleanly
  cases hkind : c.kind with
  | changed =>
    rw [hkind] at h
    exact stopsCleanly_of_handleChanged hs hkind h
  | opened =>
    obtain ⟨w, hw, -⟩ := hs
    rw [hkind, DocumentCall.Kind.handler, handle, handleOpened_eq hw] at h
    split at h
    · cases (Prod.mk.inj h).1
    · exact (Prod.mk.inj h).2.symm
  | closed =>
    obtain ⟨w, hw, -⟩ := hs
    rw [hkind, DocumentCall.Kind.handler, handle, handleClosed_eq hw] at h
    split at h
    · cases (Prod.mk.inj h).1
    · exact (Prod.mk.inj h).2.symm

/-! ### Runs -/

/-- The server after some calls, of which any may have failed. -/
def afterCalls (env : Environment) (s : Server) (cs : List DocumentCall) : Server :=
  cs.foldl (fun s c => (c.run env s).2) s

theorem stores_afterCalls (env : Environment) (hs : s.Stores) (cs : List DocumentCall) :
    (afterCalls env s cs).Stores := by
  induction cs generalizing s with
  | nil => exact hs
  | cons c cs ih => exact ih (acts_run env c hs).stores

theorem held_afterCalls (env : Environment) (hs : s.Stores) (cs : List DocumentCall)
    (uri : String) :
    (afterCalls env s cs).held uri =
      (cs.filter (·.uri = uri)).foldl (fun d c => (c.effect env.machine d).2) (s.held uri) := by
  induction cs generalizing s with
  | nil => rfl
  | cons c cs ih =>
    have hrun := acts_run env c hs
    -- A call that names another URI is filtered out, and it leaves what is held.
    have hrest : (afterCalls env s (c :: cs)).held uri = _ := ih hrun.stores
    rw [hrest, hrun.held uri]
    by_cases huri : c.uri = uri
    · subst huri
      rw [if_pos rfl, List.filter_cons_of_pos (by simp), List.foldl_cons]
    · rw [if_neg (Ne.symm huri), List.filter_cons_of_neg (by simpa using huri)]

/-- After any calls on a new workspace, what is held for a URI is what the calls that name it make
of it, one after the other.  A further call fails exactly if its effect does, and it then leaves
nothing but the changes before the failing one. -/
theorem held_afterCalls_and_stopsCleanly (env : Environment) (hw : s.workspace = some w)
    (hnew : w.documents = []) (cs : List DocumentCall) :
    (∀ uri, (afterCalls env s cs).held uri =
      (cs.filter (·.uri = uri)).foldl (fun d c => (c.effect env.machine d).2) none) ∧
    ∀ (c : DocumentCall) (r : Except Fault Json) (s' : Server),
      c.run env (afterCalls env s cs) = (r, s') →
      r.map (fun _ => ()) = (c.effect env.machine ((afterCalls env s cs).held c.uri)).1 ∧
      ∀ e, r = .error e → StopsCleanly env c (afterCalls env s cs) s' e := by
  have hdistinct : w.documents.Distinct := by rw [hnew]; exact List.nodup_nil
  have hs : s.Stores := ⟨w, hw, hdistinct⟩
  have hafter := stores_afterCalls env hs cs
  constructor
  · intro uri
    have hnone : s.held uri = none := by rw [held_eq hw, hnew]; rfl
    rw [held_afterCalls env hs cs uri, hnone]
  · intro c r s' hrun
    constructor
    · rw [← (acts_run env c hafter).result, hrun]
    · rintro e rfl
      exact stopsCleanly_of_run hafter hrun

/-- Two documents are opened and one is closed again; the second of three changes of the other has
no text, so the first of them is the last that is made. -/
theorem held_afterCalls_failing_change :
    let s : Server := { workspace := some ⟨.str "file:///w", "file", "/w", [], 0⟩ }
    let a := "file:///w/a.py"
    let b := "file:///w/b.py"
    let opening : List DocumentCall := [.ofParts .opened a "x" 1 [], .ofParts .opened b "y" 1 [],
      .ofParts .closed b "" 0 []]
    let failing : DocumentCall := .ofParts .changed a "" 2 [.obj [("text", .str "z")], .obj [],
      .obj [("text", .str "u")]]
    ((afterCalls {} s (opening ++ [failing])).held a).map
      (fun d => (d.source.text?, d.version.toInt?)) = some (some "z", some 2) ∧
    ((afterCalls {} s (opening ++ [failing])).held b).isNone ∧
    ∃ e s', failing.run {} (afterCalls {} s opening) = (.error e, s') ∧
      StopsCleanly {} failing (afterCalls {} s opening) s' e := by
  intro s a b opening failing
  have hall := (held_afterCalls_and_stopsCleanly {} (s := s) rfl rfl (opening ++ [failing])).1
  have hlast := (held_afterCalls_and_stopsCleanly {} (s := s) rfl rfl opening).2 failing
  rw [hall, hall]
  refine ⟨by decide +kernel, by decide +kernel, ?_⟩
  rcases hrun : failing.run {} (afterCalls {} s opening) with ⟨r, s'⟩
  cases r with
  | ok v =>
    have hresult : (failing.run {} (afterCalls {} s opening)).1.isOk = false := by decide +kernel
    rw [hrun] at hresult
    cases hresult
  | error e => exact ⟨e, s', rfl, (hlast _ _ hrun).2 e rfl⟩

end LangServer.Server
