import LangServer.Fault

/-!
# Steps that may stop

A step takes a state to a result and a new state; a fault keeps the state that the step has reached.
Two steps after each other: the second starts where the first ends, and a fault of the first is the
fault of both.

A step keeps a relation between states if the relation holds between the state in which the step
begins and the one in which it ends, whether it ends with a result or with a fault.
-/

namespace LangServer.Step

variable {σ α β : Type} {x : ExceptT Fault (StateM σ) α} {f : α → ExceptT Fault (StateM σ) β}
variable {s s' : σ} {a : α} {e : Fault}

theorem exists_eq_ok {r : Outcome α} (h : r.isOk = true) : ∃ a, r = .ok a := by
  cases r with
  | ok a => exact ⟨a, rfl⟩
  | error e => cases h

theorem exists_eq_error {r : Outcome α} (h : r.isOk = false) : ∃ e, r = .error e := by
  cases r with
  | ok a => cases h
  | error e => exact ⟨e, rfl⟩

theorem eq_ok_of_fst (h : (x s).1 = .ok a) : x s = (.ok a, (x s).2) :=
  Prod.ext h rfl

theorem bind_of_ok (h : x s = (.ok a, s')) : (x >>= f) s = f a s' := by
  simp only [bind, ExceptT.bind, ExceptT.mk, StateT.bind]
  rw [h]
  rfl

theorem bind_of_error (h : x s = (.error e, s')) : (x >>= f) s = (.error e, s') := by
  simp only [bind, ExceptT.bind, ExceptT.mk, StateT.bind]
  rw [h]
  rfl

theorem get_bind (f : σ → ExceptT Fault (StateM σ) β) (s : σ) : (get >>= f) s = f s s := rfl

theorem bind_cases (x : ExceptT Fault (StateM σ) α) (f : α → ExceptT Fault (StateM σ) β) (s : σ) :
    (∃ a s', x s = (.ok a, s') ∧ (x >>= f) s = f a s') ∨
      ∃ e s', x s = (.error e, s') ∧ (x >>= f) s = (.error e, s') := by
  rcases h : x s with ⟨r, s'⟩
  cases r with
  | ok a => exact .inl ⟨a, s', rfl, bind_of_ok h⟩
  | error e => exact .inr ⟨e, s', rfl, bind_of_error h⟩

theorem bind_eq_ok {b : β} (h : (x >>= f) s = (.ok b, s')) :
    ∃ a t, x s = (.ok a, t) ∧ f a t = (.ok b, s') := by
  rcases bind_cases x f s with ⟨a, t, hx, hbind⟩ | ⟨e, t, -, hbind⟩
  · exact ⟨a, t, hx, hbind ▸ h⟩
  · rw [hbind] at h
    cases (Prod.mk.inj h).1

/-! ### What a step keeps -/

variable {R Q : σ → σ → Prop}

def Keeps (R : σ → σ → Prop) (x : ExceptT Fault (StateM σ) α) : Prop :=
  ∀ s, R s (x s).2

/-- A relation that a step which does nothing keeps, and two steps that keep it one after the
other. -/
structure IsFrame (R : σ → σ → Prop) : Prop where
  refl : ∀ s, R s s
  trans : ∀ {s t u}, R s t → R t u → R s u

/-- A step that keeps `R`, and then one that keeps a relation `Q` which absorbs `R` in front. -/
theorem Keeps.bind_of_absorbs (himp : ∀ {s t}, R s t → Q s t)
    (habsorb : ∀ {s t u}, R s t → Q t u → Q s u) (hx : Keeps R x) (hf : ∀ a, Keeps Q (f a)) :
    Keeps Q (x >>= f) := by
  intro s
  have hfirst := hx s
  rcases bind_cases x f s with ⟨a, s', hs, hbind⟩ | ⟨e, s', hs, hbind⟩
  · rw [hs] at hfirst
    rw [hbind]
    exact habsorb hfirst (hf a s')
  · rw [hs] at hfirst
    rw [hbind]
    exact himp hfirst

namespace IsFrame

variable (h : IsFrame R)
include h

theorem pure (a : α) : Keeps R (pure a : ExceptT Fault (StateM σ) α) :=
  h.refl

theorem throw (e : Fault) : Keeps R (throw e : ExceptT Fault (StateM σ) α) :=
  h.refl

theorem get : Keeps R (get : ExceptT Fault (StateM σ) σ) :=
  h.refl

theorem bind (hx : Keeps R x) (hf : ∀ a, Keeps R (f a)) : Keeps R (x >>= f) :=
  hx.bind_of_absorbs id h.trans hf

end IsFrame

theorem Keeps.ite {p : Prop} [Decidable p] {y : ExceptT Fault (StateM σ) α} (hx : p → Keeps R x)
    (hy : ¬ p → Keeps R y) : Keeps R (if p then x else y) := by
  split
  · next hp => exact hx hp
  · next hp => exact hy hp

/-- A step that is made only if a condition holds, and what follows it in any case. -/
theorem IsFrame.bind_if {p : Prop} [Decidable p] (h : IsFrame R) (hx : Keeps R x)
    (hf : ∀ a, Keeps R (f a)) (a : α) : Keeps R (if p then x >>= f else f a) :=
  .ite (fun _ => h.bind hx hf) fun _ => hf a

end LangServer.Step
