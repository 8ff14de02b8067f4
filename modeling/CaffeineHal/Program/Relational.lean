import CaffeineHal.Program.Resumption

/-!
# Two programs that do the same

`Traced T` is programs that note what they do, newest first; the notes are for the reader of a run and a
program cannot see them. `Related env env' Q p q` says that `p` and `q`, run from states that `Q` relates,
end with the same value, the same notes and states that `Q` relates. The two may call different hooks and run
in different environments.

The rules follow the constructors of a program. `related_before` and `related_after` are for a program that
has calls which the other one lacks.
-/

set_option autoImplicit false

namespace CaffeineHal.Program

universe u v w

variable {T S C R α β : Type u} {W : Type v} {W' : Type w}

/-- A program that notes what it does. -/
abbrev Traced (T S C R : Type u) : Type u → Type u :=
  StateT (List T) (Prog S C R)

/-- Note `t`. -/
def Traced.note (t : T) : Traced T S C R PUnit := fun ts => pure (⟨⟩, t :: ts)

/-- Run a program with the notes so far: its value and the notes, and the state after it. -/
def runTraced (env : Env S C R W) (p : Traced T S C R α) (ts : List T) (s : Conf S C R W) :
    (α × List T) × Conf S C R W :=
  run env (p.run ts) s

section Run

variable (env : Env S C R W) (ts : List T) (s : Conf S C R W)

@[simp] theorem runTraced_pure (a : α) :
    runTraced env (pure a : Traced T S C R α) ts s = ((a, ts), s) := rfl

@[simp] theorem runTraced_lift (p : Prog S C R α) :
    runTraced env (liftM p : Traced T S C R α) ts s =
      (((run env p s).1, ts), (run env p s).2) :=
  run_bind env p _ s

@[simp] theorem runTraced_bind (p : Traced T S C R α) (f : α → Traced T S C R β) :
    runTraced env (p >>= f) ts s =
      runTraced env (f (runTraced env p ts s).1.1) (runTraced env p ts s).1.2
        (runTraced env p ts s).2 :=
  run_bind env (p.run ts) _ s

end Run

/-- From related states, `p` and `q` end with the same value and notes, in related states. -/
def Related (env : Env S C R W) (env' : Env S C R W') (Q : Conf S C R W → Conf S C R W' → Prop)
    (p q : Traced T S C R α) : Prop :=
  ∀ ts s s', Q s s' →
    (runTraced env p ts s).1 = (runTraced env' q ts s').1 ∧
      Q (runTraced env p ts s).2 (runTraced env' q ts s').2

section Rules

variable {env : Env S C R W} {env' : Env S C R W'} {Q : Conf S C R W → Conf S C R W' → Prop}
  {p q : Traced T S C R α} {f g : α → Traced T S C R β}

theorem related_pure (a : α) : Related env env' Q (pure a : Traced T S C R α) (pure a) :=
  fun _ _ _ h => ⟨rfl, h⟩

theorem related_note (t : T) :
    Related env env' Q (Traced.note t : Traced T S C R PUnit) (Traced.note t) :=
  fun _ _ _ h => ⟨rfl, h⟩

theorem related_bind (hpq : Related env env' Q p q) (hfg : ∀ a, Related env env' Q (f a) (g a)) :
    Related env env' Q (p >>= f) (q >>= g) := by
  intro ts s s' h
  obtain ⟨hval, hQ⟩ := hpq ts s s' h
  rw [runTraced_bind, runTraced_bind, hval]
  exact hfg _ _ _ _ hQ

/-- Two programs without notes. -/
theorem related_lift {p q : Prog S C R α}
    (h : ∀ s s', Q s s' → (run env p s).1 = (run env' q s').1 ∧ Q (run env p s).2 (run env' q s').2) :
    Related env env' Q (liftM p : Traced T S C R α) (liftM q) := by
  intro ts s s' hs
  obtain ⟨hval, hQ⟩ := h s s' hs
  rw [runTraced_lift, runTraced_lift, hval]
  exact ⟨rfl, hQ⟩

/-- Calls before, which the other program lacks: they have the value `a` and keep the relation. -/
theorem related_before {before : Prog S C R α} {a : α} {q : Traced T S C R β}
    (hbefore : ∀ s s', Q s s' → (run env before s).1 = a ∧ Q (run env before s).2 s')
    (h : Related env env' Q (f a) q) :
    Related env env' Q ((liftM before : Traced T S C R α) >>= f) q := by
  intro ts s s' hs
  obtain ⟨hval, hQ⟩ := hbefore s s' hs
  rw [runTraced_bind, runTraced_lift, hval]
  exact h ts _ _ hQ

/-- Calls after, which the other program lacks: they keep the relation, and their value is dropped. -/
theorem related_after {after : Prog S C R β}
    (hafter : ∀ s s', Q s s' → Q (run env after s).2 s') (h : Related env env' Q p q) :
    Related env env' Q (p >>= fun a => (liftM after : Traced T S C R β) >>= fun _ => pure a) q := by
  intro ts s s' hs
  obtain ⟨hval, hQ⟩ := h ts s s' hs
  simp only [runTraced_bind, runTraced_lift, runTraced_pure]
  exact ⟨hval, hafter _ _ hQ⟩

end Rules

end CaffeineHal.Program
