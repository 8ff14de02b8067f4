import CaffeineHal.Program.Resumption

/-!
# The calls of a run

`history` records every operation of a run with the state it started in, its value and the state after
it, newest first. `EveryCall P` says `P` of every recorded call and the calls before it.

`everyCall_history_iff` is the rule for conditions under which a run is correct: when, at a call that
an invariant finds the run in, the property holds exactly under the condition, then it holds at every
call of a run exactly when the condition does.
-/

set_option autoImplicit false

namespace CaffeineHal.Program

universe u v w

/-- One operation of a run. -/
structure Ran (S C R β : Type u) (W : Type v) (Op : Type w) where
  op : Op
  before : Conf S C R W
  value : β
  after : Conf S C R W

variable {S C R β : Type u} {W : Type v} {Op : Type w}

/-- The calls made from one state to a later one, newest first. -/
def Conf.callsSince (s s' : Conf S C R W) : List (Event S C R) :=
  s'.log.take (s'.log.length - s.log.length)

theorem Conf.callsSince_eq {s s' : Conf S C R W} {evs : List (Event S C R)}
    (h : s'.log = evs ++ s.log) : s.callsSince s' = evs := by
  rw [Conf.callsSince, h, List.length_append, Nat.add_sub_cancel]
  exact List.take_left

/-- The calls of two stretches of a run are the calls of both. -/
theorem Conf.callsSince_trans {s s' s'' : Conf S C R W}
    (h : ∃ evs : List (Event S C R), s'.log = evs ++ s.log)
    (h' : ∃ evs : List (Event S C R), s''.log = evs ++ s'.log) :
    s.callsSince s'' = s'.callsSince s'' ++ s.callsSince s' := by
  obtain ⟨evs, hlog⟩ := h
  obtain ⟨evs', hlog'⟩ := h'
  rw [Conf.callsSince_eq hlog, Conf.callsSince_eq hlog']
  apply Conf.callsSince_eq
  rw [hlog', hlog, List.append_assoc]

/-- The calls that one operation made, newest first. -/
def Ran.calls (c : Ran S C R β W Op) : List (Event S C R) :=
  c.after.log.take (c.after.log.length - c.before.log.length)

theorem Ran.calls_eq {c : Ran S C R β W Op} {evs : List (Event S C R)}
    (h : c.after.log = evs ++ c.before.log) : c.calls = evs := by
  rw [Ran.calls, h, List.length_append, Nat.add_sub_cancel]
  exact List.take_left

theorem Ran.calls_eq_nil {c : Ran S C R β W Op} (h : c.after.log = c.before.log) : c.calls = [] :=
  Ran.calls_eq h

theorem Ran.calls_eq_singleton {c : Ran S C R β W Op} {e : Event S C R}
    (h : c.after.log = e :: c.before.log) : c.calls = [e] :=
  Ran.calls_eq h

/-- `P` holds of every call, given the calls before it. -/
def EveryCall (P : Ran S C R β W Op → List (Ran S C R β W Op) → Prop)
    (calls : List (Ran S C R β W Op)) : Prop :=
  ∀ c older, c :: older <:+ calls → P c older

section EveryCall

variable {P Q : Ran S C R β W Op → List (Ran S C R β W Op) → Prop}

@[simp] theorem everyCall_nil : EveryCall P [] := by
  intro c older h
  cases List.suffix_nil.1 h

@[simp] theorem everyCall_cons (c : Ran S C R β W Op) (older : List (Ran S C R β W Op)) :
    EveryCall P (c :: older) ↔ P c older ∧ EveryCall P older := by
  constructor
  · intro h
    refine ⟨h c older (List.suffix_refl _), fun d rest hd => ?_⟩
    exact h d rest (hd.trans (List.suffix_cons c older))
  · rintro ⟨hc, hrest⟩ d rest hd
    rcases List.suffix_cons_iff.1 hd with heq | hd
    · obtain ⟨rfl, rfl⟩ := List.cons.inj heq
      exact hc
    · exact hrest d rest hd

end EveryCall

section History

variable (env : Env S C R W) (prog : Op → Prog S C R β)

/-- The record of one operation started in `s`. -/
def ran (op : Op) (s : Conf S C R W) : Ran S C R β W Op where
  op := op
  before := s
  value := (run env (prog op) s).1
  after := (run env (prog op) s).2

/-- The calls of a run, newest first. -/
def history : List Op → Conf S C R W → List (Ran S C R β W Op)
  | [], _ => []
  | op :: ops, s => history ops (run env (prog op) s).2 ++ [ran env prog op s]

@[simp] theorem history_nil (s : Conf S C R W) : history env prog [] s = [] := rfl

theorem history_append (xs ys : List Op) (s : Conf S C R W) :
    history env prog (xs ++ ys) s =
      history env prog ys (runOps env prog xs s) ++ history env prog xs s := by
  induction xs generalizing s with
  | nil => simp
  | cons op ops ih =>
      rw [List.cons_append, history, ih, history, runOps_cons, List.append_assoc]

/-- The last operation of a run is its newest call. -/
theorem history_concat (ops : List Op) (op : Op) (s : Conf S C R W) :
    history env prog (ops ++ [op]) s =
      ran env prog op (runOps env prog ops s) :: history env prog ops s := by
  rw [history_append]
  rfl

theorem runOps_concat (ops : List Op) (op : Op) (s : Conf S C R W) :
    runOps env prog (ops ++ [op]) s = (run env (prog op) (runOps env prog ops s)).2 := by
  rw [runOps_append]
  rfl

variable {env prog} {P Q : Ran S C R β W Op → List (Ran S C R β W Op) → Prop}

/-- Where a call with the property keeps the invariant, a run of such calls keeps it. -/
theorem EveryCall.invariant (inv : List (Ran S C R β W Op) → Conf S C R W → Prop)
    (hstep : ∀ op s calls, inv calls s → P (ran env prog op s) calls →
      inv (ran env prog op s :: calls) (run env (prog op) s).2)
    {s : Conf S C R W} (hs : inv [] s) {ops : List Op}
    (h : EveryCall P (history env prog ops s)) :
    inv (history env prog ops s) (runOps env prog ops s) := by
  -- A run grows at its end: the calls before the last one are those of a shorter run.
  induction ops using List.reverseRecOn with
  | nil => exact hs
  | append_singleton ops op ih =>
      rw [history_concat] at h ⊢
      rw [runOps_concat]
      obtain ⟨hop, hops⟩ := (everyCall_cons _ _).1 h
      exact hstep op _ _ (ih hops) hop

/-- A property holds at every call of a run exactly when a condition does, when the two agree at
every call that the invariant finds the run in, and calls with the property keep the invariant. -/
theorem everyCall_history_iff (inv : List (Ran S C R β W Op) → Conf S C R W → Prop)
    (hstep : ∀ op s calls, inv calls s → P (ran env prog op s) calls →
      inv (ran env prog op s :: calls) (run env (prog op) s).2)
    (hiff : ∀ op s calls, inv calls s →
      (P (ran env prog op s) calls ↔ Q (ran env prog op s) calls))
    {s : Conf S C R W} (hs : inv [] s) (ops : List Op) :
    EveryCall P (history env prog ops s) ↔ EveryCall Q (history env prog ops s) := by
  induction ops using List.reverseRecOn with
  | nil => exact ⟨fun _ => everyCall_nil, fun _ => everyCall_nil⟩
  | append_singleton ops op ih =>
      rw [history_concat, everyCall_cons, everyCall_cons]
      constructor
      · rintro ⟨hop, hops⟩
        have hinv := hops.invariant inv hstep hs
        exact ⟨(hiff op _ _ hinv).1 hop, ih.1 hops⟩
      · rintro ⟨hop, hops⟩
        -- The invariant needs the property of the calls before, which the condition gives there.
        have hprev := ih.2 hops
        have hinv := hprev.invariant inv hstep hs
        exact ⟨(hiff op _ _ hinv).2 hop, hprev⟩

/-- A condition on the operations alone holds at every call exactly when every operation meets it. -/
theorem everyCall_history_op {Q : Op → Prop} (ops : List Op) (s : Conf S C R W) :
    EveryCall (fun c _ => Q c.op) (history env prog ops s) ↔ ∀ op ∈ ops, Q op := by
  induction ops using List.reverseRecOn with
  | nil => simp
  | append_singleton ops op ih =>
      rw [history_concat, everyCall_cons, ih]
      simp [ran, and_comm, or_imp, forall_and]

end History

end CaffeineHal.Program
