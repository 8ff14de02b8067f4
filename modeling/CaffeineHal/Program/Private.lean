import CaffeineHal.Program.Independent
import CaffeineHal.Program.Interference

/-!
# State of the environment in the record

An environment may keep state of its own in the record that a program works on: a part (`Part`) that its
calls write and that the program neither reads nor writes (`Prog.Ignores`). Such state may as well be kept
elsewhere. `Env.outside` is the environment that keeps it in its world and answers as the other one does, and
leaves the record alone; `Part.hide` takes the part out of a state. A run under the one environment, seen
without the part, is the run under the other (`run_hide`, `runOps_hide`), interrupted or not
(`interleave_hide`), so what is known of environments that do not write the record holds of environments that
write their own part of it.
-/

set_option autoImplicit false

namespace CaffeineHal.Program

universe u v w

variable {S C R α β V : Type u} {W : Type v}

/-- A part of a record that can be read and written by itself. -/
structure Part (S V : Type u) where
  get : S → V
  put : S → V → S
  get_put : ∀ s v, get (put s v) = v
  put_get : ∀ s, put s (get s) = s
  put_put : ∀ s v v', put (put s v) v' = put s v'

variable (part : Part S V)

/-- The program neither reads nor writes the part. -/
def Prog.Ignores : Prog S C R α → Prop
  | .done _ => True
  | .read k => ∀ s, (∀ v, k (part.put s v) = k s) ∧ (k s).Ignores
  | .write f k => (∀ s v, f (part.put s v) = part.put (f s) v) ∧ k.Ignores
  | .call _ k => ∀ r, (k r).Ignores

/-- The environment writes the part of the record at most. -/
def Env.WritesOnly (env : Env S C R W) : Prop :=
  ∀ c s x, ∃ v, (env.answer c s x).2.1 = part.put s v

/-- The environment that keeps the part in its world. -/
def Env.outside (env : Env S C R W) : Env S C R (W × V) :=
  .ofCodes fun c s x =>
    let out := env.answer c (part.put s x.2) x.1
    (out.1, (out.2.2, part.get out.2.1))

namespace Part

/-- A call without the part of the record that it was made on. -/
def hideEvent (blank : V) (e : Event S C R) : Event S C R :=
  { e with record := part.put e.record blank }

/-- A state with the part in the world. -/
def hide (blank : V) (s : Conf S C R W) : Conf S C R (W × V) where
  record := part.put s.record blank
  world := (s.world, part.get s.record)
  log := s.log.map (part.hideEvent blank)

end Part

section Rules

variable {part}

theorem ignores_done (a : α) : (.done a : Prog S C R α).Ignores part := trivial

theorem ignores_request (c : C) : (Prog.request c : Prog S C R R).Ignores part := fun _ => trivial

theorem ignores_modify {f : S → S} (hf : ∀ s v, f (part.put s v) = part.put (f s) v) :
    (Prog.modify f : Prog S C R PUnit).Ignores part := ⟨hf, trivial⟩

/-- What follows a read may use it as far as the part is not in it. -/
theorem ignores_get {k : S → Prog S C R α} (hk : ∀ s v, k (part.put s v) = k s)
    (h : ∀ s, (k s).Ignores part) : (Prog.get >>= k).Ignores part :=
  fun s => ⟨hk s, h s⟩

theorem ignores_bind {p : Prog S C R α} {f : α → Prog S C R β} (hp : p.Ignores part)
    (hf : ∀ a, (f a).Ignores part) : (p >>= f).Ignores part := by
  induction p with
  | done a => exact hf a
  | read k ih =>
      intro s
      refine ⟨fun v => ?_, ih s (hp s).2⟩
      show k (part.put s v) >>= f = k s >>= f
      rw [(hp s).1 v]
  | write g k ih => exact ⟨hp.1, ih hp.2⟩
  | call c k ih => exact fun r => ih r (hp r)

theorem ignores_ite {c : Prop} [Decidable c] {p q : Prog S C R α} (hp : p.Ignores part)
    (hq : q.Ignores part) : (if c then p else q).Ignores part := by
  split
  · exact hp
  · exact hq

end Rules

section Runs

variable {part} {env : Env S C R W} (blank : V)

/-- Where the environment writes the part only, the rest of the record is as it was. -/
theorem Env.WritesOnly.put_answer (h : env.WritesOnly part) (c : C) (s : S) (x : W) :
    part.put (env.answer c s x).2.1 blank = part.put s blank := by
  obtain ⟨v, hv⟩ := h c s x
  rw [hv, part.put_put]

theorem hide_written {f : S → S} (hf : ∀ s v, f (part.put s v) = part.put (f s) v)
    (s : Conf S C R W) : part.hide blank (s.written f) = (part.hide blank s).written f := by
  have hget : part.get (f s.record) = part.get s.record := by
    have h := hf s.record (part.get s.record)
    rw [part.put_get] at h
    rw [h, part.get_put]
  unfold Part.hide Conf.written
  rw [hf, hget]

theorem reply_hide (c : C) (s : Conf S C R W) :
    (part.hide blank s).reply (env.outside part) c = s.reply env c := by
  show (env.answer c (part.put (part.put s.record blank) (part.get s.record)) s.world).1 = _
  rw [part.put_put, part.put_get]
  rfl

theorem answered_hide (henv : env.WritesOnly part) (c : C) (s : Conf S C R W) :
    (part.hide blank s).answered (env.outside part) c = part.hide blank (s.answered env c) := by
  have hback : part.put (part.put s.record blank) (part.get s.record) = s.record := by
    rw [part.put_put, part.put_get]
  have hrecord := henv.put_answer blank c s.record s.world
  unfold Part.hide Conf.answered Env.outside Env.ofCodes Conf.reply
  simp only [hback, hrecord, List.map_cons]
  rfl

/-- State of the environment may be kept in the record or outside it. -/
theorem run_hide (henv : env.WritesOnly part) {p : Prog S C R α} (hp : p.Ignores part)
    (s : Conf S C R W) :
    run (env.outside part) p (part.hide blank s) =
      ((run env p s).1, part.hide blank (run env p s).2) := by
  induction p generalizing s with
  | done a => rfl
  | read k ih =>
      have hk : k (part.hide blank s).record = k s.record := (hp s.record).1 blank
      show run (env.outside part) (k (part.hide blank s).record) (part.hide blank s) = _
      rw [hk]
      exact ih s.record (hp s.record).2 s
  | write f k ih =>
      show run (env.outside part) k ((part.hide blank s).written f) = _
      rw [← hide_written blank hp.1 s]
      exact ih hp.2 (s.written f)
  | call c k ih =>
      show run (env.outside part) (k ((part.hide blank s).reply (env.outside part) c))
        ((part.hide blank s).answered (env.outside part) c) = _
      rw [reply_hide, answered_hide blank henv c s]
      exact ih (s.reply env c) (hp _) (s.answered env c)

/-- Runs of operations with their answers. -/
theorem runOps_hide {Op : Type w} {prog : Op → Prog S C R β} (henv : env.WritesOnly part)
    (hprog : ∀ op, (prog op).Ignores part) (ops : List Op) (s : Conf S C R W) :
    answers (env.outside part) prog ops (part.hide blank s) = answers env prog ops s ∧
      runOps (env.outside part) prog ops (part.hide blank s) =
        part.hide blank (runOps env prog ops s) := by
  induction ops generalizing s with
  | nil => exact ⟨rfl, rfl⟩
  | cons op ops ih =>
      obtain ⟨hanswers, hend⟩ := ih (run env (prog op) s).2
      rw [answers_cons, answers_cons, runOps_cons, runOps_cons, run_hide blank henv (hprog op) s]
      exact ⟨congrArg _ hanswers, hend⟩

end Runs

section Interleavings

variable {part} {env : Env S C R W} (blank : V) {Op : Type u} {handler : Op → Prog S C R α}

/-- One step, and what is left of the program. -/
theorem step_hide (henv : env.WritesOnly part) {p : Prog S C R β} (hp : p.Ignores part)
    (s : Conf S C R W) :
    (step env (p, s)).1.Ignores part ∧
      step (env.outside part) (p, part.hide blank s) =
        ((step env (p, s)).1, part.hide blank (step env (p, s)).2) := by
  cases p with
  | done a => exact ⟨hp, rfl⟩
  | read k =>
      have hk : k (part.hide blank s).record = k s.record := (hp s.record).1 blank
      exact ⟨(hp s.record).2, congrArg (·, part.hide blank s) hk⟩
  | write f k => exact ⟨hp.2, congrArg (k, ·) (hide_written blank hp.1 s).symm⟩
  | call c k =>
      refine ⟨hp _, ?_⟩
      show (k ((part.hide blank s).reply (env.outside part) c),
        (part.hide blank s).answered (env.outside part) c) = _
      rw [reply_hide, answered_hide blank henv c s]
      rfl

/-- The same holds between any two steps of a program that is interrupted. -/
theorem interleave_hide (henv : env.WritesOnly part) (hhandler : ∀ op, (handler op).Ignores part)
    (schedule : List (Option Op)) {p : Prog S C R β} (hp : p.Ignores part) (s : Conf S C R W) :
    interleave (env.outside part) handler schedule (p, part.hide blank s) =
      ((interleave env handler schedule (p, s)).1,
        part.hide blank (interleave env handler schedule (p, s)).2) := by
  induction schedule generalizing p s with
  | nil => rfl
  | cons t schedule ih =>
      cases t with
      | none =>
          obtain ⟨hrest, hstep⟩ := step_hide blank henv hp s
          show interleave _ _ schedule (step (env.outside part) (p, part.hide blank s)) = _
          rw [hstep]
          exact ih hrest _
      | some op =>
          show interleave _ _ schedule (p, (run (env.outside part) (handler op) _).2) = _
          rw [run_hide blank henv (hhandler op) s]
          exact ih hp _

end Interleavings

end CaffeineHal.Program
