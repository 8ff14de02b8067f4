import Mathlib.Data.List.Infix
import Mathlib.Logic.Relation

/-!
# Programs that read and write one record and call out

A program over a record `S` is a tree of atomic steps: it reads the record, writes it, or makes a
call `C` that the environment answers with `R`. The tree is the program itself, so the same
definition is run to completion (`run`) or one atomic step at a time (`step`); `reaches_run` says
that the steps lead to what `run` computes.

The environment is an arbitrary state machine with worlds `W`: an answer may depend on the call, on
the record and on everything that happened before, and it may write the record. `Env.ofCodes` is the
environment whose calls leave the record alone. Every call is recorded in a log, newest first, with
the record the call was made on and its answer.
-/

set_option autoImplicit false

namespace CaffeineHal.Program

universe u v w

/-- A program: finished with a value, or one atomic step and the program after it. -/
inductive Prog (S C R α : Type u) : Type u where
  | done (a : α)
  | read (k : S → Prog S C R α)
  | write (f : S → S) (k : Prog S C R α)
  | call (c : C) (k : R → Prog S C R α)

/-- One call in the log: what was called, the record it was made on, and the answer. -/
structure Event (S C R : Type u) where
  call : C
  record : S
  answer : R

/-- The state a program runs in. The log has the newest call first. -/
structure Conf (S C R : Type u) (W : Type v) where
  record : S
  world : W
  log : List (Event S C R)

/-- What the environment does with a call: its answer, the record and the world after it. -/
structure Env (S C R : Type u) (W : Type v) where
  answer : C → S → W → R × S × W

variable {S C R α β : Type u} {W : Type v}

namespace Prog

/-- Sequential composition. -/
def bind : Prog S C R α → (α → Prog S C R β) → Prog S C R β
  | done a, f => f a
  | read k, f => read fun s => (k s).bind f
  | write g k, f => write g (k.bind f)
  | call c k, f => call c fun r => (k r).bind f

instance : Monad (Prog S C R) where
  pure := done
  bind := bind

/-- The record as it is now. -/
def get : Prog S C R S := read done

/-- One write of the record. -/
def modify (f : S → S) : Prog S C R PUnit := write f (done ⟨⟩)

/-- One call. -/
def request (c : C) : Prog S C R R := call c done

@[simp] theorem pure_eq (a : α) : (pure a : Prog S C R α) = done a := rfl

@[simp] theorem done_bind (a : α) (f : α → Prog S C R β) : (done a >>= f) = f a := rfl

@[simp] theorem read_bind (k : S → Prog S C R α) (f : α → Prog S C R β) :
    (read k >>= f) = read fun s => k s >>= f := rfl

@[simp] theorem write_bind (g : S → S) (k : Prog S C R α) (f : α → Prog S C R β) :
    (write g k >>= f) = write g (k >>= f) := rfl

@[simp] theorem call_bind (c : C) (k : R → Prog S C R α) (f : α → Prog S C R β) :
    (call c k >>= f) = call c fun r => k r >>= f := rfl

theorem call_ne_done (c : C) (k : R → Prog S C R α) (a : α) : call c k ≠ done a := by
  rintro ⟨⟩

theorem read_ne_done (k : S → Prog S C R α) (a : α) : read k ≠ done a := by
  rintro ⟨⟩

end Prog

namespace Env

/-- The environment whose calls answer `codes` and leave the record alone. -/
def ofCodes (codes : C → S → W → R × W) : Env S C R W where
  answer c s w := ((codes c s w).1, s, (codes c s w).2)

/-- The calls do not write what `view` shows of the record. -/
def Keeps {V : Type w} (env : Env S C R W) (view : S → V) : Prop :=
  ∀ c s x, view (env.answer c s x).2.1 = view s

theorem ofCodes_keeps {V : Type w} (codes : C → S → W → R × W) (view : S → V) :
    (ofCodes codes).Keeps view :=
  fun _ _ _ => rfl

end Env

namespace Conf

/-- The answer to `c` in this state. -/
def reply (env : Env S C R W) (c : C) (s : Conf S C R W) : R :=
  (env.answer c s.record s.world).1

/-- The state after `c` was called and answered. -/
def answered (env : Env S C R W) (c : C) (s : Conf S C R W) : Conf S C R W where
  record := (env.answer c s.record s.world).2.1
  world := (env.answer c s.record s.world).2.2
  log := ⟨c, s.record, s.reply env c⟩ :: s.log

/-- The state after the record was written. -/
def written (f : S → S) (s : Conf S C R W) : Conf S C R W :=
  { s with record := f s.record }

/-- The state after `c` was answered `r` without a write of the record. -/
def called (c : C) (r : R) (x : W) (s : Conf S C R W) : Conf S C R W where
  record := s.record
  world := x
  log := ⟨c, s.record, r⟩ :: s.log

/-- The state in another world. -/
def inWorld {W' : Type*} (s : Conf S C R W) (x : W') : Conf S C R W' where
  record := s.record
  world := x
  log := s.log

@[simp] theorem called_record (c : C) (r : R) (x : W) (s : Conf S C R W) :
    (s.called c r x).record = s.record := rfl

@[simp] theorem called_log (c : C) (r : R) (x : W) (s : Conf S C R W) :
    (s.called c r x).log = ⟨c, s.record, r⟩ :: s.log := rfl

@[simp] theorem answered_log (env : Env S C R W) (c : C) (s : Conf S C R W) :
    (s.answered env c).log = ⟨c, s.record, s.reply env c⟩ :: s.log := rfl

@[simp] theorem answered_ofCodes (codes : C → S → W → R × W) (c : C) (s : Conf S C R W) :
    s.answered (.ofCodes codes) c =
      s.called c (codes c s.record s.world).1 (codes c s.record s.world).2 := rfl

@[simp] theorem reply_ofCodes (codes : C → S → W → R × W) (c : C) (s : Conf S C R W) :
    s.reply (.ofCodes codes) c = (codes c s.record s.world).1 := rfl

@[simp] theorem written_record (f : S → S) (s : Conf S C R W) :
    (s.written f).record = f s.record := rfl

@[simp] theorem written_world (f : S → S) (s : Conf S C R W) : (s.written f).world = s.world := rfl

@[simp] theorem written_log (f : S → S) (s : Conf S C R W) : (s.written f).log = s.log := rfl

end Conf

/-! ## Calls between two states -/

section Calls

variable {P : Event S C R → Prop} {s s' s'' : Conf S C R W}

theorem Conf.calls_refl (P : Event S C R → Prop) (s : Conf S C R W) :
    ∃ evs : List (Event S C R), s.log = evs ++ s.log ∧ ∀ e ∈ evs, P e :=
  ⟨[], rfl, List.forall_mem_nil _⟩

/-- One call. -/
theorem Conf.calls_cons {e : Event S C R} (hlog : s'.log = e :: s.log) (he : P e) :
    ∃ evs : List (Event S C R), s'.log = evs ++ s.log ∧ ∀ e ∈ evs, P e := by
  refine ⟨[e], hlog, fun other hmem => ?_⟩
  rw [List.mem_singleton.1 hmem]
  exact he

/-- The calls of two stretches of a run, one after the other. -/
theorem Conf.calls_trans
    (h : ∃ evs : List (Event S C R), s'.log = evs ++ s.log ∧ ∀ e ∈ evs, P e)
    (h' : ∃ evs : List (Event S C R), s''.log = evs ++ s'.log ∧ ∀ e ∈ evs, P e) :
    ∃ evs : List (Event S C R), s''.log = evs ++ s.log ∧ ∀ e ∈ evs, P e := by
  obtain ⟨evs, hlog, hevs⟩ := h
  obtain ⟨evs', hlog', hevs'⟩ := h'
  refine ⟨evs' ++ evs, ?_, fun e hmem => ?_⟩
  · rw [hlog', hlog, List.append_assoc]
  · rcases List.mem_append.1 hmem with hmem | hmem
    · exact hevs' e hmem
    · exact hevs e hmem

end Calls

/-! ## Running to completion -/

/-- Run a program to completion: its value and the state after it. -/
def run (env : Env S C R W) : Prog S C R α → Conf S C R W → α × Conf S C R W
  | .done a, s => (a, s)
  | .read k, s => run env (k s.record) s
  | .write f k, s => run env k (s.written f)
  | .call c k, s => run env (k (s.reply env c)) (s.answered env c)

section Run

variable (env : Env S C R W)

@[simp] theorem run_done (a : α) (s : Conf S C R W) :
    run env (.done a : Prog S C R α) s = (a, s) := rfl

@[simp] theorem run_get (s : Conf S C R W) :
    run env (Prog.get : Prog S C R S) s = (s.record, s) := rfl

@[simp] theorem run_modify (f : S → S) (s : Conf S C R W) :
    run env (Prog.modify f : Prog S C R PUnit) s = (⟨⟩, s.written f) := rfl

@[simp] theorem run_request (c : C) (s : Conf S C R W) :
    run env (Prog.request c : Prog S C R R) s = (s.reply env c, s.answered env c) := rfl

/-- Composition runs the first program and then the second one in the state it left. -/
@[simp] theorem run_bind (p : Prog S C R α) (f : α → Prog S C R β) (s : Conf S C R W) :
    run env (p >>= f) s = run env (f (run env p s).1) (run env p s).2 := by
  -- A write or a call changes the state in which the rest of `p` runs.
  induction p generalizing s with
  | done a => rfl
  | read k ih => exact ih s.record s
  | write g k ih => exact ih (s.written g)
  | call c k ih => exact ih (s.reply env c) (s.answered env c)

end Run

/-! ## One atomic step -/

/-- One atomic step; a finished program stays where it is. -/
def step (env : Env S C R W) : Prog S C R α × Conf S C R W → Prog S C R α × Conf S C R W
  | (.done a, s) => (.done a, s)
  | (.read k, s) => (k s.record, s)
  | (.write f k, s) => (k, s.written f)
  | (.call c k, s) => (k (s.reply env c), s.answered env c)

/-- Stepping a program without interference leads to what `run` computes. -/
theorem reaches_run (env : Env S C R W) (p : Prog S C R α) (s : Conf S C R W) :
    Relation.ReflTransGen (fun a b => step env a = b) (p, s)
      (.done (run env p s).1, (run env p s).2) := by
  -- Each constructor is one step, and the path goes down the tree.
  induction p generalizing s with
  | done a => exact .refl
  | read k ih => exact .head rfl (ih s.record s)
  | write g k ih => exact .head rfl (ih (s.written g))
  | call c k ih => exact .head rfl (ih (s.reply env c) (s.answered env c))

/-! ## Runs of operations -/

section Operations

variable {Op : Type w} (env : Env S C R W) (prog : Op → Prog S C R β)

/-- The state after a list of operations, each run to completion. -/
def runOps : List Op → Conf S C R W → Conf S C R W
  | [], s => s
  | op :: ops, s => runOps ops (run env (prog op) s).2

@[simp] theorem runOps_nil (s : Conf S C R W) : runOps env prog [] s = s := rfl

@[simp] theorem runOps_cons (op : Op) (ops : List Op) (s : Conf S C R W) :
    runOps env prog (op :: ops) s = runOps env prog ops (run env (prog op) s).2 := rfl

theorem runOps_append (xs ys : List Op) (s : Conf S C R W) :
    runOps env prog (xs ++ ys) s = runOps env prog ys (runOps env prog xs s) := by
  induction xs generalizing s with
  | nil => rfl
  | cons op ops ih => exact ih _

/-- What one operation keeps, a run keeps. -/
theorem runOps_invariant (inv : Conf S C R W → Prop)
    (hstep : ∀ op s, inv s → inv (run env (prog op) s).2) (ops : List Op) {s : Conf S C R W}
    (hs : inv s) : inv (runOps env prog ops s) := by
  induction ops generalizing s with
  | nil => exact hs
  | cons op ops ih => exact ih (hstep op s hs)

end Operations

end CaffeineHal.Program
