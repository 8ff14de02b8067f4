import CaffeineHal.Program.History
import Mathlib.Logic.Function.Basic

/-!
# Clients that share a record

Any number of clients share one record and its environment. A client has a list of jobs and runs their
programs one after another, an atomic step in each of its turns; a schedule says whose turn it is
(`play`). The trace keeps every call with the task that made it, newest first.

`advance_cases` lists what one turn can do.
-/

set_option autoImplicit false

namespace CaffeineHal.Program

universe u v w

/-- A job of a client, with its number in the client's list. -/
structure Task (ι Op : Type w) where
  client : ι
  number : Nat
  op : Op

/-- Where a client is: its current job with what is left of its program, and the results of the jobs
before it. -/
structure Client (S C R β : Type u) (Op : Type w) where
  current : Option (Op × Prog S C R β)
  results : List β

/-- The clients and what they share. -/
structure Shared (ι : Type w) (S C R β : Type u) (W : Type v) (Op : Type w) where
  clients : ι → Client S C R β Op
  record : S
  world : W
  trace : List (Task ι Op × Event S C R)

variable {ι Op : Type w} {S C R β : Type u} {W : Type v}

/-! ## Results -/

/-- The client is between two jobs, or in the middle of one. -/
def Client.Running (c : Client S C R β Op) : Prop :=
  ∀ op r, c.current ≠ some (op, .done r)

/-- The job number `k` has come to the result `v`, which the client may still have to store. -/
def Client.Settled (c : Client S C R β Op) (k : Nat) (v : β) : Prop :=
  c.results[k]? = some v ∨ k = c.results.length ∧ ∃ op, c.current = some (op, .done v)

namespace Client

variable {c c' : Client S C R β Op} {op : Op} {p : Prog S C R β} {k : Nat} {r v : β}

theorem running_of_none (h : c.current = none) : c.Running := by
  intro op r hdone
  rw [h] at hdone
  cases hdone

theorem running_of_some (h : c.current = some (op, p)) (hp : ∀ r, p ≠ .done r) : c.Running := by
  intro op r hdone
  rw [h] at hdone
  obtain ⟨-, hdone⟩ := Prod.mk.inj (Option.some.inj hdone)
  exact hp r hdone

theorem Running.settled_iff (h : c.Running) : c.Settled k v ↔ c.results[k]? = some v := by
  constructor
  · rintro (hstored | ⟨-, op, hdone⟩)
    · exact hstored
    · exact absurd hdone (h op v)
  · intro hstored
    exact .inl hstored

/-- A job that goes on settles nothing. -/
theorem Running.settled_congr (h : c.Running) (h' : c'.Running) (hresults : c'.results = c.results) :
    c'.Settled k v ↔ c.Settled k v := by
  rw [h.settled_iff, h'.settled_iff, hresults]

/-- The job that a client is in the middle of has no result. -/
theorem Running.not_settled (h : c.Running) : ¬ c.Settled c.results.length v := by
  rw [h.settled_iff, List.getElem?_eq_none (Nat.le_refl _)]
  exact nofun

theorem settled_of_done (h : c.current = some (op, .done r)) :
    c.Settled k v ↔ c.results[k]? = some v ∨ k = c.results.length ∧ v = r := by
  constructor
  · rintro (hstored | ⟨hk, op', hdone⟩)
    · exact .inl hstored
    · rw [h] at hdone
      obtain ⟨-, hdone⟩ := Prod.mk.inj (Option.some.inj hdone)
      injection hdone with hdone
      exact .inr ⟨hk, hdone.symm⟩
  · rintro (hstored | ⟨hk, rfl⟩)
    · exact .inl hstored
    · exact .inr ⟨hk, op, h⟩

/-- A result is settled before it is stored, so storing it settles nothing. -/
theorem settled_stored (h : c.current = some (op, .done r)) :
    (⟨none, c.results ++ [r]⟩ : Client S C R β Op).Settled k v ↔ c.Settled k v := by
  rw [(running_of_none rfl).settled_iff, settled_of_done h]
  -- The result goes to the end of the list: before it nothing changes, beyond it is nothing.
  rcases Nat.lt_trichotomy k c.results.length with hk | hk | hk
  · have hne : k ≠ c.results.length := by omega
    rw [List.getElem?_append_left hk]
    simp [hne]
  · subst hk
    simp [eq_comm]
  · have hne : k ≠ c.results.length := by omega
    have hlen : (c.results ++ [r]).length ≤ k := by
      rw [List.length_append]
      exact hk
    rw [List.getElem?_eq_none hlen, List.getElem?_eq_none (Nat.le_of_lt hk)]
    simp [hne]

end Client

namespace Shared

variable (st : Shared ι S C R β W Op)

/-- The result of a task. -/
def Settled (t : Task ι Op) (v : β) : Prop :=
  (st.clients t.client).Settled t.number v

/-- The task that the client `i` is at, if its job is `op`. -/
def task (i : ι) (op : Op) : Task ι Op where
  client := i
  number := (st.clients i).results.length
  op := op

/-- Every client has done all its jobs. -/
def Finished (jobs : ι → List Op) : Prop :=
  ∀ i, (st.clients i).current = none ∧ (st.clients i).results.length = (jobs i).length

end Shared

/-- No client has started. -/
def Shared.start (d : S) (x : W) : Shared ι S C R β W Op where
  clients := fun _ => ⟨none, []⟩
  record := d
  world := x
  trace := []

/-! ## Turns -/

section Turns

variable [DecidableEq ι] (env : Env S C R W) (prog : Op → Prog S C R β) (jobs : ι → List Op)

/-- The client `i` becomes `c`. -/
def Shared.setClient (st : Shared ι S C R β W Op) (i : ι) (c : Client S C R β Op) :
    Shared ι S C R β W Op :=
  { st with clients := Function.update st.clients i c }

/-- The state after a call of the client `i`, which goes on with `q`. -/
def Shared.called (st : Shared ι S C R β W Op) (i : ι) (op : Op) (q : Prog S C R β)
    (e : Event S C R) (d : S) (x : W) : Shared ι S C R β W Op where
  clients := Function.update st.clients i ⟨some (op, q), (st.clients i).results⟩
  record := d
  world := x
  trace := (st.task i op, e) :: st.trace

/-- A turn of the client `i`: it begins its next job, makes one step of the current one, or stores the
result. -/
def advance (i : ι) (st : Shared ι S C R β W Op) : Shared ι S C R β W Op :=
  let results := (st.clients i).results
  match (st.clients i).current with
  | none =>
      match (jobs i)[results.length]? with
      | none => st
      | some op => st.setClient i ⟨some (op, prog op), results⟩
  | some (_, .done r) => st.setClient i ⟨none, results ++ [r]⟩
  | some (op, p) =>
      -- Only what the step itself called is new in the trace.
      let out := step env (p, ⟨st.record, st.world, []⟩)
      { clients := Function.update st.clients i ⟨some (op, out.1), results⟩
        record := out.2.record
        world := out.2.world
        trace := out.2.log.map (fun e => (st.task i op, e)) ++ st.trace }

/-- A schedule of turns. -/
def play : List ι → Shared ι S C R β W Op → Shared ι S C R β W Op
  | [], st => st
  | i :: schedule, st => play schedule (advance env prog jobs i st)

variable {env prog jobs}

/-- What one turn keeps, every schedule keeps. -/
theorem play_invariant (inv : Shared ι S C R β W Op → Prop)
    (hstep : ∀ i st, inv st → inv (advance env prog jobs i st)) (schedule : List ι)
    {st : Shared ι S C R β W Op} (h : inv st) : inv (play env prog jobs schedule st) := by
  induction schedule generalizing st with
  | nil => exact h
  | cons i schedule ih => exact ih (hstep i st h)

/-- What a turn can do. -/
inductive Advance (env : Env S C R W) (prog : Op → Prog S C R β) (jobs : ι → List Op) (i : ι)
    (st : Shared ι S C R β W Op) : Shared ι S C R β W Op → Prop
  | rest (h : (st.clients i).current = none)
      (hjob : (jobs i)[(st.clients i).results.length]? = none) : Advance env prog jobs i st st
  | begin {op : Op} (h : (st.clients i).current = none)
      (hjob : (jobs i)[(st.clients i).results.length]? = some op) :
      Advance env prog jobs i st (st.setClient i ⟨some (op, prog op), (st.clients i).results⟩)
  | store {op : Op} {r : β} (h : (st.clients i).current = some (op, .done r)) :
      Advance env prog jobs i st (st.setClient i ⟨none, (st.clients i).results ++ [r]⟩)
  | read {op : Op} {k : S → Prog S C R β} (h : (st.clients i).current = some (op, .read k)) :
      Advance env prog jobs i st
        (st.setClient i ⟨some (op, k st.record), (st.clients i).results⟩)
  | write {op : Op} {f : S → S} {k : Prog S C R β}
      (h : (st.clients i).current = some (op, .write f k)) :
      Advance env prog jobs i st
        { st.setClient i ⟨some (op, k), (st.clients i).results⟩ with record := f st.record }
  | call {op : Op} {c : C} {k : R → Prog S C R β} {r : R} {d : S} {x : W}
      (h : (st.clients i).current = some (op, .call c k))
      (hanswer : env.answer c st.record st.world = (r, d, x)) :
      Advance env prog jobs i st (st.called i op (k r) ⟨c, st.record, r⟩ d x)

theorem advance_cases (env : Env S C R W) (prog : Op → Prog S C R β) (jobs : ι → List Op) (i : ι)
    (st : Shared ι S C R β W Op) :
    Advance env prog jobs i st (advance env prog jobs i st) := by
  unfold advance
  cases h : (st.clients i).current with
  | none =>
      cases hjob : (jobs i)[(st.clients i).results.length]? with
      | none =>
          simp only [hjob]
          exact .rest h hjob
      | some op =>
          simp only [hjob]
          exact .begin h hjob
  | some job =>
      obtain ⟨op, p⟩ := job
      cases p with
      | done r => exact .store h
      | read k => exact .read h
      | write f k => exact .write h
      | call c k => exact .call h rfl

end Turns

/-! ## What a program computes -/

/-- The value of a program with the record and the world after it, without the log. -/
def eval (env : Env S C R W) : Prog S C R β → S → W → β × S × W
  | .done a, d, x => (a, d, x)
  | .read k, d, x => eval env (k d) d x
  | .write f k, d, x => eval env k (f d) x
  | .call c k, d, x =>
      let out := env.answer c d x
      eval env (k out.1) out.2.1 out.2.2

/-- What a run computes does not depend on the log. -/
theorem run_eq_eval (env : Env S C R W) (p : Prog S C R β) (s : Conf S C R W) :
    ((run env p s).1, (run env p s).2.record, (run env p s).2.world) =
      eval env p s.record s.world := by
  induction p generalizing s with
  | done a => rfl
  | read k ih => exact ih s.record s
  | write f k ih => exact ih (s.written f)
  | call c k ih => exact ih (s.reply env c) (s.answered env c)

end CaffeineHal.Program
