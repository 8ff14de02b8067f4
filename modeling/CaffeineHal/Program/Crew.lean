import CaffeineHal.Program.Clients
import CaffeineHal.Program.Interference

/-!
# Clients that a handler interrupts

The clients of `Shared`, with jobs that they do an atomic step at a time, and a handler that may run any of its
operations to completion between two of these steps. The state that they share has every call so far, whoever
made it. A schedule says whose turn it is (`Crew.play`), and `Crew.advance_cases` lists what a turn of a client
can do. Where the handler stays out, the clients do what they do in `play` (`Crew.play_clients`).
-/

set_option autoImplicit false

namespace CaffeineHal.Program

universe u v w w'

/-- The clients, and the state that they share with the handler. -/
structure Crew (ι : Type w) (S C R β : Type u) (W : Type v) (Op : Type w) where
  clients : ι → Client S C R β Op
  conf : Conf S C R W

variable {ι Op : Type w} {H : Type w'} {S C R α β : Type u} {W : Type v}

namespace Crew

/-- No client has started. -/
def start (s : Conf S C R W) : Crew ι S C R β W Op where
  clients := fun _ => ⟨none, []⟩
  conf := s

variable [DecidableEq ι] (env : Env S C R W) (prog : Op → Prog S C R β)
  (handler : H → Prog S C R α) (jobs : ι → List Op)

/-- The client `i` becomes `c`, and the state `s`. -/
def put (st : Crew ι S C R β W Op) (i : ι) (c : Client S C R β Op) (s : Conf S C R W) :
    Crew ι S C R β W Op where
  clients := Function.update st.clients i c
  conf := s

/-- A step of the client `i`: it begins its next job, makes one step of the current one, or stores the
result. -/
def advance (i : ι) (st : Crew ι S C R β W Op) : Crew ι S C R β W Op :=
  let results := (st.clients i).results
  match (st.clients i).current with
  | none =>
      match (jobs i)[results.length]? with
      | none => st
      | some op => st.put i ⟨some (op, prog op), results⟩ st.conf
  | some (_, .done r) => st.put i ⟨none, results ++ [r]⟩ st.conf
  | some (op, p) =>
      let out := step env (p, st.conf)
      st.put i ⟨some (op, out.1), results⟩ out.2

/-- A turn: a step of a client, or an operation of the handler. -/
def turn : ι ⊕ H → Crew ι S C R β W Op → Crew ι S C R β W Op
  | .inl i, st => st.advance env prog jobs i
  | .inr h, st => { st with conf := (run env (handler h) st.conf).2 }

/-- A schedule of turns. -/
def play : List (ι ⊕ H) → Crew ι S C R β W Op → Crew ι S C R β W Op
  | [], st => st
  | t :: schedule, st => play schedule (turn env prog handler jobs t st)

variable {env prog handler jobs}

/-- What one turn keeps, every schedule keeps. -/
theorem play_keeps (inv : Crew ι S C R β W Op → Prop)
    (hclient : ∀ i st, inv st → inv (advance env prog jobs i st))
    (hhandler : ∀ h st, inv st → inv (turn env prog handler jobs (.inr h) st))
    (schedule : List (ι ⊕ H)) {st : Crew ι S C R β W Op} (hst : inv st) :
    inv (play env prog handler jobs schedule st) := by
  induction schedule generalizing st with
  | nil => exact hst
  | cons t schedule ih =>
      cases t with
      | inl i => exact ih (hclient i st hst)
      | inr h => exact ih (hhandler h st hst)

/-- What a step of a client can do. -/
inductive Advance (env : Env S C R W) (prog : Op → Prog S C R β) (i : ι) (st : Crew ι S C R β W Op) :
    Crew ι S C R β W Op → Prop
  | rest : Advance env prog i st st
  | begin (op : Op) (h : (st.clients i).current = none) :
      Advance env prog i st (st.put i ⟨some (op, prog op), (st.clients i).results⟩ st.conf)
  | store {op : Op} {r : β} (h : (st.clients i).current = some (op, .done r)) :
      Advance env prog i st (st.put i ⟨none, (st.clients i).results ++ [r]⟩ st.conf)
  | go {op : Op} {p : Prog S C R β} (h : (st.clients i).current = some (op, p))
      (hp : ∀ r, p ≠ .done r) :
      Advance env prog i st (st.put i ⟨some (op, (step env (p, st.conf)).1), (st.clients i).results⟩
        (step env (p, st.conf)).2)

theorem advance_cases (i : ι) (st : Crew ι S C R β W Op) :
    Advance env prog i st (st.advance env prog jobs i) := by
  unfold advance
  cases h : (st.clients i).current with
  | none =>
      cases hjob : (jobs i)[(st.clients i).results.length]? with
      | none =>
          simp only [hjob]
          exact .rest
      | some op =>
          simp only [hjob]
          exact .begin op h
  | some job =>
      obtain ⟨op, p⟩ := job
      cases p with
      | done r => exact .store h
      | read k => exact .go h (Prog.read_ne_done _)
      | write f k => exact .go h fun r heq => by cases heq
      | call c k => exact .go h (Prog.call_ne_done _ _)

end Crew

/-! ## Without the handler -/

/-- The clients of `Shared`, without the tasks that the calls were made for. -/
def Shared.crew (st : Shared ι S C R β W Op) : Crew ι S C R β W Op where
  clients := st.clients
  conf := ⟨st.record, st.world, st.trace.map Prod.snd⟩

namespace Crew

variable [DecidableEq ι] {env : Env S C R W} {prog : Op → Prog S C R β} {handler : H → Prog S C R α}
  {jobs : ι → List Op}

theorem advance_crew (i : ι) (st : Shared ι S C R β W Op) :
    (Program.advance env prog jobs i st).crew = st.crew.advance env prog jobs i := by
  have hcurrent : st.crew.clients i = st.clients i := rfl
  unfold Program.advance advance
  rw [hcurrent]
  cases h : (st.clients i).current with
  | none =>
      cases hjob : (jobs i)[(st.clients i).results.length]? with
      | none => simp only [hjob]
      | some op =>
          simp only [hjob]
          rfl
  | some job =>
      obtain ⟨op, p⟩ := job
      cases p <;> rfl

/-- Where the handler stays out, the clients are those of `play`. -/
theorem play_clients (schedule : List ι) (st : Shared ι S C R β W Op) :
    (Program.play env prog jobs schedule st).crew =
      play env prog handler jobs (schedule.map .inl) st.crew := by
  induction schedule generalizing st with
  | nil => rfl
  | cons i schedule ih =>
      rw [List.map_cons]
      show (Program.play env prog jobs schedule (Program.advance env prog jobs i st)).crew = _
      rw [ih, advance_crew]
      rfl

end Crew

end CaffeineHal.Program
