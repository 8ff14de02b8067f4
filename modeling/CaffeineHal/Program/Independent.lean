import CaffeineHal.Program.Frame
import CaffeineHal.Program.History

/-!
# Operations of independent kinds

Operations of a record come in kinds, each with a part of the state that is its own (`view k`). They are
independent when an operation sees and writes no part but its own (`Independent`), in the states of an
invariant. Then one kind cannot tell whether the others ran: its part and its values in a run are those of the
run of its own operations alone (`Independent.ofKind_run`), and the order between kinds does not matter
(`Independent.reorder`).

`run_same` says that the log of a run is not seen by a program.
-/

set_option autoImplicit false

namespace CaffeineHal.Program

universe u v w

section Answers

variable {S C R β : Type u} {W : Type v} {Op : Type w} (env : Env S C R W) (prog : Op → Prog S C R β)

/-- The operations of a run with their values, oldest first. -/
def answers : List Op → Conf S C R W → List (Op × β)
  | [], _ => []
  | op :: ops, s => (op, (run env (prog op) s).1) :: answers ops (run env (prog op) s).2

@[simp] theorem answers_cons (op : Op) (ops : List Op) (s : Conf S C R W) :
    answers env prog (op :: ops) s =
      (op, (run env (prog op) s).1) :: answers env prog ops (run env (prog op) s).2 := rfl

/-- The operations and values of a run are those of its history. -/
theorem answers_eq_history (ops : List Op) (s : Conf S C R W) :
    answers env prog ops s = ((history env prog ops s).map fun c => (c.op, c.value)).reverse := by
  induction ops generalizing s with
  | nil => rfl
  | cons op ops ih =>
      rw [answers_cons, history, List.map_append, List.reverse_append, ih]
      rfl

theorem answers_map_fst (ops : List Op) (s : Conf S C R W) :
    (answers env prog ops s).map Prod.fst = ops := by
  induction ops generalizing s with
  | nil => rfl
  | cons op ops ih => rw [answers_cons, List.map_cons, ih]

variable {env prog} in
/-- What every operation's value satisfies in the states of an invariant. -/
theorem answers_forall {inv : Conf S C R W → Prop} {Q : Op → β → Prop}
    (hkeep : ∀ op s, inv s → inv (run env (prog op) s).2)
    (hvalue : ∀ op s, inv s → Q op (run env (prog op) s).1) (ops : List Op) {s : Conf S C R W}
    (hs : inv s) : ∀ a ∈ answers env prog ops s, Q a.1 a.2 := by
  induction ops generalizing s with
  | nil => exact List.forall_mem_nil _
  | cons op ops ih =>
      intro a ha
      rcases List.mem_cons.1 ha with rfl | ha
      · exact hvalue op s hs
      · exact ih (hkeep op s hs) a ha

end Answers

section Independent

variable {S C R β : Type u} {W : Type v} {Op : Type w} {K : Type*} [DecidableEq K] {V : K → Type*}
  {env : Env S C R W} {prog : Op → Prog S C R β} {kind : Op → K}
  {view : (k : K) → Conf S C R W → V k} {inv : Conf S C R W → Prop}

/-- The operations of one kind. -/
def ofKind (kind : Op → K) (k : K) (ops : List Op) : List Op :=
  ops.filter fun op => kind op = k

/-- The values that the operations of one kind had. -/
def answersOf (env : Env S C R W) (prog : Op → Prog S C R β) (kind : Op → K) (k : K) (ops : List Op)
    (s : Conf S C R W) : List (Op × β) :=
  (answers env prog ops s).filter fun a => kind a.1 = k

/-- In the states of `inv`, an operation sees and writes the part of its own kind only. -/
structure Independent (env : Env S C R W) (prog : Op → Prog S C R β) (kind : Op → K)
    (view : (k : K) → Conf S C R W → V k) (inv : Conf S C R W → Prop) : Prop where
  keeps : ∀ op s, inv s → inv (run env (prog op) s).2
  value : ∀ op s s', inv s → inv s' → view (kind op) s = view (kind op) s' →
    (run env (prog op) s).1 = (run env (prog op) s').1
  own : ∀ op s s', inv s → inv s' → view (kind op) s = view (kind op) s' →
    view (kind op) (run env (prog op) s).2 = view (kind op) (run env (prog op) s').2
  other : ∀ op s k, inv s → kind op ≠ k → view k (run env (prog op) s).2 = view k s

/-- A kind cannot tell whether the others ran. -/
theorem Independent.ofKind_run (h : Independent env prog kind view inv) (k : K) (ops : List Op)
    {s s' : Conf S C R W} (hs : inv s) (hs' : inv s') (hview : view k s = view k s') :
    view k (runOps env prog ops s) = view k (runOps env prog (ofKind kind k ops) s') ∧
      answersOf env prog kind k ops s = answers env prog (ofKind kind k ops) s' := by
  -- The second run makes a step when the first one makes a step of the kind.
  induction ops generalizing s s' with
  | nil => exact ⟨hview, rfl⟩
  | cons op ops ih =>
      by_cases hk : kind op = k
      · subst hk
        have hvalue := h.value op s s' hs hs' hview
        obtain ⟨hend, hanswers⟩ :=
          ih (h.keeps op s hs) (h.keeps op s' hs') (h.own op s s' hs hs' hview)
        rw [answersOf] at hanswers
        simp only [ofKind, answersOf, List.filter_cons, decide_true, if_true, runOps_cons,
          answers_cons] at hend hanswers ⊢
        rw [hvalue, hanswers]
        exact ⟨hend, rfl⟩
      · obtain ⟨hend, hanswers⟩ := ih (h.keeps op s hs) hs' ((h.other op s k hs hk).trans hview)
        simp only [ofKind, answersOf, List.filter_cons, hk, decide_false, Bool.false_eq_true,
          if_false, runOps_cons, answers_cons] at hend hanswers ⊢
        exact ⟨hend, hanswers⟩

/-- The order between kinds does not matter: two runs of the same operations, in the same order within
each kind, end with the same parts and had the same values. -/
theorem Independent.reorder (h : Independent env prog kind view inv) {xs ys : List Op}
    (hsame : ∀ k, ofKind kind k xs = ofKind kind k ys) {s : Conf S C R W} (hs : inv s) (k : K) :
    view k (runOps env prog xs s) = view k (runOps env prog ys s) ∧
      answersOf env prog kind k xs s = answersOf env prog kind k ys s := by
  obtain ⟨hxs, hansxs⟩ := h.ofKind_run k xs hs hs rfl
  obtain ⟨hys, hansys⟩ := h.ofKind_run k ys hs hs rfl
  rw [hxs, hansxs, hys, hansys, hsame k]
  exact ⟨rfl, rfl⟩

end Independent

section Log

variable {S C R α : Type u} {W : Type v}

/-- A program does not see the log: from the same record and world it has the same value, leaves the same
record and world, and makes the same calls. -/
theorem run_same (env : Env S C R W) (p : Prog S C R α) {s s' : Conf S C R W}
    (hrec : s.record = s'.record) (hworld : s.world = s'.world) :
    (run env p s).1 = (run env p s').1 ∧ (run env p s).2.record = (run env p s').2.record ∧
      (run env p s).2.world = (run env p s').2.world ∧
      ∃ evs : List (Event S C R),
        (run env p s).2.log = evs ++ s.log ∧ (run env p s').2.log = evs ++ s'.log := by
  induction p generalizing s s' with
  | done a => exact ⟨rfl, hrec, hworld, [], rfl, rfl⟩
  | read k ih =>
      rw [run, run, ← hrec]
      exact ih s.record hrec hworld
  | write f k ih =>
      have hwritten : (s.written f).record = (s'.written f).record := by
        rw [Conf.written_record, Conf.written_record, hrec]
      rw [run, run]
      exact ih hwritten hworld
  | call c k ih =>
      -- Both are answered alike, and log the same call.
      have hreply : s.reply env c = s'.reply env c := by
        rw [Conf.reply, Conf.reply, hrec, hworld]
      have hrecord : (s.answered env c).record = (s'.answered env c).record := by
        simp only [Conf.answered, hrec, hworld]
      have hanswered : (s.answered env c).world = (s'.answered env c).world := by
        simp only [Conf.answered, hrec, hworld]
      rw [run, run, ← hreply]
      obtain ⟨hval, hr, hw, evs, hlog, hlog'⟩ := ih (s.reply env c) hrecord hanswered
      refine ⟨hval, hr, hw, evs ++ [⟨c, s.record, s.reply env c⟩], ?_, ?_⟩
      · rw [hlog, Conf.answered_log, List.append_assoc]
        rfl
      · rw [hlog', Conf.answered_log, ← hreply, ← hrec, List.append_assoc]
        rfl

end Log

end CaffeineHal.Program
