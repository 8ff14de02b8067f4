import CaffeineHal.Program.Interference
import Mathlib.Algebra.BigOperators.Group.Finset.Basic
import Mathlib.Logic.Function.Basic

/-!
# Many records over one world

A family of records has a thread and a handler for each of them, and one world: what a call of one member is
answered may depend on everything that the others have called. A schedule interleaves their turns
(`Family.play`).

A run is all that its answers made of it. `Env.script` is the environment that gives the answers of a list, and
every turn in any environment is a turn under some script (`turn_script`). So a member cannot tell that it is
one of many: what it has done in any schedule is an interleaving of its own thread and handler under a script
(`Family.play_member`), and what holds of every interleaving of one member, whatever it is answered, holds of
every member of the family (`Family.play_forall`).
-/

set_option autoImplicit false

namespace CaffeineHal.Program

universe u v w

variable {S C R α β : Type u} {W : Type v}

/-! ## Scripts -/

/-- The environment that gives the answers of a list, one for each call. -/
def Env.script [Inhabited R] : C → S → List R → R × List R
  | _, _, [] => (default, [])
  | _, _, r :: rest => (r, rest)

section Script

variable [Inhabited R] (codes : C → S → W → R × W)

/-- One step under the script of its answers. -/
theorem step_script (p : Prog S C R α) (s : Conf S C R W) :
    ∃ answers : List R, ∀ rest : List R,
      step (.ofCodes Env.script) (p, s.inWorld (answers ++ rest)) =
        ((step (.ofCodes codes) (p, s)).1, (step (.ofCodes codes) (p, s)).2.inWorld rest) := by
  cases p with
  | done a => exact ⟨[], fun rest => rfl⟩
  | read k => exact ⟨[], fun rest => rfl⟩
  | write f k => exact ⟨[], fun rest => rfl⟩
  | call c k => exact ⟨[(codes c s.record s.world).1], fun rest => rfl⟩

/-- Every run is the run under the script of its answers. -/
theorem run_script (p : Prog S C R α) (s : Conf S C R W) :
    ∃ answers : List R, ∀ rest : List R,
      run (.ofCodes Env.script) p (s.inWorld (answers ++ rest)) =
        ((run (.ofCodes codes) p s).1, (run (.ofCodes codes) p s).2.inWorld rest) := by
  induction p generalizing s with
  | done a => exact ⟨[], fun rest => rfl⟩
  | read k ih => exact ih s.record s
  | write f k ih => exact ih (s.written f)
  | call c k ih =>
      -- The script begins with the answer to the call.
      obtain ⟨answers, hanswers⟩ := ih (s.reply (.ofCodes codes) c) (s.answered (.ofCodes codes) c)
      exact ⟨s.reply (.ofCodes codes) c :: answers, hanswers⟩

variable {Op : Type u} (handler : Op → Prog S C R α)

theorem turn_script (t : Option Op) (p : Prog S C R β) (s : Conf S C R W) :
    ∃ answers : List R, ∀ rest : List R,
      turn (.ofCodes Env.script) handler t (p, s.inWorld (answers ++ rest)) =
        ((turn (.ofCodes codes) handler t (p, s)).1,
          (turn (.ofCodes codes) handler t (p, s)).2.inWorld rest) := by
  cases t with
  | none => exact step_script codes p s
  | some op =>
      obtain ⟨answers, hanswers⟩ := run_script codes (handler op) s
      refine ⟨answers, fun rest => ?_⟩
      show (p, (run (.ofCodes Env.script) (handler op) _).2) = _
      rw [hanswers rest]
      rfl

end Script

/-! ## Families -/

/-- The threads of the members with their records and logs, and the world. -/
structure Family (ι : Type w) (S C R β : Type u) (W : Type v) where
  threads : ι → Prog S C R β
  records : ι → S
  logs : ι → List (Event S C R)
  world : W

variable {ι : Type w} {Op : ι → Type u}

namespace Family

/-- The state of one member. -/
def conf (s : Family ι S C R β W) (i : ι) : Conf S C R W where
  record := s.records i
  world := s.world
  log := s.logs i

variable [DecidableEq ι]

/-- The family after a turn of the member `i`. -/
def put (s : Family ι S C R β W) (i : ι) (out : Prog S C R β × Conf S C R W) : Family ι S C R β W where
  threads := Function.update s.threads i out.1
  records := Function.update s.records i out.2.record
  logs := Function.update s.logs i out.2.log
  world := out.2.world

variable (codes : ι → C → S → W → R × W) (handler : (i : ι) → Op i → Prog S C R α)

/-- A turn of one member: a step of its thread, or an operation of its handler. -/
def turn (t : (i : ι) × Option (Op i)) (s : Family ι S C R β W) : Family ι S C R β W :=
  s.put t.1 (Program.turn (.ofCodes (codes t.1)) (handler t.1) t.2 (s.threads t.1, s.conf t.1))

/-- A schedule of turns. -/
def play : List ((i : ι) × Option (Op i)) → Family ι S C R β W → Family ι S C R β W
  | [], s => s
  | t :: schedule, s => play schedule (s.turn codes handler t)

variable {codes handler}

theorem play_invariant (inv : Family ι S C R β W → Prop)
    (hturn : ∀ t s, inv s → inv (s.turn codes handler t)) (schedule : List ((i : ι) × Option (Op i)))
    {s : Family ι S C R β W} (h : inv s) : inv (play codes handler schedule s) := by
  induction schedule generalizing s with
  | nil => exact h
  | cons t schedule ih => exact ih (hturn t s h)

/-! ## Members -/

theorem put_self (s : Family ι S C R β W) (i : ι) (out : Prog S C R β × Conf S C R W) {W' : Type*}
    (x : W') : ((s.put i out).threads i, ((s.put i out).conf i).inWorld x) = (out.1, out.2.inWorld x) := by
  simp only [put, conf, Conf.inWorld, Function.update_self]

theorem put_of_ne (s : Family ι S C R β W) {i j : ι} (h : j ≠ i) (out : Prog S C R β × Conf S C R W)
    {W' : Type*} (x : W') :
    ((s.put i out).threads j, ((s.put i out).conf j).inWorld x) =
      (s.threads j, (s.conf j).inWorld x) := by
  simp only [put, conf, Conf.inWorld, Function.update_of_ne h]

variable (codes handler) in
/-- A member cannot tell that it is one of many: what it has done in a schedule, it does alone under a
script. -/
theorem play_member [Inhabited R] (schedule : List ((i : ι) × Option (Op i)))
    (s : Family ι S C R β W) (i : ι) :
    ∃ (turns : List (Option (Op i))) (answers : List R), ∀ rest : List R,
      interleave (.ofCodes Env.script) (handler i) turns
          (s.threads i, (s.conf i).inWorld (answers ++ rest)) =
        ((play codes handler schedule s).threads i,
          ((play codes handler schedule s).conf i).inWorld rest) := by
  induction schedule generalizing s with
  | nil => exact ⟨[], [], fun rest => rfl⟩
  | cons t schedule ih =>
      obtain ⟨j, t⟩ := t
      obtain ⟨turns, answers, hplay⟩ := ih (s.turn codes handler ⟨j, t⟩)
      by_cases hj : i = j
      · -- Its own turn comes first, with the answers of that turn.
        subst hj
        obtain ⟨first, hturn⟩ := turn_script (codes i) (handler i) t (s.threads i) (s.conf i)
        refine ⟨t :: turns, first ++ answers, fun rest => ?_⟩
        rw [List.append_assoc, interleave, hturn (answers ++ rest), ← put_self s i]
        exact hplay rest
      · refine ⟨turns, answers, fun rest => ?_⟩
        rw [← put_of_ne s hj]
        exact hplay rest

/-- What holds of every interleaving of one member, whatever it is answered, holds of every member. -/
theorem play_forall [Inhabited R] {Q : (i : ι) → Prog S C R β → Conf S C R (List R) → Prop}
    {s : Family ι S C R β W}
    (h : ∀ i turns answers,
      let out := interleave (.ofCodes Env.script) (handler i) turns
        (s.threads i, (s.conf i).inWorld answers)
      Q i out.1 out.2)
    (schedule : List ((i : ι) × Option (Op i))) (i : ι) :
    Q i ((play codes handler schedule s).threads i)
      (((play codes handler schedule s).conf i).inWorld []) := by
  obtain ⟨turns, answers, hplay⟩ := play_member codes handler schedule s i
  have hend := h i turns (answers ++ [])
  rw [hplay []] at hend
  exact hend

end Family

/-! ## A world that counts -/

/-- What the calls of a log come to. -/
def tallied (weight : Event S C R → Int) : List (Event S C R) → Int
  | [] => 0
  | e :: log => weight e + tallied weight log

/-- Every call changes the count of the world by its weight. -/
def Tallies (weight : Event S C R → Int) (count : W → Int) (codes : C → S → W → R × W) : Prop :=
  ∀ c d x, count (codes c d x).2 = count x + weight ⟨c, d, (codes c d x).1⟩

section Tally

variable {weight : Event S C R → Int} {count : W → Int} {codes : C → S → W → R × W}

/-- A call changes the count and the log alike. -/
theorem Tallies.called (h : Tallies weight count codes) (c : C) (s : Conf S C R W) :
    count (s.answered (.ofCodes codes) c).world - tallied weight (s.answered (.ofCodes codes) c).log =
      count s.world - tallied weight s.log := by
  have hcount : count (s.answered (.ofCodes codes) c).world = _ := h c s.record s.world
  rw [Conf.answered_log, tallied, hcount, Conf.reply_ofCodes]
  omega

theorem Tallies.run (h : Tallies weight count codes) (p : Prog S C R α) (s : Conf S C R W) :
    count (run (.ofCodes codes) p s).2.world - tallied weight (run (.ofCodes codes) p s).2.log =
      count s.world - tallied weight s.log := by
  induction p generalizing s with
  | done a => rfl
  | read k ih => exact ih s.record s
  | write f k ih => exact ih (s.written f)
  | call c k ih => exact (ih _ (s.answered (.ofCodes codes) c)).trans (h.called c s)

theorem Tallies.turn (h : Tallies weight count codes) {Op : Type u} (handler : Op → Prog S C R α)
    (t : Option Op) (p : Prog S C R β) (s : Conf S C R W) :
    let out := turn (.ofCodes codes) handler t (p, s)
    count out.2.world - tallied weight out.2.log = count s.world - tallied weight s.log := by
  cases t with
  | some op => exact h.run (handler op) s
  | none =>
      cases p with
      | done a => rfl
      | read k => rfl
      | write f k => rfl
      | call c k => exact h.called c s

end Tally

namespace Family

variable [DecidableEq ι] [Fintype ι] {weight : Event S C R → Int} {count : W → Int}
  {codes : ι → C → S → W → R × W} {handler : (i : ι) → Op i → Prog S C R α}

/-- What the calls of all members come to. -/
def total (weight : Event S C R → Int) (s : Family ι S C R β W) : Int :=
  ∑ i, tallied weight (s.logs i)

theorem total_put (s : Family ι S C R β W) (i : ι) (out : Prog S C R β × Conf S C R W) :
    (s.put i out).total weight =
      s.total weight + (tallied weight out.2.log - tallied weight (s.logs i)) := by
  -- Only the summand of the member changes.
  have hother : ∑ j ∈ Finset.univ.erase i, tallied weight ((s.put i out).logs j) =
      ∑ j ∈ Finset.univ.erase i, tallied weight (s.logs j) := by
    refine Finset.sum_congr rfl fun j hj => ?_
    simp only [put, Function.update_of_ne (Finset.ne_of_mem_erase hj)]
  have hself : tallied weight ((s.put i out).logs i) = tallied weight out.2.log := by
    simp only [put, Function.update_self]
  rw [total, total, ← Finset.add_sum_erase _ _ (Finset.mem_univ i), hother, hself,
    ← Finset.add_sum_erase _ _ (Finset.mem_univ i)]
  omega

/-- The world of a family counts the calls of all its members. -/
theorem play_total (h : ∀ i, Tallies weight count (codes i))
    (schedule : List ((i : ι) × Option (Op i))) (s : Family ι S C R β W) :
    let t := play codes handler schedule s
    count t.world - t.total weight = count s.world - s.total weight := by
  intro t
  refine play_invariant (fun t => count t.world - t.total weight = count s.world - s.total weight) ?_
    schedule rfl
  rintro ⟨i, op⟩ t ht
  have hturn := (h i).turn (handler i) op (t.threads i) (t.conf i)
  rw [← ht, turn, total_put]
  simp only [put, conf] at hturn ⊢
  omega

end Family

end CaffeineHal.Program
