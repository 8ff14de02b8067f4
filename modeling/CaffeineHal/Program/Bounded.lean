import CaffeineHal.Program.Crew
import CaffeineHal.Program.Frame

/-!
# Programs with a bound

`Prog.Within p n m` says that `p` is finished after at most `n` steps, at most `m` of them calls, whatever it
reads and is answered. The bounds add along a composition, so that of a program is read off its parts.

A bound on every job is a bound on a client: it needs no more turns than its jobs have steps, whatever the other
clients and the handler do in between (`Crew.play_finishes`).
-/

set_option autoImplicit false

namespace CaffeineHal.Program

universe u v w w'

variable {S C R α β : Type u} {W : Type v}

/-- The program is finished after at most `n` steps, at most `m` of them calls. -/
inductive Prog.Within : Prog S C R α → Nat → Nat → Prop
  | done (a : α) (n m : Nat) : Within (.done a) n m
  | read {k : S → Prog S C R α} {n m : Nat} (h : ∀ s, Within (k s) n m) : Within (.read k) (n + 1) m
  | write {f : S → S} {k : Prog S C R α} {n m : Nat} (h : Within k n m) :
      Within (.write f k) (n + 1) m
  | call {c : C} {k : R → Prog S C R α} {n m : Nat} (h : ∀ r, Within (k r) n m) :
      Within (.call c k) (n + 1) (m + 1)

namespace Prog.Within

variable {p : Prog S C R α} {n n' m m' : Nat}

/-! ## Rules -/

theorem mono (h : p.Within n m) (hn : n ≤ n') (hm : m ≤ m') : p.Within n' m' := by
  induction h generalizing n' m' with
  | done a n m => exact .done a n' m'
  | read _ ih =>
      obtain ⟨k, rfl⟩ := Nat.exists_eq_add_of_le' (Nat.le_trans (Nat.le_add_left 1 _) hn)
      exact .read fun s => ih s (Nat.le_of_add_le_add_right hn) hm
  | write _ ih =>
      obtain ⟨k, rfl⟩ := Nat.exists_eq_add_of_le' (Nat.le_trans (Nat.le_add_left 1 _) hn)
      exact .write (ih (Nat.le_of_add_le_add_right hn) hm)
  | call _ ih =>
      obtain ⟨k, rfl⟩ := Nat.exists_eq_add_of_le' (Nat.le_trans (Nat.le_add_left 1 _) hn)
      obtain ⟨l, rfl⟩ := Nat.exists_eq_add_of_le' (Nat.le_trans (Nat.le_add_left 1 _) hm)
      exact .call fun r => ih r (Nat.le_of_add_le_add_right hn) (Nat.le_of_add_le_add_right hm)

theorem get : (Prog.get : Prog S C R S).Within 1 0 :=
  .read fun s => .done s 0 0

theorem modify (f : S → S) : (Prog.modify f : Prog S C R PUnit).Within 1 0 :=
  .write (.done _ 0 0)

theorem request (c : C) : (Prog.request c : Prog S C R R).Within 1 1 :=
  .call fun r => .done r 0 0

theorem ite {b : Prop} [Decidable b] {q : Prog S C R α} (hp : p.Within n m) (hq : q.Within n m) :
    (if b then p else q).Within n m := by
  split
  · exact hp
  · exact hq

/-- Bounds add along a composition. -/
theorem bind {f : α → Prog S C R β} (hp : p.Within n m) (hf : ∀ a, (f a).Within n' m') :
    (p >>= f).Within (n' + n) (m' + m) := by
  induction hp with
  | done a n m => exact (hf a).mono (Nat.le_add_right n' n) (Nat.le_add_right m' m)
  | read _ ih => exact .read ih
  | write _ ih => exact .write ih
  | call _ ih => exact .call ih

/-! ## Steps and runs -/

variable {env : Env S C R W}

/-- A step uses up one of the steps. -/
theorem step (h : p.Within n m) (s : Conf S C R W) : (step env (p, s)).1.Within (n - 1) m := by
  cases h with
  | done a n m => exact .done a _ m
  | read h => exact h s.record
  | write h => exact h
  | call h => exact (h _).mono (Nat.le_refl _) (Nat.le_succ _)

/-- Without steps a program is finished. -/
theorem finished (h : p.Within 0 m) : ∃ a, p = .done a := by
  cases h with
  | done a n m => exact ⟨a, rfl⟩

/-- A program that is not finished has a step. -/
theorem pos (h : p.Within n m) (hp : ∀ a, p ≠ .done a) : 0 < n := by
  cases h with
  | done a n m => exact absurd rfl (hp a)
  | read _ => exact Nat.succ_pos _
  | write _ => exact Nat.succ_pos _
  | call _ => exact Nat.succ_pos _

/-- A run makes no more calls than the bound. -/
theorem run_calls (h : p.Within n m) (env : Env S C R W) (s : Conf S C R W) :
    ∃ evs : List (Event S C R), (run env p s).2.log = evs ++ s.log ∧ evs.length ≤ m := by
  induction h generalizing s with
  | done a n m => exact ⟨[], rfl, Nat.zero_le m⟩
  | read _ ih => exact ih s.record s
  | write _ ih => exact ih (s.written _)
  | @call c k n m _ ih =>
      obtain ⟨evs, hlog, hlen⟩ := ih (s.reply env c) (s.answered env c)
      refine ⟨evs ++ [⟨c, s.record, s.reply env c⟩], ?_, ?_⟩
      · show (run env (k (s.reply env c)) (s.answered env c)).2.log = _
        rw [hlog, Conf.answered_log, List.append_assoc, List.singleton_append]
      · rw [List.length_append, List.length_singleton]
        exact Nat.succ_le_succ hlen

end Prog.Within

/-! ## Clients -/

namespace Crew

variable {ι Op : Type w} {H : Type w'} {env : Env S C R W} {prog : Op → Prog S C R β}
  {handler : H → Prog S C R α} {jobs : ι → List Op} {b : Nat}

/-- Every client has done all its jobs. -/
def Finished (jobs : ι → List Op) (st : Crew ι S C R β W Op) : Prop :=
  ∀ i, (st.clients i).current = none ∧ (st.clients i).results.length = (jobs i).length

variable (b) in
/-- A client with `count` jobs of at most `b` steps each is done with them after `n` of its turns. -/
inductive Near (count : Nat) : Client S C R β Op → Nat → Prop
  | idle {results : List β} {left n : Nat} (hcount : results.length + left = count)
      (hn : left * (b + 2) ≤ n) : Near count ⟨none, results⟩ n
  | busy {op : Op} {p : Prog S C R β} {results : List β} {left n k m : Nat} (hp : p.Within k m)
      (hcount : results.length + 1 + left = count) (hn : k + 1 + left * (b + 2) ≤ n) :
      Near count ⟨some (op, p), results⟩ n

theorem Near.mono {count : Nat} {c : Client S C R β Op} {n n' : Nat} (h : Near b count c n)
    (hn : n ≤ n') : Near b count c n' := by
  cases h with
  | idle hcount h => exact .idle hcount (Nat.le_trans h hn)
  | busy hp hcount h => exact .busy hp hcount (Nat.le_trans h hn)

/-- Without turns a client is done. -/
theorem Near.finished {count : Nat} {c : Client S C R β Op} (h : Near b count c 0) :
    c.current = none ∧ c.results.length = count := by
  cases h with
  | @idle _ left _ hcount hn =>
      have hleft : left = 0 := by
        rcases Nat.mul_eq_zero.1 (Nat.le_zero.1 hn) with h | h
        · exact h
        · cases h
      subst hleft
      exact ⟨rfl, hcount⟩
  | busy _ _ hn => omega

variable [DecidableEq ι] {i : ι} {st : Crew ι S C R β W Op}

/-- A turn brings its client nearer. -/
theorem near_advance (hbound : ∀ op, ∃ m, (prog op).Within b m) {n : Nat}
    (h : Near b (jobs i).length (st.clients i) n) :
    Near b (jobs i).length ((st.advance env prog jobs i).clients i) (n - 1) := by
  have hput (c : Client S C R β Op) (s : Conf S C R W) : (st.put i c s).clients i = c :=
    Function.update_self ..
  generalize hc : st.clients i = c at h
  cases h with
  | @idle results left _ hcount hn =>
      cases left with
      | zero =>
          have hjob : (jobs i)[results.length]? = none := List.getElem?_eq_none (by omega)
          have hsame : st.advance env prog jobs i = st := by
            unfold advance
            simp only [hc, hjob]
          rw [hsame, hc]
          refine .idle hcount ?_
          rw [Nat.zero_mul]
          exact Nat.zero_le _
      | succ left =>
          -- One turn begins the job, one stores its result, and `b` make its steps.
          obtain ⟨op, hjob⟩ : ∃ op, (jobs i)[results.length]? = some op :=
            ⟨_, List.getElem?_eq_getElem (by omega)⟩
          have hnext : st.advance env prog jobs i = st.put i ⟨some (op, prog op), results⟩ st.conf := by
            unfold advance
            simp only [hc, hjob]
          obtain ⟨m, hop⟩ := hbound op
          have hcount' : results.length + 1 + left = (jobs i).length := by omega
          rw [Nat.succ_mul] at hn
          rw [hnext, hput]
          exact .busy hop hcount' (by omega)
  | @busy op p results left _ k m hp hcount hn =>
      by_cases hdone : ∃ r, p = .done r
      · obtain ⟨r, rfl⟩ := hdone
        have hnext : st.advance env prog jobs i = st.put i ⟨none, results ++ [r]⟩ st.conf := by
          unfold advance
          simp only [hc]
        have hcount' : (results ++ [r]).length + left = (jobs i).length := by
          rw [List.length_append, List.length_singleton]
          exact hcount
        rw [hnext, hput]
        exact .idle hcount' (by omega)
      · have hpos := hp.pos fun a ha => hdone ⟨a, ha⟩
        have hnext : st.advance env prog jobs i =
            st.put i ⟨some (op, (step env (p, st.conf)).1), results⟩ (step env (p, st.conf)).2 := by
          unfold advance
          simp only [hc]
          cases p with
          | done r => exact absurd ⟨r, rfl⟩ hdone
          | _ => rfl
        rw [hnext, hput]
        exact .busy (hp.step st.conf) hcount (by omega)

/-- A turn leaves the other clients where they are. -/
theorem Advance.other {st' : Crew ι S C R β W Op} {j : ι} (h : Advance env prog j st st')
    (hi : i ≠ j) : st'.clients i = st.clients i := by
  cases h with
  | rest => rfl
  | begin op h => exact Function.update_of_ne hi ..
  | store h => exact Function.update_of_ne hi ..
  | go h hp => exact Function.update_of_ne hi ..

/-- The turns of a client in a schedule. -/
def turnsOf (i : ι) (schedule : List (ι ⊕ H)) : Nat :=
  (schedule.filterMap Sum.getLeft?).count i

/-- A client is done with its jobs after as many turns as they need, whatever comes in between. -/
theorem near_play (hbound : ∀ op, ∃ m, (prog op).Within b m) (schedule : List (ι ⊕ H)) {n : Nat}
    (h : Near b (jobs i).length (st.clients i) n) :
    Near b (jobs i).length ((play env prog handler jobs schedule st).clients i)
      (n - turnsOf i schedule) := by
  induction schedule generalizing st n with
  | nil => exact h
  | cons t schedule ih =>
      cases t with
      | inr o => exact ih h
      | inl j =>
          by_cases hj : j = i
          · subst hj
            have hturns : turnsOf j (.inl j :: schedule) = turnsOf j schedule + 1 :=
              List.count_cons_self
            rw [hturns, Nat.add_comm, Nat.sub_add_eq]
            exact ih (near_advance hbound h)
          · have hturns : turnsOf i (.inl j :: schedule) = turnsOf i schedule :=
              List.count_cons_of_ne hj
            have hother : (st.advance env prog jobs j).clients i = st.clients i :=
              (advance_cases j st).other fun hi => hj hi.symm
            rw [hturns]
            exact ih (hother.symm ▸ h)

/-- Clients with enough turns finish. Jobs of at most `b` steps each, one turn more to begin a job and one to
store its result: no other client and no handler holds them up. -/
theorem play_finishes (hbound : ∀ op, ∃ m, (prog op).Within b m) (schedule : List (ι ⊕ H))
    (hturns : ∀ i, (jobs i).length * (b + 2) ≤ turnsOf i schedule) (s : Conf S C R W) :
    Finished jobs (play env prog handler jobs schedule (.start s)) := by
  intro i
  have hstart : Near b (jobs i).length ((start s : Crew ι S C R β W Op).clients i)
      ((jobs i).length * (b + 2)) := .idle (Nat.zero_add _) (Nat.le_refl _)
  have hplay : Near b (jobs i).length ((play env prog handler jobs schedule (start s)).clients i)
      ((jobs i).length * (b + 2) - turnsOf i schedule) := near_play hbound schedule hstart
  rw [Nat.sub_eq_zero_of_le (hturns i)] at hplay
  exact hplay.finished

end Crew

/-- The clients finish without a handler, too. -/
theorem clients_finish {ι Op : Type w} [DecidableEq ι] {env : Env S C R W} {prog : Op → Prog S C R β}
    {jobs : ι → List Op} {b : Nat} (hbound : ∀ op, ∃ m, (prog op).Within b m) (schedule : List ι)
    (hturns : ∀ i, (jobs i).length * (b + 2) ≤ schedule.count i) (d : S) (x : W) :
    (play env prog jobs schedule (.start d x) : Shared ι S C R β W Op).Finished jobs := by
  let handler : Empty → Prog S C R β := fun o => o.elim
  have hcrew : (play env prog jobs schedule (.start d x) : Shared ι S C R β W Op).crew =
      Crew.play env prog handler jobs (schedule.map .inl) (.start ⟨d, x, []⟩) :=
    Crew.play_clients schedule _
  show Crew.Finished jobs (play env prog jobs schedule (.start d x) : Shared ι S C R β W Op).crew
  rw [hcrew]
  refine Crew.play_finishes hbound _ (fun i => ?_) _
  have hschedule : (schedule.map .inl : List (ι ⊕ Empty)).filterMap Sum.getLeft? = schedule := by
    rw [List.filterMap_map]
    exact List.filterMap_some
  rw [Crew.turnsOf, hschedule]
  exact hturns i

end CaffeineHal.Program
