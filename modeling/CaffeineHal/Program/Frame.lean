import CaffeineHal.Program.Resumption

/-!
# What a program keeps of its record, and what it calls

`Prog.Maintains calls inv` says that every write of a program keeps `inv` and that it makes only calls of
`calls`; `Env.Maintains inv` says that a call keeps `inv`. Together they carry `inv` over every run
(`run_maintains`). The rules for composition let a program be checked write by write and call by call,
without running it.
-/

set_option autoImplicit false

namespace CaffeineHal.Program

universe u v w

variable {S C R α β : Type u} {W : Type v} {calls : C → Prop} {inv : S → Prop}

/-- Every write of the program keeps `inv`, and every call is one of `calls`. -/
def Prog.Maintains (calls : C → Prop) (inv : S → Prop) : Prog S C R α → Prop
  | .done _ => True
  | .read k => ∀ s, (k s).Maintains calls inv
  | .write f k => (∀ s, inv s → inv (f s)) ∧ k.Maintains calls inv
  | .call c k => calls c ∧ ∀ r, (k r).Maintains calls inv

/-- Every call of the environment keeps `inv`. -/
def Env.Maintains (env : Env S C R W) (inv : S → Prop) : Prop :=
  ∀ c s x, inv s → inv (env.answer c s x).2.1

/-- Every call of `calls` keeps `inv`. -/
def Env.MaintainsOn (env : Env S C R W) (calls : C → Prop) (inv : S → Prop) : Prop :=
  ∀ c s x, calls c → inv s → inv (env.answer c s x).2.1

/-- Calls that do not write what `view` shows keep its value. -/
theorem Env.Keeps.maintains {V : Type w} {env : Env S C R W} {view : S → V} (h : env.Keeps view)
    (v : V) : env.Maintains fun s => view s = v := by
  intro c s x hs
  show view (env.answer c s x).2.1 = v
  rw [h c s x, hs]

/-- What the writes and the program's own calls keep, a run keeps. -/
theorem run_maintainsOn {env : Env S C R W} (henv : env.MaintainsOn calls inv) {p : Prog S C R α}
    (hp : p.Maintains calls inv) {s : Conf S C R W} (hs : inv s.record) :
    inv (run env p s).2.record := by
  -- The record changes in two places: at a write of the program and at a call's answer.
  induction p generalizing s with
  | done a => exact hs
  | read k ih => exact ih s.record (hp s.record) hs
  | write f k ih => exact ih hp.2 (hp.1 s.record hs)
  | call c k ih => exact ih (s.reply env c) (hp.2 _) (henv c s.record s.world hp.1 hs)

/-- What the writes and the calls keep, a run keeps. -/
theorem run_maintains {env : Env S C R W} (henv : env.Maintains inv) {p : Prog S C R α}
    (hp : p.Maintains calls inv) {s : Conf S C R W} (hs : inv s.record) :
    inv (run env p s).2.record :=
  run_maintainsOn (fun c s x _ => henv c s x) hp hs

/-- A run makes no other calls than the program's. -/
theorem run_calls (env : Env S C R W) {p : Prog S C R α} (hp : p.Maintains calls inv)
    (s : Conf S C R W) :
    ∃ evs : List (Event S C R), (run env p s).2.log = evs ++ s.log ∧ ∀ e ∈ evs, calls e.call := by
  -- Only a call makes the log longer, by itself.
  induction p generalizing s with
  | done a => exact Conf.calls_refl _ s
  | read k ih => exact ih s.record (hp s.record) s
  | write f k ih => exact ih hp.2 (s.written f)
  | call c k ih =>
      have hcall := Conf.calls_cons (P := fun e => calls e.call) (s.answered_log env c) hp.1
      exact Conf.calls_trans hcall (ih (s.reply env c) (hp.2 _) (s.answered env c))

namespace Prog

theorem maintains_done (a : α) : (done a : Prog S C R α).Maintains calls inv := trivial

theorem maintains_get : (get : Prog S C R S).Maintains calls inv := fun _ => trivial

theorem maintains_request {c : C} (hc : calls c) :
    (request c : Prog S C R R).Maintains calls inv := ⟨hc, fun _ => trivial⟩

theorem maintains_modify {f : S → S} (hf : ∀ s, inv s → inv (f s)) :
    (modify f : Prog S C R PUnit).Maintains calls inv := ⟨hf, trivial⟩

theorem maintains_bind {p : Prog S C R α} {f : α → Prog S C R β} (hp : p.Maintains calls inv)
    (hf : ∀ a, (f a).Maintains calls inv) : (p >>= f).Maintains calls inv := by
  induction p with
  | done a => exact hf a
  | read k ih => exact fun s => ih s (hp s)
  | write g k ih => exact ⟨hp.1, ih hp.2⟩
  | call c k ih => exact ⟨hp.1, fun r => ih r (hp.2 r)⟩

theorem maintains_ite {c : Prop} [Decidable c] {p q : Prog S C R α} (hp : p.Maintains calls inv)
    (hq : q.Maintains calls inv) : (if c then p else q).Maintains calls inv := by
  split
  · exact hp
  · exact hq

/-- What a program calls, apart from what it keeps. -/
theorem Maintains.calls_mono {calls' : C → Prop} {p : Prog S C R α} (hp : p.Maintains calls inv)
    (hcalls : ∀ c, calls c → calls' c) : p.Maintains calls' fun _ => True := by
  induction p with
  | done a => trivial
  | read k ih => exact fun s => ih s (hp s)
  | write f k ih => exact ⟨fun _ _ => trivial, ih hp.2⟩
  | call c k ih => exact ⟨hcalls c hp.1, fun r => ih r (hp.2 r)⟩

/-- Without conditions on the record and the calls, every program meets them. -/
theorem maintains_trivial (p : Prog S C R α) : p.Maintains (fun _ => True) fun _ => True := by
  induction p with
  | done a => trivial
  | read k ih => exact ih
  | write f k ih => exact ⟨fun _ _ => trivial, ih⟩
  | call c k ih => exact ⟨trivial, ih⟩

end Prog

/-- A run makes the log longer. -/
theorem run_log (env : Env S C R W) (p : Prog S C R α) (s : Conf S C R W) :
    ∃ evs : List (Event S C R), (run env p s).2.log = evs ++ s.log := by
  obtain ⟨evs, hlog, -⟩ := run_calls env p.maintains_trivial s
  exact ⟨evs, hlog⟩

end CaffeineHal.Program
