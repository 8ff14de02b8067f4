import CaffeineHal.Program.Clients
import CaffeineHal.Program.Frame

/-!
# Sections under a mutex

Some calls of the environment take and free a mutex (`Mutex`). A section is a program that only reads
until it asks for the mutex; refused, it is over, and granted, it keeps an invariant of the record until
it frees the mutex with its last step (`Critical`, `Holding`).

Clients that run nothing but sections exclude each other, and they compute what the sections that got the
mutex compute one after another in the order in which they got it. `Coherent` is the invariant of the
turns; its core is that the current holder, run on alone, would end where the serial run ends.
-/

set_option autoImplicit false

namespace CaffeineHal.Program

universe u v w

/-- The calls of the environment that take and free a mutex. -/
structure Mutex {S C R : Type u} {W : Type v} (env : Env S C R W) where
  acquires : C → Bool
  releases : C → Bool
  granted : R → Bool
  held : W → Bool
  apart : ∀ c, acquires c = true → releases c = false
  take : ∀ c d x, acquires c = true → held x = false →
    granted (env.answer c d x).1 = true ∧ (env.answer c d x).2.1 = d ∧
      held (env.answer c d x).2.2 = true
  refuse : ∀ c d x, acquires c = true → held x = true →
    granted (env.answer c d x).1 = false ∧ (env.answer c d x).2 = (d, x)
  free : ∀ c d x, releases c = true →
    (env.answer c d x).2.1 = d ∧ held (env.answer c d x).2.2 = false
  keep : ∀ c d x, acquires c = false → releases c = false →
    held (env.answer c d x).2.2 = held x

variable {S C R α β : Type u} {W : Type v} {ι Op : Type w}

/-! ## Sections -/

section Sections

variable {env : Env S C R W} (M : Mutex env) (inv : S → Prop)

/-- On records with the invariant, the program only reads and then makes the call `c`, whose answer it
goes on with in `next`. -/
inductive Entering (c : C) (next : R → Prog S C R β) : Prog S C R β → Prop
  | read {k : S → Prog S C R β} (h : ∀ d, inv d → Entering c next (k d)) :
      Entering c next (.read k)
  | call : Entering c next (.call c next)

/-- Run alone from this state, the program keeps the invariant and does not free the mutex. -/
def Keeps : Prog S C R α → S → W → Prop
  | .done _, _, _ => True
  | .read k, d, x => Keeps (k d) d x
  | .write f k, d, x => inv (f d) ∧ Keeps k (f d) x
  | .call c k, d, x =>
      let out := env.answer c d x
      M.releases c = false ∧ inv out.2.1 ∧ Keeps (k out.1) out.2.1 out.2.2

/-- Run alone from this state, the program keeps the invariant and frees the mutex with its last step. -/
def Holding : Prog S C R β → S → W → Prop
  | .done _, _, _ => False
  | .read k, d, x => Holding (k d) d x
  | .write f k, d, x => inv (f d) ∧ Holding k (f d) x
  | .call c k, d, x =>
      let out := env.answer c d x
      if M.releases c then ∃ b, k out.1 = .done b
      else inv out.2.1 ∧ Holding (k out.1) out.2.1 out.2.2

/-- The program is a section: it asks for the mutex, is over with the answer if it is refused, and holds
the mutex until it is over if it is granted. -/
structure Critical (p : Prog S C R R) where
  request : C
  next : R → Prog S C R R
  acquires : M.acquires request = true
  enter : Entering inv request next p
  refused : ∀ r, M.granted r = false → next r = .done r
  holding : ∀ r d x, M.granted r = true → inv d → Holding M inv (next r) d x

variable {M inv}

theorem Entering.ne_done {c : C} {next : R → Prog S C R β} {p : Prog S C R β}
    (h : Entering inv c next p) (b : β) : p ≠ .done b := by
  rintro rfl
  cases h

/-- Until it asks for the mutex, a section computes nothing. -/
theorem Entering.eval {c : C} {next : R → Prog S C R β} {p : Prog S C R β}
    (h : Entering inv c next p) {d : S} (hd : inv d) (x : W) :
    eval env p d x = eval env (.call c next) d x := by
  induction h with
  | read _ ih => exact ih d hd
  | call => rfl

/-- What holds the mutex at the call holds it on the way there. -/
theorem Entering.holding {c : C} {next : R → Prog S C R β} {p : Prog S C R β}
    (h : Entering inv c next p) {d : S} (hd : inv d) {x : W}
    (hcall : Holding M inv (.call c next) d x) : Holding M inv p d x := by
  induction h with
  | read _ ih => exact ih d hd
  | call => exact hcall

theorem Holding.ne_done {p : Prog S C R β} {d : S} {x : W} (h : Holding M inv p d x) (b : β) :
    p ≠ .done b := by
  rintro rfl
  exact h

/-- A program whose calls do not free the mutex keeps it. -/
theorem Prog.Maintains.keeps {calls : C → Prop} {p : Prog S C R α} (hp : p.Maintains calls inv)
    (henv : env.Maintains inv) (hcalls : ∀ c, calls c → M.releases c = false) {d : S} (hd : inv d)
    (x : W) : Keeps M inv p d x := by
  induction p generalizing d x with
  | done a => exact trivial
  | read k ih => exact ih d (hp d) hd x
  | write f k ih => exact ⟨hp.1 d hd, ih hp.2 (hp.1 d hd) x⟩
  | call c k ih =>
      have hout : inv (env.answer c d x).2.1 := henv c d x hd
      exact ⟨hcalls c hp.1, hout, ih _ (hp.2 _) hout _⟩

/-- A body that keeps the mutex, and then an end that frees it. -/
theorem Holding.bind {p : Prog S C R α} {f : α → Prog S C R β} {d : S} {x : W}
    (hp : Keeps M inv p d x) (hd : inv d) (hf : ∀ a d x, inv d → Holding M inv (f a) d x) :
    Holding M inv (p >>= f) d x := by
  induction p generalizing d x with
  | done a => exact hf a d x hd
  | read k ih => exact ih d hp hd
  | write g k ih => exact ⟨hp.1, ih hp.2 hp.1⟩
  | call c k ih =>
      -- The body does not free the mutex, so the composition goes on holding it.
      obtain ⟨hc, hinv, hk⟩ := hp
      simp only [Prog.call_bind, Holding, hc, Bool.false_eq_true, if_false]
      exact ⟨hinv, ih _ hk hinv⟩

end Sections

/-! ## The trace -/

section Trace

variable {env : Env S C R W} (M : Mutex env)

/-- The mutex was asked for and granted. -/
def Mutex.grants (e : Event S C R) : Bool :=
  M.acquires e.call && M.granted e.answer

/-- The tasks that got the mutex, in the order in which they did. -/
def Mutex.order (trace : List (Task ι Op × Event S C R)) : List (Task ι Op) :=
  ((trace.filter fun te => M.grants te.2).map Prod.fst).reverse

theorem Mutex.mem_order {trace : List (Task ι Op × Event S C R)} {t : Task ι Op} :
    t ∈ M.order trace ↔ ∃ e, (t, e) ∈ trace ∧ M.grants e = true := by
  simp [Mutex.order]

theorem Mutex.order_cons_grant {te : Task ι Op × Event S C R}
    {trace : List (Task ι Op × Event S C R)} (h : M.grants te.2 = true) :
    M.order (te :: trace) = M.order trace ++ [te.1] := by
  simp [Mutex.order, h]

theorem Mutex.order_cons_other {te : Task ι Op × Event S C R}
    {trace : List (Task ι Op × Event S C R)} (h : M.grants te.2 = false) :
    M.order (te :: trace) = M.order trace := by
  simp [Mutex.order, h]

theorem Mutex.order_append_other {calls trace : List (Task ι Op × Event S C R)}
    (h : ∀ te ∈ calls, M.grants te.2 = false) : M.order (calls ++ trace) = M.order trace := by
  have hnone : calls.filter (fun te => M.grants te.2) = [] := by
    rw [List.filter_eq_nil_iff]
    intro te hmem
    simp [h te hmem]
  rw [Mutex.order, List.filter_append, hnone]
  rfl

/-- The task got the mutex and has not freed it. -/
def Mutex.Inside (trace : List (Task ι Op × Event S C R)) (t : Task ι Op) : Prop :=
  (∃ e, (t, e) ∈ trace ∧ M.grants e = true) ∧ ∀ e, (t, e) ∈ trace → M.releases e.call = false

/-- The task got the mutex and freed it. -/
def Mutex.Served (trace : List (Task ι Op × Event S C R)) (t : Task ι Op) : Prop :=
  (∃ e, (t, e) ∈ trace ∧ M.grants e = true) ∧ ∃ e, (t, e) ∈ trace ∧ M.releases e.call = true

/-- The task asked for the mutex and was refused with `r`, and has made no other call. -/
def Mutex.Refused (trace : List (Task ι Op × Event S C R)) (t : Task ι Op) (r : R) : Prop :=
  ∃ e, (t, e) ∈ trace ∧ M.acquires e.call = true ∧ M.granted e.answer = false ∧ e.answer = r ∧
    ∀ e', (t, e') ∈ trace → e' = e

variable {M} {calls trace : List (Task ι Op × Event S C R)} {t : Task ι Op} {r : R}

theorem Mutex.Served.append (h : M.Served trace t) : M.Served (calls ++ trace) t := by
  obtain ⟨⟨e, he, hgrant⟩, e', he', hrelease⟩ := h
  exact ⟨⟨e, List.mem_append_right _ he, hgrant⟩, e', List.mem_append_right _ he', hrelease⟩

/-- A call of another task does not change that a task was refused. -/
theorem Mutex.Refused.append (h : M.Refused trace t r) (hne : ∀ te ∈ calls, te.1 ≠ t) :
    M.Refused (calls ++ trace) t r := by
  obtain ⟨e, he, hacquire, hrefused, hr, honly⟩ := h
  refine ⟨e, List.mem_append_right _ he, hacquire, hrefused, hr, fun e' he' => ?_⟩
  rcases List.mem_append.1 he' with hnew | hold
  · exact absurd rfl (hne _ hnew)
  · exact honly e' hold

/-- Who was granted the mutex was not refused. -/
theorem Mutex.Refused.not_grants (h : M.Refused trace t r) {e : Event S C R} (he : (t, e) ∈ trace) :
    M.grants e = false := by
  obtain ⟨e', -, -, hrefused, -, honly⟩ := h
  rw [honly e he, Mutex.grants, hrefused, Bool.and_false]

/-- While the mutex is held, a call that does not free it leaves it held: to ask for it again is
refused. -/
theorem Mutex.stays_held (M : Mutex env) {c : C} {d d' : S} {x x' : W} {r : R}
    (hreleases : M.releases c = false) (hheld : M.held x = true)
    (hanswer : env.answer c d x = (r, d', x')) :
    M.grants ⟨c, d, r⟩ = false ∧ M.held x' = true := by
  cases hacquires : M.acquires c with
  | true =>
      -- A request for a mutex that is held is refused and changes nothing.
      obtain ⟨hrefused, hsame⟩ := M.refuse c d x hacquires hheld
      rw [hanswer] at hrefused hsame
      injection hsame with _ hx
      rw [hx]
      refine ⟨?_, hheld⟩
      rw [Mutex.grants, hrefused, Bool.and_false]
  | false =>
      -- The call is not about the mutex.
      have hkeep := M.keep c d x hacquires hreleases
      rw [hanswer] at hkeep
      refine ⟨?_, hkeep.trans hheld⟩
      rw [Mutex.grants, hacquires, Bool.false_and]

end Trace

end CaffeineHal.Program
