import CaffeineHal.Program.Independent

/-!
# What a program can do

`Ends p s a s'` says that some answers to its calls lead the program `p` from the record `s` to the value
`a` and the record `s'`. It is what the environments that leave the record alone can make of a program:
every run of one is such an end (`ends_run`), and every end is the run of a script of answers
(`Ends.script`).

A run of operations shows its caller the operations and their values. `Path` is the sequences of these
that a transition relation allows, and `path_iff_script` says that the sequences a program can show are
the paths of its ends. An abstraction of the record is exact (`Exact`) when it allows what the programs
can do and no more; then the two have the same paths (`Exact.path_iff`).
-/

set_option autoImplicit false

namespace CaffeineHal.Program

universe u v w

variable {S C R α β : Type u} {Op : Type w}

/-! ## Ends -/

/-- Some answers lead the program from the record `s` to the value `a` and the record `s'`. -/
def Ends : Prog S C R α → S → α → S → Prop
  | .done b, s, a, s' => b = a ∧ s = s'
  | .read k, s, a, s' => Ends (k s) s a s'
  | .write f k, s, a, s' => Ends k (f s) a s'
  | .call _ k, s, a, s' => ∃ r, Ends (k r) s a s'

section Ends

variable {s s' : S} {a b : α}

@[simp] theorem ends_done : Ends (.done b : Prog S C R α) s a s' ↔ b = a ∧ s = s' := Iff.rfl

@[simp] theorem ends_get {t : S} : Ends (Prog.get : Prog S C R S) s t s' ↔ s = t ∧ s = s' := Iff.rfl

@[simp] theorem ends_modify {f : S → S} {t : PUnit} :
    Ends (Prog.modify f : Prog S C R PUnit) s t s' ↔ f s = s' := by
  constructor
  · rintro ⟨-, h⟩
    exact h
  · intro h
    exact ⟨rfl, h⟩

@[simp] theorem ends_request {c : C} {r : R} :
    Ends (Prog.request c : Prog S C R R) s r s' ↔ s = s' := by
  constructor
  · rintro ⟨-, -, h⟩
    exact h
  · intro h
    exact ⟨r, rfl, h⟩

/-- The rule of composition. -/
@[simp] theorem ends_bind {p : Prog S C R α} {f : α → Prog S C R β} {b : β} :
    Ends (p >>= f) s b s' ↔ ∃ a t, Ends p s a t ∧ Ends (f a) t b s' := by
  induction p generalizing s with
  | done a =>
      constructor
      · intro h
        exact ⟨a, s, ⟨rfl, rfl⟩, h⟩
      · rintro ⟨_, _, ⟨rfl, rfl⟩, h⟩
        exact h
  | read k ih => exact ih s
  | write g k ih => exact ih
  | call c k ih =>
      constructor
      · rintro ⟨r, h⟩
        obtain ⟨a, t, hp, hf⟩ := (ih r).1 h
        exact ⟨a, t, ⟨r, hp⟩, hf⟩
      · rintro ⟨a, t, ⟨r, hp⟩, hf⟩
        exact ⟨r, (ih r).2 ⟨a, t, hp, hf⟩⟩

end Ends

/-- Every run of an environment that leaves the record alone is an end of the program. -/
theorem ends_run {W : Type v} (codes : C → S → W → R × W) (p : Prog S C R α) (s : Conf S C R W) :
    Ends p s.record (run (.ofCodes codes) p s).1 (run (.ofCodes codes) p s).2.record := by
  induction p generalizing s with
  | done a => exact ⟨rfl, rfl⟩
  | read k ih => exact ih s.record s
  | write f k ih => exact ih (s.written f)
  | call c k ih => exact ⟨_, ih (s.reply (.ofCodes codes) c) (s.answered (.ofCodes codes) c)⟩

/-! ## Scripts -/

/-- The environment that answers from a script; past its end the answer is `last`. -/
def scripted (last : R) : C → S → List R → R × List R
  | _, _, [] => (last, [])
  | _, _, r :: script => (r, script)

/-- Every end is the run of a script, which may go on. -/
theorem Ends.script (last : R) {p : Prog S C R α} {s s' : S} {a : α} (h : Ends p s a s') :
    ∃ script : List R, ∀ rest log, ∃ log',
      run (.ofCodes (scripted last)) p ⟨s, script ++ rest, log⟩ = (a, ⟨s', rest, log'⟩) := by
  -- A call takes one answer of the script, and nothing else takes any.
  induction p generalizing s with
  | done b =>
      obtain ⟨rfl, rfl⟩ := h
      exact ⟨[], fun rest log => ⟨log, rfl⟩⟩
  | read k ih => exact ih s h
  | write f k ih => exact ih h
  | call c k ih =>
      obtain ⟨r, h⟩ := h
      obtain ⟨script, hscript⟩ := ih r h
      refine ⟨r :: script, fun rest log => ?_⟩
      exact hscript rest (⟨c, s, r⟩ :: log)

/-! ## Paths -/

section Paths

/-- The operations and values that a transition relation allows, from one state to another. -/
def Path {T : Type u} {A : Type v} (next : T → A → T → Prop) : T → List A → T → Prop
  | s, [], s' => s = s'
  | s, a :: path, s' => ∃ t, next s a t ∧ Path next t path s'

theorem path_map {T : Type u} {A B : Type v} {next : T → B → T → Prop} {f : A → B} {xs : List A}
    {s s' : T} : Path next s (xs.map f) s' ↔ Path (fun s a s' => next s (f a) s') s xs s' := by
  induction xs generalizing s with
  | nil => exact Iff.rfl
  | cons a xs ih =>
      constructor
      · rintro ⟨t, hstep, h⟩
        exact ⟨t, hstep, ih.1 h⟩
      · rintro ⟨t, hstep, h⟩
        exact ⟨t, hstep, ih.2 h⟩

/-- An operation with its value, as a transition of the record. -/
def endsOf (prog : Op → Prog S C R β) (s : S) (a : Op × β) (s' : S) : Prop :=
  Ends (prog a.1) s a.2 s'

/-- What a run shows is a path. -/
theorem path_answers {W : Type v} (codes : C → S → W → R × W) (prog : Op → Prog S C R β)
    (ops : List Op) (s : Conf S C R W) :
    Path (endsOf prog) s.record (answers (.ofCodes codes) prog ops s)
      (runOps (.ofCodes codes) prog ops s).record := by
  induction ops generalizing s with
  | nil => rfl
  | cons op ops ih => exact ⟨_, ends_run codes (prog op) s, ih _⟩

/-- Every path is what the run of a script shows. -/
theorem Path.script (last : R) {prog : Op → Prog S C R β} {path : List (Op × β)} {s s' : S}
    (h : Path (endsOf prog) s path s') :
    ∃ script : List R, ∀ log,
      let start : Conf S C R (List R) := ⟨s, script, log⟩
      answers (.ofCodes (scripted last)) prog (path.map Prod.fst) start = path ∧
        (runOps (.ofCodes (scripted last)) prog (path.map Prod.fst) start).record = s' := by
  induction path generalizing s with
  | nil => exact ⟨[], fun log => ⟨rfl, h⟩⟩
  | cons a path ih =>
      obtain ⟨t, hstep, hrest⟩ := h
      obtain ⟨first, hfirst⟩ := Ends.script last hstep
      obtain ⟨script, hscript⟩ := ih hrest
      -- The script of the first operation, and then that of the others.
      refine ⟨first ++ script, fun log => ?_⟩
      obtain ⟨log', hrun⟩ := hfirst script log
      obtain ⟨hanswers, hrecord⟩ := hscript log'
      simp only [List.map_cons, answers_cons, runOps_cons, hrun]
      exact ⟨by rw [hanswers], hrecord⟩

/-- The paths of the ends are what scripts show. -/
theorem path_iff_script (last : R) {prog : Op → Prog S C R β} {path : List (Op × β)} {s s' : S} :
    Path (endsOf prog) s path s' ↔
      ∃ script : List R,
        let start : Conf S C R (List R) := ⟨s, script, []⟩
        answers (.ofCodes (scripted last)) prog (path.map Prod.fst) start = path ∧
          (runOps (.ofCodes (scripted last)) prog (path.map Prod.fst) start).record = s' := by
  constructor
  · intro h
    obtain ⟨script, hscript⟩ := h.script last
    exact ⟨script, hscript []⟩
  · rintro ⟨script, hanswers, hrecord⟩
    have h := path_answers (scripted last) prog (path.map Prod.fst) ⟨s, script, []⟩
    rw [hanswers, hrecord] at h
    exact h

end Paths

/-! ## Exact abstractions -/

section Exact

variable {T : Type v} {A : Type w} {next : S → A → S → Prop} {inv : S → Prop} {abs : S → T}
  {spec : T → A → T → Prop}

/-- In the states of `inv`, the abstraction allows what can happen, and no more. -/
structure Exact (next : S → A → S → Prop) (inv : S → Prop) (abs : S → T) (spec : T → A → T → Prop) :
    Prop where
  keeps : ∀ {s a s'}, inv s → next s a s' → inv s'
  sound : ∀ {s a s'}, inv s → next s a s' → spec (abs s) a (abs s')
  complete : ∀ {s a t}, inv s → spec (abs s) a t → ∃ s', next s a s' ∧ abs s' = t

/-- An exact abstraction has the paths of what it abstracts. -/
theorem Exact.path_iff (h : Exact next inv abs spec) {path : List A} {s : S} (hs : inv s) {t : T} :
    (∃ s', Path next s path s' ∧ abs s' = t) ↔ Path spec (abs s) path t := by
  induction path generalizing s with
  | nil =>
      constructor
      · rintro ⟨s', rfl, rfl⟩
        rfl
      · intro ht
        exact ⟨s, rfl, ht⟩
  | cons a path ih =>
      constructor
      · rintro ⟨s', ⟨s₁, hstep, hrest⟩, rfl⟩
        exact ⟨abs s₁, h.sound hs hstep, (ih (h.keeps hs hstep)).1 ⟨s', hrest, rfl⟩⟩
      · rintro ⟨t₁, hstep, hrest⟩
        obtain ⟨s₁, hstep', rfl⟩ := h.complete hs hstep
        obtain ⟨s', hrest', rfl⟩ := (ih (h.keeps hs hstep')).2 hrest
        exact ⟨s', ⟨s₁, hstep', hrest'⟩, rfl⟩

end Exact

end CaffeineHal.Program
