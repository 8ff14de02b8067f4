import CaffeineHal.Program.Resumption

/-!
# Programs interrupted between any two steps

A thread runs one program step by step; between two steps a handler may run any of its operations to
completion. `interleave` plays a schedule of such turns, so its results are the step boundaries of the
interleavings.

`Outline inv post p s` says that, from `s`, the invariant holds at every boundary of `p` and `post`
where `p` is finished, however the handler interferes (`interleave_outline`). The rules build an
outline along a program from assertions that the handler keeps: `Stable` for an assertion,
`Hoare` for what a program does between two of them, and `Hoare.bind` to compose.
-/

set_option autoImplicit false

namespace CaffeineHal.Program

universe u v w

variable {S C R α β Op : Type u} {W : Type v}

section Interference

variable (env : Env S C R W) (handler : Op → Prog S C R α)

/-- One turn: a step of the thread, or an operation of the handler. -/
def turn : Option Op → Prog S C R β × Conf S C R W → Prog S C R β × Conf S C R W
  | none, ps => step env ps
  | some op, ps => (ps.1, (run env (handler op) ps.2).2)

/-- The thread and the state after a schedule of turns. -/
def interleave : List (Option Op) → Prog S C R β × Conf S C R W → Prog S C R β × Conf S C R W
  | [], ps => ps
  | t :: schedule, ps => interleave schedule (turn env handler t ps)

/-- A handler with other names for its operations. -/
theorem interleave_map {Op' : Type u} (g : Op' → Op) (schedule : List (Option Op'))
    (ps : Prog S C R β × Conf S C R W) :
    interleave env (fun op => handler (g op)) schedule ps =
      interleave env handler (schedule.map (Option.map g)) ps := by
  induction schedule generalizing ps with
  | nil => rfl
  | cons t schedule ih => cases t <;> exact ih _

/-- The handler keeps the assertion. -/
def Stable (P : Conf S C R W → Prop) : Prop :=
  ∀ op s, P s → P (run env (handler op) s).2

/-- From `s`, whatever the handler does between two steps: `inv` holds at every boundary of the
program, and `post` where it is finished. -/
def Outline (inv : Conf S C R W → Prop) (post : β → Conf S C R W → Prop) :
    Prog S C R β → Conf S C R W → Prop
  -- A finished program is a boundary too: the handler may come once more.
  | .done a, s => ∀ ops, inv (runOps env handler ops s) ∧ post a (runOps env handler ops s)
  | .read k, s => ∀ ops, inv (runOps env handler ops s) ∧
      Outline inv post (k (runOps env handler ops s).record) (runOps env handler ops s)
  | .write f k, s => ∀ ops, inv (runOps env handler ops s) ∧
      Outline inv post k ((runOps env handler ops s).written f)
  | .call c k, s => ∀ ops, inv (runOps env handler ops s) ∧
      Outline inv post (k ((runOps env handler ops s).reply env c))
        ((runOps env handler ops s).answered env c)

variable {env handler} {inv : Conf S C R W → Prop} {post : β → Conf S C R W → Prop}

theorem Outline.boundary {p : Prog S C R β} {s : Conf S C R W} (h : Outline env handler inv post p s) :
    inv s := by
  cases p with
  | done a => exact (h []).1
  | read k => exact (h []).1
  | write f k => exact (h []).1
  | call c k => exact (h []).1

/-- A finished program has done what it is for. -/
theorem Outline.finished {p : Prog S C R β} {s : Conf S C R W} (h : Outline env handler inv post p s)
    {a : β} (hp : p = .done a) : post a s := by
  subst hp
  exact (h []).2

/-- A step of the thread keeps the outline. -/
theorem Outline.step {p : Prog S C R β} {s : Conf S C R W}
    (h : Outline env handler inv post p s) :
    Outline env handler inv post (step env (p, s)).1 (step env (p, s)).2 := by
  cases p with
  | done a => exact h
  | read k => exact (h []).2
  | write f k => exact (h []).2
  | call c k => exact (h []).2

/-- An operation of the handler keeps the outline. -/
theorem Outline.interfere {p : Prog S C R β} {s : Conf S C R W}
    (h : Outline env handler inv post p s) (op : Op) :
    Outline env handler inv post p (run env (handler op) s).2 := by
  cases p with
  | done a => exact fun ops => h (op :: ops)
  | read k => exact fun ops => h (op :: ops)
  | write f k => exact fun ops => h (op :: ops)
  | call c k => exact fun ops => h (op :: ops)

/-- An outline holds along every interleaving. -/
theorem interleave_outline {p : Prog S C R β} {s : Conf S C R W}
    (h : Outline env handler inv post p s) (schedule : List (Option Op)) :
    Outline env handler inv post (interleave env handler schedule (p, s)).1
      (interleave env handler schedule (p, s)).2 := by
  induction schedule generalizing p s with
  | nil => exact h
  | cons t schedule ih =>
      cases t with
      -- The thread's turn, and the handler's.
      | none => exact ih h.step
      | some op => exact ih (h.interfere op)

/-- The invariant of an outline holds at every step boundary of every interleaving. -/
theorem Outline.interleave_inv {p : Prog S C R β} {s : Conf S C R W}
    (h : Outline env handler inv post p s) (schedule : List (Option Op)) :
    inv (interleave env handler schedule (p, s)).2 :=
  (interleave_outline h schedule).boundary

/-- A run that the handler stays out of ends as the outline says. -/
theorem Outline.run {p : Prog S C R β} {s : Conf S C R W} (h : Outline env handler inv post p s) :
    post (run env p s).1 (run env p s).2 := by
  induction p generalizing s with
  | done a => exact (h []).2
  | read k ih => exact ih s.record (h []).2
  | write f k ih => exact ih (h []).2
  | call c k ih => exact ih (s.reply env c) (h []).2

/-! ## Rules -/

variable (env handler inv) in
/-- From every state with `P`, the program has an outline that ends in `post`. -/
def Hoare (P : Conf S C R W → Prop) (p : Prog S C R β) (post : β → Conf S C R W → Prop) : Prop :=
  ∀ s, P s → Outline env handler inv post p s

variable {P : Conf S C R W → Prop}

theorem Stable.runOps (h : Stable env handler P) (ops : List Op) {s : Conf S C R W} (hs : P s) :
    P (runOps env handler ops s) :=
  runOps_invariant env handler P h ops hs

theorem Hoare.done {a : β} (hP : Stable env handler P) (hinv : ∀ s, P s → inv s)
    (hpost : ∀ s, P s → post a s) : Hoare env handler inv P (.done a) post := by
  intro s hs ops
  have ht := hP.runOps ops hs
  exact ⟨hinv _ ht, hpost _ ht⟩

/-- What the program read of the record is what the record was then, not what it is later. -/
theorem Hoare.read {k : S → Prog S C R β} (hP : Stable env handler P) (hinv : ∀ s, P s → inv s)
    (hk : ∀ t, P t → Hoare env handler inv P (k t.record) post) :
    Hoare env handler inv P (.read k) post := by
  intro s hs ops
  have ht := hP.runOps ops hs
  exact ⟨hinv _ ht, hk _ ht _ ht⟩

/-- A read of the record, with what holds at the moment of the read. -/
theorem Hoare.get {Q : S → Conf S C R W → Prop} (hP : Stable env handler P)
    (hinv : ∀ s, P s → inv s) (hQ : ∀ d, Stable env handler (Q d)) (hinvQ : ∀ d s, Q d s → inv s)
    (hread : ∀ s, P s → Q s.record s) :
    Hoare env handler inv P (Prog.get : Prog S C R S) Q := by
  intro s hs ops
  have ht := hP.runOps ops hs
  refine ⟨hinv _ ht, ?_⟩
  exact Hoare.done (hQ _) (hinvQ _) (fun _ h => h) _ (hread _ ht)

theorem Hoare.write {f : S → S} {k : Prog S C R β} {Q : Conf S C R W → Prop}
    (hP : Stable env handler P) (hinv : ∀ s, P s → inv s) (hf : ∀ s, P s → Q (s.written f))
    (hk : Hoare env handler inv Q k post) : Hoare env handler inv P (.write f k) post := by
  intro s hs ops
  have ht := hP.runOps ops hs
  exact ⟨hinv _ ht, hk _ (hf _ ht)⟩

theorem Hoare.call {c : C} {k : R → Prog S C R β} {Q : R → Conf S C R W → Prop}
    (hP : Stable env handler P) (hinv : ∀ s, P s → inv s)
    (hc : ∀ s, P s → Q (s.reply env c) (s.answered env c))
    (hk : ∀ r, Hoare env handler inv (Q r) (k r) post) :
    Hoare env handler inv P (.call c k) post := by
  intro s hs ops
  have ht := hP.runOps ops hs
  exact ⟨hinv _ ht, hk _ _ (hc _ ht)⟩

/-- What a program establishes, the next one starts with. -/
theorem Outline.bind {γ : Type u} {f : β → Prog S C R γ} {post' : γ → Conf S C R W → Prop}
    {p : Prog S C R β} {s : Conf S C R W}
    (h : Outline env handler inv (fun a t => Outline env handler inv post' (f a) t) p s) :
    Outline env handler inv post' (p >>= f) s := by
  induction p generalizing s with
  -- The end of `p` is the beginning of `f a`, whose outline counts the handler's turns there.
  | done a => exact (h []).2
  | read k ih => exact fun ops => ⟨(h ops).1, ih _ (h ops).2⟩
  | write g k ih => exact fun ops => ⟨(h ops).1, ih (h ops).2⟩
  | call c k ih => exact fun ops => ⟨(h ops).1, ih _ (h ops).2⟩

theorem Outline.mono {p : Prog S C R β} {s : Conf S C R W}
    {post' : β → Conf S C R W → Prop} (h : Outline env handler inv post p s)
    (hpost : ∀ a t, post a t → post' a t) : Outline env handler inv post' p s := by
  induction p generalizing s with
  | done a => exact fun ops => ⟨(h ops).1, hpost _ _ (h ops).2⟩
  | read k ih => exact fun ops => ⟨(h ops).1, ih _ (h ops).2⟩
  | write g k ih => exact fun ops => ⟨(h ops).1, ih (h ops).2⟩
  | call c k ih => exact fun ops => ⟨(h ops).1, ih _ (h ops).2⟩

theorem Hoare.mono {p : Prog S C R β} {post' : β → Conf S C R W → Prop}
    (h : Hoare env handler inv P p post) (hpost : ∀ a t, post a t → post' a t) :
    Hoare env handler inv P p post' :=
  fun s hs => (h s hs).mono hpost

/-- The rule of composition. -/
theorem Hoare.bind {γ : Type u} {p : Prog S C R β} {f : β → Prog S C R γ}
    {Q : β → Conf S C R W → Prop} {post' : γ → Conf S C R W → Prop}
    (hp : Hoare env handler inv P p Q) (hf : ∀ a, Hoare env handler inv (Q a) (f a) post') :
    Hoare env handler inv P (p >>= f) post' :=
  fun s hs => ((hp s hs).mono fun a t ht => hf a t ht).bind

end Interference

end CaffeineHal.Program
