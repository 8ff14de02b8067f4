import Mathlib.Data.List.Infix

/-!
# Monitors

A monitor is a partial automaton that reads a log of actions. `track` is its state after a log, or
`none` once an action came that the state does not allow. Logs have the newest action first, so the
suffixes of a log are its earlier states, and what a monitor allows of a log it allows of each of
them (`track_suffix`). `track_invariant` is the rule for facts about allowed logs: what every allowed
action keeps holds of every allowed log.

`Preceded p q` is the property that no `q` comes before a `p`.
-/

set_option autoImplicit false

namespace CaffeineHal.Program

universe u v

/-- A partial automaton over actions. -/
structure Monitor (A : Type u) (Q : Type v) where
  start : Q
  next : Q → A → Option Q

namespace Monitor

variable {A : Type u} {Q : Type v} (m : Monitor A Q)

/-- The state after a log, newest action first. -/
def track : List A → Option Q
  | [] => some m.start
  | a :: older => (track older).bind fun q => m.next q a

@[simp] theorem track_nil : m.track [] = some m.start := rfl

@[simp] theorem track_cons (a : A) (older : List A) :
    m.track (a :: older) = (m.track older).bind fun q => m.next q a := rfl

/-- The state in which the newest action of an allowed log was allowed. -/
theorem track_cons_eq_some {a : A} {older : List A} {q : Q} (h : m.track (a :: older) = some q) :
    ∃ p, m.track older = some p ∧ m.next p a = some q :=
  Option.bind_eq_some_iff.1 h

/-- Every earlier state of an allowed log is allowed. -/
theorem track_suffix {log older : List A} {q : Q} (hs : older <:+ log) (h : m.track log = some q) :
    ∃ p, m.track older = some p := by
  obtain ⟨newer, rfl⟩ := hs
  -- Action by action back to `older`: each was read in an allowed state.
  induction newer generalizing q with
  | nil => exact ⟨q, h⟩
  | cons a newer ih =>
      obtain ⟨p, hp, -⟩ := m.track_cons_eq_some h
      exact ih hp

/-- What the empty log has and every allowed action keeps, every allowed log has. -/
theorem track_invariant (inv : List A → Q → Prop) (hnil : inv [] m.start)
    (hcons : ∀ a older p q, inv older p → m.next p a = some q → inv (a :: older) q)
    {log : List A} {q : Q} (h : m.track log = some q) : inv log q := by
  -- The state before the newest action is not `q`, so the induction is over all states.
  induction log generalizing q with
  | nil =>
      obtain rfl : m.start = q := Option.some.inj h
      exact hnil
  | cons a older ih =>
      obtain ⟨p, hp, hq⟩ := m.track_cons_eq_some h
      exact hcons a older p q (ih hp) hq

/-- An action that a state allows and that leads back to it may be read any number of times. -/
theorem track_append_stay {log newer : List A} {q : Q} (h : m.track log = some q)
    (hstay : ∀ a ∈ newer, m.next q a = some q) : m.track (newer ++ log) = some q := by
  induction newer with
  | nil => exact h
  | cons a newer ih =>
      have hq := ih fun b hb => hstay b (List.mem_cons_of_mem _ hb)
      rw [List.cons_append, track_cons, hq]
      exact hstay a List.mem_cons_self

end Monitor

/-! ## Precedence -/

section Precedence

variable {A : Type u} {p q : A → Prop} {log newer older : List A}

/-- No action with `q` comes before an action with `p`. -/
def Preceded (p q : A → Prop) (log : List A) : Prop :=
  ∀ a older, a :: older <:+ log → q a → ∃ b ∈ older, p b

/-- A log without `q`. -/
theorem preceded_of_forall_not (h : ∀ a ∈ log, ¬ q a) : Preceded p q log := by
  intro a older hsuf ha
  exact absurd ha (h a (hsuf.subset List.mem_cons_self))

/-- Once `p` came, the log may go on in any way. -/
theorem Preceded.of_suffix (h : Preceded p q older) (hp : ∃ b ∈ older, p b)
    (hsuf : older <:+ log) : Preceded p q log := by
  intro a rest hrest ha
  rcases List.suffix_or_suffix_of_suffix hrest hsuf with hin | hover
  · -- The action was in the log before.
    exact h a rest hin ha
  · rcases List.suffix_cons_iff.1 hover with heq | hover
    · -- `older` itself begins with this action.
      rw [heq] at h
      exact h a rest (List.suffix_refl _) ha
    · -- It came after all of `older`, where `p` is.
      obtain ⟨b, hb, hpb⟩ := hp
      exact ⟨b, hover.subset hb, hpb⟩

theorem exists_of_suffix (hsuf : older <:+ log) (hp : ∃ b ∈ older, p b) : ∃ b ∈ log, p b := by
  obtain ⟨b, hb, hpb⟩ := hp
  exact ⟨b, hsuf.subset hb, hpb⟩

end Precedence

end CaffeineHal.Program
