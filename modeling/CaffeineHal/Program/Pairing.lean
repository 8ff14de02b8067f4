import CaffeineHal.Program.Monitor
import Mathlib.Data.List.Count

/-!
# Grants and releases in pairs

Resources of a type `T` are granted and released. `pairing` is the monitor of the discipline in which every
release is of the resource that was granted last and not released yet; its state is the resources that are
open. A log is `Matched` when nothing is open at its end. Matched logs can be put one after another and into
one another (`Matched.append`, `matched_bracket_iff`), and nothing else makes a bracket of them match.
-/

set_option autoImplicit false

namespace CaffeineHal.Program

universe u

/-- A resource is granted or released. -/
inductive PairAction (T : Type u) where
  | grant (t : T)
  | release (t : T)
  deriving DecidableEq, Repr

def PairAction.isGrant {T : Type u} : PairAction T → Bool
  | grant _ => true
  | release _ => false

def PairAction.isRelease {T : Type u} : PairAction T → Bool
  | grant _ => false
  | release _ => true

variable {T : Type u} [DecidableEq T]

/-- The discipline. The state is the open resources, newest first. -/
def pairing : Monitor (PairAction T) (List T) where
  start := []
  next
    | held, .grant t => some (t :: held)
    | [], .release _ => none
    | u :: held, .release t => if t = u then some held else none

@[simp] theorem next_grant (t : T) (held : List T) :
    pairing.next held (.grant t) = some (t :: held) := by
  cases held <;> rfl

@[simp] theorem next_release_nil (t : T) : pairing.next [] (.release t) = none := rfl

@[simp] theorem next_release_cons (t u : T) (held : List T) :
    pairing.next (u :: held) (.release t) = if t = u then some held else none := rfl

/-- Everything that was granted was released, in order. -/
def Matched (log : List (PairAction T)) : Prop :=
  pairing.track log = some []

variable {log newer older : List (PairAction T)} {held rest : List T}

/-- What happens later adds to what is open and does not look below it. -/
theorem track_append (hnew : pairing.track newer = some held)
    (hold : pairing.track older = some rest) :
    pairing.track (newer ++ older) = some (held ++ rest) := by
  induction newer generalizing held with
  | nil =>
      obtain rfl : [] = held := Option.some.inj hnew
      exact hold
  | cons a newer ih =>
      obtain ⟨open', htrack, hnext⟩ := pairing.track_cons_eq_some hnew
      rw [List.cons_append, Monitor.track_cons, ih htrack, Option.bind_some]
      cases a with
      | grant t =>
          simp only [next_grant, Option.some.injEq] at hnext
          subst hnext
          simp
      | release t =>
          -- The release is of something that the newer actions granted.
          cases open' with
          | nil => simp at hnext
          | cons u open' =>
              simp only [next_release_cons] at hnext
              split at hnext
              · next heq =>
                  obtain rfl : open' = held := Option.some.inj hnext
                  simp [heq]
              · cases hnext

/-- Grants exceed releases by what is open. -/
theorem countP_isGrant (h : pairing.track log = some held) :
    log.countP PairAction.isGrant = log.countP PairAction.isRelease + held.length := by
  refine pairing.track_invariant (fun log held =>
    log.countP PairAction.isGrant = log.countP PairAction.isRelease + held.length) rfl
    (fun a older before after ih hnext => ?_) h
  cases a with
  | grant t =>
      simp only [next_grant, Option.some.injEq] at hnext
      subst hnext
      simp only [List.countP_cons, PairAction.isGrant, PairAction.isRelease, List.length_cons, ih]
      simp
      omega
  | release t =>
      cases before with
      | nil => simp at hnext
      | cons u before =>
          simp only [next_release_cons] at hnext
          split at hnext
          · obtain rfl : before = after := Option.some.inj hnext
            simp only [List.countP_cons, PairAction.isGrant, PairAction.isRelease, ih,
              List.length_cons]
            simp
            omega
          · cases hnext

/-- A log matches when the discipline allows it and there are as many releases as grants. -/
theorem matched_iff : Matched log ↔
    log.countP PairAction.isRelease = log.countP PairAction.isGrant ∧
      ∃ held, pairing.track log = some held := by
  constructor
  · intro h
    have hcount := countP_isGrant h
    exact ⟨by simpa using hcount.symm, [], h⟩
  · rintro ⟨hcount, held, htrack⟩
    have hopen := countP_isGrant htrack
    obtain rfl : held = [] := List.eq_nil_of_length_eq_zero (by omega)
    exact htrack

theorem matched_nil : Matched ([] : List (PairAction T)) := rfl

theorem Matched.append (hnew : Matched newer) (hold : Matched older) : Matched (newer ++ older) :=
  track_append hnew hold

/-- A bracket around a matched log matches when it releases what it granted. -/
theorem matched_bracket_iff (h : Matched log) (t u : T) :
    Matched (.release u :: (log ++ [.grant t])) ↔ u = t := by
  have hopen : pairing.track (log ++ [.grant t]) = some [t] := track_append h rfl
  rw [Matched, Monitor.track_cons, hopen, Option.bind_some, next_release_cons]
  split
  · next heq => exact ⟨fun _ => heq, fun _ => rfl⟩
  · next hne => exact ⟨by rintro ⟨⟩, fun heq => absurd heq hne⟩

/-- What is granted and not released stays open. -/
theorem not_matched_grant (h : Matched log) (t : T) : ¬ Matched (log ++ [.grant t]) := by
  have hopen : pairing.track (log ++ [.grant t]) = some [t] := track_append h rfl
  rw [Matched, hopen]
  rintro ⟨⟩

/-- There is nothing to release after a matched log. -/
theorem not_matched_release (h : Matched log) (t : T) : ¬ Matched (.release t :: log) := by
  rw [Matched, Monitor.track_cons, h, Option.bind_some, next_release_nil]
  rintro ⟨⟩

end CaffeineHal.Program
