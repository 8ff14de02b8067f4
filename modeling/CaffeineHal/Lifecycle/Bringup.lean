import CaffeineHal.Program.Monitor
import Mathlib.Data.Int.Basic

/-!
# The bring-up discipline

What the lifecycle of a driver is for, without drivers: a board lends clocks and pins, and a
peripheral is started, used and stopped only while they are lent. `bringup` is the monitor of that
discipline over five actions.

Every log that it allows is balanced: the board is held exactly when its last action granted it
(`held_iff_lastBoard`), and grants exceed releases by one then and by none otherwise
(`balance_eq`). The board is asked only when it is not held (`acquire_allowed`), the peripheral is
touched only when it is (`touch_allowed`), and the peripheral runs exactly when its last successful
start or stop was a start (`live_iff_lastMove`).
-/

set_option autoImplicit false

namespace CaffeineHal.Lifecycle

open CaffeineHal.Program

/-- What is done to the board and the peripheral; the flags say whether it succeeded. -/
inductive BringupAction where
  | acquire (granted : Bool)
  | release
  | start (ok : Bool)
  | stop (ok : Bool)
  | use
  deriving DecidableEq, Repr

/-- The board is not held; it is held; it is held and the peripheral runs. -/
inductive Phase where
  | down
  | held
  | live
  deriving DecidableEq, Repr

/-- What each phase allows and where it leads. -/
def Phase.next : Phase → BringupAction → Option Phase
  | .down, .acquire true => some .held
  | .down, .acquire false => some .down
  | .held, .start true => some .live
  | .held, .start false => some .held
  | .held, .use => some .held
  | .held, .release => some .down
  | .live, .use => some .live
  | .live, .stop true => some .held
  | .live, .stop false => some .live
  | _, _ => none

/-- The bring-up discipline. -/
def bringup : Monitor BringupAction Phase where
  start := .down
  next := Phase.next

theorem next_acquire (granted : Bool) :
    bringup.next .down (.acquire granted) = some (if granted then .held else .down) := by
  cases granted <;> rfl

theorem next_start (ok : Bool) :
    bringup.next .held (.start ok) = some (if ok then .live else .held) := by
  cases ok <;> rfl

theorem next_stop (ok : Bool) :
    bringup.next .live (.stop ok) = some (if ok then .held else .live) := by
  cases ok <;> rfl

/-- Using the peripheral is allowed where the board is held, and moves nothing. -/
theorem next_use {q : Phase} (hq : q ≠ .down) : bringup.next q .use = some q := by
  cases q with
  | down => exact absurd rfl hq
  | held => rfl
  | live => rfl

/-- The moves of the discipline. -/
inductive Move : Phase → BringupAction → Phase → Prop
  | grant : Move .down (.acquire true) .held
  | deny : Move .down (.acquire false) .down
  | start : Move .held (.start true) .live
  | startFailed : Move .held (.start false) .held
  | useHeld : Move .held .use .held
  | release : Move .held .release .down
  | useLive : Move .live .use .live
  | stop : Move .live (.stop true) .held
  | stopFailed : Move .live (.stop false) .live

/-- What is allowed is one of the moves. -/
theorem next_cases {p q : Phase} {a : BringupAction} (h : bringup.next p a = some q) :
    Move p a q := by
  cases p with
  | down =>
      cases a with
      | acquire granted => cases granted <;> cases h <;> constructor
      | _ => cases h
  | held =>
      cases a with
      | start ok => cases ok <;> cases h <;> constructor
      | use => cases h; constructor
      | release => cases h; constructor
      | acquire granted => cases granted <;> cases h
      | stop ok => cases ok <;> cases h
  | live =>
      cases a with
      | use => cases h; constructor
      | stop ok => cases ok <;> cases h <;> constructor
      | acquire granted => cases granted <;> cases h
      | start ok => cases ok <;> cases h
      | release => cases h

namespace BringupAction

/-- An action on the board. -/
def onBoard : BringupAction → Bool
  | acquire _ | release => true
  | _ => false

/-- A start or stop that succeeded. -/
def moves : BringupAction → Bool
  | start ok | stop ok => ok
  | _ => false

/-- A grant of the board or a release. -/
def movesBoard : BringupAction → Bool
  | acquire granted => granted
  | release => true
  | _ => false

/-- An action on the peripheral. -/
def touches : BringupAction → Bool
  | start _ | stop _ | use => true
  | _ => false

end BringupAction

/-- Grants less releases. -/
def balance (log : List BringupAction) : Int :=
  (log.count (.acquire true) : Int) - log.count .release

@[simp] theorem balance_nil : balance [] = 0 := rfl

@[simp] theorem balance_grant (older : List BringupAction) :
    balance (.acquire true :: older) = balance older + 1 := by
  simp [balance]
  omega

@[simp] theorem balance_release (older : List BringupAction) :
    balance (.release :: older) = balance older - 1 := by
  simp [balance]
  omega

theorem balance_of_ne {a : BringupAction} (ha : a ≠ .acquire true) (hr : a ≠ .release)
    (older : List BringupAction) : balance (a :: older) = balance older := by
  simp [balance, ha, hr]

@[simp] theorem balance_deny (older : List BringupAction) :
    balance (.acquire false :: older) = balance older :=
  balance_of_ne (by decide) (by decide) older

@[simp] theorem balance_start (ok : Bool) (older : List BringupAction) :
    balance (.start ok :: older) = balance older :=
  balance_of_ne BringupAction.noConfusion BringupAction.noConfusion older

@[simp] theorem balance_stop (ok : Bool) (older : List BringupAction) :
    balance (.stop ok :: older) = balance older :=
  balance_of_ne BringupAction.noConfusion BringupAction.noConfusion older

@[simp] theorem balance_use (older : List BringupAction) :
    balance (.use :: older) = balance older :=
  balance_of_ne (by decide) (by decide) older

variable {log older : List BringupAction} {q : Phase}

/-- Grants exceed releases by one while the board is held, and by none otherwise. -/
theorem balance_eq (h : bringup.track log = some q) :
    balance log = if q = .down then 0 else 1 := by
  refine bringup.track_invariant (fun log q => balance log = if q = .down then 0 else 1)
    rfl (fun a older p q ih hq => ?_) h
  -- A grant leads out of `down` and a release back into it; nothing else counts or crosses.
  cases next_cases hq with
  | grant => simp [ih]
  | deny => simp [ih]
  | start => simp [ih]
  | startFailed => simp [ih]
  | useHeld => simp [ih]
  | release => simp [ih]
  | useLive => simp [ih]
  | stop => simp [ih]
  | stopFailed => simp [ih]

/-- The board is held exactly when its last action granted it. -/
theorem held_iff_lastBoard (h : bringup.track log = some q) :
    log.find? BringupAction.onBoard = some (.acquire true) ↔ q ≠ .down := by
  refine bringup.track_invariant
    (fun log q => log.find? BringupAction.onBoard = some (.acquire true) ↔ q ≠ .down)
    (by decide) (fun a older p q ih hq => ?_) h
  cases next_cases hq with
  -- The newest action is on the board, and says what the phase is.
  | grant => simp [BringupAction.onBoard]
  | deny => simp [BringupAction.onBoard]
  | release => simp [BringupAction.onBoard]
  -- The board is held before and after.
  | start => simp [BringupAction.onBoard, ih]
  | startFailed => simp [BringupAction.onBoard, ih]
  | useHeld => simp [BringupAction.onBoard, ih]
  | useLive => simp [BringupAction.onBoard, ih]
  | stop => simp [BringupAction.onBoard, ih]
  | stopFailed => simp [BringupAction.onBoard, ih]

/-- The peripheral runs exactly when its last successful start or stop was a start. -/
theorem live_iff_lastMove (h : bringup.track log = some q) :
    log.find? BringupAction.moves = some (.start true) ↔ q = .live := by
  refine bringup.track_invariant
    (fun log q => log.find? BringupAction.moves = some (.start true) ↔ q = .live)
    (by decide) (fun a older p q ih hq => ?_) h
  cases next_cases hq with
  | start => simp [BringupAction.moves]
  | stop => simp [BringupAction.moves]
  -- No successful start or stop: the peripheral runs or not as before.
  | grant => simp [BringupAction.moves, ih]
  | deny => simp [BringupAction.moves, ih]
  | startFailed => simp [BringupAction.moves, ih]
  | useHeld => simp [BringupAction.moves, ih]
  | release => simp [BringupAction.moves, ih]
  | useLive => simp [BringupAction.moves, ih]
  | stopFailed => simp [BringupAction.moves, ih]

/-- The board is asked only when it is not held. -/
theorem acquire_allowed {granted : Bool} (h : bringup.track (.acquire granted :: older) = some q) :
    bringup.track older = some .down := by
  obtain ⟨p, hp, hq⟩ := bringup.track_cons_eq_some h
  cases next_cases hq with
  | grant => exact hp
  | deny => exact hp

/-- The peripheral is touched only while the board is held. -/
theorem touch_allowed {a : BringupAction} (ha : a.touches = true)
    (h : bringup.track (a :: older) = some q) :
    ∃ p, bringup.track older = some p ∧ p ≠ .down := by
  obtain ⟨p, hp, hq⟩ := bringup.track_cons_eq_some h
  refine ⟨p, hp, ?_⟩
  rintro rfl
  cases next_cases hq with
  | grant => cases ha
  | deny => cases ha

end CaffeineHal.Lifecycle
