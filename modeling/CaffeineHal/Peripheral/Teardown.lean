import CaffeineHal.Lifecycle.Balance
import CaffeineHal.Peripheral.Destruct

/-!
# Destruction of a live driver

Whoever owns a driver populates it, sets the board's hook, and starts, stops and destructs it. Population
writes CONSTRUCTED over any status, and the table and the hook with which the peripheral is stopped and the
board released are overwritten in the same call, so a driver that is populated or destructed while it is
INITIALIZED leaves its hardware behind (`destruct_abandons_uart`).

`Owned` is the invariant of the runs in which nobody does so, and `notAbandoned_iff` says that these are
exactly the runs that leave nothing behind.
-/

set_option autoImplicit false

namespace CaffeineHal

open CaffeineHal.Program CaffeineHal.Lifecycle

variable {W : Type}

/-- An operation of the owner of a driver. Population is followed by the board's own code, which sets the
hook. -/
inductive OwnerCall (P : Peripheral) where
  | populate (driver : DriverPtr) (args : PopulateArgs) (onConfig : Option FnPtr) (arg : Ptr)
  | init (driver : DriverPtr)
  | deinit (driver : DriverPtr)
  | destruct (driver : DriverPtr)

def OwnerCall.prog {P : Peripheral} (mem : ConfigMemory) : OwnerCall P → HalM ErrorCode
  | .populate driver args onConfig arg => do
      P.populate driver args
      match driver with
      | .null => return .ok
      | .ref =>
          Prog.modify (Driver.setOnConfig onConfig arg)
          return .ok
  | .init driver => P.init mem driver
  | .deinit driver => P.deinit driver
  | .destruct driver => P.destruct driver

/-- The operation overwrites the driver. -/
def OwnerCall.Overwrites {P : Peripheral} : OwnerCall P → Prop
  | .populate driver _ _ _ | .destruct driver => driver = .ref
  | _ => False

/-- The board granted its resources and was not asked to take them back since. -/
def BoardGranted (log : List HalEvent) : Prop :=
  (actions log).find? BringupAction.movesBoard = some (.acquire true)

/-- Nothing is left behind: a driver that is not INITIALIZED has no live hardware and holds no board. -/
def NotAbandoned (s : HalConf W) : Prop :=
  s.record.base.status ≠ .initialized → ¬ LastMoveWasInit s.log ∧ ¬ BoardGranted s.log

/-- The status agrees with the hardware, and while the board is held there is a hook to release it. -/
structure Owned (s : HalConf W) : Prop where
  status : s.record.base.status = .constructed ∨ s.record.base.status = .initialized
  down : NotAbandoned s
  live : s.record.base.status = .initialized → LastMoveWasInit s.log
  hook : BoardGranted s.log → s.record.base.onConfig ≠ none

section Steps

variable {P : Peripheral} {s s' : HalConf W} {r : ErrorCode}

/-- Where neither the status, nor the hook, nor the hardware changed. -/
theorem Owned.of_same (h : Owned s) (hst : s'.record.base.status = s.record.base.status)
    (hon : s'.record.base.onConfig = s.record.base.onConfig)
    (hmove : LastMoveWasInit s'.log ↔ LastMoveWasInit s.log)
    (hheld : BoardGranted s'.log ↔ BoardGranted s.log) : Owned s' := by
  constructor
  · rw [hst]
    exact h.status
  · rw [NotAbandoned, hst, hmove, hheld]
    exact h.down
  · rw [hst, hmove]
    exact h.live
  · rw [hon, hheld]
    exact h.hook

/-- What stopped and holds nothing may be CONSTRUCTED. -/
theorem Owned.of_down (hst : s.record.base.status = .constructed)
    (hmove : ¬ LastMoveWasInit s.log) (hheld : ¬ BoardGranted s.log) : Owned s := by
  refine ⟨.inl hst, fun _ => ⟨hmove, hheld⟩, fun hs => ?_, fun hh => absurd hh hheld⟩
  rw [hst] at hs
  cases hs

theorem linkedAndValidated_owned (hv : LinkedAndValidated s s') (h : Owned s) : Owned s' := by
  have hact : actions s'.log = actions s.log := by
    obtain ⟨evs, hlog, hevs⟩ := hv.calls
    have hnone : actions evs = [] := by
      rw [actions, List.filterMap_eq_nil_iff]
      intro e hmem
      obtain ⟨fn, pConfig, hcall⟩ := hevs e hmem
      rw [HalEvent.action, hcall]
    rw [hlog, actions_append, hnone, List.nil_append]
  apply h.of_same
  · rw [hv.record]
    rfl
  · rw [hv.record]
    rfl
  · rw [LastMoveWasInit, LastMoveWasInit, hact]
  · rw [BoardGranted, BoardGranted, hact]

/-! ### The board and the port -/

/-- Asking the board does not start the peripheral, and the board is held if it was or if a hook agreed. -/
theorem BoardCall.held_init (h : BoardCall .init s r s') :
    (LastMoveWasInit s'.log ↔ LastMoveWasInit s.log) ∧
      (BoardGranted s'.log ↔ BoardGranted s.log ∨ (s.record.base.onConfig ≠ none ∧ r = .ok)) := by
  cases h with
  | absent hn => simp [hn]
  | @hook fn r x hfn =>
      -- An answer that is not OK is no grant.
      by_cases hr : r = .ok
      · simp [LastMoveWasInit, BoardGranted, BringupAction.moves, BringupAction.movesBoard, hr, hfn]
      · simp [LastMoveWasInit, BoardGranted, BringupAction.moves, BringupAction.movesBoard, hr]

/-- Where there is a hook, the board is released by calling it. -/
theorem BoardCall.held_deinit (h : BoardCall .deinit s r s') :
    (LastMoveWasInit s'.log ↔ LastMoveWasInit s.log) ∧
      (BoardGranted s'.log → BoardGranted s.log ∧ s.record.base.onConfig = none) := by
  cases h with
  | absent hn => exact ⟨Iff.rfl, fun hh => ⟨hh, hn⟩⟩
  | @hook fn r x hfn =>
      simp [LastMoveWasInit, BoardGranted, BringupAction.moves, BringupAction.movesBoard]

theorem SlotCall.moves_init {pApi : Option ApiBase}
    (h : SlotCall pApi .init .notSupported s r s') :
    (LastMoveWasInit s'.log ↔ LastMoveWasInit s.log ∨ r = .ok) ∧
      (BoardGranted s'.log ↔ BoardGranted s.log) := by
  cases h with
  | absent _ => simp
  | @hook fn r x _ =>
      by_cases hr : r = .ok
      · simp [LastMoveWasInit, BoardGranted, BringupAction.moves, BringupAction.movesBoard, hr]
      · simp [LastMoveWasInit, BoardGranted, BringupAction.moves, BringupAction.movesBoard, hr]

theorem SlotCall.moves_deinit {pApi : Option ApiBase}
    (h : SlotCall pApi .deinit .notSupported s r s') :
    (LastMoveWasInit s'.log ↔ LastMoveWasInit s.log ∧ r ≠ .ok) ∧
      (BoardGranted s'.log ↔ BoardGranted s.log) := by
  cases h with
  | absent _ => simp
  | @hook fn r x _ =>
      by_cases hr : r = .ok
      · simp [LastMoveWasInit, BoardGranted, BringupAction.moves, BringupAction.movesBoard, hr]
      · simp [LastMoveWasInit, BoardGranted, BringupAction.moves, BringupAction.movesBoard, hr]

/-! ### Operations -/

theorem InitOutcome.owned {pBase : DriverPtr} {ty : PeripheralType}
    (ho : InitOutcome pBase ty s r s') (h : Owned s) : Owned s' := by
  cases ho with
  | refused _ => exact h
  | alreadyInit _ _ => exact h
  | boardFailed _ _ hr hb =>
      obtain ⟨hmove, hheld⟩ := hb.held_init
      refine h.of_same (by rw [hb.record]) (by rw [hb.record]) hmove ?_
      rw [hheld]
      simp [hr]
  | @rolledBack r r' s₁ s₂ s₃ _ hs hb hi hr hd =>
      obtain ⟨hmove₁, hheld₁⟩ := hb.held_init
      obtain ⟨hmove₂, hheld₂⟩ := hi.moves_init
      obtain ⟨hmove₃, hheld₃⟩ := hd.held_deinit
      obtain ⟨hdown, hfree⟩ := h.down hs
      have hrec : s₂.record = s.record := hi.record.trans hb.record
      refine Owned.of_down ?_ ?_ fun hh => ?_
      · rw [hd.record, hrec]
        exact h.status.resolve_right hs
      · rw [hmove₃, hmove₂, hmove₁]
        rintro (hmove | hok)
        · exact hdown hmove
        · exact hr hok
      · -- What a hook granted, the same hook was asked to take back.
        obtain ⟨hh, hn⟩ := hheld₃ hh
        rw [hheld₂, hheld₁] at hh
        rw [hrec] at hn
        rcases hh with hh | ⟨hsome, -⟩
        · exact hfree hh
        · exact hsome hn
  | @live s₁ s₂ _ hs hb hi =>
      obtain ⟨-, hheld₁⟩ := hb.held_init
      obtain ⟨hmove₂, hheld₂⟩ := hi.moves_init
      obtain ⟨-, hfree⟩ := h.down hs
      refine ⟨.inr rfl, fun hn => absurd rfl hn, fun _ => ?_, fun hh => ?_⟩
      · exact hmove₂.2 (.inr rfl)
      · rw [Conf.written_log, hheld₂, hheld₁] at hh
        rw [Conf.written_record, Driver.setStatus_base_onConfig, hi.record, hb.record]
        rcases hh with hh | ⟨hsome, -⟩
        · exact absurd hh hfree
        · exact hsome

theorem DeinitOutcome.owned {pBase : DriverPtr} {ty : PeripheralType}
    (ho : DeinitOutcome pBase ty s r s') (h : Owned s) : Owned s' := by
  cases ho with
  | refused _ => exact h
  | notLive _ _ => exact h
  | unconstructed _ _ => exact h
  | stopFailed _ _ hd hr =>
      obtain ⟨hmove, hheld⟩ := hd.moves_deinit
      refine h.of_same (by rw [hd.record]) (by rw [hd.record]) ?_ hheld
      rw [hmove]
      simp [hr]
  | @stopped r s₁ s₂ _ _ hd hb =>
      obtain ⟨hmove₁, hheld₁⟩ := hd.moves_deinit
      obtain ⟨hmove₂, hheld₂⟩ := hb.held_deinit
      refine Owned.of_down (by rw [hb.record]; rfl) ?_ fun hh => ?_
      · rw [hmove₂, Conf.written_log, hmove₁]
        simp
      · -- The board was held through a hook, and the hook was called.
        obtain ⟨hh, hn⟩ := hheld₂ hh
        rw [Conf.written_log, hheld₁] at hh
        rw [Conf.written_record, Driver.setStatus_base_onConfig, hd.record] at hn
        exact h.hook hh hn

theorem init_owned (codes : HookCodes W) (mem : ConfigMemory) (driver : DriverPtr) (h : Owned s) :
    Owned (run (.ofCodes codes) (P.init mem driver) s).2 := by
  have hout := init_outcome codes mem (P := P) s driver
  generalize (run (.ofCodes codes) (P.init mem driver) s).1 = r at hout
  generalize (run (.ofCodes codes) (P.init mem driver) s).2 = s' at hout ⊢
  cases hout with
  | initNull => exact h
  | initRejected _ hv => exact linkedAndValidated_owned hv h
  | initBase hv ho => exact ho.owned (linkedAndValidated_owned hv h)
  | upkeep hc _ => cases hc

theorem deinit_owned (codes : HookCodes W) (driver : DriverPtr) (h : Owned s) :
    Owned (run (.ofCodes codes) (P.deinit driver) s).2 := by
  cases driver with
  | null => exact h
  | ref => exact (baseDeinit_outcome codes .ref P.type s).owned h

/-- What overwrites a driver writes CONSTRUCTED and calls no hook. -/
theorem OwnerCall.Overwrites.result {op : OwnerCall P} (hop : op.Overwrites) (mem : ConfigMemory)
    (env : HalEnv W) (s : HalConf W) :
    (run env (op.prog mem) s).2.record.base.status = .constructed ∧
      (run env (op.prog mem) s).2.log = s.log := by
  cases op with
  | populate driver args onConfig arg =>
      obtain rfl : driver = .ref := hop
      exact ⟨rfl, rfl⟩
  | destruct driver =>
      obtain rfl : driver = .ref := hop
      exact ⟨rfl, rfl⟩
  | _ => exact hop.elim

theorem OwnerCall.owned (op : OwnerCall P) (codes : HookCodes W) (mem : ConfigMemory)
    (hop : ¬ (op.Overwrites ∧ s.record.base.status = .initialized)) (h : Owned s) :
    Owned (run (.ofCodes codes) (op.prog mem) s).2 := by
  by_cases hover : op.Overwrites
  · -- Overwritten while it was down, with nothing held.
    obtain ⟨hst, hlog⟩ := hover.result mem (.ofCodes codes) s
    obtain ⟨hmove, hheld⟩ := h.down fun hs => hop ⟨hover, hs⟩
    refine Owned.of_down hst ?_ ?_
    · rw [hlog]
      exact hmove
    · rw [hlog]
      exact hheld
  · cases op with
    | init driver => exact init_owned codes mem driver h
    | deinit driver => exact deinit_owned codes driver h
    | populate driver args onConfig arg =>
        cases driver with
        | null => exact h
        | ref => exact absurd rfl hover
    | destruct driver =>
        cases driver with
        | null => exact h
        | ref => exact absurd rfl hover

end Steps

/-- A run of the owner's operations, with the calls it made. -/
abbrev OwnerRan (W : Type) (P : Peripheral) :=
  Ran Driver HookCall ErrorCode ErrorCode W (OwnerCall P)

/-- The state in which the owner's runs begin: populated, with the board's hook, no hook called yet. -/
def ownedConf (P : Peripheral) (env : HalEnv W) (mem : ConfigMemory) (memory : Driver)
    (args : PopulateArgs) (onConfig : Option FnPtr) (arg : Ptr) (x : W) : HalConf W :=
  (run env ((OwnerCall.populate (P := P) .ref args onConfig arg).prog mem) ⟨memory, x, []⟩).2

/-- Nothing is left behind in exactly the runs that overwrite no live driver. From a driver populated
with any table and any hook for the board, over any operations of its owner, whatever the hooks answer. -/
theorem notAbandoned_iff (P : Peripheral) (mem : ConfigMemory) (codes : HookCodes W)
    (memory : Driver) (args : PopulateArgs) (onConfig : Option FnPtr) (arg : Ptr)
    (ops : List (OwnerCall P)) (x : W) :
    let env : HalEnv W := .ofCodes codes
    let calls := history env (OwnerCall.prog mem) ops
      (ownedConf P env mem memory args onConfig arg x)
    EveryCall (fun (c : OwnerRan W P) _ => NotAbandoned c.after) calls ↔
      EveryCall (fun c _ => ¬ (c.op.Overwrites ∧ c.before.record.base.status = .initialized))
        calls := by
  intro env calls
  have hkeep (op : OwnerCall P) (s : HalConf W) (h : Owned s) :
      NotAbandoned (run env (op.prog mem) s).2 ↔
        ¬ (op.Overwrites ∧ s.record.base.status = .initialized) := by
    constructor
    · -- A live driver that is overwritten is live still, and CONSTRUCTED.
      rintro hafter ⟨hover, hs⟩
      obtain ⟨hst, hlog⟩ := hover.result mem env s
      have hne : (run env (op.prog mem) s).2.record.base.status ≠ .initialized := by
        rw [hst]
        exact DriverStatus.noConfusion
      have hmove := (hafter hne).1
      rw [hlog] at hmove
      exact hmove (h.live hs)
    · intro hop
      exact (op.owned codes mem hop h).down
  refine everyCall_history_iff (fun _ s => Owned s) (fun op s _ h hop => ?_)
    (fun op s _ h => hkeep op s h) ?_ ops
  · exact op.owned codes mem ((hkeep op s h).1 hop) h
  · exact Owned.of_down rfl (by rintro ⟨⟩) (by rintro ⟨⟩)

/-- A UART that is destructed while it is INITIALIZED. -/
theorem destruct_abandons_uart :
    let env : HalEnv Unit := .ofCodes okHooks
    let calls := history env (OwnerCall.prog default) [.init .ref, .destruct .ref]
      (ownedConf .uart env default zeroedDriver fullArgs (some 0) none ())
    ¬ EveryCall (fun (c : OwnerRan Unit .uart) _ => NotAbandoned c.after) calls := by
  intro env calls h
  obtain ⟨hdestruct, -⟩ := (everyCall_cons _ _).1 h
  exact (hdestruct (by decide)).1 rfl

end CaffeineHal
