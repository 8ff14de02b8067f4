import CaffeineHal.Lock.Builds

/-!
# Construction and the lock handle

Populating a driver is meant to make its memory a driver whatever was in it before, and `construct` and
`destruct` of the port template are population. The function and the macro that do it write every field of
the record but `lock_obj`, which only the build with locks has.

`reset_iff` says that two runs of such a call on different memory end in the same record exactly when the
memory had the same lock handle; `lock_called_with_old_handle` says where the handle of the memory goes, a
section around the first `init`.
-/

set_option autoImplicit false

namespace CaffeineHal

open CaffeineHal.Program

variable {W : Type}

/-- A call that makes a driver of the memory. -/
inductive ResetCall where
  | populate (args : PopulateArgs)
  | construct (portApi : Api) (phy : Nat) (config clock dependency callback userArg : Ptr)
  | destruct

namespace ResetCall

def prog (P : Peripheral) : ResetCall → HalM ErrorCode
  | .populate args => do
      P.populate .ref args
      return .ok
  | .construct portApi phy config clock dependency callback userArg =>
      P.construct portApi .ref config (some phy) clock dependency callback userArg
  | .destruct => P.destruct .ref

/-- What the driver is populated with. -/
def args : ResetCall → PopulateArgs
  | .populate args => args
  | .construct portApi phy config clock dependency callback userArg =>
      { peripheralId := 0, clock, dependency, api := some portApi, phy := some phy, config, callback
        userArg }
  | .destruct =>
      { peripheralId := 0, clock := none, dependency := none, api := none, phy := none
        config := none, callback := none, userArg := none }

end ResetCall

/-- The driver that the arguments make, without a lock handle. -/
def Peripheral.fresh (P : Peripheral) (args : PopulateArgs) : Driver where
  base :=
    { type := P.type, status := .constructed, powerState := .unknown, clockDriver := args.clock
      lockObj := none, onConfig := none, onConfigArg := none, dependency := args.dependency
      extension := none, flags := 0, peripheralId := args.peripheralId
      vmt := args.api.map Api.base }
  config := if P = .gpio then none else args.config
  api := args.api
  phy := args.phy
  cb := args.callback
  cbUserArg := args.userArg

section Reset

variable (P : Peripheral) (env : HalEnv W) (op : ResetCall)

/-- The record depends on the memory through its lock handle only. -/
theorem ResetCall.run_eq (s : HalConf W) :
    run env (op.prog P) s =
      (.ok, s.written fun d => (P.fresh op.args).setLockObj d.base.lockObj) := by
  cases op with
  | populate args => rfl
  | construct portApi phy config clock dependency callback userArg => rfl
  | destruct => rfl

theorem setLockObj_inj {d : Driver} {handle handle' : Ptr} :
    d.setLockObj handle = d.setLockObj handle' ↔ handle = handle' := by
  constructor
  · intro h
    exact congrArg (fun d : Driver => d.base.lockObj) h
  · rintro rfl
    rfl

/-- In the fields that both builds have, nothing of the memory survives. -/
theorem reset_withoutLock (s s' : HalConf W) :
    (run env (op.prog P) s).2.record.withoutLock =
      (run env (op.prog P) s').2.record.withoutLock := by
  rw [ResetCall.run_eq, ResetCall.run_eq]
  rfl

/-- Construction resets the driver exactly as far as the lock handle goes: on two memories it leaves the
same record when they held the same handle, and only then. -/
theorem reset_iff (memory memory' : Driver) (x x' : W) (log log' : List HalEvent) :
    (run env (op.prog P) ⟨memory, x, log⟩).2.record =
        (run env (op.prog P) ⟨memory', x', log'⟩).2.record ↔
      memory.base.lockObj = memory'.base.lockObj := by
  rw [ResetCall.run_eq, ResetCall.run_eq]
  exact setLockObj_inj

variable {P env op}

/-- A section calls the lock hook of the driver first, on the driver as it is. -/
theorem withLock_calls_lock (timeout : UInt32) (function : HalM ErrorCode) {fn : FnPtr}
    {s : HalConf W} (hfn : s.record.base.hook (.lock timeout) = some fn) :
    ∃ evs r, (run env (withLock .ref timeout function) s).2.log =
      evs ++ ⟨.vmt fn (.lock timeout), s.record, r⟩ :: s.log := by
  have hlock : run env (baseLock .ref timeout) s =
      (s.reply env (.vmt fn (.lock timeout)), s.answered env (.vmt fn (.lock timeout))) := by
    obtain ⟨t, ht, hslot⟩ := Option.bind_eq_some_iff.1 hfn
    simp [baseLock, callSlot, ht, hslot]
  obtain ⟨evs, hlog⟩ := run_log env
    (afterLock function (s.reply env (.vmt fn (.lock timeout))))
    (s.answered env (.vmt fn (.lock timeout)))
  refine ⟨evs, s.reply env (.vmt fn (.lock timeout)), ?_⟩
  show (run env (baseLock .ref timeout >>= afterLock function) s).2.log = _
  rw [run_bind, hlock]
  exact hlog

/-- The first section on a new driver hands the port's lock hook the handle that the memory held. -/
theorem lock_called_with_old_handle (timeout : UInt32) (function : HalM ErrorCode) {fn : FnPtr}
    (s : HalConf W) (hfn : (P.fresh op.args).base.hook (.lock timeout) = some fn) :
    let constructed := (run env (op.prog P) s).2
    ∃ evs e, (run env (withLock .ref timeout function) constructed).2.log =
        evs ++ e :: constructed.log ∧
      e.call = .vmt fn (.lock timeout) ∧ e.record.base.lockObj = s.record.base.lockObj := by
  intro constructed
  have hconstructed : constructed =
      s.written fun d => (P.fresh op.args).setLockObj d.base.lockObj := by
    show (run env (op.prog P) s).2 = _
    rw [ResetCall.run_eq]
  obtain ⟨evs, r, hlog⟩ := withLock_calls_lock (s := constructed) timeout function
    (by rw [hconstructed]; exact hfn)
  refine ⟨evs, _, hlog, rfl, ?_⟩
  rw [hconstructed]
  rfl

end Reset

/-- A UART constructed in memory that still holds a mutex is not the one constructed in zeroed memory. -/
theorem constructed_uart_keeps_handle :
    let env : HalEnv Unit := .ofCodes okHooks
    let op : ResetCall := .construct ⟨fullTable, fun _ => some 20⟩ 1 (some 0) none none none none
    ¬ (run env (op.prog .uart) ⟨zeroedDriver, (), []⟩).2.record =
      (run env (op.prog .uart) ⟨zeroedDriver.setLockObj (some 7), (), []⟩).2.record := by
  intro env op h
  have hhandle := congrArg (fun d : Driver => d.base.lockObj) h
  cases hhandle

end CaffeineHal
