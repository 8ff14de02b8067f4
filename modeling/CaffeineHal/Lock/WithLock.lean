import CaffeineHal.Peripheral.Isolation
import CaffeineHal.Program.Sections
import CaffeineHal.Program.Serial

/-!
# `CFN_HAL_WITH_LOCK`

The macro that runs a function of the driver under the port's lock, in the build with
`CFN_HAL_USE_LOCK = 1`, and clients that use it on one driver whose port implements the lock as a mutex
(`MutexPort`). A function may be the body of a section (`LockedSection`) when its steps leave `base.vmt`
alone and do not unlock; the calls of a peripheral's interface are such functions
(`LockedSection.ofCall`).

`withLock_serialisable` is the guarantee of the macro over every interleaving of the clients' steps.
-/

set_option autoImplicit false

namespace CaffeineHal

open CaffeineHal.Program

variable {W : Type}

/-! ## The macro -/

/-- `CFN_HAL_WITH_LOCK_0` and `CFN_HAL_WITH_LOCK_N`; `function` is the call with its arguments. -/
def withLock (driver : DriverPtr) (timeout : UInt32) (function : HalM ErrorCode) :
    HalM ErrorCode := do
  match driver with
  | .null => return .badParam
  | .ref =>
      let result ← baseLock .ref timeout
      if result = .ok then
        let result ← function
        -- `(void) cfn_hal_base_unlock(...)`
        let _ ← baseUnlock .ref
        return result
      else
        return result

/-- The arguments of the macro before the function. -/
structure LockArgs where
  driver : DriverPtr
  timeout : UInt32
  deriving DecidableEq, Repr

/-- A client of one driver: operations, and sections around them. -/
abbrev LockProgram (Op : Type) := Sections Op LockArgs ErrorCode

def LockProgram.prog {Op : Type} (op : Op → HalM ErrorCode) (p : LockProgram Op) : HalM ErrorCode :=
  p.eval op fun args function => withLock args.driver args.timeout function

/-- What the macro does with the answer of the lock. -/
def afterLock (function : HalM ErrorCode) (result : ErrorCode) : HalM ErrorCode :=
  if result = .ok then function >>= fun result => baseUnlock .ref >>= fun _ => pure result
  else pure result

/-! ## A port whose lock is a mutex -/

def HookCall.isLock : HookCall → Bool
  | .vmt _ (.lock _) => true
  | _ => false

def HookCall.isUnlock : HookCall → Bool
  | .vmt _ .unlock => true
  | _ => false

/-- The hooks of a port with a mutex: `lock` takes it and returns OK if it is free, and otherwise returns
an error and changes nothing; `unlock` frees it. The other hooks do as they like. -/
structure MutexPort (W : Type) where
  hooks : HalEnv W
  refusal : UInt32 → Driver → W → ErrorCode
  refusal_ne_ok : ∀ timeout d x, refusal timeout d x ≠ .ok
  unlocked : Driver → W → ErrorCode

/-- The world of such a port says also whether the mutex is taken. -/
def MutexPort.env (port : MutexPort W) : HalEnv (Bool × W) where
  answer c d x :=
    match c with
    | .vmt _ (.lock timeout) =>
        if x.1 then (port.refusal timeout d x.2, d, x) else (.ok, d, true, x.2)
    | .vmt _ .unlock => (port.unlocked d x.2, d, false, x.2)
    | c =>
        let out := port.hooks.answer c d x.2
        (out.1, out.2.1, x.1, out.2.2)

namespace MutexPort

variable (port : MutexPort W)

theorem answer_lock (fn : FnPtr) (timeout : UInt32) (d : Driver) (x : Bool × W) :
    port.env.answer (.vmt fn (.lock timeout)) d x =
      if x.1 then (port.refusal timeout d x.2, d, x) else (.ok, d, true, x.2) := rfl

theorem answer_other {c : HookCall} (hlock : c.isLock = false) (hunlock : c.isUnlock = false)
    (d : Driver) (x : Bool × W) :
    port.env.answer c d x =
      ((port.hooks.answer c d x.2).1, (port.hooks.answer c d x.2).2.1, x.1,
        (port.hooks.answer c d x.2).2.2) := by
  cases c with
  | onConfig fn arg phase => rfl
  | api fn slot args => rfl
  | vmt fn req =>
      cases req with
      | lock timeout => cases hlock
      | unlock => cases hunlock
      | _ => rfl

/-- The lock of the port, as a mutex. -/
def mutex : Mutex port.env where
  acquires := HookCall.isLock
  releases := HookCall.isUnlock
  granted r := decide (r = .ok)
  held := Prod.fst
  apart := by
    intro c hlock
    cases c with
    | onConfig fn arg phase => rfl
    | api fn slot args => rfl
    | vmt fn req => cases req <;> first | rfl | cases hlock
  take := by
    rintro c d ⟨held, x⟩ hlock rfl
    cases c with
    | onConfig fn arg phase => cases hlock
    | api fn slot args => cases hlock
    | vmt fn req => cases req <;> first | exact ⟨rfl, rfl, rfl⟩ | cases hlock
  refuse := by
    rintro c d ⟨held, x⟩ hlock rfl
    cases c with
    | onConfig fn arg phase => cases hlock
    | api fn slot args => cases hlock
    | vmt fn req =>
        cases req with
        | lock timeout =>
            rw [answer_lock]
            exact ⟨decide_eq_false (port.refusal_ne_ok timeout d x), rfl⟩
        | _ => cases hlock
  free := by
    rintro c d ⟨held, x⟩ hunlock
    cases c with
    | onConfig fn arg phase => cases hunlock
    | api fn slot args => cases hunlock
    | vmt fn req => cases req <;> first | exact ⟨rfl, rfl⟩ | cases hunlock
  keep := by
    intro c d x hlock hunlock
    rw [port.answer_other hlock hunlock]

end MutexPort

/-! ## Sections -/

/-- A base table with a lock and an unlock hook. -/
structure LockTable where
  table : ApiBase
  lockFn : FnPtr
  unlockFn : FnPtr
  lock_eq : table.lock = some lockFn
  unlock_eq : table.unlock = some unlockFn

/-- A section of `CFN_HAL_WITH_LOCK`. Its function keeps, step by step, a condition on the driver, and does
not unlock. -/
structure LockedSection (port : MutexPort W) (inv : Driver → Prop) where
  timeout : UInt32
  function : HalM ErrorCode
  keeps : ∀ d x, inv d → Keeps port.mutex inv function d x

def LockedSection.prog {port : MutexPort W} {inv : Driver → Prop}
    (sec : LockedSection port inv) : HalM ErrorCode :=
  withLock .ref sec.timeout sec.function

section Sections

variable {port : MutexPort W} {inv : Driver → Prop} {t : LockTable}

/-- On drivers with the table, a lock function reads the driver and then calls its hook. -/
theorem lockCall_entering (hvmt : ∀ d, inv d → d.base.vmt = some t.table) {req : BaseRequest}
    {fn : FnPtr} (hslot : t.table.slot req = some fn) (f : ErrorCode → HalM ErrorCode) :
    Entering inv (.vmt fn req) f (lockCall req >>= f) := by
  -- The table is read once for the guard and once for the call.
  refine Entering.read fun d hd => ?_
  show Entering inv _ _ ((if d.base.vmt.isNone = true then pure .badParam
    else Prog.get >>= fun d => callSlot d.base.vmt req .ok) >>= f)
  rw [hvmt d hd]
  refine Entering.read fun d hd => ?_
  show Entering inv _ _ (callSlot d.base.vmt req .ok >>= f)
  have hbind : ((some t.table).bind fun t => t.slot req) = some fn := hslot
  simp only [hvmt d hd, callSlot, hbind]
  exact Entering.call

/-- The macro begins with the lock. -/
theorem withLock_entering (hvmt : ∀ d, inv d → d.base.vmt = some t.table) (timeout : UInt32)
    (function : HalM ErrorCode) :
    Entering inv (.vmt t.lockFn (.lock timeout)) (afterLock function)
      (withLock .ref timeout function) := by
  have hslot : t.table.slot (.lock timeout) = some t.lockFn := t.lock_eq
  exact lockCall_entering hvmt hslot (afterLock function)

/-- The macro's last step frees the mutex. -/
theorem baseUnlock_holding (hvmt : ∀ d, inv d → d.base.vmt = some t.table) (result : ErrorCode)
    (d : Driver) (x : Bool × W) (hd : inv d) :
    Holding port.mutex inv (baseUnlock .ref >>= fun _ => pure result) d x := by
  have hslot : t.table.slot .unlock = some t.unlockFn := t.unlock_eq
  have henter := lockCall_entering hvmt hslot fun _ => (pure result : HalM ErrorCode)
  exact henter.holding hd ⟨result, rfl⟩

/-- The macro is a section. -/
def LockedSection.critical (hvmt : ∀ d, inv d → d.base.vmt = some t.table)
    (sec : LockedSection port inv) : Critical port.mutex inv sec.prog where
  request := .vmt t.lockFn (.lock sec.timeout)
  next := afterLock sec.function
  acquires := rfl
  enter := withLock_entering hvmt sec.timeout sec.function
  refused := by
    intro r hr
    exact if_neg (of_decide_eq_false hr)
  holding := by
    intro r d x hr hd
    rw [afterLock, if_pos (of_decide_eq_true hr)]
    exact Holding.bind (sec.keeps d x hd) hd (baseUnlock_holding hvmt)

/-- What the other hooks keep, every hook keeps. -/
theorem MutexPort.env_maintains (h : port.hooks.Maintains inv) : port.env.Maintains inv := by
  intro c d x hd
  cases hlock : c.isLock with
  | true =>
      cases hheld : port.mutex.held x with
      | true =>
          rw [(port.mutex.refuse c d x hlock hheld).2]
          exact hd
      | false =>
          rw [(port.mutex.take c d x hlock hheld).2.1]
          exact hd
  | false =>
      cases hunlock : c.isUnlock with
      | true =>
          rw [(port.mutex.free c d x hunlock).1]
          exact hd
      | false =>
          rw [port.answer_other hlock hunlock]
          exact h c d x.2 hd

/-- A program that keeps the condition and makes no lock operation may run under the lock. -/
theorem MutexPort.keeps_of_maintains (hhooks : port.hooks.Maintains inv) {p : HalM ErrorCode}
    (hp : p.Maintains HookCall.LeavesLock inv) {d : Driver} (hd : inv d) (x : Bool × W) :
    Keeps port.mutex inv p d x := by
  refine hp.keeps (port.env_maintains hhooks) (fun c hc => ?_) hd x
  cases c with
  | onConfig fn arg phase => rfl
  | api fn slot args => rfl
  | vmt fn req =>
      -- No lock operation, so no unlock.
      have hreq := hc fn req rfl
      cases req <;> first | rfl | cases hreq

/-- A call of a peripheral's interface under the lock. -/
def LockedSection.ofCall {P : Peripheral} (mem : ConfigMemory) (h : KeptByLayer inv)
    (hhooks : port.hooks.Maintains inv) (timeout : UInt32) (c : WrapperCall P) :
    LockedSection port inv where
  timeout := timeout
  function := c.prog mem
  keeps := fun _ x hd => port.keeps_of_maintains hhooks (c.maintains h) hd x

end Sections

/-! ## The guarantee -/

/-- `CFN_HAL_WITH_LOCK` serialises its sections. Any clients, each with a list of sections on one
driver, under any schedule of their steps: at most one is between its lock and its unlock; one whose lock
failed has made no other call and has the error as its result; and when all are done, the driver and the
results are those of the other sections run one after another in lock order. -/
theorem withLock_serialisable {ι : Type} [DecidableEq ι] (port : MutexPort W) {inv : Driver → Prop}
    (t : LockTable) (hvmt : ∀ d, inv d → d.base.vmt = some t.table)
    (sections : ι → List (LockedSection port inv)) (d : Driver) (hd : inv d) (x : W)
    (schedule : List ι) :
    let st := play port.env LockedSection.prog sections schedule (.start d (false, x))
    (∀ a b, port.mutex.Inside st.trace a → port.mutex.Inside st.trace b → a = b) ∧
      (∀ a e, (a, e) ∈ st.trace → a ∉ port.mutex.order st.trace →
        port.mutex.Refused st.trace a e.answer ∧ st.Settled a e.answer) ∧
      (st.Finished sections →
        Serialised port.mutex LockedSection.prog sections d (false, x) st) := by
  intro st
  obtain ⟨holder, h⟩ : ∃ holder,
      Coherent (fun sec => sec.critical hvmt) sections d (false, x) holder st :=
    play_coherent hd rfl schedule
  refine ⟨fun a b ha hb => h.exclusive ha hb, fun a e he horder => ?_, h.serialised⟩
  exact h.refused he horder

/-- A port whose hooks succeed, with a mutex that is BUSY when it is taken. -/
def busyPort : MutexPort Unit where
  hooks := .ofCodes okHooks
  refusal := fun _ _ _ => .busy
  refusal_ne_ok := fun _ _ _ => nofun
  unlocked := fun _ _ => .ok

/-- The table of a port that implements every hook. -/
def fullLockTable : LockTable where
  table := fullTable
  lockFn := 13
  unlockFn := 14
  lock_eq := rfl
  unlock_eq := rfl

/-- Two clients that switch the power of one UART: the second one asks for the lock while the first one has it,
and both come to their end. -/
theorem withLock_serialisable_uart :
    let inv : Driver → Prop := fun d =>
      d.base.vmt = some fullTable ∧ d.api.map Api.base = some fullTable
    let off : LockedSection busyPort inv := .ofCall (P := .uart) default (keptByLayer_vmt fullTable)
      (fun _ _ _ hd => hd) 100 (.powerStateSet .ref .off)
    let sections : Bool → List (LockedSection busyPort inv) := fun _ => [off]
    let d := (populatedConf .uart (.ofCodes okHooks) zeroedDriver fullArgs ()).record
    let schedule := List.replicate 4 true ++ List.replicate 6 false ++ List.replicate 20 true
    let st := play busyPort.env LockedSection.prog sections schedule (.start d (false, ()))
    ((∀ a b, busyPort.mutex.Inside st.trace a → busyPort.mutex.Inside st.trace b → a = b) ∧
      (∀ a e, (a, e) ∈ st.trace → a ∉ busyPort.mutex.order st.trace →
        busyPort.mutex.Refused st.trace a e.answer ∧ st.Settled a e.answer) ∧
      (st.Finished sections →
        Serialised busyPort.mutex LockedSection.prog sections d (false, ()) st)) ∧
      (st.clients true).results = [.ok] ∧ (st.clients false).results = [.busy] ∧
      st.Finished sections :=
  ⟨withLock_serialisable busyPort fullLockTable (fun _ hd => hd.1) _ _ ⟨rfl, rfl⟩ () _,
    by decide +kernel, by decide +kernel, fun client =>
      ⟨Option.isNone_iff_eq_none.1 (by revert client; decide +kernel),
        by revert client; decide +kernel⟩⟩

end CaffeineHal
