import CaffeineHal.Driver.Calls
import CaffeineHal.Lock.WithLock
import CaffeineHal.Program.Relational

/-!
# The builds with and without locks

`CFN_HAL_WITH_LOCK` has four bodies: with and without locks (`CFN_HAL_USE_LOCK`), and for functions with and
without arguments. The tests are compiled with locks only. Here the four are written as the header has them,
for any code that can call the base layer, so that one client can be compiled for either build.

A client notes the operations that it runs, with the driver pointer and the arguments that they were given,
and the result of every section. `builds_agree` says that both builds of a client note the same, when the lock
and the unlock hooks of the driver's table are absent or always succeed.
-/

set_option autoImplicit false

namespace CaffeineHal

open CaffeineHal.Program

variable {W : Type}

/-! ## The four macros -/

/-- `CFN_HAL_USE_LOCK`. -/
inductive Build where
  | locked
  | lockFree
  deriving DecidableEq, Repr

section Macros

variable {m : Type → Type} [Monad m] [MonadLiftT HalM m]

/-- `CFN_HAL_WITH_LOCK_0`. -/
def withLock0 (driver : DriverPtr) (timeout : UInt32) (function : DriverPtr → m ErrorCode) :
    m ErrorCode := do
  match driver with
  | .null => return .badParam
  | .ref =>
      let result ← liftM (baseLock .ref timeout)
      if result = .ok then
        let result ← function .ref
        let _ ← liftM (baseUnlock .ref)
        return result
      else
        return result

/-- `CFN_HAL_WITH_LOCK_N`. -/
def withLockN (driver : DriverPtr) (timeout : UInt32) (function : DriverPtr → List Arg → m ErrorCode)
    (args : List Arg) : m ErrorCode := do
  match driver with
  | .null => return .badParam
  | .ref =>
      let result ← liftM (baseLock .ref timeout)
      if result = .ok then
        let result ← function .ref args
        let _ ← liftM (baseUnlock .ref)
        return result
      else
        return result

/-- `CFN_HAL_WITH_LOCK_NO_LOCK_0`. -/
def withLockNoLock0 (driver : DriverPtr) (_timeout : UInt32) (function : DriverPtr → m ErrorCode) :
    m ErrorCode := do
  match driver with
  | .null => return .badParam
  | .ref => function .ref

/-- `CFN_HAL_WITH_LOCK_NO_LOCK_N`. -/
def withLockNoLockN (driver : DriverPtr) (_timeout : UInt32)
    (function : DriverPtr → List Arg → m ErrorCode) (args : List Arg) : m ErrorCode := do
  match driver with
  | .null => return .badParam
  | .ref => function .ref args

/-- `CFN_HAL_WITH_LOCK`, which picks the body by the build and by the number of its arguments. -/
def Build.withLock (build : Build) (driver : DriverPtr) (timeout : UInt32)
    (function : DriverPtr → List Arg → m ErrorCode) (args : List Arg) : m ErrorCode :=
  match build, args with
  | .locked, [] => withLock0 driver timeout fun driver => function driver []
  | .locked, arg :: rest => withLockN driver timeout function (arg :: rest)
  | .lockFree, [] => withLockNoLock0 driver timeout fun driver => function driver []
  | .lockFree, arg :: rest => withLockNoLockN driver timeout function (arg :: rest)

/-- In both builds a section on a NULL driver is refused. -/
@[simp] theorem Build.withLock_null (build : Build) (timeout : UInt32)
    (function : DriverPtr → List Arg → m ErrorCode) (args : List Arg) :
    build.withLock .null timeout function args = pure .badParam := by
  cases build <;> cases args <;> rfl

/-- Without locks, a section is its function. -/
@[simp] theorem Build.withLock_lockFree (timeout : UInt32)
    (function : DriverPtr → List Arg → m ErrorCode) (args : List Arg) :
    Build.lockFree.withLock .ref timeout function args = function .ref args := by
  cases args <;> rfl

/-- With locks, the function runs where the lock is granted, and the code of the unlock is dropped. -/
theorem Build.withLock_locked (timeout : UInt32) (function : DriverPtr → List Arg → m ErrorCode)
    (args : List Arg) :
    Build.locked.withLock .ref timeout function args = (do
      let result ← liftM (baseLock .ref timeout)
      if result = .ok then
        let result ← function .ref args
        let _ ← liftM (baseUnlock .ref)
        return result
      else
        return result) := by
  cases args <;> rfl

end Macros

/-- For the functions of the layer, the two locked bodies are `withLock`. -/
theorem withLock_eq (driver : DriverPtr) (timeout : UInt32)
    (function : DriverPtr → List Arg → HalM ErrorCode) (args : List Arg) :
    Build.locked.withLock driver timeout function args =
      withLock driver timeout (function driver args) := by
  cases driver <;> cases args <;> rfl

/-! ## Clients of both builds -/

/-- The fields that a driver has in both builds: `lock_obj` is a field of the build with locks. -/
def Driver.withoutLock (d : Driver) : Driver :=
  { d with base := { d.base with lockObj := none } }

/-- `driver->lock_obj = handle`. -/
def Driver.setLockObj (handle : Ptr) (d : Driver) : Driver :=
  { d with base := { d.base with lockObj := handle } }

/-- The driver's table is one of `tables`. -/
def OnTables (tables : ApiBase → Prop) (d : Driver) : Prop :=
  ∃ t, d.base.vmt = some t ∧ tables t

/-- An operation of a client: any function of its arguments and of the fields that both builds have, which
leaves the driver on one of the tables. With locks it may also write the handle. -/
structure Primitive (tables : ApiBase → Prop) where
  act : List Arg → Driver → ErrorCode × Driver
  handle : List Arg → Driver → Ptr
  onNull : List Arg → ErrorCode
  keeps : ∀ args d, OnTables tables d → OnTables tables (act args d).2

def Primitive.prog {tables : ApiBase → Prop} (p : Primitive tables) (driver : DriverPtr)
    (args : List Arg) : HalM ErrorCode :=
  match driver with
  | .null => return p.onNull args
  | .ref => do
      let d ← Prog.get
      Prog.modify fun _ => (p.act args d.withoutLock).2.setLockObj (p.handle args d)
      return (p.act args d.withoutLock).1

/-- The body of a function of a client. It runs operations and sections on the driver that the function was
given; what it does next may depend on their results, and a section's function on the arguments that the
macro gives it. -/
inductive ClientBody (Op : Type) where
  | ret (r : ErrorCode)
  | op (o : Op) (args : List Arg) (next : ErrorCode → ClientBody Op)
  | within (timeout : UInt32) (function : List Arg → ClientBody Op) (args : List Arg)
      (next : ErrorCode → ClientBody Op)

/-- What a client notes: the operations with what they were given and their results, and the results of the
sections. -/
inductive ClientNote (Op : Type) where
  | ran (o : Op) (driver : DriverPtr) (args : List Arg) (result : ErrorCode)
  | left (result : ErrorCode)
  deriving DecidableEq

/-- A client, compiled for a build and called with a driver. -/
def Build.client (build : Build) {tables : ApiBase → Prop} {Op : Type} (op : Op → Primitive tables)
    (driver : DriverPtr) : ClientBody Op → Traced (ClientNote Op) Driver HookCall ErrorCode ErrorCode
  | .ret r => return r
  | .op o args next => do
      let result ← liftM ((op o).prog driver args)
      Traced.note (.ran o driver args result)
      client build op driver (next result)
  | .within timeout function args next => do
      -- The function runs on what the macro hands to it.
      let result ← build.withLock driver timeout
        (fun driver args => client build op driver (function args)) args
      Traced.note (.left result)
      client build op driver (next result)

/-- Hooks, and tables whose lock and unlock hooks are absent or always succeed and leave the driver. -/
structure QuietLocks (W : Type) where
  env : HalEnv W
  tables : ApiBase → Prop
  quiet : ∀ t req fn d x, tables t → req.isLocking = true → t.slot req = some fn →
    (env.answer (.vmt fn req) d x).1 = .ok ∧ (env.answer (.vmt fn req) d x).2.1 = d

/-! ## The two builds of a client -/

section Builds

variable (port : QuietLocks W) {driver : DriverPtr}

/-- The drivers of the two builds are one driver, on one of the port's tables. -/
def SameDriver (driver : DriverPtr) (s s' : HalConf W) : Prop :=
  s.record.withoutLock = s'.record.withoutLock ∧
    (driver = .ref → OnTables port.tables s.record)

/-- A lock operation on a driver with a quiet table succeeds and leaves the driver. -/
theorem lockCall_quiet (req : BaseRequest) (hreq : req.isLocking = true) {s : HalConf W}
    (hs : OnTables port.tables s.record) :
    (run port.env (lockCall req) s).1 = .ok ∧
      (run port.env (lockCall req) s).2.record = s.record := by
  obtain ⟨t, ht, hquiet⟩ := hs
  unfold lockCall
  simp only [run_bind, run_get, ht, Option.isNone_some, Bool.false_eq_true, if_false]
  unfold callSlot
  cases hslot : t.slot req with
  | none => simp [hslot]
  | some fn =>
      simp only [Option.bind_some, hslot, run_request]
      exact port.quiet t req fn s.record s.world hquiet hreq hslot

theorem SameDriver.of_record {s s₁ s' : HalConf W} (h : SameDriver port driver s s')
    (hrec : s₁.record = s.record) : SameDriver port driver s₁ s' := by
  rw [SameDriver, hrec]
  exact h

theorem baseLock_quiet (timeout : UInt32) (s s' : HalConf W) (h : SameDriver port .ref s s') :
    (run port.env (baseLock .ref timeout) s).1 = .ok ∧
      SameDriver port .ref (run port.env (baseLock .ref timeout) s).2 s' := by
  obtain ⟨hok, hrec⟩ := lockCall_quiet port (.lock timeout) rfl (h.2 rfl)
  exact ⟨hok, h.of_record port hrec⟩

theorem baseUnlock_quiet (s s' : HalConf W) (h : SameDriver port .ref s s') :
    SameDriver port .ref (run port.env (baseUnlock .ref) s).2 s' := by
  obtain ⟨-, hrec⟩ := lockCall_quiet port .unlock rfl (h.2 rfl)
  exact h.of_record port hrec

/-- An operation cannot see the build. -/
theorem Primitive.prog_same (p : Primitive port.tables) (args : List Arg) (s s' : HalConf W)
    (h : SameDriver port driver s s') :
    (run port.env (p.prog driver args) s).1 = (run port.env (p.prog driver args) s').1 ∧
      SameDriver port driver (run port.env (p.prog driver args) s).2
        (run port.env (p.prog driver args) s').2 := by
  cases driver with
  | null => exact ⟨rfl, h⟩
  | ref =>
      obtain ⟨hsame, htables⟩ := h
      have hact : p.act args s.record.withoutLock = p.act args s'.record.withoutLock := by rw [hsame]
      have hcode : (p.act args s.record.withoutLock).1 = (p.act args s'.record.withoutLock).1 := by
        rw [hact]
      have hfields : (p.act args s.record.withoutLock).2.withoutLock =
          (p.act args s'.record.withoutLock).2.withoutLock := by rw [hact]
      exact ⟨hcode, hfields, fun _ => p.keeps args s.record.withoutLock (htables rfl)⟩

/-- A section around functions that are related on the driver and the arguments is related: the lock is
granted, and what it and the unlock do is not seen. -/
theorem withLock_related (timeout : UInt32) (args : List Arg) {Op : Type}
    {f g : DriverPtr → List Arg → Traced (ClientNote Op) Driver HookCall ErrorCode ErrorCode}
    (h : Related port.env port.env (SameDriver port driver) (f driver args) (g driver args)) :
    Related port.env port.env (SameDriver port driver)
      (Build.locked.withLock driver timeout f args)
      (Build.lockFree.withLock driver timeout g args) := by
  cases driver with
  | null =>
      rw [Build.withLock_null, Build.withLock_null]
      exact related_pure _
  | ref =>
      rw [Build.withLock_locked, Build.withLock_lockFree]
      apply related_before (baseLock_quiet port timeout)
      rw [if_pos rfl]
      exact related_after (baseUnlock_quiet port) h

/-- The two builds of a client are related, however its sections nest. -/
theorem client_related {Op : Type} (op : Op → Primitive port.tables) (p : ClientBody Op) :
    Related port.env port.env (SameDriver port driver)
      (Build.locked.client op driver p) (Build.lockFree.client op driver p) := by
  induction p with
  | ret r => exact related_pure r
  | op o args next ih =>
      apply related_bind (related_lift ((op o).prog_same port args))
      intro result
      exact related_bind (related_note _) fun _ => ih result
  | within timeout function args next ihfunction ihnext =>
      -- Both macros call the function with this driver and these arguments.
      apply related_bind (withLock_related port timeout args (ihfunction args))
      intro result
      exact related_bind (related_note _) fun _ => ihnext result

end Builds

/-- A client does the same in both builds. Whatever its operations do to the driver and however it nests
its sections, with and without arguments, with a driver pointer that is NULL or on a table whose lock and unlock
hooks are absent or always succeed: both builds run the same operations in the same order, with the same driver
pointers, arguments and results, leave every section with the same result, and end with the same driver but for
its lock handle. -/
theorem builds_agree (port : QuietLocks W) {Op : Type} (op : Op → Primitive port.tables)
    (driver : DriverPtr) (p : ClientBody Op) (s s' : HalConf W)
    (hsame : s.record.withoutLock = s'.record.withoutLock)
    (htables : driver = .ref → OnTables port.tables s.record) :
    let locked := runTraced port.env (Build.locked.client op driver p) [] s
    let lockFree := runTraced port.env (Build.lockFree.client op driver p) [] s'
    locked.1 = lockFree.1 ∧ locked.2.record.withoutLock = lockFree.2.record.withoutLock := by
  intro locked lockFree
  obtain ⟨hval, hQ⟩ := client_related port op p [] s s' ⟨hsame, htables⟩
  exact ⟨hval, hQ.1⟩

/-- Hooks that succeed, behind the table of a full port. -/
def fullQuiet : QuietLocks Unit where
  env := .ofCodes okHooks
  tables t := t = fullTable
  quiet _ _ _ _ _ _ _ _ := ⟨rfl, rfl⟩

/-- An operation that keeps its argument in the driver, and its mutex in the handle. -/
def keepConfig : Primitive fullQuiet.tables where
  act
    | [.ptr pConfig], d => (.ok, d.setConfig pConfig)
    | _, d => (.badParam, d)
  handle _ _ := some 7
  onNull _ := .badParam
  keeps args d h := by
    split
    · exact h
    · exact h

/-- A section of a function with an argument around one of a function without, in both builds. -/
theorem builds_agree_uart :
    let s := populatedConf .uart fullQuiet.env zeroedDriver fullArgs ()
    let keep : List Arg → ClientBody Unit := fun args => .op () args .ret
    let p : ClientBody Unit :=
      .within 100 (fun args => .op () args fun _ => .within 5 keep [] .ret) [.ptr (some 1)] .ret
    let locked := runTraced fullQuiet.env (Build.locked.client (fun _ => keepConfig) .ref p) [] s
    let lockFree := runTraced fullQuiet.env (Build.lockFree.client (fun _ => keepConfig) .ref p) [] s
    (locked.1 = lockFree.1 ∧ locked.2.record.withoutLock = lockFree.2.record.withoutLock) ∧
      locked.1.2 = [.left .badParam, .left .badParam, .ran () .ref [] .badParam,
        .ran () .ref [.ptr (some 1)] .ok] :=
  ⟨builds_agree fullQuiet (fun _ => keepConfig) .ref _ _ _ rfl fun _ => ⟨fullTable, rfl, rfl⟩, rfl⟩

end CaffeineHal
