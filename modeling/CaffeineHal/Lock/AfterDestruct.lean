import CaffeineHal.Lock.WithLock
import CaffeineHal.Peripheral.Representation

/-!
# A destructed driver

`destruct` of the port template populates the driver with NULL: it has its tag and is CONSTRUCTED, so some
calls still pass their guards, return OK and store what they are given. None of them reaches a hook: both
table pointers and the board's hook are NULL, and `init` links the table from a NULL pointer
(`destructed_inert`).
-/

set_option autoImplicit false

namespace CaffeineHal

open CaffeineHal.Program

variable {W : Type}

/-- An operation of `P` that does not populate the driver with a table. -/
inductive UseCall (P : Peripheral) where
  | call (c : WrapperCall P)
  | configGet (hasConfig : P ≠ .gpio) (driver : DriverPtr) (pConfig : Ptr)
  | destruct (driver : DriverPtr)

def UseCall.prog {P : Peripheral} (mem : ConfigMemory) : UseCall P → HalM ErrorCode
  | .call c => c.prog mem
  | .configGet hasConfig driver pConfig => (PublicCall.configGet hasConfig driver pConfig).prog mem
  | .destruct driver => P.destruct driver

/-! ## Inert drivers -/

/-- No path leads from the driver to a hook, and it is not live. -/
structure Inert (d : Driver) : Prop where
  vmt : d.base.vmt = none
  api : d.api = none
  onConfig : d.base.onConfig = none
  status : d.base.status ≠ .initialized

/-- On an inert driver the program calls no hook, and leaves the driver inert. -/
def LeavesInert (env : HalEnv W) (p : HalM ErrorCode) : Prop :=
  ∀ s, Inert s.record → Inert (run env p s).2.record ∧ (run env p s).2.log = s.log

section Inert

variable {env : HalEnv W} {P : Peripheral} {ty : PeripheralType} {s : HalConf W}

/-- A program that leaves the state of inert drivers as it is. -/
theorem LeavesInert.of_run {p : HalM ErrorCode} (h : ∀ s, Inert s.record → (run env p s).2 = s) :
    LeavesInert env p := by
  intro s hs
  rw [h s hs]
  exact ⟨hs, rfl⟩

/-- A write that keeps drivers inert may come first. -/
theorem LeavesInert.of_write {f : Driver → Driver} {k : PUnit → HalM ErrorCode}
    (hf : ∀ d, Inert d → Inert (f d)) (hk : LeavesInert env (k ⟨⟩)) :
    LeavesInert env (Prog.modify f >>= k) := by
  intro s hs
  exact hk (s.written f) (hf s.record hs)

theorem LeavesInert.bind {p : HalM ErrorCode} {f : ErrorCode → HalM ErrorCode}
    (hp : LeavesInert env p) (hf : ∀ r, LeavesInert env (f r)) : LeavesInert env (p >>= f) := by
  intro s hs
  obtain ⟨hs₁, hlog₁⟩ := hp s hs
  obtain ⟨hs₂, hlog₂⟩ := hf (run env p s).1 (run env p s).2 hs₁
  rw [run_bind]
  exact ⟨hs₂, hlog₂.trans hlog₁⟩

/-- The test of the driver pointer that a wrapper begins with. -/
theorem nullChecked_leavesInert {driver : DriverPtr} {p : HalM ErrorCode}
    (hp : LeavesInert env p) :
    LeavesInert env (match driver with
      | .null => return .badParam
      | .ref => p : HalM ErrorCode) := by
  cases driver with
  | null => exact fun s hs => ⟨hs, rfl⟩
  | ref => exact hp

theorem Inert.not_linked {d : Driver} (h : Inert d) (pBase : DriverPtr) : ¬ Linked pBase ty d :=
  fun hl => hl.2 h.vmt

theorem callSlot_none (req : BaseRequest) (missing : ErrorCode) :
    callSlot none req missing = pure missing := rfl

/-! ### The base layer -/

theorem baseInit_leavesInert : LeavesInert env (baseInit .ref ty) := by
  refine .of_run fun s hs => ?_
  simp [baseInit, hs.not_linked]

theorem baseDeinit_leavesInert : LeavesInert env (baseDeinit .ref ty) := by
  refine .of_run fun s hs => ?_
  simp [baseDeinit, hs.not_linked]

theorem eventErrorCall_leavesInert (argNull : Bool) (missing : ErrorCode) (req : BaseRequest) :
    LeavesInert env (eventErrorCall .ref ty argNull missing req) := by
  refine .of_run fun s hs => ?_
  simp [eventErrorCall, hs.not_linked]

theorem baseConfigValidate_leavesInert (pConfig : Ptr) :
    LeavesInert env (baseConfigValidate .ref ty pConfig) := by
  refine .of_run fun s hs => ?_
  -- A driver of the type is accepted without asking: there is nobody to ask.
  by_cases ht : Typed .ref ty s.record
  · simp [baseConfigValidate, ht, hs.vmt, callSlot_none]
  · simp [baseConfigValidate, ht]

theorem baseConfigSet_leavesInert (pConfig : Ptr) :
    LeavesInert env (baseConfigSet .ref ty pConfig) := by
  refine .of_run fun s hs => ?_
  by_cases ht : (!decide (Typed .ref ty s.record) || pConfig.isNone) = true
  · simp only [baseConfigSet, run_bind, run_typeRejects, ht, if_true, Prog.pure_eq, run_done]
  · simp only [baseConfigSet, run_bind, run_typeRejects, ht, if_false, run_get, hs.status,
      Prog.pure_eq, run_done, Bool.false_eq_true]

theorem baseCallbackRegister_leavesInert (pCallback pUserArg : Ptr) :
    LeavesInert env (baseCallbackRegister .ref ty pCallback pUserArg) := by
  refine .of_run fun s hs => ?_
  by_cases ht : Typed .ref ty s.record
  · simp [baseCallbackRegister, ht, hs.status]
  · simp [baseCallbackRegister, ht]

theorem powerStateSet_leavesInert (state : PowerState) :
    LeavesInert env (powerStateSet .ref ty state) := by
  intro s hs
  by_cases ht : Typed .ref ty s.record
  swap
  · simp [powerStateSet, ht, hs]
  by_cases hp : s.record.base.powerState = state
  · simp [powerStateSet, ht, hp, hs]
  · -- Written down only, as on any driver that is not live.
    have hstored : Inert (s.record.setPowerState state) := ⟨hs.vmt, hs.api, hs.onConfig, hs.status⟩
    simp [powerStateSet, ht, hp, hs.status, hstored]

/-! ### The wrappers -/

variable (mem : ConfigMemory)

theorem configValidate_leavesInert (driver : DriverPtr) (pConfig : Ptr) :
    LeavesInert env (P.configValidate mem driver pConfig) := by
  rw [Peripheral.configValidate_eq]
  cases driver with
  | null => exact fun s hs => ⟨hs, rfl⟩
  | ref =>
      cases pConfig with
      | none => exact fun s hs => ⟨hs, rfl⟩
      | some address =>
          cases hrej : P.rejects mem address with
          | true =>
              simp only [configValidate, hrej, if_true]
              exact fun s hs => ⟨hs, rfl⟩
          | false =>
              simp only [configValidate, hrej, Bool.false_eq_true, if_false]
              exact baseConfigValidate_leavesInert (some address)

theorem inert_linkVmt {d : Driver} (h : Inert d) : Inert d.linkVmt := by
  -- The table comes from `driver->api`, which is NULL too.
  refine ⟨?_, h.api, h.onConfig, h.status⟩
  rw [Driver.linkVmt_base_vmt, h.api]
  rfl

theorem init_leavesInert (driver : DriverPtr) : LeavesInert env (P.init mem driver) := by
  by_cases hg : P = .gpio
  · subst hg
    apply nullChecked_leavesInert
    exact .of_write (fun _ => inert_linkVmt) baseInit_leavesInert
  · rw [Peripheral.init_eq mem hg]
    apply nullChecked_leavesInert
    apply LeavesInert.of_write fun _ => inert_linkVmt
    intro s hs
    -- The stored configuration is read here, and the rest does not depend on what it is.
    have h : LeavesInert env (P.configValidate mem .ref s.record.config >>= fun error =>
        if error ≠ .ok then return error else baseInit .ref P.type) := by
      refine (configValidate_leavesInert mem .ref s.record.config).bind fun r => ?_
      split
      · exact fun s hs => ⟨hs, rfl⟩
      · exact baseInit_leavesInert
    exact h s hs

theorem configSet_leavesInert (hasConfig : P ≠ .gpio) (driver : DriverPtr) (pConfig : Ptr) :
    LeavesInert env (P.configSet mem hasConfig driver pConfig) := by
  have hstore : LeavesInert env (Prog.modify (Driver.setConfig pConfig) >>= fun _ =>
      baseConfigSet .ref P.type pConfig) :=
    .of_write (fun _ h => ⟨h.vmt, h.api, h.onConfig, h.status⟩) (baseConfigSet_leavesInert pConfig)
  cases hv : P.validates with
  | true =>
      rw [Peripheral.configSet_eq_validated mem hv]
      apply nullChecked_leavesInert
      refine (configValidate_leavesInert mem .ref pConfig).bind fun r => ?_
      split
      · exact fun s hs => ⟨hs, rfl⟩
      · exact hstore
  | false =>
      rw [Peripheral.configSet_eq_unchecked mem hv hasConfig]
      exact nullChecked_leavesInert hstore

theorem specific_leavesInert (func : SpecificFn) (driver : DriverPtr) (args : List Arg) :
    LeavesInert env (func.call driver args) := by
  apply nullChecked_leavesInert
  refine .of_run fun s hs => ?_
  by_cases ht : s.record.base.type = func.peripheral.type
  · simp [ht, hs.api]
  · simp [ht]

theorem WrapperCall.leavesInert (c : WrapperCall P) : LeavesInert env (c.prog mem) := by
  by_cases he : c.isEventError = true
  · obtain ⟨driver, _, _, _, -, hprog, -⟩ := c.eventError_eq mem he
    rw [hprog]
    apply nullChecked_leavesInert
    exact eventErrorCall_leavesInert _ _ _
  cases c with
  | init driver => exact init_leavesInert mem driver
  | configValidate driver pConfig => exact configValidate_leavesInert mem driver pConfig
  | configSet hasConfig driver pConfig => exact configSet_leavesInert mem hasConfig driver pConfig
  | specific func own driver args => exact specific_leavesInert func driver args
  | callbackRegister driver callback pUserArg =>
      apply nullChecked_leavesInert
      exact .of_write (fun _ h => ⟨h.vmt, h.api, h.onConfig, h.status⟩)
        (baseCallbackRegister_leavesInert callback pUserArg)
  | deinit driver =>
      apply nullChecked_leavesInert
      exact baseDeinit_leavesInert
  | powerStateSet driver state =>
      apply nullChecked_leavesInert
      exact powerStateSet_leavesInert state
  | _ => exact absurd rfl he

theorem destruct_inert (P : Peripheral) (s : HalConf W) :
    Inert (run env (P.destruct .ref) s).2.record :=
  ⟨rfl, rfl, rfl, DriverStatus.noConfusion⟩

theorem UseCall.leavesInert (c : UseCall P) : LeavesInert env (c.prog mem) := by
  cases c with
  | call c => exact c.leavesInert mem
  | configGet hasConfig driver pConfig =>
      refine .of_run fun s _ => ?_
      simp only [UseCall.prog, PublicCall.prog, run_bind, configGet_record]
      rfl
  | destruct driver =>
      cases driver with
      | null => exact fun s hs => ⟨hs, rfl⟩
      | ref => exact fun s _ => ⟨destruct_inert P s, rfl⟩

/-- The lock of an inert driver is refused, so the function does not run. -/
theorem withLock_leavesInert (driver : DriverPtr) (timeout : UInt32) (function : HalM ErrorCode) :
    LeavesInert env (withLock driver timeout function) := by
  apply nullChecked_leavesInert
  refine .of_run fun s hs => ?_
  simp [baseLock, hs.vmt]

end Inert

/-- A destructed driver is inert. Whatever state the driver was in when `destruct` ran, no client that
does not construct it again reaches a hook through it or makes it INITIALIZED: neither with calls of its
interface nor with sections around them, whatever the arguments. -/
theorem destructed_inert (P : Peripheral) (mem : ConfigMemory) (env : HalEnv W)
    (client : LockProgram (UseCall P)) (s : HalConf W) :
    let destructed := (run env (P.destruct .ref) s).2
    let after := (run env (client.prog (UseCall.prog mem)) destructed).2
    after.log = s.log ∧ after.record.base.status ≠ .initialized := by
  intro destructed after
  have h : LeavesInert env (client.prog (UseCall.prog mem)) :=
    Sections.eval_induct (fun r s hs => ⟨hs, rfl⟩) (fun c => c.leavesInert mem)
      (fun args p _ => withLock_leavesInert args.driver args.timeout p)
      (fun p f hp hf => hp.bind hf) client
  obtain ⟨hinert, hlog⟩ := h destructed (destruct_inert P s)
  exact ⟨hlog, hinert.status⟩

end CaffeineHal
