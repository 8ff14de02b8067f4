import CaffeineHal.Driver.Calls
import CaffeineHal.Driver.Frame
import CaffeineHal.Peripheral.Wrapper

/-!
# Peripheral isolation

Every wrapper reaches a guard on the type tag before it calls a hook, so on a driver of another type
it calls none and reports an error (`WrapperCall.refused`), even where it wrote a field first. Every
operation of a peripheral keeps the tag of its drivers (`PeripheralCall.maintains`), and no two
peripherals share a tag. Together: `peripheral_isolation`.

The hooks here are an arbitrary environment that may write the record, as long as it leaves the tag.
-/

set_option autoImplicit false

namespace CaffeineHal

open CaffeineHal.Program Prog

variable {W : Type}

/-! ## Operations keep the tag -/

section Maintains

variable {calls : HookCall → Prop} {inv : Driver → Prop} {P : Peripheral} {mem : ConfigMemory}

/-- The test of the driver pointer that a wrapper begins with. -/
theorem nullChecked_maintains {driver : DriverPtr} {p : HalM ErrorCode}
    (hp : p.Maintains calls inv) :
    (match driver with
      | .null => return .badParam
      | .ref => p : HalM ErrorCode).Maintains calls inv := by
  cases driver with
  | null => exact maintains_done _
  | ref => exact hp

section Base

variable [BaseCalls calls]

theorem configValidate_maintains (driver : DriverPtr) (pConfig : Ptr) :
    (P.configValidate mem driver pConfig).Maintains calls inv := by
  rw [Peripheral.configValidate_eq]
  cases driver with
  | null => exact maintains_done _
  | ref =>
      cases pConfig with
      | none => exact maintains_done _
      | some address =>
          exact maintains_ite trivial (baseConfigValidate_maintains .ref P.type (some address))

variable (h : KeptByLayer inv)
include h

theorem init_maintains (driver : DriverPtr) :
    (P.init mem driver).Maintains calls inv := by
  by_cases hg : P = .gpio
  · subst hg
    apply nullChecked_maintains
    refine maintains_bind (maintains_modify h.linkVmt) fun _ => ?_
    exact baseInit_maintains h .ref _
  · rw [Peripheral.init_eq mem hg]
    apply nullChecked_maintains
    refine maintains_bind (maintains_modify h.linkVmt) fun _ => ?_
    refine maintains_bind maintains_get fun d => ?_
    refine maintains_bind (configValidate_maintains .ref d.config) fun _ => ?_
    exact maintains_ite trivial (baseInit_maintains h .ref _)

theorem configSet_maintains (hasConfig : P ≠ .gpio) (driver : DriverPtr) (pConfig : Ptr) :
    (P.configSet mem hasConfig driver pConfig).Maintains calls inv := by
  cases hv : P.validates with
  | true =>
      rw [Peripheral.configSet_eq_validated mem hv]
      apply nullChecked_maintains
      refine maintains_bind (configValidate_maintains .ref pConfig) fun _ => ?_
      refine maintains_ite trivial ?_
      refine maintains_bind (maintains_modify (h.setConfig _)) fun _ => ?_
      exact baseConfigSet_maintains .ref _ _
  | false =>
      rw [Peripheral.configSet_eq_unchecked mem hv hasConfig]
      apply nullChecked_maintains
      refine maintains_bind (maintains_modify (h.setConfig _)) fun _ => ?_
      exact baseConfigSet_maintains .ref _ _

/-- The call of a specific function, which goes to the typed table. -/
def WrapperCall.IsSpecific : WrapperCall P → Prop
  | .specific _ _ _ _ => True
  | _ => False

/-- Every other call of an interface goes to the base layer, and keeps what the layer does not write. -/
theorem WrapperCall.maintains_base (c : WrapperCall P) (hc : ¬ c.IsSpecific) :
    (c.prog mem).Maintains calls inv := by
  by_cases he : c.isEventError = true
  · obtain ⟨driver, _, _, _, hreq, hprog, -⟩ := c.eventError_eq mem he
    rw [hprog]
    apply nullChecked_maintains
    exact eventErrorCall_maintains .ref _ _ _ _ (BaseRequest.not_locking_of_eventError hreq)
  cases c with
  | init driver => exact init_maintains h driver
  | configValidate driver pConfig => exact configValidate_maintains driver pConfig
  | configSet hasConfig driver pConfig => exact configSet_maintains h hasConfig driver pConfig
  | specific func own driver args => exact absurd trivial hc
  | callbackRegister driver callback pUserArg =>
      apply nullChecked_maintains
      refine maintains_bind (maintains_modify (h.setCallback _ _)) fun _ => ?_
      exact baseCallbackRegister_maintains .ref _ _ _
  | deinit driver =>
      apply nullChecked_maintains
      exact baseDeinit_maintains h .ref _
  | powerStateSet driver state =>
      apply nullChecked_maintains
      exact powerStateSet_maintains h .ref _ _
  | _ => exact absurd rfl he

end Base

theorem specific_maintains (func : SpecificFn) (driver : DriverPtr) (args : List Arg) :
    (func.call driver args).Maintains HookCall.LeavesLock inv := by
  apply nullChecked_maintains
  refine maintains_bind maintains_get fun d => maintains_ite ?_ trivial
  cases d.api with
  | none => exact maintains_done _
  | some api =>
      cases hslot : api.specific func with
      | none =>
          simp only [hslot]
          exact maintains_done _
      | some fn =>
          simp only [hslot]
          exact maintains_request nofun

/-- Every call of an interface keeps what the layer does not write. -/
theorem WrapperCall.maintains (h : KeptByLayer inv) (c : WrapperCall P) :
    (c.prog mem).Maintains HookCall.LeavesLock inv := by
  cases c with
  | specific func own driver args => exact specific_maintains func driver args
  | _ => exact WrapperCall.maintains_base h _ id

end Maintains

/-- An operation of `P` in a run: a call of its interface, or one of the operations of its owner, which
populates, constructs and destructs the driver and sets the board's hook. -/
inductive PeripheralCall (P : Peripheral) where
  | call (c : WrapperCall P)
  | populate (driver : DriverPtr) (args : PopulateArgs)
  | construct (portApi : Api) (driver : DriverPtr)
      (config phy clock dependency callback userArg : Ptr)
  | destruct (driver : DriverPtr)
  | setOnConfig (onConfig : Option FnPtr) (arg : Ptr)

def PeripheralCall.prog {P : Peripheral} (mem : ConfigMemory) : PeripheralCall P → HalM ErrorCode
  | .call c => c.prog mem
  | .populate driver args => do
      P.populate driver args
      return .ok
  | .construct portApi driver config phy clock dependency callback userArg =>
      P.construct portApi driver config phy clock dependency callback userArg
  | .destruct driver => P.destruct driver
  | .setOnConfig onConfig arg => do
      Prog.modify (Driver.setOnConfig onConfig arg)
      return .ok

theorem populate_maintains (P : Peripheral) (driver : DriverPtr) (args : PopulateArgs) :
    (P.populate driver args).Maintains HookCall.LeavesLock fun d => d.base.type = P.type := by
  cases driver with
  | null => exact maintains_done _
  | ref =>
      exact maintains_bind (maintains_modify fun _ _ => rfl) fun _ => maintains_modify fun _ h => h

/-- Every operation of `P` keeps the tag of `P`. -/
theorem PeripheralCall.maintains {P : Peripheral} (mem : ConfigMemory) (op : PeripheralCall P) :
    (op.prog mem).Maintains HookCall.LeavesLock fun d => d.base.type = P.type := by
  cases op with
  | call c => exact c.maintains (keptByLayer_type P.type)
  | populate driver args =>
      exact maintains_bind (populate_maintains P driver args) fun _ => maintains_done _
  | construct portApi driver config phy clock dependency callback userArg =>
      refine maintains_ite trivial ?_
      exact maintains_bind (populate_maintains P driver _) fun _ => maintains_done _
  | destruct driver =>
      refine maintains_ite trivial ?_
      exact maintains_bind (populate_maintains P driver _) fun _ => maintains_done _
  | setOnConfig onConfig arg =>
      exact maintains_bind (maintains_modify fun _ h => h) fun _ => maintains_done _

/-! ## Foreign drivers are refused -/

/-- The call reports an error and calls no hook. -/
def Refused (env : HalEnv W) (p : HalM ErrorCode) (s : HalConf W) : Prop :=
  (run env p s).1 ≠ .ok ∧ (run env p s).2.log = s.log

section Refusal

variable {env : HalEnv W} {s : HalConf W} {ty : PeripheralType}

theorem refused_of_run {p : HalM ErrorCode} {r : ErrorCode} (h : run env p s = (r, s))
    (hr : r ≠ .ok) : Refused env p s := by
  rw [Refused, h]
  exact ⟨hr, rfl⟩

/-- A wrapper refuses NULL. -/
theorem nullChecked_refused {driver : DriverPtr} {p : HalM ErrorCode} (hp : Refused env p s) :
    Refused env (match driver with
      | .null => return .badParam
      | .ref => p : HalM ErrorCode) s := by
  cases driver with
  | null => exact refused_of_run rfl nofun
  | ref => exact hp

/-- A write before the guard does not get the call past it. -/
theorem refused_of_write {f : Driver → Driver} {k : PUnit → HalM ErrorCode}
    (h : Refused env (k ⟨⟩) (s.written f)) : Refused env (Prog.modify f >>= k) s := by
  rw [Refused, run_bind, run_modify]
  exact h

variable (h : s.record.base.type ≠ ty)
include h

theorem not_typed : ¬ Typed .ref ty s.record := fun ht => h ht.2

theorem not_linked : ¬ Linked .ref ty s.record := fun hl => h hl.1.2

theorem baseInit_refused : Refused env (baseInit .ref ty) s := by
  refine refused_of_run (r := .badParam) ?_ nofun
  simp [baseInit, not_linked h]

theorem baseDeinit_refused : Refused env (baseDeinit .ref ty) s := by
  refine refused_of_run (r := .badParam) ?_ nofun
  simp [baseDeinit, not_linked h]

theorem baseConfigSet_refused (pConfig : Ptr) : Refused env (baseConfigSet .ref ty pConfig) s := by
  refine refused_of_run (r := .badParam) ?_ nofun
  simp [baseConfigSet, not_typed h]

theorem run_baseConfigValidate_foreign (pConfig : Ptr) :
    run env (baseConfigValidate .ref ty pConfig) s = (.badParam, s) := by
  simp [baseConfigValidate, not_typed h]

theorem baseCallbackRegister_refused (pCallback pUserArg : Ptr) :
    Refused env (baseCallbackRegister .ref ty pCallback pUserArg) s := by
  refine refused_of_run (r := .badParam) ?_ nofun
  simp [baseCallbackRegister, not_typed h]

theorem powerStateSet_refused (state : PowerState) :
    Refused env (powerStateSet .ref ty state) s := by
  refine refused_of_run (r := .badParam) ?_ nofun
  simp [powerStateSet, not_typed h]

theorem eventErrorCall_refused (argNull : Bool) (missing : ErrorCode) (req : BaseRequest) :
    Refused env (eventErrorCall .ref ty argNull missing req) s := by
  refine refused_of_run (r := .badParam) ?_ nofun
  simp [eventErrorCall, not_linked h]

end Refusal

section Wrappers

variable (env : HalEnv W) {s : HalConf W} {Q : Peripheral} (mem : ConfigMemory)

/-- The validator of another peripheral refuses every configuration, whatever its field check says. -/
theorem run_configValidate_foreign (h : s.record.base.type ≠ Q.type) (driver : DriverPtr)
    (pConfig : Ptr) :
    ∃ r, r ≠ .ok ∧ run env (Q.configValidate mem driver pConfig) s = (r, s) := by
  rw [Peripheral.configValidate_eq]
  cases driver with
  | null => exact ⟨.badParam, nofun, rfl⟩
  | ref =>
      cases pConfig with
      | none => exact ⟨.badParam, nofun, rfl⟩
      | some address =>
          cases hrej : Q.rejects mem address with
          | true =>
              -- The field check comes first, and its code is an error too.
              refine ⟨.badConfig, nofun, ?_⟩
              simp [configValidate, hrej]
          | false =>
              refine ⟨.badParam, nofun, ?_⟩
              simp only [configValidate, hrej, Bool.false_eq_true, if_false]
              exact run_baseConfigValidate_foreign h _

theorem init_refused (h : s.record.base.type ≠ Q.type) (driver : DriverPtr) :
    Refused env (Q.init mem driver) s := by
  have hl : (s.written Driver.linkVmt).record.base.type ≠ Q.type := h
  by_cases hg : Q = .gpio
  · -- Nothing is validated, so the base layer is the first to refuse.
    subst hg
    apply nullChecked_refused
    exact refused_of_write (baseInit_refused hl)
  · rw [Peripheral.init_eq mem hg]
    apply nullChecked_refused
    apply refused_of_write
    obtain ⟨r, hr, hrun⟩ := run_configValidate_foreign env mem hl .ref
      (s.written Driver.linkVmt).record.config
    refine refused_of_run (r := r) ?_ hr
    rw [run_bind, run_get, run_bind, hrun]
    simp [hr]

theorem configSet_refused (h : s.record.base.type ≠ Q.type) (hasConfig : Q ≠ .gpio)
    (driver : DriverPtr) (pConfig : Ptr) :
    Refused env (Q.configSet mem hasConfig driver pConfig) s := by
  cases hv : Q.validates with
  | true =>
      rw [Peripheral.configSet_eq_validated mem hv]
      apply nullChecked_refused
      obtain ⟨r, hr, hrun⟩ := run_configValidate_foreign env mem h .ref pConfig
      refine refused_of_run (r := r) ?_ hr
      simp [hrun, hr]
  | false =>
      rw [Peripheral.configSet_eq_unchecked mem hv hasConfig]
      apply nullChecked_refused
      -- The pointer is stored first, and then the base layer refuses the driver.
      have hstored : (s.written (Driver.setConfig pConfig)).record.base.type ≠ Q.type := h
      exact refused_of_write (baseConfigSet_refused hstored pConfig)

theorem specific_refused {func : SpecificFn} (h : s.record.base.type ≠ func.peripheral.type)
    (driver : DriverPtr) (args : List Arg) : Refused env (func.call driver args) s := by
  apply nullChecked_refused
  refine refused_of_run (r := .badParam) ?_ nofun
  simp [h]

/-- Every call of another peripheral's interface is refused. -/
theorem WrapperCall.refused (h : s.record.base.type ≠ Q.type) (c : WrapperCall Q) :
    Refused env (c.prog mem) s := by
  by_cases he : c.isEventError = true
  · obtain ⟨driver, _, _, _, -, hprog, -⟩ := c.eventError_eq mem he
    rw [hprog]
    apply nullChecked_refused
    exact eventErrorCall_refused h _ _ _
  cases c with
  | init driver => exact init_refused env mem h driver
  | configSet hasConfig driver pConfig => exact configSet_refused env mem h hasConfig driver pConfig
  | specific func own driver args =>
      -- The function's guard is on the tag of the peripheral that has the slot.
      rw [← own] at h
      exact specific_refused env h driver args
  | configValidate driver pConfig =>
      obtain ⟨r, hr, hrun⟩ := run_configValidate_foreign env mem h driver pConfig
      exact refused_of_run hrun hr
  | callbackRegister driver callback pUserArg =>
      apply nullChecked_refused
      have hstored : (s.written (Driver.setCallback callback pUserArg)).record.base.type ≠
          Q.type := h
      exact refused_of_write (baseCallbackRegister_refused hstored callback pUserArg)
  | deinit driver =>
      apply nullChecked_refused
      exact baseDeinit_refused h
  | powerStateSet driver state =>
      apply nullChecked_refused
      exact powerStateSet_refused h state
  | _ => exact absurd rfl he

end Wrappers

/-! ## Isolation -/

/-- The state of a driver populated as `P` in the given memory. -/
def populatedConf (P : Peripheral) (env : HalEnv W) (memory : Driver) (args : PopulateArgs)
    (x : W) : HalConf W :=
  (run env (P.populate .ref args) ⟨memory, x, []⟩).2

theorem populatedConf_type (P : Peripheral) (env : HalEnv W) (memory : Driver)
    (args : PopulateArgs) (x : W) :
    (populatedConf P env memory args x).record.base.type = P.type := rfl

/-- Peripherals are isolated. A driver populated as `P`, after any operations of `P`, refuses every
call of the interface of another peripheral: no hook is called, the code is not OK, and the tag is
still the tag of `P`. The hooks may do anything but change the tag. -/
theorem peripheral_isolation {P Q : Peripheral} (hPQ : P ≠ Q) (mem : ConfigMemory)
    (env : HalEnv W) (htag : env.Keeps fun d => d.base.type) (memory : Driver)
    (args : PopulateArgs) (ops : List (PeripheralCall P)) (foreign : WrapperCall Q) (x : W) :
    let s := runOps env (PeripheralCall.prog mem) ops (populatedConf P env memory args x)
    Refused env (foreign.prog mem) s ∧
      (run env (foreign.prog mem) s).2.record.base.type = P.type := by
  intro s
  have hmaintains : env.Maintains fun d => d.base.type = P.type := htag.maintains P.type
  have htype : s.record.base.type = P.type :=
    runOps_invariant env _ (fun s => s.record.base.type = P.type)
      (fun op _ h => run_maintains hmaintains (op.maintains mem) h) ops
      (populatedConf_type P env memory args x)
  have hforeign : s.record.base.type ≠ Q.type := by
    rw [htype]
    exact fun heq => hPQ (Peripheral.type_injective heq)
  refine ⟨foreign.refused env mem hforeign, ?_⟩
  exact run_maintains hmaintains (foreign.maintains (keptByLayer_type P.type)) htype

/-- An SPI registration on a UART driver, which stores the callback before it is refused. -/
theorem peripheral_isolation_uart_spi :
    let s := runOps (.ofCodes okHooks) (PeripheralCall.prog default)
      [PeripheralCall.call (P := .uart) (.init .ref)]
      (populatedConf .uart (.ofCodes okHooks) zeroedDriver fullArgs ())
    let foreign : WrapperCall .spi := .callbackRegister .ref (some 2) none
    Refused (.ofCodes okHooks) (foreign.prog default) s ∧
      (run (.ofCodes okHooks) (foreign.prog default) s).2.record.base.type =
        Peripheral.uart.type :=
  peripheral_isolation (P := .uart) (Q := .spi) (by decide) default (.ofCodes okHooks)
    (Env.ofCodes_keeps okHooks _) zeroedDriver fullArgs [.call (.init .ref)]
    (.callbackRegister .ref (some 2) none) ()

end CaffeineHal
