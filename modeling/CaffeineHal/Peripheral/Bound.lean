import CaffeineHal.Peripheral.Isolation
import CaffeineHal.Program.Bounded
import Mathlib.Order.Bounds.Basic

/-!
# How much a call does

No function of the layer loops, so a call is over after a bounded number of steps, whatever it reads of the
record and whatever the hooks answer (`WrapperCall.within`). What it makes the port and the board do is bounded
too, and `hookBound_isGreatest` says that the bound is the worst case and not more: an `init` may make four hook
calls, a `config_set` three, a `deinit` two and every other call one.
-/

set_option autoImplicit false

namespace CaffeineHal

open CaffeineHal.Program CaffeineHal.Program.Prog

/-! ## The base layer -/

section Base

variable {driver : DriverPtr} {ty : PeripheralType}

/-- The test of the driver pointer that a function begins with. -/
theorem nullChecked_within {p : HalM ErrorCode} {n m : Nat} (hp : p.Within n m) :
    (match driver with
      | .null => return .badParam
      | .ref => p : HalM ErrorCode).Within n m := by
  cases driver with
  | null => exact .done _ n m
  | ref => exact hp

theorem typeRejects_within : (typeRejects driver ty).Within 1 0 := by
  cases driver with
  | null => exact .done _ 1 0
  | ref => exact .bind .get fun d => .done _ 0 0

theorem linkRejects_within : (linkRejects driver ty).Within 1 0 := by
  cases driver with
  | null => exact .done _ 1 0
  | ref => exact .bind .get fun d => .done _ 0 0

theorem callSlot_within (pApi : Option ApiBase) (req : BaseRequest) (missing : ErrorCode) :
    (callSlot pApi req missing).Within 1 1 := by
  unfold callSlot
  split
  · exact .request _
  · exact .done _ 1 1

theorem callOnConfig_within (phase : ConfigPhase) : (callOnConfig phase).Within 2 1 := by
  unfold callOnConfig
  refine .bind .get fun d => ?_
  split
  · exact .request _
  · exact .done _ 1 1

theorem baseInit_within : (baseInit driver ty).Within 8 3 := by
  unfold baseInit
  refine .bind linkRejects_within fun refused => .ite (.done _ 7 3) ?_
  refine .bind .get fun d => .ite (.done _ 6 3) ?_
  refine .bind (callOnConfig_within .init) fun error => .ite (.done _ 4 2) ?_
  refine .bind .get fun d => .bind (callSlot_within _ _ _) fun error => .ite ?_ ?_
  · exact .bind (.modify _) fun _ => .done _ 1 1
  · exact .bind (callOnConfig_within .deinit) fun _ => .done _ 0 0

theorem baseDeinit_within : (baseDeinit driver ty).Within 8 2 := by
  unfold baseDeinit
  refine .bind linkRejects_within fun refused => .ite (.done _ 7 2) ?_
  refine .bind .get fun d => .ite (.done _ 6 2) ?_
  refine .bind .get fun d => .ite (.done _ 5 2) ?_
  refine .bind .get fun d => .bind (callSlot_within _ _ _) fun error => .ite ?_ (.done _ 3 1)
  exact .bind (.modify _) fun _ => callOnConfig_within .deinit

theorem baseConfigSet_within (pConfig : Ptr) : (baseConfigSet driver ty pConfig).Within 5 2 := by
  unfold baseConfigSet
  refine .bind typeRejects_within fun refused => .ite (.done _ 4 2) ?_
  refine .bind .get fun d => .ite ?_ (.done _ 3 2)
  refine .bind .get fun d => .ite (.done _ 2 2) ?_
  exact .bind (callSlot_within _ _ _) fun error => .ite (callSlot_within _ _ _) (.done _ 1 1)

theorem baseConfigValidate_within (pConfig : Ptr) :
    (baseConfigValidate driver ty pConfig).Within 3 1 := by
  unfold baseConfigValidate
  refine .bind typeRejects_within fun refused => .ite (.done _ 2 1) ?_
  exact .bind .get fun d => callSlot_within _ _ _

theorem baseCallbackRegister_within (pCallback pUserArg : Ptr) :
    (baseCallbackRegister driver ty pCallback pUserArg).Within 4 1 := by
  unfold baseCallbackRegister
  refine .bind typeRejects_within fun refused => .ite (.done _ 3 1) ?_
  refine .bind .get fun d => .ite ?_ (.done _ 2 1)
  exact .bind .get fun d => callSlot_within _ _ _

theorem powerStateSet_within (state : PowerState) : (powerStateSet driver ty state).Within 6 1 := by
  unfold powerStateSet
  refine .bind typeRejects_within fun refused => .ite (.done _ 5 1) ?_
  refine .bind .get fun d => .ite (.done _ 4 1) ?_
  refine .bind .get fun d => .ite ?_ ?_
  · refine .bind .get fun d => .bind (callSlot_within _ _ _) fun error => .ite ?_ (.done _ 1 0)
    exact .bind (.modify _) fun _ => .done _ 0 0
  · exact .bind (.modify _) fun _ => .done _ 2 1

theorem eventErrorCall_within (argNull : Bool) (missing : ErrorCode) (req : BaseRequest) :
    (eventErrorCall driver ty argNull missing req).Within 4 1 := by
  unfold eventErrorCall
  refine .bind linkRejects_within fun refused => .ite (.done _ 3 1) ?_
  refine .bind .get fun d => .ite (.done _ 2 1) ?_
  exact .bind .get fun d => callSlot_within _ _ _

/-- The two lock functions. -/
theorem lockCall_within (req : BaseRequest) : (lockCall req).Within 3 1 := by
  unfold lockCall
  refine .bind .get fun d => .ite (.done _ 2 1) ?_
  exact .bind .get fun d => callSlot_within _ _ _

end Base

/-! ## The interface -/

section Interface

variable {P : Peripheral} {mem : ConfigMemory}

theorem configValidate_within (driver : DriverPtr) (pConfig : Ptr) :
    (P.configValidate mem driver pConfig).Within 3 1 := by
  rw [Peripheral.configValidate_eq]
  cases driver with
  | null => exact .done _ 3 1
  | ref =>
      cases pConfig with
      | none => exact .done _ 3 1
      | some address => exact .ite (.done _ 3 1) (baseConfigValidate_within (some address))

/-- The GPIO does not validate. -/
def Peripheral.initBound (P : Peripheral) : Nat :=
  if P = .gpio then 3 else 4

/-- A `config_set` that validates asks the port once more. -/
def Peripheral.configSetBound (P : Peripheral) : Nat :=
  if P.validates then 3 else 2

theorem init_within (driver : DriverPtr) : (P.init mem driver).Within 13 P.initBound := by
  by_cases hg : P = .gpio
  · subst hg
    refine (nullChecked_within ?_ : (gpioInit driver).Within 13 3)
    exact .bind (.modify _) fun _ => baseInit_within.mono (by decide) (by decide)
  · rw [Peripheral.init_eq mem hg, Peripheral.initBound, if_neg hg]
    refine nullChecked_within (.bind (.modify _) fun _ => .bind .get fun d => ?_)
    exact .bind (configValidate_within .ref d.config) fun error => .ite (.done _ 8 3) baseInit_within

theorem configSet_within (hasConfig : P ≠ .gpio) (driver : DriverPtr) (pConfig : Ptr) :
    (P.configSet mem hasConfig driver pConfig).Within 9 P.configSetBound := by
  unfold Peripheral.configSetBound
  cases hv : P.validates with
  | true =>
      rw [Peripheral.configSet_eq_validated mem hv]
      refine nullChecked_within (.bind (configValidate_within .ref pConfig) fun error => ?_)
      exact .ite (.done _ 6 2) (.bind (.modify _) fun _ => baseConfigSet_within pConfig)
  | false =>
      rw [Peripheral.configSet_eq_unchecked mem hv hasConfig]
      refine nullChecked_within (.bind (.modify _) fun _ => ?_)
      exact (baseConfigSet_within pConfig).mono (by decide) (Nat.le_refl 2)

theorem specific_within (func : SpecificFn) (driver : DriverPtr) (args : List Arg) :
    (func.call driver args).Within 2 1 := by
  refine nullChecked_within (.bind .get fun d => .ite ?_ (.done _ 1 1))
  split
  · exact .done _ 1 1
  · split
    · exact .request _
    · exact .done _ 1 1

/-- The hook calls that a call may make. -/
def WrapperCall.hookBound : WrapperCall P → Nat
  | .init _ => P.initBound
  | .deinit _ => 2
  | .configSet _ _ _ => P.configSetBound
  | _ => 1

/-- Every call of an interface is over after at most 13 steps, and makes no more hook calls than its
bound. -/
theorem WrapperCall.within (c : WrapperCall P) : (c.prog mem).Within 13 c.hookBound := by
  by_cases he : c.isEventError = true
  · obtain ⟨driver, _, _, _, -, hprog, -⟩ := c.eventError_eq mem he
    rw [hprog]
    refine (nullChecked_within (eventErrorCall_within _ _ _)).mono (by decide) ?_
    cases c <;> first | exact Nat.le_refl 1 | cases he
  cases c with
  | init driver => exact init_within driver
  | deinit driver => exact (nullChecked_within baseDeinit_within).mono (by decide) (Nat.le_refl 2)
  | configValidate driver pConfig =>
      exact (configValidate_within driver pConfig).mono (by decide) (Nat.le_refl 1)
  | configSet hasConfig driver pConfig =>
      exact (configSet_within hasConfig driver pConfig).mono (by decide) (Nat.le_refl _)
  | callbackRegister driver callback pUserArg =>
      have hstored : (Prog.modify (Driver.setCallback callback pUserArg) >>= fun _ =>
          baseCallbackRegister .ref P.type callback pUserArg).Within 5 1 :=
        .bind (.modify _) fun _ => baseCallbackRegister_within callback pUserArg
      exact (nullChecked_within hstored).mono (by decide) (Nat.le_refl 1)
  | powerStateSet driver state =>
      exact (nullChecked_within (powerStateSet_within state)).mono (by decide) (Nat.le_refl 1)
  | specific func own driver args =>
      exact (specific_within func driver args).mono (by decide) (Nat.le_refl 1)
  | _ => exact absurd rfl he

end Interface

/-! ## The worst case -/

/-- The call is given a driver, and whatever else it points to. -/
def WrapperCall.complete {P : Peripheral} : WrapperCall P → Bool
  | .init driver | .deinit driver | .callbackRegister driver _ _ => driver = .ref
  | .powerStateSet driver _ | .specific _ _ driver _ => driver = .ref
  | .configValidate driver pConfig | .configSet _ driver pConfig => driver = .ref && pConfig.isSome
  | c => c.hasPointers

/-- How many hook calls a call can make, on any driver with any port and any configurations in memory. -/
def WrapperCall.hookCounts {P : Peripheral} (c : WrapperCall P) : Set Nat :=
  {n | ∃ (mem : ConfigMemory) (W : Type) (env : HalEnv W) (s : HalConf W),
    (run env (c.prog mem) s).2.log.length = s.log.length + n}

/-- A memory with a configuration at every address that passes every check. -/
def acceptedMemory : ConfigMemory where
  adc := fun _ => ⟨1, 1, 1, 1⟩
  can := fun _ => ⟨1⟩
  crypto := fun _ => ⟨1⟩
  dac := fun _ => ⟨1, 1⟩
  eth := fun _ => ⟨1⟩
  gpio := fun _ => ⟨1, 1, 1, 1, 1⟩
  i2c := fun _ => ⟨1⟩
  i2s := fun _ => ⟨1, 1, 1⟩
  pwm := fun _ => ⟨1, 1⟩
  rtc := fun _ => ⟨1, 1⟩
  spi := fun _ => ⟨1, 1⟩
  uart := fun _ => ⟨1, 1, 1, 1, 1, 1, 1⟩
  usb := fun _ => ⟨1⟩
  wdt := fun _ => ⟨1, 1, 1⟩

/-- A port whose hooks succeed, but for its `init`. -/
def startFails : HookCodes Unit := fun c _ _ =>
  match c with
  | .vmt _ .init => (.fail, ())
  | _ => (.ok, ())

/-- The driver on which the call has most to do: one at rest for an `init`, one in service for the others, in
another power state than the one that is asked for. -/
def WrapperCall.busiest {P : Peripheral} (c : WrapperCall P) : Driver :=
  { zeroedDriver with
    base := { zeroedDriver.base with
      type := P.type
      status := match c with
        | .init _ => .constructed
        | _ => .initialized
      powerState := match c with
        | .powerStateSet _ .on => .off
        | _ => .on
      onConfig := some 30
      vmt := some fullTable }
    config := some 0
    api := some ⟨fullTable, fun _ => some 20⟩ }

/-- On its busiest driver a call makes as many hook calls as it may. -/
theorem run_busiest {P : Peripheral} (c : WrapperCall P) (hc : c.complete = true) :
    (run (.ofCodes startFails) (c.prog acceptedMemory) ⟨c.busiest, (), []⟩).2.log.length =
      c.hookBound := by
  cases c with
  | configValidate driver pConfig =>
      obtain ⟨hdriver, hconfig⟩ := (Bool.and_eq_true _ _).mp hc
      obtain rfl := of_decide_eq_true hdriver
      obtain ⟨address, rfl⟩ := Option.isSome_iff_exists.1 hconfig
      cases P <;> rfl
  | configSet hasConfig driver pConfig =>
      obtain ⟨hdriver, hconfig⟩ := (Bool.and_eq_true _ _).mp hc
      obtain rfl := of_decide_eq_true hdriver
      obtain ⟨address, rfl⟩ := Option.isSome_iff_exists.1 hconfig
      cases P <;> first | rfl | exact absurd rfl hasConfig
  | eventGet driver pMask =>
      obtain ⟨hdriver, hmask⟩ := (Bool.and_eq_true _ _).mp hc
      obtain rfl := of_decide_eq_true hdriver
      obtain ⟨address, rfl⟩ := Option.isSome_iff_exists.1 hmask
      cases P <;> rfl
  | errorGet driver pMask =>
      obtain ⟨hdriver, hmask⟩ := (Bool.and_eq_true _ _).mp hc
      obtain rfl := of_decide_eq_true hdriver
      obtain ⟨address, rfl⟩ := Option.isSome_iff_exists.1 hmask
      cases P <;> rfl
  | powerStateSet driver state =>
      obtain rfl := of_decide_eq_true hc
      cases state <;> cases P <;> rfl
  | specific func own driver args =>
      obtain rfl := of_decide_eq_true hc
      cases own
      cases func <;> rfl
  | _ =>
      obtain rfl := of_decide_eq_true hc
      cases P <;> rfl

/-- The worst case of every call. A call with its pointers makes at most four hook calls as an `init`, three
as a `config_set`, two as a `deinit` and one otherwise (one less for the peripherals without the validation),
whatever the driver, the port, the board and the configurations in memory are, and somewhere it makes as many. -/
theorem hookBound_isGreatest {P : Peripheral} (c : WrapperCall P) (hc : c.complete = true) :
    IsGreatest c.hookCounts c.hookBound := by
  constructor
  · refine ⟨acceptedMemory, Unit, .ofCodes startFails, ⟨c.busiest, (), []⟩, ?_⟩
    rw [run_busiest c hc]
    exact (Nat.zero_add _).symm
  · rintro n ⟨mem, W, env, s, hcount⟩
    have hwithin : (c.prog mem).Within 13 c.hookBound := c.within
    obtain ⟨evs, hlog, hlen⟩ := hwithin.run_calls env s
    rw [hlog, List.length_append, Nat.add_comm] at hcount
    exact Nat.add_left_cancel hcount ▸ hlen

/-- An `init` of a UART. -/
theorem hookBound_isGreatest_uart :
    IsGreatest (WrapperCall.init .ref : WrapperCall .uart).hookCounts 4 :=
  hookBound_isGreatest (.init .ref) rfl

end CaffeineHal
