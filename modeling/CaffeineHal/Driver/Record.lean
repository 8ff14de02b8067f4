import CaffeineHal.Driver.Peripheral
import CaffeineHal.Program.Resumption
import Mathlib.Tactic.Simps.Basic

/-!
# The driver record, its tables and its hooks

The record is `cfn_hal_driver_t` inside the typed driver that `CFN_HAL_CREATE_DRIVER_TYPE` makes,
in the build with `CFN_HAL_USE_LOCK = 1`. Pointers to memory the layer never looks into are
addresses; NULL is `none`. The API tables are constants, so a pointer to one is the table itself,
and a slot of a table is the function pointer in it or NULL.

A hook is code of the port or of the board. The layer sees of a hook only that it is called, on which
record, with which arguments, and which code it returns: a `HookCall` is one such call, and `HalM`
is the programs that make them.
-/

set_option autoImplicit false

namespace CaffeineHal

open CaffeineHal.Program

/-- A pointer to memory that the layer only passes on. -/
abbrev Ptr := Option Nat

/-- The address of a function. -/
abbrev FnPtr := Nat

/-- `cfn_hal_error_code_t`. -/
inductive ErrorCode where
  | ok | fail | badParam | notReady | notFound | outOfBound | notSupported | external | busy
  | badConfig | peripheralFail | timingTimeout | driverGeneral | driverNotInit | driverAlreadyInit
  | dataCrc | dataBadFormat | dataMismatch | memoryNull | memoryFull | memoryAlloc | memoryEmpty
  | deviceFail | deviceNotFound | unknown
  deriving DecidableEq, Repr

/-- `cfn_hal_config_phase_t`. -/
inductive ConfigPhase where
  | deinit | init
  deriving DecidableEq, Repr

/-- `cfn_hal_driver_status_t`. -/
inductive DriverStatus where
  | unknown | constructed | initialized | error
  deriving DecidableEq, Repr

/-- `cfn_hal_power_state_t`. -/
inductive PowerState where
  | unknown | on | lowPower | off
  deriving DecidableEq, Repr

/-- A call of a base-table hook: the slot, with the arguments after `p_base`. -/
inductive BaseRequest where
  | init
  | deinit
  | powerStateSet (state : PowerState)
  | configSet (pConfig : Ptr)
  | configValidate (pConfig : Ptr)
  | callbackRegister (pCallback pUserArg : Ptr)
  | eventEnable (eventMask : UInt32)
  | eventDisable (eventMask : UInt32)
  | eventGet (pEventMask : Ptr)
  | errorEnable (errorMask : UInt32)
  | errorDisable (errorMask : UInt32)
  | errorGet (pErrorMask : Ptr)
  | lock (timeout : UInt32)
  | unlock
  deriving DecidableEq, Repr

/-- The two lock operations. -/
def BaseRequest.isLocking : BaseRequest → Bool
  | .lock _ | .unlock => true
  | _ => false

/-- The requests of the event and error calls. -/
def BaseRequest.isEventError : BaseRequest → Bool
  | .eventEnable _ | .eventDisable _ | .eventGet _ => true
  | .errorEnable _ | .errorDisable _ | .errorGet _ => true
  | _ => false

theorem BaseRequest.not_locking_of_eventError {req : BaseRequest} (h : req.isEventError = true) :
    req.isLocking = false := by
  cases req <;> first | rfl | cases h

/-- `cfn_hal_api_base_t`: the base table, each slot a function pointer or NULL. -/
structure ApiBase where
  init : Option FnPtr
  deinit : Option FnPtr
  powerStateSet : Option FnPtr
  configSet : Option FnPtr
  configValidate : Option FnPtr
  callbackRegister : Option FnPtr
  eventEnable : Option FnPtr
  eventDisable : Option FnPtr
  eventGet : Option FnPtr
  errorEnable : Option FnPtr
  errorDisable : Option FnPtr
  errorGet : Option FnPtr
  lock : Option FnPtr
  unlock : Option FnPtr
  deriving DecidableEq, Repr

/-- The slot that a request goes through. -/
def ApiBase.slot (t : ApiBase) : BaseRequest → Option FnPtr
  | .init => t.init
  | .deinit => t.deinit
  | .powerStateSet _ => t.powerStateSet
  | .configSet _ => t.configSet
  | .configValidate _ => t.configValidate
  | .callbackRegister _ _ => t.callbackRegister
  | .eventEnable _ => t.eventEnable
  | .eventDisable _ => t.eventDisable
  | .eventGet _ => t.eventGet
  | .errorEnable _ => t.errorEnable
  | .errorDisable _ => t.errorDisable
  | .errorGet _ => t.errorGet
  | .lock _ => t.lock
  | .unlock => t.unlock

/-- A typed API table (`struct cfn_hal_<p>_api_s`): the base table and the specific slots. -/
structure Api where
  base : ApiBase
  specific : SpecificFn → Option FnPtr

/-- `cfn_hal_driver_t`. -/
structure DriverBase where
  type : PeripheralType
  status : DriverStatus
  powerState : PowerState
  clockDriver : Ptr
  lockObj : Ptr
  onConfig : Option FnPtr
  onConfigArg : Ptr
  dependency : Ptr
  extension : Ptr
  flags : UInt32
  peripheralId : UInt32
  vmt : Option ApiBase
  deriving DecidableEq, Repr

/-- The typed driver (`CFN_HAL_CREATE_DRIVER_TYPE`). -/
structure Driver where
  base : DriverBase
  config : Ptr
  api : Option Api
  phy : Ptr
  cb : Ptr
  cbUserArg : Ptr

namespace Driver

/-- `p_base->status = status`. -/
@[simps] def setStatus (status : DriverStatus) (d : Driver) : Driver :=
  { d with base := { d.base with status := status } }

/-- `p_base->power_state = state`. -/
@[simps] def setPowerState (state : PowerState) (d : Driver) : Driver :=
  { d with base := { d.base with powerState := state } }

/-- `p_driver->base.vmt = (const struct cfn_hal_api_base_s *) p_driver->api`. -/
@[simps] def linkVmt (d : Driver) : Driver :=
  { d with base := { d.base with vmt := d.api.map Api.base } }

/-- `p_base->on_config = on_config; p_base->on_config_arg = arg`, which the owner of a driver does
once it is populated. -/
@[simps] def setOnConfig (onConfig : Option FnPtr) (arg : Ptr) (d : Driver) : Driver :=
  { d with base := { d.base with onConfig := onConfig, onConfigArg := arg } }

/-- `p_driver->config = p_config`. -/
@[simps] def setConfig (pConfig : Ptr) (d : Driver) : Driver :=
  { d with config := pConfig }

/-- `p_driver->cb = callback; p_driver->cb_user_arg = p_user_arg`. -/
@[simps] def setCallback (callback pUserArg : Ptr) (d : Driver) : Driver :=
  { d with cb := callback, cbUserArg := pUserArg }

end Driver

/-- The function a base-layer call goes to: `p_base->vmt && p_base->vmt->hook`. -/
def DriverBase.hook (b : DriverBase) (req : BaseRequest) : Option FnPtr :=
  b.vmt.bind fun t => t.slot req

/-- A driver pointer that a caller passes: NULL, or the driver. -/
inductive DriverPtr where
  | null
  | ref
  deriving DecidableEq, Repr

/-- A variable argument of `CFN_HAL_CHECK_AND_CALL_FUNC_VARG`. -/
inductive Arg where
  | ptr (p : Ptr)
  | word (n : UInt64)
  deriving DecidableEq, Repr

/-- A call of a hook: the board's `on_config`, a slot of the base table through `base.vmt`, or a
specific slot of the typed table through `driver->api`. -/
inductive HookCall where
  | onConfig (fn : FnPtr) (arg : Ptr) (phase : ConfigPhase)
  | vmt (fn : FnPtr) (req : BaseRequest)
  | api (fn : FnPtr) (slot : SpecificFn) (args : List Arg)
  deriving DecidableEq, Repr

/-- The call is not a lock operation. -/
def HookCall.LeavesLock (c : HookCall) : Prop :=
  ∀ fn req, c = .vmt fn req → req.isLocking = false

/-- The functions of the layer. -/
abbrev HalM := Prog Driver HookCall ErrorCode

/-- The state they run in: the driver record, the world of the hooks, the hook calls so far. -/
abbrev HalConf (W : Type) := Conf Driver HookCall ErrorCode W

/-- One hook call of the log. -/
abbrev HalEvent := Event Driver HookCall ErrorCode

/-- The hooks, as an arbitrary state machine that may write the record. -/
abbrev HalEnv (W : Type) := Env Driver HookCall ErrorCode W

/-- The codes that hooks return which do not write the record. -/
abbrev HookCodes (W : Type) := HookCall → Driver → W → ErrorCode × W

end CaffeineHal
