import CaffeineHal.Driver.Record

/-!
# The base layer

The functions of `cfn_hal_base_impl.h`, in the order of the file. A function reads the record anew
wherever the source does; `p_api` is the table pointer as it was when the source loads it.
-/

set_option autoImplicit false

namespace CaffeineHal

open CaffeineHal.Program

/-! ## Population -/

/-- The fields that `cfn_hal_base_populate` writes, on the memory `b`. The lock handle is the one
field it leaves as it was. -/
def DriverBase.populated (b : DriverBase) (type : PeripheralType) (peripheralId : UInt32)
    (pVmt : Option ApiBase) (pClock pDependency : Ptr) : DriverBase :=
  { b with
    type := type
    peripheralId := peripheralId
    vmt := pVmt
    clockDriver := pClock
    status := .constructed
    powerState := .unknown
    onConfig := none
    onConfigArg := none
    dependency := pDependency
    extension := none
    flags := 0 }

/-- `cfn_hal_base_populate`. -/
def basePopulate (pBase : DriverPtr) (type : PeripheralType) (peripheralId : UInt32)
    (pVmt : Option ApiBase) (pClock pDependency : Ptr) : HalM Unit :=
  match pBase with
  | .null => return ()
  | .ref => Prog.modify fun d =>
      { d with base := d.base.populated type peripheralId pVmt pClock pDependency }

/-- `CFN_HAL_POPULATE_DRIVER`. -/
def populateDriver (driver : DriverPtr) (type : PeripheralType) (peripheralId : UInt32)
    (clock dep : Ptr) (api : Option Api) (phy cfg cbFunc cbArg : Ptr) : HalM Unit := do
  match driver with
  | .null => return ()
  | .ref =>
      -- `(const struct cfn_hal_api_base_s *) api`: the base table is the first member.
      basePopulate .ref type peripheralId (api.map Api.base) clock dep
      Prog.modify fun d =>
        { d with api := api, phy := phy, config := cfg, cb := cbFunc, cbUserArg := cbArg }

/-! ## Guards and hook calls -/

/-- `!p_base || p_base->type != expected_type`. -/
def typeRejects (pBase : DriverPtr) (expectedType : PeripheralType) : HalM Bool := do
  match pBase with
  | .null => return true
  | .ref => return decide ((← Prog.get).base.type ≠ expectedType)

/-- `!p_base || p_base->type != expected_type || !p_base->vmt`. -/
def linkRejects (pBase : DriverPtr) (expectedType : PeripheralType) : HalM Bool := do
  match pBase with
  | .null => return true
  | .ref =>
      let d ← Prog.get
      return decide (d.base.type ≠ expectedType) || d.base.vmt.isNone

/-- `p_api->hook(p_base, ...)` where the slot is set, and the code `missing` where it is NULL. -/
def callSlot (pApi : Option ApiBase) (req : BaseRequest) (missing : ErrorCode) : HalM ErrorCode :=
  match pApi.bind fun t => t.slot req with
  | some fn => Prog.request (.vmt fn req)
  | none => return missing

/-- `p_base->on_config(p_base, p_base->on_config_arg, phase)`, and OK where the hook is NULL. -/
def callOnConfig (phase : ConfigPhase) : HalM ErrorCode := do
  let d ← Prog.get
  match d.base.onConfig with
  | some fn => Prog.request (.onConfig fn d.base.onConfigArg phase)
  | none => return .ok

/-! ## Lifecycle -/

/-- `cfn_hal_base_init`. -/
def baseInit (pBase : DriverPtr) (expectedType : PeripheralType) : HalM ErrorCode := do
  if ← linkRejects pBase expectedType then
    return .badParam
  if (← Prog.get).base.status = .initialized then
    return .driverAlreadyInit
  -- Phase A: the board acquires clocks and pins before the peripheral is touched.
  let error ← callOnConfig .init
  if error ≠ .ok then
    return error
  -- Phase B
  let pApi := (← Prog.get).base.vmt
  let error ← callSlot pApi .init .notSupported
  if error = .ok then
    Prog.modify (Driver.setStatus .initialized)
  else
    -- The rollback's own code is dropped, so the caller sees the phase-B error.
    let _ ← callOnConfig .deinit
  return error

/-- `cfn_hal_base_deinit`. -/
def baseDeinit (pBase : DriverPtr) (expectedType : PeripheralType) : HalM ErrorCode := do
  if ← linkRejects pBase expectedType then
    return .badParam
  if (← Prog.get).base.status = .constructed then
    return .ok
  if (← Prog.get).base.status = .unknown then
    return .driverNotInit
  -- Phase A: stop the peripheral while its clocks and pins are still there.
  let pApi := (← Prog.get).base.vmt
  let error ← callSlot pApi .deinit .notSupported
  if error = .ok then
    -- Not live any more before the board releases clocks and pins.
    Prog.modify (Driver.setStatus .constructed)
    callOnConfig .deinit
  else
    return error

/-! ## Configuration, callback and power state -/

/-- `cfn_hal_base_config_set`. -/
def baseConfigSet (pBase : DriverPtr) (expectedType : PeripheralType) (pConfig : Ptr) :
    HalM ErrorCode := do
  if (← typeRejects pBase expectedType) || pConfig.isNone then
    return .badParam
  if (← Prog.get).base.status = .initialized then
    let pApi := (← Prog.get).base.vmt
    -- The guard does not test the table, and without one there is nothing to tell.
    if pApi.isNone then
      return .ok
    let error ← callSlot pApi (.configValidate pConfig) .ok
    if error = .ok then
      callSlot pApi (.configSet pConfig) .notSupported
    else
      return error
  else
    return .ok

/-- `cfn_hal_base_config_validate`. -/
def baseConfigValidate (pBase : DriverPtr) (expectedType : PeripheralType) (pConfig : Ptr) :
    HalM ErrorCode := do
  if ← typeRejects pBase expectedType then
    return .badParam
  let pApi := (← Prog.get).base.vmt
  callSlot pApi (.configValidate pConfig) .ok

/-- `cfn_hal_base_callback_register`. -/
def baseCallbackRegister (pBase : DriverPtr) (expectedType : PeripheralType)
    (pCallback pUserArg : Ptr) : HalM ErrorCode := do
  if ← typeRejects pBase expectedType then
    return .badParam
  if (← Prog.get).base.status = .initialized then
    let pApi := (← Prog.get).base.vmt
    callSlot pApi (.callbackRegister pCallback pUserArg) .ok
  else
    return .ok

/-- `cfn_hal_power_state_set`. -/
def powerStateSet (pBase : DriverPtr) (expectedType : PeripheralType) (state : PowerState) :
    HalM ErrorCode := do
  if ← typeRejects pBase expectedType then
    return .badParam
  if (← Prog.get).base.powerState = state then
    return .ok
  if (← Prog.get).base.status = .initialized then
    let pApi := (← Prog.get).base.vmt
    let error ← callSlot pApi (.powerStateSet state) .notSupported
    if error = .ok then
      Prog.modify (Driver.setPowerState state)
    return error
  else
    -- Without a live peripheral the state is written down only.
    Prog.modify (Driver.setPowerState state)
    return .ok

/-- `cfn_hal_power_state_get`. -/
def powerStateGet (pBase : DriverPtr) : HalM PowerState := do
  match pBase with
  | .null => return .unknown
  | .ref => return (← Prog.get).base.powerState

/-! ## Events and errors -/

/-- The body the six event and error functions share: `argNull` is the extra NULL check of the two
getters, `missing` the code where the slot is NULL. -/
def eventErrorCall (pBase : DriverPtr) (expectedType : PeripheralType) (argNull : Bool)
    (missing : ErrorCode) (req : BaseRequest) : HalM ErrorCode := do
  if (← linkRejects pBase expectedType) || argNull then
    return .badParam
  if (← Prog.get).base.status ≠ .initialized then
    return .driverNotInit
  let pApi := (← Prog.get).base.vmt
  callSlot pApi req missing

/-- `cfn_hal_base_event_enable`, the one that reports a missing hook. -/
def baseEventEnable (pBase : DriverPtr) (expectedType : PeripheralType) (eventMask : UInt32) :
    HalM ErrorCode :=
  eventErrorCall pBase expectedType false .notSupported (.eventEnable eventMask)

/-- `cfn_hal_base_event_disable`. -/
def baseEventDisable (pBase : DriverPtr) (expectedType : PeripheralType) (eventMask : UInt32) :
    HalM ErrorCode :=
  eventErrorCall pBase expectedType false .ok (.eventDisable eventMask)

/-- `cfn_hal_base_event_get`. -/
def baseEventGet (pBase : DriverPtr) (expectedType : PeripheralType) (pEventMask : Ptr) :
    HalM ErrorCode :=
  eventErrorCall pBase expectedType pEventMask.isNone .ok (.eventGet pEventMask)

/-- `cfn_hal_base_error_enable`. -/
def baseErrorEnable (pBase : DriverPtr) (expectedType : PeripheralType) (errorMask : UInt32) :
    HalM ErrorCode :=
  eventErrorCall pBase expectedType false .ok (.errorEnable errorMask)

/-- `cfn_hal_base_error_disable`. -/
def baseErrorDisable (pBase : DriverPtr) (expectedType : PeripheralType) (errorMask : UInt32) :
    HalM ErrorCode :=
  eventErrorCall pBase expectedType false .ok (.errorDisable errorMask)

/-- `cfn_hal_base_error_get`. -/
def baseErrorGet (pBase : DriverPtr) (expectedType : PeripheralType) (pErrorMask : Ptr) :
    HalM ErrorCode :=
  eventErrorCall pBase expectedType pErrorMask.isNone .ok (.errorGet pErrorMask)

/-! ## Locking -/

/-- `cfn_hal_base_lock`. -/
def baseLock (base : DriverPtr) (timeout : UInt32) : HalM ErrorCode := do
  match base with
  | .null => return .badParam
  | .ref =>
      if (← Prog.get).base.vmt.isNone then
        return .badParam
      let api := (← Prog.get).base.vmt
      callSlot api (.lock timeout) .ok

/-- `cfn_hal_base_unlock`. -/
def baseUnlock (base : DriverPtr) : HalM ErrorCode := do
  match base with
  | .null => return .badParam
  | .ref =>
      if (← Prog.get).base.vmt.isNone then
        return .badParam
      let api := (← Prog.get).base.vmt
      callSlot api .unlock .ok

/-! ## A port that implements every hook -/

/-- A base table in which every slot is set. -/
def fullTable : ApiBase where
  init := some 1
  deinit := some 2
  powerStateSet := some 3
  configSet := some 4
  configValidate := some 5
  callbackRegister := some 6
  eventEnable := some 7
  eventDisable := some 8
  eventGet := some 9
  errorEnable := some 10
  errorDisable := some 11
  errorGet := some 12
  lock := some 13
  unlock := some 14

/-- Zeroed driver memory. -/
def zeroedDriver : Driver where
  base :=
    { type := 0, status := .unknown, powerState := .unknown, clockDriver := none
      lockObj := none, onConfig := none, onConfigArg := none, dependency := none
      extension := none, flags := 0, peripheralId := 0, vmt := none }
  config := none
  api := none
  phy := none
  cb := none
  cbUserArg := none

/-- Hooks that succeed. -/
def okHooks : HookCodes Unit := fun _ _ _ => (.ok, ())

end CaffeineHal
