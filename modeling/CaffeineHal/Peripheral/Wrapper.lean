import CaffeineHal.Peripheral.Config

/-!
# The peripheral wrappers

The typed functions of the 22 peripheral headers. They share their bodies: `init` links the base table
to the typed one, validates the stored configuration and calls the base layer; `config_set` validates,
stores and calls the base layer; the others call the base layer with the peripheral's own tag, and
`callback_register` stores before it does. A specific function calls its own slot of the typed table
behind the guard of `CFN_HAL_CHECK_AND_CALL_FUNC`.

Three peripherals store a configuration that they did not validate (`uncheckedConfigSet`), and the GPIO,
which has no configuration of its own, validates nothing when it is initialised or a pin is configured.
-/

set_option autoImplicit false

namespace CaffeineHal

open CaffeineHal.Program

/-! ## Shared bodies -/

/-- `init`, where the header validates the stored configuration first. -/
def validatedInit (P : Peripheral) (validate : DriverPtr → Ptr → HalM ErrorCode)
    (driver : DriverPtr) : HalM ErrorCode := do
  match driver with
  | .null => return .badParam
  | .ref =>
      Prog.modify Driver.linkVmt
      -- A NULL that was stored is refused here.
      let error ← validate .ref (← Prog.get).config
      if error ≠ .ok then
        return error
      baseInit .ref P.type

/-- `config_set`, where the header validates the new configuration first. The pointer is stored before
the base layer can refuse it. -/
def validatedConfigSet (P : Peripheral) (validate : DriverPtr → Ptr → HalM ErrorCode)
    (driver : DriverPtr) (pConfig : Ptr) : HalM ErrorCode := do
  match driver with
  | .null => return .badParam
  | .ref =>
      let error ← validate .ref pConfig
      if error ≠ .ok then
        return error
      Prog.modify (Driver.setConfig pConfig)
      baseConfigSet .ref P.type pConfig

/-- `config_set` without a validation. -/
def uncheckedConfigSet (P : Peripheral) (driver : DriverPtr) (pConfig : Ptr) : HalM ErrorCode := do
  match driver with
  | .null => return .badParam
  | .ref =>
      Prog.modify (Driver.setConfig pConfig)
      baseConfigSet .ref P.type pConfig

/-- `CFN_HAL_CHECK_AND_CALL_FUNC` and `CFN_HAL_CHECK_AND_CALL_FUNC_VARG`. -/
def checkAndCallFunc (expectedType : PeripheralType) (func : SpecificFn) (driver : DriverPtr)
    (args : List Arg) : HalM ErrorCode := do
  match driver with
  | .null => return .badParam
  | .ref =>
      let d ← Prog.get
      if d.base.type = expectedType then
        -- The typed table, not `base.vmt`.
        match d.api with
        | none => return .badParam
        | some api =>
            match api.specific func with
            | some fn => Prog.request (.api fn func args)
            | none => return .notSupported
      else
        return .badParam

/-! ## `init` -/

def adcInit (mem : ConfigMemory) : DriverPtr → HalM ErrorCode :=
  validatedInit .adc (adcConfigValidate mem)

def canInit (mem : ConfigMemory) : DriverPtr → HalM ErrorCode :=
  validatedInit .can (canConfigValidate mem)

def clockInit : DriverPtr → HalM ErrorCode :=
  validatedInit .clock clockConfigValidate

def dacInit (mem : ConfigMemory) : DriverPtr → HalM ErrorCode :=
  validatedInit .dac (dacConfigValidate mem)

def dmaInit : DriverPtr → HalM ErrorCode :=
  validatedInit .dma dmaConfigValidate

/-- The GPIO has no configuration to validate. -/
def gpioInit (driver : DriverPtr) : HalM ErrorCode := do
  match driver with
  | .null => return .badParam
  | .ref =>
      Prog.modify Driver.linkVmt
      baseInit .ref Peripheral.gpio.type

def i2cInit (mem : ConfigMemory) : DriverPtr → HalM ErrorCode :=
  validatedInit .i2c (i2cConfigValidate mem)

def pwmInit (mem : ConfigMemory) : DriverPtr → HalM ErrorCode :=
  validatedInit .pwm (pwmConfigValidate mem)

def rtcInit (mem : ConfigMemory) : DriverPtr → HalM ErrorCode :=
  validatedInit .rtc (rtcConfigValidate mem)

def spiInit (mem : ConfigMemory) : DriverPtr → HalM ErrorCode :=
  validatedInit .spi (spiConfigValidate mem)

def timerInit : DriverPtr → HalM ErrorCode :=
  validatedInit .timer timerConfigValidate

def uartInit (mem : ConfigMemory) : DriverPtr → HalM ErrorCode :=
  validatedInit .uart (uartConfigValidate mem)

def wdtInit (mem : ConfigMemory) : DriverPtr → HalM ErrorCode :=
  validatedInit .wdt (wdtConfigValidate mem)

def irqInit : DriverPtr → HalM ErrorCode :=
  validatedInit .irq irqConfigValidate

def nvmInit : DriverPtr → HalM ErrorCode :=
  validatedInit .nvm nvmConfigValidate

def i2sInit (mem : ConfigMemory) : DriverPtr → HalM ErrorCode :=
  validatedInit .i2s (i2sConfigValidate mem)

def qspiInit : DriverPtr → HalM ErrorCode :=
  validatedInit .qspi qspiConfigValidate

def cryptoInit (mem : ConfigMemory) : DriverPtr → HalM ErrorCode :=
  validatedInit .crypto (cryptoConfigValidate mem)

def sdioInit : DriverPtr → HalM ErrorCode :=
  validatedInit .sdio sdioConfigValidate

def usbInit (mem : ConfigMemory) : DriverPtr → HalM ErrorCode :=
  validatedInit .usb (usbConfigValidate mem)

def ethInit (mem : ConfigMemory) : DriverPtr → HalM ErrorCode :=
  validatedInit .eth (ethConfigValidate mem)

def compInit : DriverPtr → HalM ErrorCode :=
  validatedInit .comp compConfigValidate

/-! ## `config_set` -/

def adcConfigSet (mem : ConfigMemory) : DriverPtr → Ptr → HalM ErrorCode :=
  validatedConfigSet .adc (adcConfigValidate mem)

def canConfigSet (mem : ConfigMemory) : DriverPtr → Ptr → HalM ErrorCode :=
  validatedConfigSet .can (canConfigValidate mem)

def clockConfigSet : DriverPtr → Ptr → HalM ErrorCode :=
  uncheckedConfigSet .clock

def dacConfigSet (mem : ConfigMemory) : DriverPtr → Ptr → HalM ErrorCode :=
  validatedConfigSet .dac (dacConfigValidate mem)

def dmaConfigSet : DriverPtr → Ptr → HalM ErrorCode :=
  validatedConfigSet .dma dmaConfigValidate

def i2cConfigSet (mem : ConfigMemory) : DriverPtr → Ptr → HalM ErrorCode :=
  validatedConfigSet .i2c (i2cConfigValidate mem)

def pwmConfigSet (mem : ConfigMemory) : DriverPtr → Ptr → HalM ErrorCode :=
  validatedConfigSet .pwm (pwmConfigValidate mem)

def rtcConfigSet (mem : ConfigMemory) : DriverPtr → Ptr → HalM ErrorCode :=
  validatedConfigSet .rtc (rtcConfigValidate mem)

def spiConfigSet (mem : ConfigMemory) : DriverPtr → Ptr → HalM ErrorCode :=
  validatedConfigSet .spi (spiConfigValidate mem)

def timerConfigSet : DriverPtr → Ptr → HalM ErrorCode :=
  uncheckedConfigSet .timer

def uartConfigSet (mem : ConfigMemory) : DriverPtr → Ptr → HalM ErrorCode :=
  validatedConfigSet .uart (uartConfigValidate mem)

def wdtConfigSet (mem : ConfigMemory) : DriverPtr → Ptr → HalM ErrorCode :=
  validatedConfigSet .wdt (wdtConfigValidate mem)

def irqConfigSet : DriverPtr → Ptr → HalM ErrorCode :=
  validatedConfigSet .irq irqConfigValidate

def nvmConfigSet : DriverPtr → Ptr → HalM ErrorCode :=
  validatedConfigSet .nvm nvmConfigValidate

def i2sConfigSet (mem : ConfigMemory) : DriverPtr → Ptr → HalM ErrorCode :=
  validatedConfigSet .i2s (i2sConfigValidate mem)

def qspiConfigSet : DriverPtr → Ptr → HalM ErrorCode :=
  validatedConfigSet .qspi qspiConfigValidate

def cryptoConfigSet : DriverPtr → Ptr → HalM ErrorCode :=
  uncheckedConfigSet .crypto

def sdioConfigSet : DriverPtr → Ptr → HalM ErrorCode :=
  validatedConfigSet .sdio sdioConfigValidate

def usbConfigSet (mem : ConfigMemory) : DriverPtr → Ptr → HalM ErrorCode :=
  validatedConfigSet .usb (usbConfigValidate mem)

def ethConfigSet (mem : ConfigMemory) : DriverPtr → Ptr → HalM ErrorCode :=
  validatedConfigSet .eth (ethConfigValidate mem)

def compConfigSet : DriverPtr → Ptr → HalM ErrorCode :=
  validatedConfigSet .comp compConfigValidate

namespace Peripheral

/-- `cfn_hal_<p>_init`. -/
def init (mem : ConfigMemory) : Peripheral → DriverPtr → HalM ErrorCode
  | adc => adcInit mem
  | can => canInit mem
  | clock => clockInit
  | dac => dacInit mem
  | dma => dmaInit
  | gpio => gpioInit
  | i2c => i2cInit mem
  | pwm => pwmInit mem
  | rtc => rtcInit mem
  | spi => spiInit mem
  | timer => timerInit
  | uart => uartInit mem
  | wdt => wdtInit mem
  | irq => irqInit
  | nvm => nvmInit
  | i2s => i2sInit mem
  | qspi => qspiInit
  | crypto => cryptoInit mem
  | sdio => sdioInit
  | usb => usbInit mem
  | eth => ethInit mem
  | comp => compInit

/-- `cfn_hal_<p>_config_set`, which the GPIO does not have. -/
def configSet (mem : ConfigMemory) : (P : Peripheral) → P ≠ gpio → DriverPtr → Ptr → HalM ErrorCode
  | adc, _ => adcConfigSet mem
  | can, _ => canConfigSet mem
  | clock, _ => clockConfigSet
  | dac, _ => dacConfigSet mem
  | dma, _ => dmaConfigSet
  | gpio, h => absurd rfl h
  | i2c, _ => i2cConfigSet mem
  | pwm, _ => pwmConfigSet mem
  | rtc, _ => rtcConfigSet mem
  | spi, _ => spiConfigSet mem
  | timer, _ => timerConfigSet
  | uart, _ => uartConfigSet mem
  | wdt, _ => wdtConfigSet mem
  | irq, _ => irqConfigSet
  | nvm, _ => nvmConfigSet
  | i2s, _ => i2sConfigSet mem
  | qspi, _ => qspiConfigSet
  | crypto, _ => cryptoConfigSet
  | sdio, _ => sdioConfigSet
  | usb, _ => usbConfigSet mem
  | eth, _ => ethConfigSet mem
  | comp, _ => compConfigSet

/-- The peripherals whose `config_set` validates. -/
def validates : Peripheral → Bool
  | clock | crypto | timer | gpio => false
  | _ => true

theorem ne_gpio_of_validates {P : Peripheral} (h : P.validates = true) : P ≠ gpio := by
  rintro rfl
  cases h

/-- Every `init` but the GPIO's is the shared body. -/
theorem init_eq (mem : ConfigMemory) {P : Peripheral} (h : P ≠ gpio) :
    P.init mem = validatedInit P (P.configValidate mem) := by
  cases P <;> first | rfl | exact absurd rfl h

theorem configSet_eq_validated (mem : ConfigMemory) {P : Peripheral} (h : P.validates = true) :
    P.configSet mem (ne_gpio_of_validates h) = validatedConfigSet P (P.configValidate mem) := by
  cases P <;> first | rfl | cases h

theorem configSet_eq_unchecked (mem : ConfigMemory) {P : Peripheral} (h : P.validates = false)
    (hg : P ≠ gpio) : P.configSet mem hg = uncheckedConfigSet P := by
  cases P <;> first | rfl | exact absurd rfl hg | cases h

/-! ## The functions that differ in the tag only -/

/-- `cfn_hal_<p>_deinit`. -/
def deinit (P : Peripheral) (driver : DriverPtr) : HalM ErrorCode :=
  match driver with
  | .null => return .badParam
  | .ref => baseDeinit .ref P.type

/-- `cfn_hal_<p>_config_get`, which the GPIO does not have: the code, and the address of the configuration
that is copied to `*p_config`. -/
def configGet (P : Peripheral) (_hasConfig : P ≠ gpio) (driver : DriverPtr) (pConfig : Ptr) :
    HalM (ErrorCode × Ptr) := do
  match driver with
  | .null => return (.badParam, none)
  | .ref =>
      let d ← Prog.get
      if pConfig.isNone || d.config.isNone then
        return (.badParam, none)
      return (.ok, d.config)

/-- `cfn_hal_<p>_callback_register`. -/
def callbackRegister (P : Peripheral) (driver : DriverPtr) (callback pUserArg : Ptr) :
    HalM ErrorCode := do
  match driver with
  | .null => return .badParam
  | .ref =>
      Prog.modify (Driver.setCallback callback pUserArg)
      baseCallbackRegister .ref P.type callback pUserArg

/-- `cfn_hal_<p>_power_state_set`. -/
def powerStateSet (P : Peripheral) (driver : DriverPtr) (state : PowerState) : HalM ErrorCode :=
  match driver with
  | .null => return .badParam
  | .ref => CaffeineHal.powerStateSet .ref P.type state

/-- `cfn_hal_<p>_event_enable`. -/
def eventEnable (P : Peripheral) (driver : DriverPtr) (eventMask : UInt32) : HalM ErrorCode :=
  match driver with
  | .null => return .badParam
  | .ref => baseEventEnable .ref P.type eventMask

/-- `cfn_hal_<p>_event_disable`. -/
def eventDisable (P : Peripheral) (driver : DriverPtr) (eventMask : UInt32) : HalM ErrorCode :=
  match driver with
  | .null => return .badParam
  | .ref => baseEventDisable .ref P.type eventMask

/-- `cfn_hal_<p>_event_get`. -/
def eventGet (P : Peripheral) (driver : DriverPtr) (pEventMask : Ptr) : HalM ErrorCode :=
  match driver with
  | .null => return .badParam
  | .ref => baseEventGet .ref P.type pEventMask

/-- `cfn_hal_<p>_error_enable`. -/
def errorEnable (P : Peripheral) (driver : DriverPtr) (errorMask : UInt32) : HalM ErrorCode :=
  match driver with
  | .null => return .badParam
  | .ref => baseErrorEnable .ref P.type errorMask

/-- `cfn_hal_<p>_error_disable`. -/
def errorDisable (P : Peripheral) (driver : DriverPtr) (errorMask : UInt32) : HalM ErrorCode :=
  match driver with
  | .null => return .badParam
  | .ref => baseErrorDisable .ref P.type errorMask

/-- `cfn_hal_<p>_error_get`. -/
def errorGet (P : Peripheral) (driver : DriverPtr) (pErrorMask : Ptr) : HalM ErrorCode :=
  match driver with
  | .null => return .badParam
  | .ref => baseErrorGet .ref P.type pErrorMask

end Peripheral

/-- `cfn_hal_<p>_<f>`: a specific function names its own peripheral's tag and its own slot. -/
def SpecificFn.call (func : SpecificFn) (driver : DriverPtr) (args : List Arg) : HalM ErrorCode :=
  checkAndCallFunc func.peripheral.type func driver args

/-- `cfn_hal_gpio_pin_config`. -/
def gpioPinConfig (pPort : DriverPtr) (pPinCfg : Ptr) : HalM ErrorCode :=
  SpecificFn.gpioPinConfig.call pPort [.ptr pPinCfg]

/-! ## Population and construction -/

/-- The arguments of `cfn_hal_<p>_populate` after the driver. -/
structure PopulateArgs where
  peripheralId : UInt32
  clock : Ptr
  dependency : Ptr
  api : Option Api
  phy : Ptr
  config : Ptr
  callback : Ptr
  userArg : Ptr

/-- The arguments of a driver whose port implements every hook, with a configuration at address 0. -/
def fullArgs : PopulateArgs where
  peripheralId := 0
  clock := none
  dependency := none
  api := some ⟨fullTable, fun _ => some 20⟩
  phy := some 1
  config := some 0
  callback := none
  userArg := none

/-- `cfn_hal_<p>_populate`; the GPIO's has no configuration argument and stores NULL. -/
def Peripheral.populate (P : Peripheral) (driver : DriverPtr) (args : PopulateArgs) : HalM Unit :=
  populateDriver driver P.type args.peripheralId args.clock args.dependency args.api args.phy
    (if P = .gpio then none else args.config) args.callback args.userArg

/-- `cfn_hal_<p>_construct` of the port template, with the port's constant table. -/
def Peripheral.construct (P : Peripheral) (portApi : Api) (driver : DriverPtr)
    (config phy clock dependency callback userArg : Ptr) : HalM ErrorCode := do
  -- The configuration may be NULL: it is validated when the driver is initialised.
  if driver = .null ∨ phy = none then
    return .badParam
  P.populate driver
    { peripheralId := 0, clock, dependency, api := some portApi, phy, config, callback, userArg }
  return .ok

/-- `cfn_hal_<p>_destruct` of the port template. -/
def Peripheral.destruct (P : Peripheral) (driver : DriverPtr) : HalM ErrorCode := do
  if driver = .null then
    return .badParam
  P.populate driver
    { peripheralId := 0, clock := none, dependency := none, api := none, phy := none,
      config := none, callback := none, userArg := none }
  return .ok

/-! ## Calls of a peripheral's interface -/

/-- A call of the interface of `P` on a driver that exists. -/
inductive WrapperCall (P : Peripheral) where
  | init (driver : DriverPtr)
  | deinit (driver : DriverPtr)
  | configValidate (driver : DriverPtr) (pConfig : Ptr)
  | configSet (hasConfig : P ≠ .gpio) (driver : DriverPtr) (pConfig : Ptr)
  | callbackRegister (driver : DriverPtr) (callback pUserArg : Ptr)
  | powerStateSet (driver : DriverPtr) (state : PowerState)
  | eventEnable (driver : DriverPtr) (eventMask : UInt32)
  | eventDisable (driver : DriverPtr) (eventMask : UInt32)
  | eventGet (driver : DriverPtr) (pEventMask : Ptr)
  | errorEnable (driver : DriverPtr) (errorMask : UInt32)
  | errorDisable (driver : DriverPtr) (errorMask : UInt32)
  | errorGet (driver : DriverPtr) (pErrorMask : Ptr)
  | specific (func : SpecificFn) (own : func.peripheral = P) (driver : DriverPtr) (args : List Arg)

def WrapperCall.prog {P : Peripheral} (mem : ConfigMemory) : WrapperCall P → HalM ErrorCode
  | .init driver => P.init mem driver
  | .deinit driver => P.deinit driver
  | .configValidate driver pConfig => P.configValidate mem driver pConfig
  | .configSet hasConfig driver pConfig => P.configSet mem hasConfig driver pConfig
  | .callbackRegister driver callback pUserArg => P.callbackRegister driver callback pUserArg
  | .powerStateSet driver state => P.powerStateSet driver state
  | .eventEnable driver eventMask => P.eventEnable driver eventMask
  | .eventDisable driver eventMask => P.eventDisable driver eventMask
  | .eventGet driver pEventMask => P.eventGet driver pEventMask
  | .errorEnable driver errorMask => P.errorEnable driver errorMask
  | .errorDisable driver errorMask => P.errorDisable driver errorMask
  | .errorGet driver pErrorMask => P.errorGet driver pErrorMask
  | .specific func _ driver args => func.call driver args

/-! ## The event and error calls of an interface -/

/-- The six event and error calls. -/
def WrapperCall.isEventError {P : Peripheral} : WrapperCall P → Bool
  | .eventEnable _ _ | .eventDisable _ _ | .eventGet _ _ => true
  | .errorEnable _ _ | .errorDisable _ _ | .errorGet _ _ => true
  | _ => false

/-- An event or error call is given a driver, and a place for its result where it has one. -/
def WrapperCall.hasPointers {P : Peripheral} : WrapperCall P → Bool
  | .eventEnable driver _ | .eventDisable driver _ => driver = .ref
  | .errorEnable driver _ | .errorDisable driver _ => driver = .ref
  | .eventGet driver pMask | .errorGet driver pMask => driver = .ref && pMask.isSome
  | _ => false

/-- The six calls are one body behind the test of the driver pointer. -/
theorem WrapperCall.eventError_eq {P : Peripheral} (mem : ConfigMemory) (c : WrapperCall P)
    (hc : c.isEventError = true) :
    ∃ (driver : DriverPtr) (argNull : Bool) (missing : ErrorCode) (req : BaseRequest),
      req.isEventError = true ∧
      (c.prog mem = match driver with
        | .null => return .badParam
        | .ref => eventErrorCall .ref P.type argNull missing req) ∧
      c.hasPointers = (decide (driver = .ref) && !argNull) := by
  cases c with
  | eventEnable driver mask => exact ⟨driver, false, _, _, rfl, rfl, (Bool.and_true _).symm⟩
  | eventDisable driver mask => exact ⟨driver, false, _, _, rfl, rfl, (Bool.and_true _).symm⟩
  | eventGet driver pMask => exact ⟨driver, pMask.isNone, _, _, rfl, rfl, by cases pMask <;> rfl⟩
  | errorEnable driver mask => exact ⟨driver, false, _, _, rfl, rfl, (Bool.and_true _).symm⟩
  | errorDisable driver mask => exact ⟨driver, false, _, _, rfl, rfl, (Bool.and_true _).symm⟩
  | errorGet driver pMask => exact ⟨driver, pMask.isNone, _, _, rfl, rfl, by cases pMask <;> rfl⟩
  | _ => cases hc

end CaffeineHal
