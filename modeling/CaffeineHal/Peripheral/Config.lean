import CaffeineHal.Driver.Base

/-!
# Configurations and their structural validators

Each peripheral checks the fields of a configuration before it passes the pointer on to the base layer.
The configuration structures have the fields that these checks read; an enumeration field is the
unsigned word that holds it, so that out-of-range values exist, and its bound is the `_MAX` enumerator
of the source.

A configuration pointer is an address, and `ConfigMemory` is what is stored there, seen as the structure
of each peripheral: a wrapper called with a driver of another type reads the same address as its own
structure.
-/

set_option autoImplicit false

namespace CaffeineHal

open CaffeineHal.Program

/-! ## Bounds -/

def adcResolutionBitMax : UInt32 := 8
def adcAlignMax : UInt32 := 2
def scanMax : UInt32 := 2
def adcModeMax : UInt32 := 2
def cryptoAlgoMax : UInt32 := 5
def dacResolutionBitMax : UInt32 := 8
def dacAlignMax : UInt32 := 2
def ethPhyAddressMax : UInt16 := 32
def gpioConfigModeMax : UInt32 := 6
def gpioConfigPullMax : UInt32 := 3
def gpioConfigSpeedMax : UInt32 := 4
def gpioConfigStrengthMax : UInt32 := 3
def gpioStateMax : UInt32 := 2
def i2cConfigSpeedMax : UInt32 := 7
def i2sConfigModeMax : UInt32 := 4
def i2sConfigStandardMax : UInt32 := 5
def i2sConfigDataformatMax : UInt32 := 4
def pwmConfigPolarityInverted : UInt32 := 1
def pwmDutyCycleMax : UInt32 := 100
def rtcConfigFormatMax : UInt32 := 2
def rtcConfigModeMax : UInt32 := 3
def spiConfigFmtMax : UInt32 := 4
def spiConfigCsMax : UInt32 := 3
def uartConfigModeMax : UInt32 := 4
def uartConfigDataLenMax : UInt32 := 5
def uartConfigStopMax : UInt32 := 2
def uartConfigParityMax : UInt32 := 3
def uartConfigFlowCtrlMax : UInt32 := 4
def uartConfigDirectionMax : UInt32 := 4
def wdtConfigSleepMax : UInt32 := 2
def wdtConfigResetMax : UInt32 := 3

/-! ## Structures and field checks -/

/-- `cfn_hal_adc_config_t`. -/
structure AdcConfig where
  resolution : UInt32
  alignment : UInt32
  scan : UInt32
  mode : UInt32
  deriving DecidableEq, Inhabited, Repr

def AdcConfig.rejects (c : AdcConfig) : Bool :=
  decide (c.resolution ≥ adcResolutionBitMax ∨ c.alignment ≥ adcAlignMax ∨ c.scan ≥ scanMax ∨
    c.mode ≥ adcModeMax)

/-- `cfn_hal_can_config_t`. -/
structure CanConfig where
  baudrate : UInt32
  deriving DecidableEq, Inhabited, Repr

def CanConfig.rejects (c : CanConfig) : Bool :=
  decide (c.baudrate = 0)

/-- `cfn_hal_crypto_config_t`. -/
structure CryptoConfig where
  algo : UInt32
  deriving DecidableEq, Inhabited, Repr

def CryptoConfig.rejects (c : CryptoConfig) : Bool :=
  decide (c.algo ≥ cryptoAlgoMax)

/-- `cfn_hal_dac_config_t`. -/
structure DacConfig where
  resolution : UInt32
  alignment : UInt32
  deriving DecidableEq, Inhabited, Repr

def DacConfig.rejects (c : DacConfig) : Bool :=
  decide (c.resolution ≥ dacResolutionBitMax ∨ c.alignment ≥ dacAlignMax)

/-- `cfn_hal_eth_config_t`. -/
structure EthConfig where
  phyAddr : UInt16
  deriving DecidableEq, Inhabited, Repr

def EthConfig.rejects (c : EthConfig) : Bool :=
  decide (c.phyAddr ≥ ethPhyAddressMax)

/-- `cfn_hal_gpio_pin_config_t`. -/
structure GpioPinConfig where
  mode : UInt32
  pull : UInt32
  speed : UInt32
  strength : UInt32
  defaultState : UInt32
  deriving DecidableEq, Inhabited, Repr

def GpioPinConfig.rejects (c : GpioPinConfig) : Bool :=
  decide (c.mode ≥ gpioConfigModeMax ∨ c.pull ≥ gpioConfigPullMax ∨
    c.speed ≥ gpioConfigSpeedMax ∨ c.strength ≥ gpioConfigStrengthMax ∨
    c.defaultState ≥ gpioStateMax)

/-- `cfn_hal_i2c_config_t`. -/
structure I2cConfig where
  speed : UInt32
  deriving DecidableEq, Inhabited, Repr

def I2cConfig.rejects (c : I2cConfig) : Bool :=
  decide (c.speed ≥ i2cConfigSpeedMax)

/-- `cfn_hal_i2s_config_t`. -/
structure I2sConfig where
  mode : UInt32
  standard : UInt32
  dataFormat : UInt32
  deriving DecidableEq, Inhabited, Repr

def I2sConfig.rejects (c : I2sConfig) : Bool :=
  decide (c.mode ≥ i2sConfigModeMax ∨ c.standard ≥ i2sConfigStandardMax ∨
    c.dataFormat ≥ i2sConfigDataformatMax)

/-- `cfn_hal_pwm_config_t`. -/
structure PwmConfig where
  polarity : UInt32
  dutyCyclePercent : UInt32
  deriving DecidableEq, Inhabited, Repr

def PwmConfig.rejects (c : PwmConfig) : Bool :=
  -- These bounds are the largest values that are allowed, not the first ones that are not.
  decide (c.polarity > pwmConfigPolarityInverted ∨ c.dutyCyclePercent > pwmDutyCycleMax)

/-- `cfn_hal_rtc_config_t`. -/
structure RtcConfig where
  format : UInt32
  mode : UInt32
  deriving DecidableEq, Inhabited, Repr

def RtcConfig.rejects (c : RtcConfig) : Bool :=
  decide (c.format ≥ rtcConfigFormatMax ∨ c.mode ≥ rtcConfigModeMax)

/-- `cfn_hal_spi_config_t`. -/
structure SpiConfig where
  fmt : UInt32
  csMode : UInt32
  deriving DecidableEq, Inhabited, Repr

def SpiConfig.rejects (c : SpiConfig) : Bool :=
  decide (c.fmt ≥ spiConfigFmtMax ∨ c.csMode ≥ spiConfigCsMax)

/-- `cfn_hal_uart_config_t`. -/
structure UartConfig where
  readMode : UInt32
  writeMode : UInt32
  dataLen : UInt32
  stopBits : UInt32
  parity : UInt32
  flowCtrl : UInt32
  direction : UInt32
  deriving DecidableEq, Inhabited, Repr

def UartConfig.rejects (c : UartConfig) : Bool :=
  decide (c.readMode ≥ uartConfigModeMax ∨ c.writeMode ≥ uartConfigModeMax ∨
    c.dataLen ≥ uartConfigDataLenMax ∨ c.stopBits ≥ uartConfigStopMax ∨
    c.parity ≥ uartConfigParityMax ∨ c.flowCtrl ≥ uartConfigFlowCtrlMax ∨
    c.direction ≥ uartConfigDirectionMax)

/-- `cfn_hal_usb_config_t`. -/
structure UsbConfig where
  devEndpoints : UInt32
  deriving DecidableEq, Inhabited, Repr

def UsbConfig.rejects (c : UsbConfig) : Bool :=
  decide (c.devEndpoints = 0)

/-- `cfn_hal_wdt_config_t`. -/
structure WdtConfig where
  sleep : UInt32
  reset : UInt32
  timeoutMs : UInt32
  deriving DecidableEq, Inhabited, Repr

/-- The fields that `cfn_hal_wdt_config_validate` refuses; the timeout is a second test there, with
the same code. -/
def WdtConfig.rejects (c : WdtConfig) : Bool :=
  decide (c.sleep ≥ wdtConfigSleepMax ∨ c.reset ≥ wdtConfigResetMax ∨ c.timeoutMs = 0)

/-- What is stored at each address, as the configuration of each peripheral. -/
structure ConfigMemory where
  adc : Nat → AdcConfig
  can : Nat → CanConfig
  crypto : Nat → CryptoConfig
  dac : Nat → DacConfig
  eth : Nat → EthConfig
  gpio : Nat → GpioPinConfig
  i2c : Nat → I2cConfig
  i2s : Nat → I2sConfig
  pwm : Nat → PwmConfig
  rtc : Nat → RtcConfig
  spi : Nat → SpiConfig
  uart : Nat → UartConfig
  usb : Nat → UsbConfig
  wdt : Nat → WdtConfig
  deriving Inhabited

/-! ## Validators -/

/-- The body that the validators share: the pointers, the fields, and then the base layer. -/
def configValidate (P : Peripheral) (rejects : Nat → Bool) (driver : DriverPtr) (pConfig : Ptr) :
    HalM ErrorCode :=
  match driver, pConfig with
  | .ref, some address =>
      if rejects address then return .badConfig
      else baseConfigValidate .ref P.type (some address)
  | _, _ => return .badParam

def adcConfigValidate (mem : ConfigMemory) : DriverPtr → Ptr → HalM ErrorCode :=
  configValidate .adc fun address => (mem.adc address).rejects

def canConfigValidate (mem : ConfigMemory) : DriverPtr → Ptr → HalM ErrorCode :=
  configValidate .can fun address => (mem.can address).rejects

def dacConfigValidate (mem : ConfigMemory) : DriverPtr → Ptr → HalM ErrorCode :=
  configValidate .dac fun address => (mem.dac address).rejects

def gpioPinConfigValidate (mem : ConfigMemory) : DriverPtr → Ptr → HalM ErrorCode :=
  configValidate .gpio fun address => (mem.gpio address).rejects

def i2cConfigValidate (mem : ConfigMemory) : DriverPtr → Ptr → HalM ErrorCode :=
  configValidate .i2c fun address => (mem.i2c address).rejects

def pwmConfigValidate (mem : ConfigMemory) : DriverPtr → Ptr → HalM ErrorCode :=
  configValidate .pwm fun address => (mem.pwm address).rejects

def rtcConfigValidate (mem : ConfigMemory) : DriverPtr → Ptr → HalM ErrorCode :=
  configValidate .rtc fun address => (mem.rtc address).rejects

def spiConfigValidate (mem : ConfigMemory) : DriverPtr → Ptr → HalM ErrorCode :=
  configValidate .spi fun address => (mem.spi address).rejects

def uartConfigValidate (mem : ConfigMemory) : DriverPtr → Ptr → HalM ErrorCode :=
  configValidate .uart fun address => (mem.uart address).rejects

def wdtConfigValidate (mem : ConfigMemory) : DriverPtr → Ptr → HalM ErrorCode :=
  configValidate .wdt fun address => (mem.wdt address).rejects

def i2sConfigValidate (mem : ConfigMemory) : DriverPtr → Ptr → HalM ErrorCode :=
  configValidate .i2s fun address => (mem.i2s address).rejects

def cryptoConfigValidate (mem : ConfigMemory) : DriverPtr → Ptr → HalM ErrorCode :=
  configValidate .crypto fun address => (mem.crypto address).rejects

def usbConfigValidate (mem : ConfigMemory) : DriverPtr → Ptr → HalM ErrorCode :=
  configValidate .usb fun address => (mem.usb address).rejects

def ethConfigValidate (mem : ConfigMemory) : DriverPtr → Ptr → HalM ErrorCode :=
  configValidate .eth fun address => (mem.eth address).rejects

/-! Eight peripherals have no field to check. -/

def clockConfigValidate : DriverPtr → Ptr → HalM ErrorCode :=
  configValidate .clock fun _ => false

def dmaConfigValidate : DriverPtr → Ptr → HalM ErrorCode :=
  configValidate .dma fun _ => false

def timerConfigValidate : DriverPtr → Ptr → HalM ErrorCode :=
  configValidate .timer fun _ => false

def irqConfigValidate : DriverPtr → Ptr → HalM ErrorCode :=
  configValidate .irq fun _ => false

def nvmConfigValidate : DriverPtr → Ptr → HalM ErrorCode :=
  configValidate .nvm fun _ => false

def qspiConfigValidate : DriverPtr → Ptr → HalM ErrorCode :=
  configValidate .qspi fun _ => false

def sdioConfigValidate : DriverPtr → Ptr → HalM ErrorCode :=
  configValidate .sdio fun _ => false

def compConfigValidate : DriverPtr → Ptr → HalM ErrorCode :=
  configValidate .comp fun _ => false

namespace Peripheral

/-- `cfn_hal_<p>_config_validate`; the GPIO validates the configuration of a pin. -/
def configValidate (mem : ConfigMemory) : Peripheral → DriverPtr → Ptr → HalM ErrorCode
  | adc => adcConfigValidate mem
  | can => canConfigValidate mem
  | clock => clockConfigValidate
  | dac => dacConfigValidate mem
  | dma => dmaConfigValidate
  | gpio => gpioPinConfigValidate mem
  | i2c => i2cConfigValidate mem
  | pwm => pwmConfigValidate mem
  | rtc => rtcConfigValidate mem
  | spi => spiConfigValidate mem
  | timer => timerConfigValidate
  | uart => uartConfigValidate mem
  | wdt => wdtConfigValidate mem
  | irq => irqConfigValidate
  | nvm => nvmConfigValidate
  | i2s => i2sConfigValidate mem
  | qspi => qspiConfigValidate
  | crypto => cryptoConfigValidate mem
  | sdio => sdioConfigValidate
  | usb => usbConfigValidate mem
  | eth => ethConfigValidate mem
  | comp => compConfigValidate

/-- The field check of each peripheral. -/
def rejects (mem : ConfigMemory) : Peripheral → Nat → Bool
  | adc => fun address => (mem.adc address).rejects
  | can => fun address => (mem.can address).rejects
  | dac => fun address => (mem.dac address).rejects
  | gpio => fun address => (mem.gpio address).rejects
  | i2c => fun address => (mem.i2c address).rejects
  | pwm => fun address => (mem.pwm address).rejects
  | rtc => fun address => (mem.rtc address).rejects
  | spi => fun address => (mem.spi address).rejects
  | uart => fun address => (mem.uart address).rejects
  | wdt => fun address => (mem.wdt address).rejects
  | i2s => fun address => (mem.i2s address).rejects
  | crypto => fun address => (mem.crypto address).rejects
  | usb => fun address => (mem.usb address).rejects
  | eth => fun address => (mem.eth address).rejects
  | clock | dma | timer | irq | nvm | qspi | sdio | comp => fun _ => false

/-- Every validator is the shared body at the peripheral's own tag and field check. -/
theorem configValidate_eq (mem : ConfigMemory) (P : Peripheral) :
    P.configValidate mem = CaffeineHal.configValidate P (P.rejects mem) := by
  cases P <;> rfl

end Peripheral

end CaffeineHal
