import Mathlib.Data.List.Nodup

/-!
# Peripherals and their type tags

Each of the 22 peripherals has a type tag, the four characters of a FourCC packed into 32 bits with
the first character in the lowest byte. `Peripheral.type_injective` says that two peripherals never
share a tag; every type guard of the layer rests on it.

`SpecificFn` lists the slots of the API tables that come after the base table, one for each
peripheral-specific function; `cfn_hal_uart_tx_irq` is `uartTxIrq`.
-/

set_option autoImplicit false

namespace CaffeineHal

/-- `cfn_hal_peripheral_type_t`. -/
abbrev PeripheralType := UInt32

/-- `CFN_HAL_MAKE_TYPE`: four characters, the first in the lowest byte. -/
def makeType (a b c d : Char) : PeripheralType :=
  a.toUInt8.toUInt32 ||| (b.toUInt8.toUInt32 <<< 8) ||| (c.toUInt8.toUInt32 <<< 16) |||
    (d.toUInt8.toUInt32 <<< 24)

/-- `CFN_HAL_PERIPHERAL_TYPE`: the prefix of the HAL and three characters. -/
def peripheralType (a b c : Char) : PeripheralType := makeType 'A' a b c

inductive Peripheral where
  | adc | can | clock | dac | dma | gpio | i2c | pwm | rtc | spi | timer | uart | wdt | irq | nvm
  | i2s | qspi | crypto | sdio | usb | eth | comp
  deriving DecidableEq, Repr

namespace Peripheral

/-- The `CFN_HAL_PERIPHERAL_TYPE_*` tags. -/
def type : Peripheral → PeripheralType
  | adc => peripheralType 'A' 'D' 'C'
  | can => peripheralType 'C' 'A' 'N'
  | clock => peripheralType 'C' 'L' 'K'
  | dac => peripheralType 'D' 'A' 'C'
  | dma => peripheralType 'D' 'M' 'A'
  | gpio => peripheralType 'G' 'P' 'O'
  | i2c => peripheralType 'I' '2' 'C'
  | pwm => peripheralType 'P' 'W' 'M'
  | rtc => peripheralType 'R' 'T' 'C'
  | spi => peripheralType 'S' 'P' 'I'
  | timer => peripheralType 'T' 'I' 'M'
  | uart => peripheralType 'U' 'R' 'T'
  | wdt => peripheralType 'W' 'D' 'T'
  | irq => peripheralType 'I' 'R' 'Q'
  | nvm => peripheralType 'N' 'V' 'M'
  | i2s => peripheralType 'I' '2' 'S'
  | qspi => peripheralType 'Q' 'S' 'P'
  | crypto => peripheralType 'C' 'R' 'Y'
  | sdio => peripheralType 'S' 'D' 'I'
  | usb => peripheralType 'U' 'S' 'B'
  | eth => peripheralType 'E' 'T' 'H'
  | comp => peripheralType 'C' 'M' 'P'

/-- The peripherals in the order of their tags in the source. -/
def all : List Peripheral :=
  [adc, can, clock, dac, dma, gpio, i2c, pwm, rtc, spi, timer, uart, wdt, irq, nvm, i2s, qspi,
    crypto, sdio, usb, eth, comp]

theorem mem_all (P : Peripheral) : P ∈ all := by
  cases P <;> decide

theorem nodup_types : (all.map type).Nodup := by decide

/-- No two peripherals share a type tag. -/
theorem type_injective : Function.Injective type :=
  fun P Q h => List.inj_on_of_nodup_map nodup_types (mem_all P) (mem_all Q) h

end Peripheral

/-- The slots of the API tables after the base table. -/
inductive SpecificFn where
  | adcRead | adcStart | adcStop | adcReadDma
  | canTransmit | canReceive | canAddFilter
  | clockSuspendTick | clockResumeTick | clockGetSystemFreq | clockGetPeripheralFreq
  | clockEnableGate | clockDisableGate
  | compReadOutput | compSetThreshold | compStart | compStop
  | cryptoEncrypt | cryptoDecrypt | cryptoHashUpdate | cryptoHashFinish | cryptoGenerateRandom
  | cryptoSetKey
  | dacSetValue | dacStart | dacStop | dacWriteDma
  | dmaStart | dmaStop
  | ethStart | ethStop | ethTransmitFrame | ethReceiveFrame | ethReadPhyReg | ethWritePhyReg
  | ethGetLinkStatus
  | gpioPinConfig | gpioPinRead | gpioPinWrite | gpioPinToggle | gpioPortRead | gpioPortWrite
  | i2cXfrIrq | i2cXfrIrqAbort | i2cXfrPolling | i2cMemRead | i2cMemWrite | i2cXfrDma
  | i2sTransmitDma | i2sReceiveDma | i2sPause | i2sResume | i2sStop
  | irqGlobalEnable | irqGlobalDisable | irqEnableVector | irqDisableVector | irqSetPriority
  | irqClearPending
  | nvmRead | nvmWrite | nvmEraseSector | nvmEraseChip | nvmGetInfo
  | pwmStart | pwmStop | pwmSetFrequency | pwmSetDutyCycle
  | qspiCommand | qspiTransmit | qspiReceive | qspiMemoryMappedEnable | qspiAutopollingEnable
  | rtcSetTime | rtcGetTime | rtcSetAlarm | rtcGetAlarm | rtcStopAlarm
  | sdioSendCommand | sdioReadBlocks | sdioWriteBlocks | sdioGetCardInfo | sdioWaitCardReady
  | spiXfrIrq | spiXfrIrqAbort | spiXfrPolling | spiXfrDma
  | timerStart | timerStop | timerGetTicks | timerGetTicksU64 | timerSetPeriod
  | uartTxIrq | uartTxIrqAbort | uartRxNIrq | uartRxIrq | uartRxIrqAbort | uartTxPolling
  | uartRxPolling | uartRxToIdle | uartTxDma | uartRxDma
  | usbStart | usbStop | usbSetAddress | usbEpOpen | usbEpClose | usbEpTransmit | usbEpReceive
  | usbEpStall | usbReadSetupPacket | usbGetRxDataSize
  | wdtStart | wdtStop | wdtFeed
  deriving DecidableEq, Repr

/-- The peripheral whose API table has the slot. -/
def SpecificFn.peripheral : SpecificFn → Peripheral
  | .adcRead | .adcStart | .adcStop | .adcReadDma => .adc
  | .canTransmit | .canReceive | .canAddFilter => .can
  | .clockSuspendTick | .clockResumeTick | .clockGetSystemFreq | .clockGetPeripheralFreq
  | .clockEnableGate | .clockDisableGate => .clock
  | .compReadOutput | .compSetThreshold | .compStart | .compStop => .comp
  | .cryptoEncrypt | .cryptoDecrypt | .cryptoHashUpdate | .cryptoHashFinish
  | .cryptoGenerateRandom | .cryptoSetKey => .crypto
  | .dacSetValue | .dacStart | .dacStop | .dacWriteDma => .dac
  | .dmaStart | .dmaStop => .dma
  | .ethStart | .ethStop | .ethTransmitFrame | .ethReceiveFrame | .ethReadPhyReg
  | .ethWritePhyReg | .ethGetLinkStatus => .eth
  | .gpioPinConfig | .gpioPinRead | .gpioPinWrite | .gpioPinToggle | .gpioPortRead
  | .gpioPortWrite => .gpio
  | .i2cXfrIrq | .i2cXfrIrqAbort | .i2cXfrPolling | .i2cMemRead | .i2cMemWrite | .i2cXfrDma => .i2c
  | .i2sTransmitDma | .i2sReceiveDma | .i2sPause | .i2sResume | .i2sStop => .i2s
  | .irqGlobalEnable | .irqGlobalDisable | .irqEnableVector | .irqDisableVector | .irqSetPriority
  | .irqClearPending => .irq
  | .nvmRead | .nvmWrite | .nvmEraseSector | .nvmEraseChip | .nvmGetInfo => .nvm
  | .pwmStart | .pwmStop | .pwmSetFrequency | .pwmSetDutyCycle => .pwm
  | .qspiCommand | .qspiTransmit | .qspiReceive | .qspiMemoryMappedEnable
  | .qspiAutopollingEnable => .qspi
  | .rtcSetTime | .rtcGetTime | .rtcSetAlarm | .rtcGetAlarm | .rtcStopAlarm => .rtc
  | .sdioSendCommand | .sdioReadBlocks | .sdioWriteBlocks | .sdioGetCardInfo
  | .sdioWaitCardReady => .sdio
  | .spiXfrIrq | .spiXfrIrqAbort | .spiXfrPolling | .spiXfrDma => .spi
  | .timerStart | .timerStop | .timerGetTicks | .timerGetTicksU64 | .timerSetPeriod => .timer
  | .uartTxIrq | .uartTxIrqAbort | .uartRxNIrq | .uartRxIrq | .uartRxIrqAbort | .uartTxPolling
  | .uartRxPolling | .uartRxToIdle | .uartTxDma | .uartRxDma => .uart
  | .usbStart | .usbStop | .usbSetAddress | .usbEpOpen | .usbEpClose | .usbEpTransmit
  | .usbEpReceive | .usbEpStall | .usbReadSetupPacket | .usbGetRxDataSize => .usb
  | .wdtStart | .wdtStop | .wdtFeed => .wdt

end CaffeineHal
