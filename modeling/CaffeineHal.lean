import CaffeineHal.Program.Resumption
import CaffeineHal.Program.Monitor
import CaffeineHal.Program.Pairing
import CaffeineHal.Program.History
import CaffeineHal.Program.Frame
import CaffeineHal.Program.Independent
import CaffeineHal.Program.Interference
import CaffeineHal.Program.Clients
import CaffeineHal.Program.Mutex
import CaffeineHal.Program.Serial
import CaffeineHal.Program.Sections
import CaffeineHal.Program.Crew
import CaffeineHal.Program.Bounded
import CaffeineHal.Program.Locked
import CaffeineHal.Program.Family
import CaffeineHal.Program.Relational
import CaffeineHal.Program.Behaviour
import CaffeineHal.Program.Private
import CaffeineHal.Program.Integers
import CaffeineHal.Program.Initializer
import CaffeineHal.Driver.Peripheral
import CaffeineHal.Driver.Record
import CaffeineHal.Driver.Base
import CaffeineHal.Driver.Outcome
import CaffeineHal.Driver.Calls
import CaffeineHal.Driver.Frame
import CaffeineHal.Driver.EventError
import CaffeineHal.Driver.Effect
import CaffeineHal.Driver.Bits
import CaffeineHal.Lifecycle.Bringup
import CaffeineHal.Lifecycle.Contract
import CaffeineHal.Lifecycle.HookLog
import CaffeineHal.Lifecycle.Balance
import CaffeineHal.Lifecycle.Exact
import CaffeineHal.Lifecycle.Handler
import CaffeineHal.Lifecycle.PowerShadow
import CaffeineHal.Lifecycle.FaultRecovery
import CaffeineHal.Lifecycle.Release
import CaffeineHal.Peripheral.Config
import CaffeineHal.Peripheral.Wrapper
import CaffeineHal.Peripheral.Isolation
import CaffeineHal.Peripheral.ConfigSet
import CaffeineHal.Peripheral.Callback
import CaffeineHal.Peripheral.Gate
import CaffeineHal.Peripheral.Unchecked
import CaffeineHal.Peripheral.Outcome
import CaffeineHal.Peripheral.Setup
import CaffeineHal.Peripheral.Representation
import CaffeineHal.Peripheral.Destruct
import CaffeineHal.Peripheral.Teardown
import CaffeineHal.Peripheral.Dispatch
import CaffeineHal.Lock.WithLock
import CaffeineHal.Lock.AfterDestruct
import CaffeineHal.Lock.Leak
import CaffeineHal.Lock.Builds
import CaffeineHal.Lock.Reset
import CaffeineHal.Port.UartPort
import CaffeineHal.Port.VendorError
import CaffeineHal.Peripheral.Stage
import CaffeineHal.Peripheral.Interrupted
import CaffeineHal.Peripheral.Bound
import CaffeineHal.Peripheral.Handlers
import CaffeineHal.Peripheral.ConfigShadow
import CaffeineHal.Peripheral.Recovery
import CaffeineHal.Peripheral.Contract
import CaffeineHal.Peripheral.System
import CaffeineHal.Lock.Protected
import CaffeineHal.Lock.Nested
import CaffeineHal.Peripheral.PortState
import CaffeineHal.Port.Template
import CaffeineHal.Lock.Linear
