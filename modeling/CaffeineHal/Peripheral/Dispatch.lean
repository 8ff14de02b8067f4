import CaffeineHal.Driver.EventError
import CaffeineHal.Peripheral.Representation

/-!
# Dispatch of the specific functions

`CFN_HAL_CHECK_AND_CALL_FUNC` tests the driver, its tag and its table, and not its status: a specific
function reaches the port of a driver that was never initialised or was stopped, as the tests of several
peripherals use it. The event and error calls of the base layer are refused on a driver that is not
INITIALIZED.

`specific_dispatch` says both of every reachable state.
-/

set_option autoImplicit false

namespace CaffeineHal

open CaffeineHal.Program

variable {W : Type}

/-- The hook that a specific function goes to. -/
def Driver.specificHook (d : Driver) (func : SpecificFn) : Option FnPtr :=
  d.api.bind fun api => api.specific func

/-- A specific function is dispatched by the table alone: its hook is called once with the arguments and its
code is returned, or there is none, and the call fails and does nothing. -/
def DispatchedByTable (env : HalEnv W) (func : SpecificFn) (args : List Arg) (s : HalConf W) : Prop :=
  match s.record.specificHook func with
  | some fn =>
      run env (func.call .ref args) s =
        (s.reply env (.api fn func args), s.answered env (.api fn func args))
  | none => (run env (func.call .ref args) s).1 ≠ .ok ∧ (run env (func.call .ref args) s).2 = s

/-- The event and error calls of a driver that is not live fail and do nothing, and say why. -/
def EventsGated {P : Peripheral} (env : HalEnv W) (mem : ConfigMemory) (s : HalConf W) : Prop :=
  ∀ c : WrapperCall P, c.isEventError = true →
    ∃ r, r ≠ .ok ∧ run env (c.prog mem) s = (r, s) ∧
      (c.hasPointers = true → s.record.base.vmt ≠ none → r = .driverNotInit)

section Dispatch

variable {env : HalEnv W} {s : HalConf W}

theorem dispatchedByTable (func : SpecificFn) (args : List Arg)
    (htype : s.record.base.type = func.peripheral.type) : DispatchedByTable env func args s := by
  unfold DispatchedByTable Driver.specificHook
  cases hapi : s.record.api with
  | none => simp [SpecificFn.call, checkAndCallFunc, htype, hapi]
  | some api =>
      cases hslot : api.specific func with
      | none => simp [SpecificFn.call, checkAndCallFunc, htype, hapi, hslot]
      | some fn => simp [SpecificFn.call, checkAndCallFunc, htype, hapi, hslot]

variable (env) in
theorem run_eventErrorCall_notLive {P : Peripheral} (htype : s.record.base.type = P.type)
    (hs : s.record.base.status ≠ .initialized) (argNull : Bool) (missing : ErrorCode)
    (req : BaseRequest) :
    ∃ r, r ≠ .ok ∧ run env (eventErrorCall .ref P.type argNull missing req) s = (r, s) ∧
      (argNull = false → s.record.base.vmt ≠ none → r = .driverNotInit) := by
  have hstopped : ¬ (Linked .ref P.type s.record ∧ argNull = false ∧
      s.record.base.status = .initialized) := fun h => hs h.2.2
  obtain ⟨r, hr, hrun, hcode⟩ := run_eventErrorCall_stopped env missing req hstopped
  exact ⟨r, hr, hrun, fun harg hv => hcode ⟨⟨rfl, htype⟩, hv⟩ harg⟩

theorem eventsGated {P : Peripheral} (mem : ConfigMemory) (htype : s.record.base.type = P.type)
    (hs : s.record.base.status ≠ .initialized) : EventsGated (P := P) env mem s := by
  intro c hc
  obtain ⟨driver, argNull, missing, req, -, hprog, hpointers⟩ := c.eventError_eq mem hc
  rw [hprog, hpointers]
  cases driver with
  | null => exact ⟨.badParam, ErrorCode.noConfusion, rfl, by rintro ⟨⟩⟩
  | ref =>
      obtain ⟨r, hr, hrun, hcode⟩ :=
        run_eventErrorCall_notLive env htype hs argNull missing req
      refine ⟨r, hr, hrun, fun h => hcode ?_⟩
      simpa using h

end Dispatch

/-- The status gates the event and error calls, and not the specific functions. In every reachable state
of a driver, a specific function of its peripheral is dispatched by the table alone, whatever the status;
while the driver is not INITIALIZED, an event or error call reaches no hook and fails. -/
theorem specific_dispatch (func : SpecificFn) (args : List Arg) (mem : ConfigMemory)
    (codes : HookCodes W) (memory : Driver) (populateArgs : PopulateArgs)
    (ops : List (PublicCall func.peripheral)) (x : W) :
    let env : HalEnv W := .ofCodes codes
    let s := runOps env (PublicCall.prog mem) ops
      (populatedConf func.peripheral env memory populateArgs x)
    DispatchedByTable env func args s ∧
      (s.record.base.status ≠ .initialized → EventsGated (P := func.peripheral) env mem s) := by
  intro env s
  have h : Represented func.peripheral s.record :=
    reachable_represented func.peripheral mem codes memory populateArgs ops x
  exact ⟨dispatchedByTable func args h.type, eventsGated mem h.type⟩

/-- Four bytes are sent on a UART that was stopped: the transfer reaches the port, and is OK. -/
theorem stopped_uart_transfers :
    let env : HalEnv Unit := .ofCodes okHooks
    let s := runOps env (PublicCall.prog (P := .uart) default)
      [.peripheral (.call (.init .ref)), .peripheral (.call (.deinit .ref))]
      (populatedConf .uart env zeroedDriver fullArgs ())
    let out := run env (SpecificFn.uartTxPolling.call .ref [.ptr (some 64), .word 4, .word 100]) s
    s.record.base.status = .constructed ∧
      ¬ (out.1 ≠ .ok ∧ s.callsSince out.2 = []) := by
  intro env s out
  refine ⟨by decide, ?_⟩
  rintro ⟨hcode, -⟩
  exact hcode (by decide)

end CaffeineHal
