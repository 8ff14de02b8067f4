import CaffeineHal.Driver.Calls
import CaffeineHal.Lifecycle.Bringup

/-!
# Hook logs as bring-up actions

A hook call is read as a bring-up action (`HalEvent.action`): the board's hook lends or takes back
clocks and pins, the port's `init` and `deinit` start and stop the peripheral, and every other hook of
the base table uses it, except `config_validate`, which only looks at a configuration. `actions` reads
a whole log.

`Setup` is the arguments that a driver is populated with; `Setup.conf` is the state in which its runs
begin.
-/

set_option autoImplicit false

namespace CaffeineHal

open CaffeineHal.Program CaffeineHal.Lifecycle

variable {W : Type}

/-- The bring-up action that a hook call is, if any. -/
def HalEvent.action (e : HalEvent) : Option BringupAction :=
  match e.call with
  | .onConfig _ _ .init => some (.acquire (decide (e.answer = .ok)))
  | .onConfig _ _ .deinit => some .release
  | .vmt _ .init => some (.start (decide (e.answer = .ok)))
  | .vmt _ .deinit => some (.stop (decide (e.answer = .ok)))
  -- To look at a configuration does not touch the peripheral.
  | .vmt _ (.configValidate _) => none
  | .vmt _ _ => some .use
  -- The base layer makes no call of a specific slot.
  | .api _ _ _ => none

/-- The bring-up actions of a log. -/
def actions (log : List HalEvent) : List BringupAction :=
  log.filterMap HalEvent.action

@[simp] theorem actions_nil : actions [] = [] := rfl

@[simp] theorem actions_cons_onInit (fn : FnPtr) (arg : Ptr) (d : Driver) (r : ErrorCode)
    (older : List HalEvent) :
    actions (⟨.onConfig fn arg .init, d, r⟩ :: older) =
      .acquire (decide (r = .ok)) :: actions older := rfl

@[simp] theorem actions_cons_onDeinit (fn : FnPtr) (arg : Ptr) (d : Driver) (r : ErrorCode)
    (older : List HalEvent) :
    actions (⟨.onConfig fn arg .deinit, d, r⟩ :: older) = .release :: actions older := rfl

@[simp] theorem actions_cons_init (fn : FnPtr) (d : Driver) (r : ErrorCode)
    (older : List HalEvent) :
    actions (⟨.vmt fn .init, d, r⟩ :: older) = .start (decide (r = .ok)) :: actions older := rfl

@[simp] theorem actions_cons_deinit (fn : FnPtr) (d : Driver) (r : ErrorCode)
    (older : List HalEvent) :
    actions (⟨.vmt fn .deinit, d, r⟩ :: older) = .stop (decide (r = .ok)) :: actions older := rfl

theorem actions_append (newer older : List HalEvent) :
    actions (newer ++ older) = actions newer ++ actions older :=
  List.filterMap_append

theorem actions_cons_of_action {e : HalEvent} {a : BringupAction} (h : e.action = some a)
    (older : List HalEvent) : actions (e :: older) = a :: actions older := by
  rw [actions, List.filterMap_cons_some h]
  rfl

theorem actions_suffix {older log : List HalEvent} (h : older <:+ log) :
    actions older <:+ actions log := by
  obtain ⟨newer, rfl⟩ := h
  exact ⟨actions newer, (actions_append newer older).symm⟩

/-- A hook call of a service call uses the peripheral or is no action. -/
theorem ServiceEvent.action {req : BaseRequest} {d : Driver} {e : HalEvent}
    (h : ServiceEvent req d e) (hreq : req.isService = true) :
    e.action = none ∨ d.base.status = .initialized ∧ e.action = some .use := by
  obtain ⟨-, fn, ⟨hcall, hst⟩ | ⟨pConfig, hcall⟩⟩ := h
  · -- The hook of the call itself, which is none of the lifecycle or lock hooks.
    cases req with
    | init => cases hreq
    | deinit => cases hreq
    | lock timeout => cases hreq
    | unlock => cases hreq
    | configValidate pConfig => exact .inl (by rw [HalEvent.action, hcall])
    | _ => exact .inr ⟨hst, by rw [HalEvent.action, hcall]⟩
  · exact .inl (by rw [HalEvent.action, hcall])

/-- The actions of a service call are uses of a peripheral that is INITIALIZED. -/
theorem ServiceLog.actions {req : BaseRequest} {d : Driver} {s s' : HalConf W}
    (h : ServiceLog req d s s') (hreq : req.isService = true) :
    ∃ newer, actions s'.log = newer ++ actions s.log ∧
      ∀ a ∈ newer, a = .use ∧ d.base.status = .initialized := by
  obtain ⟨evs, hlog, hevs⟩ := h
  refine ⟨CaffeineHal.actions evs, by rw [hlog, actions_append], fun a ha => ?_⟩
  obtain ⟨e, he, hea⟩ := List.mem_filterMap.1 ha
  rcases (hevs e he).action hreq with hn | ⟨hst, hu⟩
  · rw [hn] at hea
    cases hea
  · rw [hu] at hea
    exact ⟨(Option.some.inj hea).symm, hst⟩

/-! ## Populated drivers -/

/-- What a driver is populated with: the memory it is placed in, the arguments of
`cfn_hal_base_populate`, and the argument of the board's hook. -/
structure Setup where
  memory : Driver
  type : PeripheralType
  peripheralId : UInt32
  vmt : Option ApiBase
  clock : Ptr
  dependency : Ptr
  onConfigArg : Ptr

/-- Populate the base driver and set the board's hook. -/
def Setup.prog (setup : Setup) (onConfig : Option FnPtr) : HalM Unit := do
  basePopulate .ref setup.type setup.peripheralId setup.vmt setup.clock setup.dependency
  Prog.modify (Driver.setOnConfig onConfig setup.onConfigArg)

/-- The driver as it is when its runs begin. -/
def Setup.driver (setup : Setup) (onConfig : Option FnPtr) : Driver :=
  Driver.setOnConfig onConfig setup.onConfigArg
    { setup.memory with
      base := setup.memory.base.populated setup.type setup.peripheralId setup.vmt
        setup.clock setup.dependency }

/-- The state in which runs begin: the driver populated, no hook called yet. -/
def Setup.conf (setup : Setup) (onConfig : Option FnPtr) (x : W) : HalConf W where
  record := setup.driver onConfig
  world := x
  log := []

/-- Runs begin in the state that populating the memory and setting the hook leads to. -/
theorem Setup.run_prog (setup : Setup) (onConfig : Option FnPtr) (env : HalEnv W) (x : W) :
    (run env (setup.prog onConfig) ⟨setup.memory, x, []⟩).2 = setup.conf onConfig x := rfl

/-- A UART driver whose port implements every hook. -/
def uartSetup : Setup where
  memory := zeroedDriver
  type := Peripheral.uart.type
  peripheralId := 0
  vmt := some fullTable
  clock := none
  dependency := none
  onConfigArg := none

/-- A call of a run: it starts or stops the driver, or uses it. -/
abbrev DriverCall := LifecycleCall ⊕ ServiceCall

def DriverCall.prog : DriverCall → HalM ErrorCode
  | .inl c => c.prog
  | .inr c => c.prog

end CaffeineHal
