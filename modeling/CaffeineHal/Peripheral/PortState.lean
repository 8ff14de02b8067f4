import CaffeineHal.Peripheral.Interrupted
import CaffeineHal.Program.Private

/-!
# Ports that keep state in the driver

A driver has fields that are there for the port and the board: the clock and the dependency, the extension,
the flags, the lock handle, the physical handle and the number of the peripheral (`PortState`). No function of
an interface reads or writes them once the driver is populated (`WrapperCall.ignores`), so a port that keeps
its state there is like one that keeps it elsewhere (`port_state_invisible`), and what holds of hooks that do
not write the record holds of hooks that write these fields (`stateful_port_balanced`,
`stateful_port_interrupt_safe`).
-/

set_option autoImplicit false

namespace CaffeineHal

open CaffeineHal.Program CaffeineHal.Lifecycle

variable {W : Type}

/-- The fields of a driver that are for the port and the board. -/
structure PortState where
  clockDriver : Ptr
  lockObj : Ptr
  dependency : Ptr
  extension : Ptr
  flags : UInt32
  peripheralId : UInt32
  phy : Ptr
  deriving DecidableEq, Repr

namespace Driver

def portState (d : Driver) : PortState :=
  ⟨d.base.clockDriver, d.base.lockObj, d.base.dependency, d.base.extension, d.base.flags,
    d.base.peripheralId, d.phy⟩

def withPortState (d : Driver) (p : PortState) : Driver :=
  { d with
    base := { d.base with
      clockDriver := p.clockDriver
      lockObj := p.lockObj
      dependency := p.dependency
      extension := p.extension
      flags := p.flags
      peripheralId := p.peripheralId }
    phy := p.phy }

end Driver

/-- The port's part of a driver. -/
def portPart : Part Driver PortState where
  get := Driver.portState
  put := Driver.withPortState
  get_put _ _ := rfl
  put_get _ := rfl
  put_put _ _ _ := rfl

/-- Hooks that write the port's part of the driver at most. -/
abbrev KeepsToItsPart (env : HalEnv W) : Prop := env.WritesOnly portPart

/-! ## The functions do not look at it -/

/-- The function neither reads nor writes the port's part. -/
abbrev IgnoresPort {α : Type} (p : HalM α) : Prop := p.Ignores portPart

section Base

theorem typeRejects_ignores (pBase : DriverPtr) (ty : PeripheralType) :
    IgnoresPort (typeRejects pBase ty) := by
  cases pBase with
  | null => exact ignores_done _
  | ref => exact ignores_get (fun _ _ => rfl) fun _ => ignores_done _

theorem linkRejects_ignores (pBase : DriverPtr) (ty : PeripheralType) :
    IgnoresPort (linkRejects pBase ty) := by
  cases pBase with
  | null => exact ignores_done _
  | ref => exact ignores_get (fun _ _ => rfl) fun _ => ignores_done _

theorem callSlot_ignores (pApi : Option ApiBase) (req : BaseRequest) (missing : ErrorCode) :
    IgnoresPort (callSlot pApi req missing) := by
  unfold callSlot
  cases (pApi.bind fun t => t.slot req) with
  | none => exact ignores_done _
  | some fn => exact ignores_request _

theorem callOnConfig_ignores (phase : ConfigPhase) : IgnoresPort (callOnConfig phase) := by
  refine ignores_get (fun _ _ => rfl) fun d => ?_
  cases d.base.onConfig with
  | none => exact ignores_done _
  | some fn => exact ignores_request _

theorem setStatus_ignores (status : DriverStatus) :
    IgnoresPort (Prog.modify (Driver.setStatus status)) :=
  ignores_modify fun _ _ => rfl

theorem setPowerState_ignores (state : PowerState) :
    IgnoresPort (Prog.modify (Driver.setPowerState state)) :=
  ignores_modify fun _ _ => rfl

theorem baseInit_ignores (pBase : DriverPtr) (ty : PeripheralType) :
    IgnoresPort (baseInit pBase ty) := by
  -- Down the source line by line: every read is of a field that is not the port's.
  refine ignores_bind (linkRejects_ignores pBase ty) fun _ => ignores_ite (ignores_done _) ?_
  refine ignores_get (fun _ _ => rfl) fun _ => ignores_ite (ignores_done _) ?_
  refine ignores_bind (callOnConfig_ignores .init) fun _ => ignores_ite (ignores_done _) ?_
  refine ignores_get (fun _ _ => rfl) fun d => ?_
  refine ignores_bind (callSlot_ignores d.base.vmt _ _) fun _ => ignores_ite ?_ ?_
  · exact ignores_bind (setStatus_ignores _) fun _ => ignores_done _
  · exact ignores_bind (callOnConfig_ignores .deinit) fun _ => ignores_done _

theorem baseDeinit_ignores (pBase : DriverPtr) (ty : PeripheralType) :
    IgnoresPort (baseDeinit pBase ty) := by
  refine ignores_bind (linkRejects_ignores pBase ty) fun _ => ignores_ite (ignores_done _) ?_
  refine ignores_get (fun _ _ => rfl) fun _ => ignores_ite (ignores_done _) ?_
  refine ignores_get (fun _ _ => rfl) fun _ => ignores_ite (ignores_done _) ?_
  refine ignores_get (fun _ _ => rfl) fun d => ?_
  refine ignores_bind (callSlot_ignores d.base.vmt _ _) fun _ => ignores_ite ?_ (ignores_done _)
  exact ignores_bind (setStatus_ignores _) fun _ => callOnConfig_ignores .deinit

theorem baseConfigSet_ignores (pBase : DriverPtr) (ty : PeripheralType) (pConfig : Ptr) :
    IgnoresPort (baseConfigSet pBase ty pConfig) := by
  refine ignores_bind (typeRejects_ignores pBase ty) fun _ => ignores_ite (ignores_done _) ?_
  refine ignores_get (fun _ _ => rfl) fun _ => ignores_ite ?_ (ignores_done _)
  refine ignores_get (fun _ _ => rfl) fun d => ignores_ite (ignores_done _) ?_
  refine ignores_bind (callSlot_ignores d.base.vmt _ _) fun _ => ignores_ite ?_ (ignores_done _)
  exact callSlot_ignores d.base.vmt _ _

theorem baseConfigValidate_ignores (pBase : DriverPtr) (ty : PeripheralType) (pConfig : Ptr) :
    IgnoresPort (baseConfigValidate pBase ty pConfig) := by
  refine ignores_bind (typeRejects_ignores pBase ty) fun _ => ignores_ite (ignores_done _) ?_
  exact ignores_get (fun _ _ => rfl) fun d => callSlot_ignores d.base.vmt _ _

theorem baseCallbackRegister_ignores (pBase : DriverPtr) (ty : PeripheralType)
    (pCallback pUserArg : Ptr) : IgnoresPort (baseCallbackRegister pBase ty pCallback pUserArg) := by
  refine ignores_bind (typeRejects_ignores pBase ty) fun _ => ignores_ite (ignores_done _) ?_
  refine ignores_get (fun _ _ => rfl) fun _ => ignores_ite ?_ (ignores_done _)
  exact ignores_get (fun _ _ => rfl) fun d => callSlot_ignores d.base.vmt _ _

theorem powerStateSet_ignores (pBase : DriverPtr) (ty : PeripheralType) (state : PowerState) :
    IgnoresPort (powerStateSet pBase ty state) := by
  refine ignores_bind (typeRejects_ignores pBase ty) fun _ => ignores_ite (ignores_done _) ?_
  refine ignores_get (fun _ _ => rfl) fun _ => ignores_ite (ignores_done _) ?_
  refine ignores_get (fun _ _ => rfl) fun _ => ignores_ite ?_ ?_
  · refine ignores_get (fun _ _ => rfl) fun d => ?_
    refine ignores_bind (callSlot_ignores d.base.vmt _ _) fun _ => ignores_ite ?_ (ignores_done _)
    exact ignores_bind (setPowerState_ignores _) fun _ => ignores_done _
  · exact ignores_bind (setPowerState_ignores _) fun _ => ignores_done _

theorem eventErrorCall_ignores (pBase : DriverPtr) (ty : PeripheralType) (argNull : Bool)
    (missing : ErrorCode) (req : BaseRequest) :
    IgnoresPort (eventErrorCall pBase ty argNull missing req) := by
  refine ignores_bind (linkRejects_ignores pBase ty) fun _ => ignores_ite (ignores_done _) ?_
  refine ignores_get (fun _ _ => rfl) fun _ => ignores_ite (ignores_done _) ?_
  exact ignores_get (fun _ _ => rfl) fun d => callSlot_ignores d.base.vmt _ _

end Base

section Interface

variable {P : Peripheral} (mem : ConfigMemory)

theorem nullChecked_ignores {driver : DriverPtr} {p : HalM ErrorCode} (hp : IgnoresPort p) :
    IgnoresPort (match driver with
      | .null => return .badParam
      | .ref => p : HalM ErrorCode) := by
  cases driver with
  | null => exact ignores_done _
  | ref => exact hp

theorem configValidate_ignores (driver : DriverPtr) (pConfig : Ptr) :
    IgnoresPort (P.configValidate mem driver pConfig) := by
  rw [Peripheral.configValidate_eq]
  cases driver with
  | null => exact ignores_done _
  | ref =>
      cases pConfig with
      | none => exact ignores_done _
      | some address =>
          exact ignores_ite (ignores_done _) (baseConfigValidate_ignores .ref P.type (some address))

theorem init_ignores (driver : DriverPtr) : IgnoresPort (P.init mem driver) := by
  have hlink : IgnoresPort (Prog.modify Driver.linkVmt) := ignores_modify fun _ _ => rfl
  by_cases hg : P = .gpio
  · subst hg
    apply nullChecked_ignores
    exact ignores_bind hlink fun _ => baseInit_ignores .ref _
  · rw [Peripheral.init_eq mem hg]
    apply nullChecked_ignores
    refine ignores_bind hlink fun _ => ?_
    refine ignores_get (fun _ _ => rfl) fun d => ?_
    refine ignores_bind (configValidate_ignores mem .ref d.config) fun _ => ?_
    exact ignores_ite (ignores_done _) (baseInit_ignores .ref _)

theorem configSet_ignores (hasConfig : P ≠ .gpio) (driver : DriverPtr) (pConfig : Ptr) :
    IgnoresPort (P.configSet mem hasConfig driver pConfig) := by
  have stored : IgnoresPort (Prog.modify (Driver.setConfig pConfig) >>= fun _ =>
      baseConfigSet .ref P.type pConfig) :=
    ignores_bind (ignores_modify fun _ _ => rfl) fun _ => baseConfigSet_ignores .ref _ _
  cases hv : P.validates with
  | true =>
      rw [Peripheral.configSet_eq_validated mem hv]
      apply nullChecked_ignores
      refine ignores_bind (configValidate_ignores mem .ref pConfig) fun _ => ?_
      exact ignores_ite (ignores_done _) stored
  | false =>
      rw [Peripheral.configSet_eq_unchecked mem hv hasConfig]
      apply nullChecked_ignores
      exact stored

theorem specific_ignores (func : SpecificFn) (driver : DriverPtr) (args : List Arg) :
    IgnoresPort (func.call driver args) := by
  apply nullChecked_ignores
  refine ignores_get (fun _ _ => rfl) fun d => ignores_ite ?_ (ignores_done _)
  cases d.api with
  | none => exact ignores_done _
  | some api =>
      cases hslot : api.specific func with
      | none =>
          simp only [hslot]
          exact ignores_done _
      | some fn =>
          simp only [hslot]
          exact ignores_request _

/-- No call of an interface looks at the port's part of the driver. -/
theorem WrapperCall.ignores (c : WrapperCall P) : IgnoresPort (c.prog mem) := by
  by_cases he : c.isEventError = true
  · obtain ⟨driver, _, _, _, -, hprog, -⟩ := c.eventError_eq mem he
    rw [hprog]
    apply nullChecked_ignores
    exact eventErrorCall_ignores .ref _ _ _ _
  cases c with
  | init driver => exact init_ignores mem driver
  | configValidate driver pConfig => exact configValidate_ignores mem driver pConfig
  | configSet hasConfig driver pConfig => exact configSet_ignores mem hasConfig driver pConfig
  | specific func own driver args => exact specific_ignores func driver args
  | callbackRegister driver callback pUserArg =>
      apply nullChecked_ignores
      refine ignores_bind (ignores_modify fun _ _ => rfl) fun _ => ?_
      exact baseCallbackRegister_ignores .ref _ _ _
  | deinit driver =>
      apply nullChecked_ignores
      exact baseDeinit_ignores .ref _
  | powerStateSet driver state =>
      apply nullChecked_ignores
      exact powerStateSet_ignores .ref _ _
  | _ => exact absurd rfl he

end Interface

/-! ## Ports that write it -/

section Invisible

variable {P : Peripheral} {env : HalEnv W}

theorem InterruptCall.ignores (mem : ConfigMemory) (c : InterruptCall P) : IgnoresPort (c.prog mem) :=
  c.1.ignores mem

theorem interfaceThread_ignores (mem : ConfigMemory) (calls : List (WrapperCall P)) :
    IgnoresPort (interfaceThread mem calls) := by
  induction calls with
  | nil => exact ignores_done _
  | cons c calls ih => exact ignores_bind (c.ignores mem) fun _ => ih

/-- What a hook call is for the bring-up does not depend on the record. -/
theorem actions_hide (blank : PortState) (log : List HalEvent) :
    actions (log.map (portPart.hideEvent blank)) = actions log := by
  induction log with
  | nil => rfl
  | cons e log ih =>
      unfold actions at ih ⊢
      rw [List.map_cons, List.filterMap_cons, List.filterMap_cons, ih]
      rfl

theorem Represented.of_hidden {d : Driver} {blank : PortState}
    (h : Represented P (d.withPortState blank)) : Represented P d :=
  ⟨h.type, h.table, h.status, h.live⟩

/-- The guards of the bring-up see nothing of the port's part. -/
theorem Guarded.of_hidden {s : HalConf W} {blank : PortState} (h : Guarded (portPart.hide blank s)) :
    Guarded s := by
  obtain ⟨q, hq, hne⟩ := h
  exact ⟨q, (congrArg bringup.track (actions_hide blank s.log)).symm.trans hq, hne⟩

end Invisible

/-- The two states differ in where the port's part of the driver is kept. -/
structure SameButPart (s : HalConf W) (t : HalConf (W × PortState)) : Prop where
  record : ∃ blank, t.record = s.record.withPortState blank
  world : t.world = (s.world, s.record.portState)
  calls : t.log.map (fun e => (e.call, e.answer)) = s.log.map fun e => (e.call, e.answer)

theorem sameButPart_hide (blank : PortState) (s : HalConf W) :
    SameButPart s (portPart.hide blank s) := by
  refine ⟨⟨blank, rfl⟩, rfl, ?_⟩
  show (s.log.map (portPart.hideEvent blank)).map _ = _
  rw [List.map_map]
  rfl

/-- Hooks that succeed, and count their calls in the flags of the driver. -/
def countingHooks : HalEnv Unit where
  answer _ d x :=
    (.ok, d.withPortState { d.portState with flags := d.base.flags + 1 }, x)

theorem countingHooks_keepToTheirPart : KeepsToItsPart countingHooks :=
  fun _ _ _ => ⟨_, rfl⟩

/-- Where a port keeps its state is invisible. Take hooks that write the port's part of the driver at
most, and the hooks that keep this part in their own world and answer as they do. In every run of an interface
the two give the same results and make the same hook calls with the same answers, the records differ in the
port's part at most, and what the ones have there the others have in their world. -/
theorem port_state_invisible {P : Peripheral} (mem : ConfigMemory) {env : HalEnv W}
    (henv : KeepsToItsPart env) (calls : List (WrapperCall P)) (blank : PortState) (s : HalConf W) :
    let prog : WrapperCall P → HalM ErrorCode := WrapperCall.prog mem
    answers (env.outside portPart) prog calls (portPart.hide blank s) = answers env prog calls s ∧
      SameButPart (runOps env prog calls s)
        (runOps (env.outside portPart) prog calls (portPart.hide blank s)) := by
  intro prog
  obtain ⟨hanswers, hend⟩ := runOps_hide blank henv (fun c => c.ignores mem) calls s
  refine ⟨hanswers, ?_⟩
  rw [hend]
  exact sameButPart_hide blank _

/-- A UART that is brought up and written to, with its hook calls counted. -/
theorem port_state_invisible_uart :
    let prog : WrapperCall .uart → HalM ErrorCode := WrapperCall.prog default
    let calls : List (WrapperCall .uart) :=
      [.init .ref, .specific .uartTxIrq rfl .ref [.ptr (some 0), .word 1], .deinit .ref]
    let s := boardedConf .uart countingHooks zeroedDriver fullArgs 30 none ()
    let blank := zeroedDriver.portState
    answers (countingHooks.outside portPart) prog calls (portPart.hide blank s) =
        answers countingHooks prog calls s ∧
      SameButPart (runOps countingHooks prog calls s)
        (runOps (countingHooks.outside portPart) prog calls (portPart.hide blank s)) :=
  port_state_invisible default countingHooks_keepToTheirPart _ _ _

/-! ## Safety of ports with state -/

/-- Nothing is kept outside a driver that has no such state. -/
def noState : PortState := ⟨none, none, none, none, 0, 0, none⟩

section Safety

variable {P : Peripheral} {env : HalEnv W} (mem : ConfigMemory) (henv : KeepsToItsPart env)
  (memory : Driver) (args : PopulateArgs) (fn : FnPtr) (arg : Ptr) (calls : List (WrapperCall P)) (x : W)

/-- A populated driver without the port's part is one that stands at rest. -/
theorem hidden_boarded :
    BetweenCalls (portFixture P mem args fn)
      (portPart.hide noState (boardedConf P env memory args fn arg x)) := by
  refine .inl ⟨⟨rfl, rfl, rfl, rfl⟩, rfl, rfl, fun hgate => hgate.elim, ?_, fun hgate => hgate.elim⟩
  exact List.forall_mem_nil _

include henv

/-- With the port's part outside, a call is one of hooks that do not write the record. -/
theorem hidden_step_betweenCalls {s : HalConf W} (c : WrapperCall P)
    (h : BetweenCalls (portFixture P mem args fn) (portPart.hide noState s)) :
    BetweenCalls (portFixture P mem args fn)
      (portPart.hide noState (run env (c.prog mem) s).2) := by
  have hstep : BetweenCalls (portFixture P mem args fn)
      (run (env.outside portPart) (c.prog mem) (portPart.hide noState s)).2 :=
    WrapperCall.run_betweenCalls (portFixture_gates P mem args fn _) c h
  rw [run_hide noState henv (c.ignores mem) s] at hstep
  exact hstep

/-- An `init` that is OK leaves an INITIALIZED driver. -/
theorem init_live_of_ok (driver : DriverPtr) {s : HalConf W}
    (hr : (run env (P.init mem driver) s).1 = .ok) :
    (run env (P.init mem driver) s).2.record.base.status = .initialized := by
  have ho : WrapperOutcome (P := P) (portPart.hide noState s) (.init driver)
      (run (env.outside portPart) (P.init mem driver) (portPart.hide noState s)).1
      (run (env.outside portPart) (P.init mem driver) (portPart.hide noState s)).2 :=
    init_outcome _ mem (portPart.hide noState s) driver
  rw [run_hide noState henv (init_ignores mem driver) s, hr] at ho
  exact ho.live_of_ok

theorem hidden_run_betweenCalls :
    BetweenCalls (portFixture P mem args fn) (portPart.hide noState
      (runOps env (WrapperCall.prog mem) calls (boardedConf P env memory args fn arg x))) := by
  refine runOps_invariant env _
    (fun s => BetweenCalls (portFixture P mem args fn) (portPart.hide noState s)) (fun c s h => ?_) calls
    (hidden_boarded mem memory args fn arg x)
  exact hidden_step_betweenCalls mem henv args fn c h

/-- So it is when it is interrupted. -/
theorem hidden_interleave_safe (schedule : List (Option (InterruptCall P))) :
    Safe (portFixture P mem args fn) (portPart.hide noState
      (interleave env (InterruptCall.prog mem) schedule
        (interfaceThread mem calls, boardedConf P env memory args fn arg x)).2) := by
  have hinv : Safe (portFixture P mem args fn)
      (interleave (env.outside portPart) (InterruptCall.prog mem) schedule
        (interfaceThread mem calls,
          portPart.hide noState (boardedConf P env memory args fn arg x))).2 := by
    have hgates (codes : HookCodes (W × PortState)) : (portFixture P mem args fn).Gates codes :=
      portFixture_gates P mem args fn codes
    refine Outline.interleave_inv (interfaceThread_leads ?_ (hgates _) calls _ ?_) schedule
    · exact service_calm (hgates _)
    · exact hidden_boarded mem memory args fn arg x
  rw [interleave_hide noState henv (InterruptCall.ignores mem) schedule
    (interfaceThread_ignores mem calls)] at hinv
  exact hinv

end Safety

/-- Ports with state are balanced. With hooks that write the port's part of the driver at most, after any
calls of an interface from the moment the driver is populated and has its hook of the board: the record is well
formed, one board resource is held while the status is INITIALIZED and none otherwise, the calls of the board and
of the base hooks come in the order of the bring-up, and the status is INITIALIZED exactly when the last move of
the peripheral was an `init`. -/
theorem stateful_port_balanced {P : Peripheral} (mem : ConfigMemory) {env : HalEnv W}
    (henv : KeepsToItsPart env) (memory : Driver) (args : PopulateArgs) (fn : FnPtr) (arg : Ptr)
    (calls : List (WrapperCall P)) (x : W) :
    let s := runOps env (WrapperCall.prog mem) calls (boardedConf P env memory args fn arg x)
    Represented P s.record ∧
      held s.log = (if s.record.base.status = .initialized then 1 else 0) ∧
      WellOrdered s.log ∧ (s.record.base.status = .initialized ↔ LastMoveWasInit s.log) := by
  intro s
  have hhidden := hidden_run_betweenCalls mem henv memory args fn arg calls x
  have htracked : bringup.track (actions s.log) = some s.record.base.status.phase :=
    (congrArg bringup.track (actions_hide noState s.log)).symm.trans hhidden.tracked
  refine ⟨hhidden.safe.represented.of_hidden, ?_, wellOrdered_of_track htracked, ?_⟩
  · rw [held_of_track htracked, held_of_phase]
  · rw [lastMoveWasInit_iff htracked, DriverStatus.phase_eq_live_iff]

theorem stateful_port_balanced_uart :
    let calls : List (WrapperCall .uart) := [.init .ref, .powerStateSet .ref .lowPower]
    let s := runOps countingHooks (WrapperCall.prog default) calls
      (boardedConf .uart countingHooks zeroedDriver fullArgs 30 none ())
    Represented .uart s.record ∧
      held s.log = (if s.record.base.status = .initialized then 1 else 0) ∧
      WellOrdered s.log ∧ (s.record.base.status = .initialized ↔ LastMoveWasInit s.log) :=
  stateful_port_balanced default countingHooks_keepToTheirPart zeroedDriver fullArgs 30 none _ ()

/-- Ports with state are safe under interrupts. With hooks that write the port's part of the driver at
most, a handler between any two steps finds the record well formed and an INITIALIZED driver with its board
resources held, and no hook of the base table but `config_validate` was called while they were not. -/
theorem stateful_port_interrupt_safe {P : Peripheral} (mem : ConfigMemory) {env : HalEnv W}
    (henv : KeepsToItsPart env) (memory : Driver) (args : PopulateArgs) (fn : FnPtr) (arg : Ptr)
    (calls : List (WrapperCall P)) (schedule : List (Option (InterruptCall P))) (x : W) :
    let s := (interleave env (InterruptCall.prog mem) schedule
      (interfaceThread mem calls, boardedConf P env memory args fn arg x)).2
    Represented P s.record ∧ (s.record.base.status = .initialized → BoardHeld s.log) ∧
      ∀ (e : HalEvent) older, e :: older <:+ s.log → e.OnBaseHook → BoardHeld older := by
  intro s
  have hsafe := hidden_interleave_safe mem henv memory args fn arg calls x schedule
  have hguarded : Guarded s := hsafe.guarded.of_hidden
  exact ⟨hsafe.represented.of_hidden, hguarded.boardHeld, fun e older hsuf he => hguarded.onBaseHook hsuf he⟩

/-- A handler enables an event of a UART before it is up, which is refused, and when it is up. -/
theorem stateful_port_interrupt_safe_uart :
    let enable : InterruptCall .uart := ⟨.eventEnable .ref 1, rfl⟩
    let calls : List (WrapperCall .uart) := [.init .ref, .deinit .ref]
    let schedule : List (Option (InterruptCall .uart)) := List.replicate 2 none ++
      some enable :: List.replicate 11 none ++ some enable :: List.replicate 11 none
    let s := (interleave countingHooks (InterruptCall.prog default) schedule
      (interfaceThread default calls,
        boardedConf .uart countingHooks zeroedDriver fullArgs 30 none ())).2
    (Represented .uart s.record ∧ (s.record.base.status = .initialized → BoardHeld s.log) ∧
        ∀ (e : HalEvent) older, e :: older <:+ s.log → e.OnBaseHook → BoardHeld older) ∧
      s.log.map (fun e => e.call) = [.onConfig 30 none .deinit, .vmt 2 .deinit, .vmt 7 (.eventEnable 1),
        .vmt 1 .init, .onConfig 30 none .init, .vmt 5 (.configValidate (some 0))] :=
  ⟨stateful_port_interrupt_safe default countingHooks_keepToTheirPart zeroedDriver fullArgs 30 none
    [.init .ref, .deinit .ref] _ (), by decide +kernel⟩

end CaffeineHal
