import CaffeineHal.Peripheral.PortState
import CaffeineHal.Port.UartPort

/-!
# The port templates

Each of the 22 peripherals has a template that real ports are copied from, `cfn_hal_<p>_port.c`. As they stand,
the templates have one base table: two hooks that clear a mask, and NULL everywhere else. Those of CRYPTO, DAC,
ETH and NVM have specific functions that only report OK, and the UART's is `UART_API`.

A driver of a template is never brought up (`template_never_live`), since there is no `init` hook, and its base
hooks are out of reach, interrupts or not (`template_hooks_unreachable`): the two that are there are called on
an INITIALIZED driver only.
-/

set_option autoImplicit false

namespace CaffeineHal

open CaffeineHal.Program CaffeineHal.Lifecycle

variable {W : Type}

/-! ## The tables -/

/-- The base table of every template. -/
def templateBase : ApiBase := uartApi.base

/-- The specific functions of the templates that report OK and do nothing else. -/
def templateStubs : List SpecificFn :=
  [.cryptoEncrypt, .cryptoDecrypt, .cryptoHashUpdate, .cryptoHashFinish, .cryptoGenerateRandom,
    .cryptoSetKey,
    .dacSetValue, .dacStart, .dacStop, .dacWriteDma,
    .ethStart, .ethStop, .ethTransmitFrame, .ethReceiveFrame, .ethReadPhyReg, .ethWritePhyReg,
    .ethGetLinkStatus,
    .nvmRead, .nvmWrite, .nvmEraseSector, .nvmEraseChip, .nvmGetInfo]

/-- The address of the first of them. -/
def templateStubBase : FnPtr := 5

/-- The specific slots of the templates. -/
def templateSlot (func : SpecificFn) : Option FnPtr :=
  match uartApi.specific func with
  | some fn => some fn
  | none =>
      if func ∈ templateStubs then some (templateStubBase + templateStubs.idxOf func) else none

/-- `<P>_API`. -/
def Peripheral.templateApi (P : Peripheral) : Api where
  base := templateBase
  specific func := if func.peripheral = P then templateSlot func else none

/-- The template of the UART is the port of `UartPort`. -/
theorem templateApi_uart : Peripheral.uart.templateApi = uartApi := by
  have hspecific : Peripheral.uart.templateApi.specific = uartApi.specific := by
    funext func
    cases func <;> rfl
  exact congrArg (Api.mk uartApi.base) hspecific

/-- The hooks of a driver of a template: the stubs, and otherwise those of the UART's template. -/
def templateEnv (m : DataModel) (board : Board W) : HalEnv (PortWorld W) where
  answer c d x :=
    match c with
    | .api fn func args =>
        if templateStubBase ≤ fn then (.ok, d, x)
        else (uartPortEnv m board).answer (.api fn func args) d x
    | c => (uartPortEnv m board).answer c d x

section Hooks

variable {m : DataModel} {board : Board W}

theorem withPortState_flags (d : Driver) (flags : UInt32) :
    d.setFlags flags = d.withPortState { d.portState with flags } := rfl

/-- The hooks of the UART's template write the flags. -/
theorem uartPortEnv_keepsToItsPart (hboard : KeepsToItsPart board.env) :
    KeepsToItsPart (uartPortEnv m board) := by
  have self (d : Driver) : ∃ v, d = d.withPortState v := ⟨d.portState, rfl⟩
  intro c d x
  have onBoard := hboard c d x.board
  cases c with
  | onConfig fn arg phase => exact onBoard
  | vmt fn req =>
      cases req with
      | eventGet pMask =>
          simp only [uartPortEnv]
          split
          · exact self d
          · exact onBoard
      | errorGet pMask =>
          simp only [uartPortEnv]
          split
          · exact self d
          · exact onBoard
      | _ => exact onBoard
  | api fn func args =>
      simp only [uartPortEnv]
      split
      · exact ⟨_, withPortState_flags d _⟩
      · split
        · exact ⟨_, withPortState_flags d _⟩
        · exact onBoard

theorem templateEnv_keepsToItsPart (hboard : KeepsToItsPart board.env) :
    KeepsToItsPart (templateEnv m board) := by
  have huart := uartPortEnv_keepsToItsPart (m := m) hboard
  intro c d x
  cases c with
  | api fn func args =>
      simp only [templateEnv]
      split
      · exact ⟨d.portState, rfl⟩
      · exact huart (.api fn func args) d x
  | onConfig fn arg phase => exact huart (.onConfig fn arg phase) d x
  | vmt fn req => exact huart (.vmt fn req) d x

/-- A specific slot answers OK exactly where it is a stub. -/
theorem templateEnv_api {func : SpecificFn} {fn : FnPtr} (hslot : templateSlot func = some fn)
    (args : List Arg) (d : Driver) (x : PortWorld W) :
    ((templateEnv m board).answer (.api fn func args) d x).1 = .ok ↔ func ∈ templateStubs := by
  unfold templateSlot at hslot
  by_cases huart : func = .uartRxNIrq ∨ func = .uartRxIrq
  · -- The two hooks of the UART report NOT_SUPPORTED.
    rcases huart with rfl | rfl
    · cases hslot
      exact iff_of_false ErrorCode.noConfusion (by decide)
    · cases hslot
      exact iff_of_false ErrorCode.noConfusion (by decide)
  · rw [uartApi_specific_none (fun h => huart (.inr h)) (fun h => huart (.inl h))] at hslot
    simp only at hslot
    split at hslot
    · next hstub =>
        cases hslot
        have hbase : templateStubBase ≤ templateStubBase + templateStubs.idxOf func := Nat.le_add_right _ _
        simp only [templateEnv, hbase, if_true]
        exact iff_of_true trivial hstub
    · cases hslot

end Hooks

/-! ## Runs -/

/-- `init` is not OK, no event or error call is, and a specific function is where it is a stub. -/
structure TemplateAnswer {P : Peripheral} (c : WrapperCall P) (r : ErrorCode) : Prop where
  init : ∀ driver, c = .init driver → r ≠ .ok
  eventError : c.isEventError = true → r ≠ .ok
  specific : ∀ func own args, c = .specific func own .ref args → (r = .ok ↔ func ∈ templateStubs)

/-- The arguments of a driver of the template. -/
def PopulateArgs.ofTemplate (args : PopulateArgs) (P : Peripheral) : PopulateArgs :=
  { args with api := some P.templateApi }

/-- A driver of the template at rest: the port's part apart, as a driver whose hooks do not write it. -/
structure AtTemplate (P : Peripheral) (mem : ConfigMemory) (args : PopulateArgs) (fn : FnPtr)
    (s : HalConf W) : Prop where
  hidden : BetweenCalls (portFixture P mem (args.ofTemplate P) fn) (portPart.hide noState s)
  type : s.record.base.type = P.type
  api : s.record.api = some P.templateApi

section Runs

variable {P : Peripheral} {mem : ConfigMemory} {m : DataModel} {board : Board W} {args : PopulateArgs}
  {fn : FnPtr} {s : HalConf (PortWorld W)}

/-- Without an `init` hook there is no live driver. -/
theorem represented_constructed {d : Driver} (h : Represented P d)
    (hvmt : d.base.vmt = some templateBase) : d.base.status = .constructed := by
  rcases h.status with hs | hs
  · exact hs
  · obtain ⟨t, ht, hinit⟩ := h.live hs
    rw [hvmt] at ht
    cases ht
    exact absurd rfl hinit

theorem AtTemplate.constructed (h : AtTemplate P mem args fn s) :
    s.record.base.status = .constructed := by
  have hsafe := h.hidden.safe
  exact represented_constructed hsafe.represented.of_hidden hsafe.owned.vmt

variable (hboard : KeepsToItsPart board.env)
include hboard

theorem AtTemplate.step (h : AtTemplate P mem args fn s) (c : WrapperCall P) :
    AtTemplate P mem args fn (run (templateEnv m board) (c.prog mem) s).2 := by
  have henv := templateEnv_keepsToItsPart (m := m) hboard
  have hkept : KeptByLayer fun d => d.base.type = P.type ∧ d.api = some P.templateApi :=
    ⟨fun _ _ h => h, fun _ _ h => h, fun _ h => h, fun _ _ h => h, fun _ _ _ h => h⟩
  have hmaintains : (templateEnv m board).Maintains
      fun d => d.base.type = P.type ∧ d.api = some P.templateApi := by
    intro c d x hd
    obtain ⟨v, hv⟩ := henv c d x
    rw [hv]
    exact hd
  have hprog : (c.prog mem).Maintains HookCall.LeavesLock
      fun d => d.base.type = P.type ∧ d.api = some P.templateApi := c.maintains hkept
  obtain ⟨htype, hapi⟩ := run_maintains hmaintains hprog ⟨h.type, h.api⟩
  exact ⟨hidden_step_betweenCalls mem henv (args.ofTemplate P) fn c h.hidden, htype, hapi⟩

theorem AtTemplate.answer (h : AtTemplate P mem args fn s) (c : WrapperCall P) :
    TemplateAnswer c (run (templateEnv m board) (c.prog mem) s).1 := by
  have henv := templateEnv_keepsToItsPart (m := m) hboard
  constructor
  · rintro driver rfl hr
    -- Were it OK, the driver would be INITIALIZED.
    have hlive := init_live_of_ok mem henv driver hr
    have hconstructed : (run (templateEnv m board) (P.init mem driver) s).2.record.base.status =
        .constructed := (h.step hboard (.init driver)).constructed
    rw [hconstructed] at hlive
    cases hlive
  · intro hc
    have hs : s.record.base.status ≠ .initialized := by
      rw [h.constructed]
      exact DriverStatus.noConfusion
    have hgated : EventsGated (P := P) (templateEnv m board) mem s := eventsGated mem h.type hs
    obtain ⟨r, hr, hrun, -⟩ := hgated c hc
    rw [hrun]
    exact hr
  · intro func own args hc
    cases own
    subst hc
    have hdispatch : DispatchedByTable (templateEnv m board) func args s :=
      dispatchedByTable func args h.type
    have hhook : s.record.specificHook func = templateSlot func := by
      rw [Driver.specificHook, h.api]
      exact if_pos rfl
    unfold DispatchedByTable at hdispatch
    rw [hhook] at hdispatch
    cases hslot : templateSlot func with
    | none =>
        rw [hslot] at hdispatch
        refine iff_of_false hdispatch.1 fun hstub => ?_
        unfold templateSlot at hslot
        cases huart : uartApi.specific func with
        | none =>
            rw [huart] at hslot
            simp only [hstub, if_true] at hslot
            cases hslot
        | some fn =>
            rw [huart] at hslot
            cases hslot
    | some fn =>
        rw [hslot] at hdispatch
        rw [WrapperCall.prog, hdispatch]
        exact templateEnv_api hslot args _ _

/-- A driver of a template is never brought up. For every peripheral, every board that writes the port's
part of a driver at most and every run of the interface: the driver stays CONSTRUCTED, no board resource is
held after a call, no `init` and no event or error call is OK, and a specific function is OK exactly where it
is a stub, though the driver was never initialised. -/
theorem template_never_live (P : Peripheral) (mem : ConfigMemory) (m : DataModel) (memory : Driver)
    (args : PopulateArgs) (fn : FnPtr) (arg : Ptr) (calls : List (WrapperCall P)) (x : PortWorld W) :
    let env := templateEnv m board
    let start := boardedConf P env memory (args.ofTemplate P) fn arg x
    let s := runOps env (WrapperCall.prog mem) calls start
    s.record.base.status = .constructed ∧ held s.log = 0 ∧
      ∀ a ∈ answers env (WrapperCall.prog mem) calls start, TemplateAnswer a.1 a.2 := by
  intro env start s
  have hstart : AtTemplate P mem args fn start :=
    ⟨hidden_boarded mem memory (args.ofTemplate P) fn arg x, rfl, rfl⟩
  have hkeep (c : WrapperCall P) (t : HalConf (PortWorld W)) (ht : AtTemplate P mem args fn t) :
      AtTemplate P mem args fn (run env (c.prog mem) t).2 := ht.step hboard c
  have hs : AtTemplate P mem args fn s := runOps_invariant env _ _ hkeep calls hstart
  refine ⟨hs.constructed, ?_, answers_forall hkeep (fun c t ht => ht.answer hboard c) calls hstart⟩
  have htracked : bringup.track (actions s.log) = some s.record.base.status.phase :=
    (congrArg bringup.track (actions_hide noState s.log)).symm.trans hs.hidden.tracked
  rw [hs.constructed] at htracked
  exact held_of_track htracked

omit hboard in
/-- A board that writes nothing keeps to its part. -/
theorem okBoard_keepsToItsPart : KeepsToItsPart okBoard.env :=
  fun _ d _ => ⟨d.portState, rfl⟩

omit hboard in
/-- The ETH template starts a driver that it cannot bring up. -/
theorem template_never_live_eth :
    let env := templateEnv .lp64 okBoard
    let calls : List (WrapperCall .eth) := [.init .ref, .specific .ethStart rfl .ref []]
    let start := boardedConf .eth env zeroedDriver (fullArgs.ofTemplate .eth) 30 none ⟨(), fun _ => 0⟩
    let s := runOps env (WrapperCall.prog default) calls start
    s.record.base.status = .constructed ∧ held s.log = 0 ∧
      ∀ a ∈ answers env (WrapperCall.prog default) calls start, TemplateAnswer a.1 a.2 :=
  template_never_live okBoard_keepsToItsPart .eth default .lp64 zeroedDriver fullArgs 30 none _ _

/-- The base hooks of a template are out of reach. In any interleaving of a thread's calls with a
handler's, the driver is CONSTRUCTED at every step boundary and no function of the base table was ever called,
neither of the two that are there: these are for an INITIALIZED driver. -/
theorem template_hooks_unreachable (P : Peripheral) (mem : ConfigMemory) (m : DataModel)
    (memory : Driver) (args : PopulateArgs) (fn : FnPtr) (arg : Ptr) (calls : List (WrapperCall P))
    (schedule : List (Option (InterruptCall P))) (x : PortWorld W) :
    let env := templateEnv m board
    let s := (interleave env (InterruptCall.prog mem) schedule
      (interfaceThread mem calls, boardedConf P env memory (args.ofTemplate P) fn arg x)).2
    s.record.base.status = .constructed ∧ ∀ e ∈ s.log, ∀ gn req, e.call ≠ .vmt gn req := by
  intro env s
  have hsafe := hidden_interleave_safe mem (templateEnv_keepsToItsPart (m := m) hboard) memory
    (args.ofTemplate P) fn arg calls x schedule
  refine ⟨represented_constructed hsafe.represented.of_hidden hsafe.owned.vmt, ?_⟩
  intro e he gn req hcall
  have hdispatch := hsafe.dispatched (portPart.hideEvent noState e) (List.mem_map_of_mem he)
  have hslot : templateBase.slot req = some gn := hdispatch.slot gn req hcall
  have hconstructed := represented_constructed hdispatch.represented.of_hidden hdispatch.owned.vmt
  -- The two slots that are set are for services, which an INITIALIZED driver has.
  have hlive (hreq : req.isService = true) (hval : ∀ pConfig, req ≠ .configValidate pConfig) : False := by
    have hst : e.record.base.status = .initialized := hdispatch.live gn req hcall hreq hval
    have hst' : e.record.base.status = .constructed := hconstructed
    rw [hst] at hst'
    cases hst'
  cases req with
  | eventGet pMask => exact hlive rfl nofun
  | errorGet pMask => exact hlive rfl nofun
  | _ => cases hslot

omit hboard in
/-- A handler asks for the events of an ADC in the middle of an `init`, and comes to no hook. -/
theorem template_hooks_unreachable_adc :
    let env := templateEnv .lp64 okBoard
    let get : InterruptCall .adc := ⟨.eventGet .ref (some 0), rfl⟩
    let calls : List (WrapperCall .adc) := [.init .ref]
    let schedule : List (Option (InterruptCall .adc)) :=
      List.replicate 7 none ++ some get :: List.replicate 12 none
    let s := (interleave env (InterruptCall.prog default) schedule
      (interfaceThread default calls,
        boardedConf .adc env zeroedDriver (fullArgs.ofTemplate .adc) 30 none ⟨(), fun _ => 0⟩)).2
    (s.record.base.status = .constructed ∧ ∀ e ∈ s.log, ∀ gn req, e.call ≠ .vmt gn req) ∧
      s.log.map (fun e => e.call) = [.onConfig 30 none .deinit, .onConfig 30 none .init] :=
  ⟨template_hooks_unreachable okBoard_keepsToItsPart .adc default .lp64 zeroedDriver fullArgs 30 none
    [.init .ref] _ _, by decide +kernel⟩

end Runs

end CaffeineHal
