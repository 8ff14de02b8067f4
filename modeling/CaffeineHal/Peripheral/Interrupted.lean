import CaffeineHal.Peripheral.Stage

/-!
# A driver's interface under an interrupt handler

One thread runs any calls of an interface, `init` and `deinit` included; between any two of its steps a
handler runs calls of the same interface that neither start nor stop the driver. The thread's calls lead
from rest to rest over sound stages: `WrapperCall.keepsStage` for the calls that the handler may make too, and
`init_leads` and `deinit_leads` for the two that it may not.

That the handler leaves every sound stage as it is needs no argument of its own: its calls keep the stages
when nobody interrupts them (`service_calm`).

`interface_interrupt_safe` is what the stages say of the board and the port, and `gate_under_interrupts`
what they say of the configuration.
-/

set_option autoImplicit false

namespace CaffeineHal

open CaffeineHal.Program CaffeineHal.Lifecycle

variable {W : Type}

section Service

variable {Op : Type} {f : Fixture} {codes : HookCodes W} {handler : Op → HalM ErrorCode} {g : Stage}

/-- A request that neither starts the port nor gives it a configuration. -/
theorem admits_other {e : HalEvent} {fn : FnPtr} {req : BaseRequest} (he : e.call = .vmt fn req)
    (hinit : req ≠ .init) (hset : ∀ pConfig, req = .configSet pConfig → f.Fits pConfig) :
    f.Admits e := by
  constructor
  · intro gn hcall
    rw [he] at hcall
    injection hcall with _ hreq
    exact absurd hreq hinit
  · intro gn pConfig hcall
    rw [he] at hcall
    injection hcall with _ hreq
    exact hset pConfig hreq

theorem admits_api (fn : FnPtr) (func : SpecificFn) (args : List Arg) (d : Driver) (r : ErrorCode) :
    f.Admits ⟨.api fn func args, d, r⟩ := by
  constructor
  · intro gn hcall
    cases hcall
  · intro gn pConfig hcall
    cases hcall

theorem allows_api (fn : FnPtr) (func : SpecificFn) (args : List Arg) :
    g.Allows f (.api fn func args) :=
  ⟨fun _ _ hc => (by cases hc), fun _ _ hc => (by cases hc)⟩

theorem allows_onConfig (fn : FnPtr) (arg : Ptr) (phase : ConfigPhase) :
    g.Allows f (.onConfig fn arg phase) :=
  ⟨fun _ _ hc => (by cases hc), fun _ _ hc => (by cases hc)⟩

/-- The hook of a service call uses the peripheral, or only looks at a configuration. -/
theorem phaseAfter_service {req : BaseRequest} (hreq : req.isService = true) {q : Phase}
    (hq : q ≠ .down) (fn : FnPtr) (d : Driver) (r : ErrorCode) :
    phaseAfter q ⟨.vmt fn req, d, r⟩ = some q := by
  cases req with
  | init => cases hreq
  | deinit => cases hreq
  | lock timeout => cases hreq
  | unlock => cases hreq
  | configValidate pConfig => rfl
  | _ => exact next_use hq

/-- A slot of a service call keeps the stage of a driver that is INITIALIZED. -/
theorem serviceSlot_keepsStage (hcalm : Calm f codes handler) (hg : g.Sound f) {req : BaseRequest}
    (missing : ErrorCode) (hreq : req.isService = true) (hs : g.status = .initialized)
    (hset : f.gate → ∀ pConfig, req = .configSet pConfig → f.Fits pConfig) :
    Leads f codes handler (StandsAt f g) (callSlot f.table req missing) (fun _ => StandsAt f g) := by
  have hinit : req ≠ .init := by
    rintro rfl
    cases hreq
  refine Hoare.mono (stage_callSlot hcalm (q := fun _ => g.phase) (fun _ _ => hs)
    (phaseAfter_service hreq (hg.board hs))
    (fun hgate fn d r _ => admits_other rfl hinit (hset hgate)) rfl hg fun _ => hg) ?_
  exact fun r t ht => ht.1

/-- A validation keeps every stage, and answers OK only on a configuration that fits. -/
theorem validateSlot_keepsStage (hcalm : Calm f codes handler) (hg : g.Sound f) (pConfig : Ptr) :
    Leads f codes handler (StandsAt f g) (callSlot f.table (.configValidate pConfig) .ok)
      (fun r s => StandsAt f g s ∧ (r = .ok → ∀ fn,
        (f.table.bind fun t => t.slot (.configValidate pConfig)) = some fn →
        ∃ d x, (codes (.vmt fn (.configValidate pConfig)) d x).1 = .ok)) := by
  refine Hoare.mono (stage_callSlot hcalm (q := fun _ => g.phase)
    (fun _ hval => absurd rfl (hval pConfig)) (fun _ _ _ => rfl)
    (fun _ fn d r _ => admits_other rfl nofun nofun) rfl hg fun _ => hg) ?_
  rintro r t ⟨ht, ⟨hslot, -⟩ | ⟨gn, hslot, d, x, hr⟩⟩
  · refine ⟨ht, fun _ fn hfn => ?_⟩
    rw [hslot] at hfn
    cases hfn
  · refine ⟨ht, fun hok fn hfn => ?_⟩
    rw [hslot] at hfn
    cases hfn
    exact ⟨d, x, hr.symm.trans hok⟩

/-! ### The base layer's service functions -/

/-- A program that leaves the stage as it is. -/
abbrev KeepsStage (f : Fixture) (codes : HookCodes W) (handler : Op → HalM ErrorCode) (g : Stage)
    {α : Type} (p : HalM α) : Prop :=
  Leads f codes handler (StandsAt f g) p (fun _ => StandsAt f g)

theorem return_keepsStage (hcalm : Calm f codes handler) (hg : g.Sound f) {α : Type} (a : α) :
    KeepsStage f codes handler g (.done a) :=
  stage_done hcalm hg fun _ h => h

/-- A write of fields that no stage knows of. -/
theorem modify_keepsStage (hcalm : Calm f codes handler) (hg : g.Sound f) {u : Driver → Driver}
    (hu : ∀ s : HalConf W, StandsAt f g s → StandsAt f g (s.written u)) :
    KeepsStage f codes handler g (Prog.modify u) :=
  stage_modify hcalm hg hg hu

theorem typeRejects_keepsStage (hcalm : Calm f codes handler) (hg : g.Sound f) (ty : PeripheralType) :
    KeepsStage f codes handler g (typeRejects .ref ty) := by
  apply Hoare.bind (stage_get hcalm hg)
  intro d s h
  exact return_keepsStage hcalm hg _ s h.1

theorem linkRejects_keepsStage (hcalm : Calm f codes handler) (hg : g.Sound f) (ty : PeripheralType) :
    KeepsStage f codes handler g (linkRejects .ref ty) := by
  apply Hoare.bind (stage_get hcalm hg)
  intro d s h
  exact return_keepsStage hcalm hg _ s h.1

theorem eventErrorCall_keepsStage (hcalm : Calm f codes handler) (hg : g.Sound f) (ty : PeripheralType)
    (argNull : Bool) (missing : ErrorCode) {req : BaseRequest} (hreq : req.isEventError = true) :
    KeepsStage f codes handler g (eventErrorCall .ref ty argNull missing req) := by
  apply Hoare.bind (linkRejects_keepsStage hcalm hg ty)
  intro refused
  split
  · exact return_keepsStage hcalm hg _
  · simp only [ne_eq, ite_not]
    apply stage_status hcalm hg
    · -- INITIALIZED, and it stays so until the hook is called.
      intro hs
      apply stage_vmt hcalm hg
      intro d hvmt
      simp only [hvmt]
      apply serviceSlot_keepsStage hcalm hg missing (BaseRequest.isService_of_eventError hreq) hs
      rintro - pConfig rfl
      cases hreq
    · exact fun _ => return_keepsStage hcalm hg _

/-- The port's validation, where the gate is: OK only on a configuration that it accepts. -/
theorem portValidation_keepsStage (hcalm : Calm f codes handler) (hgates : f.Gates codes) (hg : g.Sound f)
    (pConfig : Ptr) :
    Leads f codes handler (StandsAt f g) (callSlot f.table (.configValidate pConfig) .ok)
      (fun r s => StandsAt f g s ∧ (f.gate → r = .ok → f.PortAccepts pConfig)) := by
  refine Hoare.mono (validateSlot_keepsStage hcalm hg pConfig) ?_
  rintro r s ⟨h, hok⟩
  refine ⟨h, fun hgate hr fn hfn => ?_⟩
  obtain ⟨d, x, hanswer⟩ := hok hr fn hfn
  rw [← (hgates hgate).2 fn pConfig d x]
  exact hanswer

theorem baseConfigValidate_keepsStage (hcalm : Calm f codes handler) (hgates : f.Gates codes)
    (hg : g.Sound f) (pConfig : Ptr) :
    Leads f codes handler (StandsAt f g) (baseConfigValidate .ref f.peripheral.type pConfig)
      (fun r s => StandsAt f g s ∧ (f.gate → r = .ok → f.PortAccepts pConfig)) := by
  apply Hoare.bind (typeRejects_keepsStage hcalm hg _)
  intro refused
  split
  · exact stage_done hcalm hg fun s h => ⟨h, fun _ hr => by cases hr⟩
  · apply stage_vmt hcalm hg
    intro d hvmt
    simp only [hvmt]
    exact portValidation_keepsStage hcalm hgates hg pConfig

theorem baseConfigSet_keepsStage (hcalm : Calm f codes handler) (hgates : f.Gates codes) (hg : g.Sound f)
    {pConfig : Ptr} (hfits : f.gate → f.Fits pConfig) :
    KeepsStage f codes handler g (baseConfigSet .ref f.peripheral.type pConfig) := by
  apply Hoare.bind (typeRejects_keepsStage hcalm hg _)
  intro refused
  split
  · exact return_keepsStage hcalm hg _
  · apply stage_status hcalm hg
    · intro hs
      apply stage_vmt hcalm hg
      intro d hvmt
      simp only [hvmt]
      split
      · exact return_keepsStage hcalm hg _
      · apply Hoare.bind (portValidation_keepsStage hcalm hgates hg pConfig)
        rintro r s ⟨h, -⟩
        split
        · refine serviceSlot_keepsStage hcalm hg _ rfl hs (fun hgate q hq => ?_) s h
          cases hq
          exact hfits hgate
        · exact return_keepsStage hcalm hg _ s h
    · exact fun _ => return_keepsStage hcalm hg _

theorem baseCallbackRegister_keepsStage (hcalm : Calm f codes handler) (hg : g.Sound f)
    (ty : PeripheralType) (pCallback pUserArg : Ptr) :
    KeepsStage f codes handler g (baseCallbackRegister .ref ty pCallback pUserArg) := by
  apply Hoare.bind (typeRejects_keepsStage hcalm hg ty)
  intro refused
  split
  · exact return_keepsStage hcalm hg _
  · apply stage_status hcalm hg
    · intro hs
      apply stage_vmt hcalm hg
      intro d hvmt
      simp only [hvmt]
      exact serviceSlot_keepsStage hcalm hg _ rfl hs fun _ _ heq => by cases heq
    · exact fun _ => return_keepsStage hcalm hg _

theorem setPowerState_keepsStage (hcalm : Calm f codes handler) (hg : g.Sound f) (state : PowerState) :
    KeepsStage f codes handler g (Prog.modify (Driver.setPowerState state)) :=
  modify_keepsStage hcalm hg fun _ h =>
    ⟨⟨h.owned.type, h.owned.vmt, h.owned.api, h.owned.onConfig⟩, h.status, h.tracked, h.stores,
      h.dispatched, h.admitted⟩

theorem powerStateSet_keepsStage (hcalm : Calm f codes handler) (hg : g.Sound f) (ty : PeripheralType)
    (state : PowerState) : KeepsStage f codes handler g (powerStateSet .ref ty state) := by
  apply Hoare.bind (typeRejects_keepsStage hcalm hg ty)
  intro refused
  split
  · exact return_keepsStage hcalm hg _
  · apply Hoare.bind (stage_get hcalm hg)
    rintro d s ⟨h, -, -⟩
    split
    · exact return_keepsStage hcalm hg _ s h
    · refine stage_status hcalm hg (fun hs => ?_) (fun _ => ?_) s h
      · apply stage_vmt hcalm hg
        intro d hvmt
        simp only [hvmt]
        apply Hoare.bind (serviceSlot_keepsStage hcalm hg _ rfl hs fun _ _ heq => by cases heq)
        intro r
        split
        · apply Hoare.bind (setPowerState_keepsStage hcalm hg state)
          exact fun _ => return_keepsStage hcalm hg _
        · exact return_keepsStage hcalm hg _
      · apply Hoare.bind (setPowerState_keepsStage hcalm hg state)
        exact fun _ => return_keepsStage hcalm hg _

/-! ### The interface -/

/-- The test of the driver pointer that a wrapper begins with. -/
theorem nullChecked_keepsStage (hcalm : Calm f codes handler) (hg : g.Sound f) {driver : DriverPtr}
    {p : HalM ErrorCode} (hp : KeepsStage f codes handler g p) :
    KeepsStage f codes handler g (match driver with
      | .null => return .badParam
      | .ref => p : HalM ErrorCode) := by
  cases driver with
  | null => exact return_keepsStage hcalm hg _
  | ref => exact hp

theorem configValidate_keepsStage (hcalm : Calm f codes handler) (hgates : f.Gates codes) (hg : g.Sound f)
    (driver : DriverPtr) (pConfig : Ptr) :
    Leads f codes handler (StandsAt f g) (f.peripheral.configValidate f.mem driver pConfig)
      (fun r s => StandsAt f g s ∧ (f.gate → r = .ok → f.Fits pConfig)) := by
  have refused (r : ErrorCode) (hr : r ≠ .ok) : Leads f codes handler (StandsAt f g) (.done r)
      (fun r s => StandsAt f g s ∧ (f.gate → r = .ok → f.Fits pConfig)) :=
    stage_done hcalm hg fun s h => ⟨h, fun _ hok => absurd hok hr⟩
  rw [Peripheral.configValidate_eq]
  cases driver with
  | null => exact refused _ (by decide)
  | ref =>
      cases pConfig with
      | none => exact refused _ (by decide)
      | some address =>
          simp only [configValidate]
          split
          · exact refused _ (by decide)
          · next hrej =>
              refine Hoare.mono (baseConfigValidate_keepsStage hcalm hgates hg (some address)) ?_
              rintro r s ⟨h, hok⟩
              exact ⟨h, fun hgate hr => ⟨fun hstruct => hrej (hstruct address rfl), hok hgate hr⟩⟩

theorem configSet_keepsStage (hcalm : Calm f codes handler) (hgates : f.Gates codes) (hg : g.Sound f)
    (hasConfig : f.peripheral ≠ .gpio) (driver : DriverPtr) (pConfig : Ptr) :
    KeepsStage f codes handler g (f.peripheral.configSet f.mem hasConfig driver pConfig) := by
  -- What is stored may be anything where the gate is not.
  have stored (hfits : f.gate → f.Fits pConfig) : KeepsStage f codes handler g
      (Prog.modify (Driver.setConfig pConfig) >>= fun _ =>
        baseConfigSet .ref f.peripheral.type pConfig) := by
    apply Hoare.bind (modify_keepsStage hcalm hg fun s h => ?_)
    · exact fun _ => baseConfigSet_keepsStage hcalm hgates hg hfits
    · exact ⟨⟨h.owned.type, h.owned.vmt, h.owned.api, h.owned.onConfig⟩, h.status, h.tracked,
        fun hgate => hg.wide _ (hfits hgate), h.dispatched, h.admitted⟩
  cases hv : f.peripheral.validates with
  | true =>
      rw [Peripheral.configSet_eq_validated f.mem hv]
      apply nullChecked_keepsStage hcalm hg
      apply Hoare.bind (configValidate_keepsStage hcalm hgates hg .ref pConfig)
      rintro r s ⟨h, hok⟩
      split
      · exact return_keepsStage hcalm hg _ s h
      · next hr => exact stored (fun hgate => hok hgate (not_not.1 hr)) s h
  | false =>
      rw [Peripheral.configSet_eq_unchecked f.mem hv hasConfig]
      apply nullChecked_keepsStage hcalm hg
      refine stored fun hgate => ?_
      rw [(hgates hgate).1] at hv
      cases hv

theorem callbackRegister_keepsStage (hcalm : Calm f codes handler) (hg : g.Sound f) (driver : DriverPtr)
    (callback pUserArg : Ptr) :
    KeepsStage f codes handler g (f.peripheral.callbackRegister driver callback pUserArg) := by
  apply nullChecked_keepsStage hcalm hg
  apply Hoare.bind (modify_keepsStage hcalm hg fun s h => ?_)
  · exact fun _ => baseCallbackRegister_keepsStage hcalm hg _ _ _
  · exact ⟨⟨h.owned.type, h.owned.vmt, h.owned.api, h.owned.onConfig⟩, h.status, h.tracked, h.stores,
      h.dispatched, h.admitted⟩

/-- A specific function calls a slot of the typed table, which is no matter of the bring-up. -/
theorem specific_keepsStage (hcalm : Calm f codes handler) (hg : g.Sound f) (func : SpecificFn)
    (driver : DriverPtr) (args : List Arg) : KeepsStage f codes handler g (func.call driver args) := by
  apply nullChecked_keepsStage hcalm hg
  apply Hoare.bind (stage_get hcalm hg)
  rintro d s ⟨h, -, -⟩
  split
  · split
    · exact return_keepsStage hcalm hg _ s h
    · split
      · refine Hoare.mono (stage_request hcalm (q := fun _ => g.phase) (allows_api _ _ _)
          (fun _ _ => rfl)
          (fun _ d r _ => admits_api _ _ _ _ _) hg fun _ => hg) (fun r t ht => ht.1) s h
      · exact return_keepsStage hcalm hg _ s h
  · exact return_keepsStage hcalm hg _ s h

/-- A call that neither starts nor stops the driver keeps every sound stage, whatever calm handler
interrupts it. -/
theorem WrapperCall.keepsStage (hcalm : Calm f codes handler) (hgates : f.Gates codes) (hg : g.Sound f)
    (c : WrapperCall f.peripheral) (hc : c.isLifecycle = false) :
    KeepsStage f codes handler g (c.prog f.mem) := by
  by_cases he : c.isEventError = true
  · obtain ⟨driver, _, _, req, hreq, hprog, -⟩ := c.eventError_eq f.mem he
    rw [hprog]
    exact nullChecked_keepsStage hcalm hg (eventErrorCall_keepsStage hcalm hg _ _ _ hreq)
  cases c with
  | init driver => cases hc
  | deinit driver => cases hc
  | configValidate driver pConfig =>
      exact Hoare.mono (configValidate_keepsStage hcalm hgates hg driver pConfig) fun r t ht => ht.1
  | configSet hasConfig driver pConfig => exact configSet_keepsStage hcalm hgates hg hasConfig driver pConfig
  | callbackRegister driver callback pUserArg =>
      exact callbackRegister_keepsStage hcalm hg driver callback pUserArg
  | powerStateSet driver state =>
      exact nullChecked_keepsStage hcalm hg (powerStateSet_keepsStage hcalm hg _ state)
  | specific func own driver args => exact specific_keepsStage hcalm hg func driver args
  | _ => exact absurd rfl he

end Service

/-! ## The handler -/

/-- The calls that a handler makes. -/
abbrev InterruptCall (P : Peripheral) := {c : WrapperCall P // c.isLifecycle = false}

def InterruptCall.prog {P : Peripheral} (mem : ConfigMemory) (c : InterruptCall P) : HalM ErrorCode :=
  c.1.prog mem

/-- The handler leaves every sound stage as it is. Its calls run to completion, and a run that nobody
interrupts is one under the handler that has no calls. -/
theorem service_calm {f : Fixture} {codes : HookCodes W} (hgates : f.Gates codes) :
    Calm f codes (InterruptCall.prog (P := f.peripheral) f.mem) := by
  intro g hg c s h
  have hnobody : Calm f codes (fun op : Empty => op.elim) := fun _ _ op => op.elim
  exact (WrapperCall.keepsStage hnobody hgates hg c.1 c.2 s h).run

/-! ## Starting and stopping -/

section Lifecycle

variable {Op : Type} {f : Fixture} {codes : HookCodes W} {handler : Op → HalM ErrorCode}

/-- At rest: not INITIALIZED, with the board not held and any configuration. -/
def Stage.resting : Stage := ⟨.constructed, .down, fun _ => True⟩

/-- At work: INITIALIZED and running, with a configuration that fits. -/
def Stage.working (f : Fixture) : Stage := ⟨.initialized, .live, f.Fits⟩

/-- On the way between them. -/
def Stage.between (f : Fixture) (status : DriverStatus) (q : Phase) : Stage := ⟨status, q, f.Fits⟩

/-- Between two calls. -/
def BetweenCalls (f : Fixture) (s : HalConf W) : Prop :=
  StandsAt f .resting s ∨ (f.table.bind fun t => t.slot .init) ≠ none ∧ StandsAt f (.working f) s

theorem constructed_sound (q : Phase) {stores : Ptr → Prop}
    (hw : ∀ pConfig, f.Fits pConfig → stores pConfig) :
    Stage.Sound ⟨.constructed, q, stores⟩ f :=
  ⟨.inl rfl, DriverStatus.noConfusion, DriverStatus.noConfusion, DriverStatus.noConfusion, hw⟩

theorem initialized_sound {q : Phase} (hq : q ≠ .down)
    (hslot : (f.table.bind fun t => t.slot .init) ≠ none) :
    Stage.Sound ⟨.initialized, q, f.Fits⟩ f :=
  ⟨.inr rfl, fun _ => hq, fun _ => hslot, fun _ _ h => h, fun _ h => h⟩

theorem between_sound (q : Phase) : (Stage.between f .constructed q).Sound f :=
  constructed_sound q fun _ h => h

theorem resting_sound : Stage.resting.Sound f :=
  constructed_sound .down fun _ _ => trivial

theorem working_sound (hslot : (f.table.bind fun t => t.slot .init) ≠ none) :
    (Stage.working f).Sound f :=
  initialized_sound (by decide) hslot

theorem BetweenCalls.safe {s : HalConf W} (h : BetweenCalls f s) : Safe f s := by
  rcases h with h | ⟨hslot, h⟩
  · exact h.safe resting_sound
  · exact h.safe (working_sound hslot)

theorem BetweenCalls.ofWorld {s : HalConf W} {V : Type} {x : V} (h : BetweenCalls f (s.inWorld x)) :
    BetweenCalls f s := by
  rcases h with h | ⟨hslot, h⟩
  · exact .inl h.ofWorld
  · exact .inr ⟨hslot, h.ofWorld⟩

/-- Between two calls the bring-up is where the status says. -/
theorem BetweenCalls.tracked {s : HalConf W} (h : BetweenCalls f s) :
    bringup.track (actions s.log) = some s.record.base.status.phase := by
  rcases h with h | ⟨-, h⟩
  · rw [h.tracked, h.status]
    rfl
  · rw [h.tracked, h.status]
    rfl

theorem betweenCalls_stable (hcalm : Calm f codes handler) :
    Stable (.ofCodes codes) handler (BetweenCalls (W := W) f) := by
  intro op s h
  rcases h with h | ⟨hslot, h⟩
  · exact .inl (hcalm _ resting_sound op s h)
  · exact .inr ⟨hslot, hcalm _ (working_sound hslot) op s h⟩

theorem return_between (hcalm : Calm f codes handler) {α : Type} (a : α) {P : HalConf W → Prop}
    (hP : ∀ s, P s → BetweenCalls f s) :
    Leads f codes handler P (.done a) (fun _ => BetweenCalls f) := by
  intro s hs
  exact Hoare.done (betweenCalls_stable hcalm) (fun _ h => h.safe) (fun _ h => h) s (hP s hs)

/-- A driver that has come down may rest. -/
theorem StandsAt.rests {stores : Ptr → Prop} {s : HalConf W}
    (h : StandsAt f ⟨.constructed, .down, stores⟩ s) : BetweenCalls f s :=
  .inl (h.stored fun _ _ => trivial)

/-- The board's hook is set, so it is called. -/
theorem callOnConfig_leads (hcalm : Calm f codes handler) {g : Stage} {phase : ConfigPhase}
    {q : ErrorCode → Phase}
    (hq : ∀ arg d r, phaseAfter g.phase ⟨.onConfig f.onConfig arg phase, d, r⟩ = some (q r))
    (hg : g.Sound f) (hg' : ∀ r, Stage.Sound { g with phase := q r } f) :
    Leads f codes handler (StandsAt f g) (callOnConfig phase)
      (fun r => StandsAt f { g with phase := q r }) := by
  apply Hoare.bind (stage_get hcalm hg)
  rintro d s ⟨h, hd, -⟩
  simp only [hd.onConfig]
  refine Hoare.mono (stage_request hcalm (allows_onConfig _ _ _) (hq _) (fun _ d r _ => ⟨?_, ?_⟩) hg hg')
    (fun r t ht => ht.1) s h
  · intro gn hcall
    cases hcall
  · intro gn pConfig hcall
    cases hcall

/-- Phase A of `init`. -/
theorem askBoard_leads (hcalm : Calm f codes handler) :
    Leads f codes handler (StandsAt f (.between f .constructed .down)) (callOnConfig .init)
      (fun r => StandsAt f (.between f .constructed (if r = .ok then .held else .down))) := by
  refine callOnConfig_leads (g := .between f .constructed .down) hcalm (fun arg d r => ?_)
    (between_sound _) fun r => between_sound _
  exact (next_acquire _).trans (by simp only [decide_eq_true_eq])

/-- The rollback of `init`, and phase B of `deinit`. -/
theorem releaseBoard_leads (hcalm : Calm f codes handler) :
    Leads f codes handler (StandsAt f (.between f .constructed .held)) (callOnConfig .deinit)
      (fun _ => BetweenCalls f) := by
  refine Hoare.mono (callOnConfig_leads (g := .between f .constructed .held) (q := fun _ => .down) hcalm
    (fun _ _ _ => rfl) (between_sound _) fun _ => between_sound _) ?_
  exact fun _ _ h => h.rests

/-- Phase B of `init`: the port is started on what is stored, which fits, and a start that succeeds is that
of a hook. -/
theorem startPort_leads (hcalm : Calm f codes handler) :
    Leads f codes handler (StandsAt f (.between f .constructed .held))
      (callSlot f.table .init .notSupported)
      (fun r s => StandsAt f (.between f .constructed (if r = .ok then .live else .held)) s ∧
        (r = .ok → (f.table.bind fun t => t.slot .init) ≠ none)) := by
  refine Hoare.mono (stage_callSlot (g := .between f .constructed .held)
    (q := fun r => if r = .ok then .live else .held) hcalm (fun hreq _ => by cases hreq) (fun fn d r => ?_)
    (fun _ fn d r hstored => ?_) rfl (between_sound _) fun r => between_sound _) ?_
  · exact (next_start _).trans (by simp only [decide_eq_true_eq])
  · refine ⟨fun _ _ => hstored, fun gn pConfig hcall => ?_⟩
    cases hcall
  · rintro r s ⟨h, ⟨-, rfl⟩ | ⟨fn, hslot, -⟩⟩
    · exact ⟨h, fun hr => by cases hr⟩
    · exact ⟨h, fun _ => by simp only [hslot]; exact Option.some_ne_none fn⟩

/-- Phase A of `deinit`. -/
theorem stopPort_leads (hcalm : Calm f codes handler)
    (hslot : (f.table.bind fun t => t.slot .init) ≠ none) :
    Leads f codes handler (StandsAt f (.working f)) (callSlot f.table .deinit .notSupported)
      (fun r => StandsAt f (.between f .initialized (if r = .ok then .held else .live))) := by
  refine Hoare.mono (stage_callSlot (g := .working f)
    (q := fun r => if r = .ok then .held else .live) hcalm (fun hreq _ => by cases hreq) (fun fn d r => ?_)
    (fun _ fn d r _ => admits_other rfl (by decide) fun _ heq => by cases heq) rfl
    (working_sound hslot) fun r => initialized_sound ?_ hslot) fun r s h => h.1
  · exact (next_stop _).trans (by simp only [decide_eq_true_eq])
  · split
    · decide
    · decide

/-- `cfn_hal_base_init`, on a driver that rests with a configuration that fits. -/
theorem baseInit_rest_leads (hcalm : Calm f codes handler) :
    Leads f codes handler (StandsAt f (.between f .constructed .down))
      (baseInit .ref f.peripheral.type) (fun _ => BetweenCalls f) := by
  have hdown := between_sound (f := f) .down
  apply Hoare.bind (linkRejects_keepsStage hcalm hdown _)
  intro refused
  split
  · exact return_between hcalm _ fun s h => h.rests
  apply stage_status hcalm hdown
  · intro hs
    cases hs
  intro _
  apply Hoare.bind (askBoard_leads hcalm)
  intro r
  by_cases hr : r = .ok
  swap
  · simp only [ne_eq, hr, not_false_eq_true, if_true, if_false]
    exact return_between hcalm _ fun s h => h.rests
  simp only [ne_eq, hr, not_true_eq_false, if_true, if_false]
  apply stage_vmt hcalm (between_sound .held)
  intro d hvmt
  simp only [hvmt]
  apply Hoare.bind (startPort_leads hcalm)
  rintro r s ⟨h, hslot⟩
  by_cases hr : r = .ok
  · -- The port runs, and the status is the last to say so.
    simp only [hr, if_true] at h ⊢
    refine Hoare.bind (stage_modify hcalm (between_sound .live) (working_sound (hslot hr)) fun s h => ?_)
      (fun _ => return_between hcalm _ fun s h => .inr ⟨hslot hr, h⟩) s h
    exact ⟨⟨h.owned.type, h.owned.vmt, h.owned.api, h.owned.onConfig⟩, rfl, h.tracked, h.stores,
      h.dispatched, h.admitted⟩
  · simp only [hr, if_false] at h ⊢
    refine Hoare.bind (releaseBoard_leads hcalm) (fun _ => ?_) s h
    exact return_between hcalm _ fun s h => h

/-- `cfn_hal_base_init` on a driver at work is refused. -/
theorem baseInit_work_leads (hcalm : Calm f codes handler)
    (hslot : (f.table.bind fun t => t.slot .init) ≠ none) :
    Leads f codes handler (StandsAt f (.working f)) (baseInit .ref f.peripheral.type)
      (fun _ => BetweenCalls f) := by
  have hwork := working_sound hslot
  apply Hoare.bind (linkRejects_keepsStage hcalm hwork _)
  intro refused
  split
  · exact return_between hcalm _ fun s h => .inr ⟨hslot, h⟩
  apply stage_status hcalm hwork
  · exact fun _ => return_between hcalm _ fun s h => .inr ⟨hslot, h⟩
  · intro hs
    exact absurd rfl hs

theorem baseDeinit_leads (hcalm : Calm f codes handler) :
    Leads f codes handler (BetweenCalls f) (baseDeinit .ref f.peripheral.type)
      (fun _ => BetweenCalls f) := by
  intro s h
  rcases h with h | ⟨hslot, h⟩
  · -- At rest: nothing to stop.
    refine Hoare.bind (linkRejects_keepsStage hcalm resting_sound _) (fun refused => ?_) s h
    split
    · exact return_between hcalm _ fun s h => h.rests
    apply stage_status hcalm resting_sound
    · exact fun _ => return_between hcalm _ fun s h => h.rests
    · intro hs
      exact absurd rfl hs
  · have hwork := working_sound hslot
    refine Hoare.bind (linkRejects_keepsStage hcalm hwork _) (fun refused => ?_) s h
    split
    · exact return_between hcalm _ fun s h => .inr ⟨hslot, h⟩
    apply stage_status hcalm hwork
    · intro hs
      cases hs
    intro _
    apply stage_status hcalm hwork
    · intro hs
      cases hs
    intro _
    apply stage_vmt hcalm hwork
    intro d hvmt
    simp only [hvmt]
    apply Hoare.bind (stopPort_leads hcalm hslot)
    intro r
    by_cases hr : r = .ok
    · -- From here to the release a handler finds a driver that is not INITIALIZED.
      simp only [hr, if_true]
      have hheld : (Stage.between f .initialized .held).Sound f := initialized_sound (by decide) hslot
      apply Hoare.bind (stage_modify hcalm hheld (between_sound .held) fun s h => ?_)
      · exact fun _ => releaseBoard_leads hcalm
      · exact ⟨⟨h.owned.type, h.owned.vmt, h.owned.api, h.owned.onConfig⟩, rfl, h.tracked, h.stores,
          h.dispatched, h.admitted⟩
    · simp only [hr, if_false]
      exact return_between hcalm _ fun s h => .inr ⟨hslot, h⟩

/-- Linking a driver that has its table changes nothing. -/
theorem StandsAt.linked {g : Stage} {s : HalConf W} (h : StandsAt f g s) :
    StandsAt f g (s.written Driver.linkVmt) := by
  have hlink : s.written Driver.linkVmt = s := by
    rw [Conf.written, linkVmt_eq (h.owned.vmt.trans h.owned.api.symm)]
  rw [hlink]
  exact h

/-- `cfn_hal_<p>_init`, where the header validates what is stored. -/
theorem validatedInit_leads (hcalm : Calm f codes handler) (hgates : f.Gates codes) :
    Leads f codes handler (BetweenCalls f)
      (validatedInit f.peripheral (f.peripheral.configValidate f.mem) .ref)
      (fun _ => BetweenCalls f) := by
  intro s h
  rcases h with h | ⟨hslot, h⟩
  · refine Hoare.bind (stage_modify hcalm resting_sound resting_sound fun _ h => h.linked)
      (fun _ => ?_) s h
    -- From the read on, what is stored is what was read or fits.
    have hread (d : Driver) : Stage.Sound ⟨.constructed, .down, fun p => p = d.config ∨ f.Fits p⟩ f :=
      constructed_sound .down fun _ h => .inr h
    apply Hoare.bind (Hoare.get
      (Q := fun d => StandsAt f ⟨.constructed, .down, fun p => p = d.config ∨ f.Fits p⟩)
      (hcalm _ resting_sound) (fun _ h => h.safe resting_sound) (fun d => hcalm _ (hread d))
      (fun d _ h => h.safe (hread d)) fun s h => h.stored fun _ _ => .inl rfl)
    intro d
    apply Hoare.bind (configValidate_keepsStage hcalm hgates (hread d) .ref d.config)
    rintro r s ⟨h, hok⟩
    by_cases hr : r = .ok
    · -- What was read fits, so what is stored does.
      simp only [ne_eq, hr, not_true_eq_false, if_false]
      refine baseInit_rest_leads hcalm s (h.stored fun hgate hstored => ?_)
      rcases hstored with hstored | hfits
      · rw [hstored]
        exact hok hgate hr
      · exact hfits
    · simp only [ne_eq, hr, not_false_eq_true, if_true]
      exact return_between hcalm _ (fun s h => h.rests) s h
  · have hwork := working_sound hslot
    refine Hoare.bind (stage_modify hcalm hwork hwork fun _ h => h.linked) (fun _ => ?_) s h
    apply Hoare.bind (stage_get hcalm hwork)
    rintro d s ⟨h, -, -⟩
    refine Hoare.bind (configValidate_keepsStage hcalm hgates hwork .ref d.config) ?_ s h
    rintro r s ⟨h, -⟩
    split
    · exact return_between hcalm _ (fun s h => .inr ⟨hslot, h⟩) s h
    · exact baseInit_work_leads hcalm hslot s h

/-- `cfn_hal_<p>_init` leads from rest to rest, over sound stages. -/
theorem init_leads (hcalm : Calm f codes handler) (hgates : f.Gates codes) (driver : DriverPtr) :
    Leads f codes handler (BetweenCalls f) (f.peripheral.init f.mem driver)
      (fun _ => BetweenCalls f) := by
  cases driver with
  | null =>
      have hnull : f.peripheral.init f.mem .null = .done .badParam := by
        cases f.peripheral <;> rfl
      rw [hnull]
      exact return_between hcalm _ fun _ h => h
  | ref =>
      by_cases hg : f.peripheral = .gpio
      swap
      · rw [Peripheral.init_eq f.mem hg]
        exact validatedInit_leads hcalm hgates
      -- The GPIO validates nothing, and no gate is asked of it.
      have hgate : ¬ f.gate := by
        intro hgate
        have hv := (hgates hgate).1
        rw [hg] at hv
        cases hv
      have hinit : f.peripheral.init f.mem .ref =
          (Prog.modify Driver.linkVmt >>= fun _ => baseInit .ref f.peripheral.type) := by
        rw [hg]
        rfl
      rw [hinit]
      intro s h
      rcases h with h | ⟨hslot, h⟩
      · refine Hoare.bind (stage_modify hcalm resting_sound (between_sound .down) fun _ h => ?_)
          (fun _ => baseInit_rest_leads hcalm) s h
        exact h.linked.stored fun hg => absurd hg hgate
      · have hwork := working_sound hslot
        exact Hoare.bind (stage_modify hcalm hwork hwork fun _ h => h.linked)
          (fun _ => baseInit_work_leads hcalm hslot) s h

/-- Every call of an interface leads the thread from rest to rest. -/
theorem WrapperCall.leads (hcalm : Calm f codes handler) (hgates : f.Gates codes)
    (c : WrapperCall f.peripheral) :
    Leads f codes handler (BetweenCalls f) (c.prog f.mem) (fun _ => BetweenCalls f) := by
  cases hc : c.isLifecycle with
  | false =>
      intro s h
      rcases h with h | ⟨hslot, h⟩
      · exact (c.keepsStage hcalm hgates resting_sound hc s h).mono fun _ _ h => .inl h
      · exact (c.keepsStage hcalm hgates (working_sound hslot) hc s h).mono
          fun _ _ h => .inr ⟨hslot, h⟩
  | true =>
      cases c with
      | init driver => exact init_leads hcalm hgates driver
      | deinit driver =>
          cases driver with
          | null => exact return_between hcalm _ fun _ h => h
          | ref => exact baseDeinit_leads hcalm
      | _ => cases hc

end Lifecycle

/-! ## The thread -/

/-- The thread: calls of the interface one after the other. -/
def interfaceThread {P : Peripheral} (mem : ConfigMemory) : List (WrapperCall P) → HalM Unit
  | [] => return ()
  | c :: calls => do
      let _ ← c.prog mem
      interfaceThread mem calls

/-- A populated driver with a hook of the board. -/
def boardedConf (P : Peripheral) (env : HalEnv W) (memory : Driver) (args : PopulateArgs)
    (fn : FnPtr) (arg : Ptr) (x : W) : HalConf W :=
  (populatedConf P env memory args x).written (Driver.setOnConfig (some fn) arg)

/-- What stays as it is on a driver populated with these arguments. -/
def portFixture (P : Peripheral) (mem : ConfigMemory) (args : PopulateArgs) (fn : FnPtr) : Fixture :=
  ⟨P, args.api.map Api.base, fn, mem, fun _ _ => .ok, False⟩

/-- Without a gate there is nothing to ask of the hooks. -/
theorem portFixture_gates (P : Peripheral) (mem : ConfigMemory) (args : PopulateArgs) (fn : FnPtr)
    (codes : HookCodes W) : (portFixture P mem args fn).Gates codes :=
  fun hgate => hgate.elim

section Thread

variable {Op : Type} {f : Fixture} {codes : HookCodes W} {handler : Op → HalM ErrorCode}

/-- A call that nobody interrupts leads from rest to rest too. -/
theorem WrapperCall.run_betweenCalls (hgates : f.Gates codes) (c : WrapperCall f.peripheral)
    {s : HalConf W} (h : BetweenCalls f s) :
    BetweenCalls f (run (.ofCodes codes) (c.prog f.mem) s).2 := by
  have hnobody : Calm f codes (fun op : Empty => op.elim) := fun _ _ op => op.elim
  exact (c.leads hnobody hgates s h).run

theorem interfaceThread_leads (hcalm : Calm f codes handler) (hgates : f.Gates codes)
    (calls : List (WrapperCall f.peripheral)) :
    Leads f codes handler (BetweenCalls f) (interfaceThread f.mem calls) (fun _ => BetweenCalls f) := by
  induction calls with
  | nil => exact return_between hcalm _ fun _ h => h
  | cons c calls ih => exact Hoare.bind (c.leads hcalm hgates) fun _ => ih

/-- A populated driver rests. -/
theorem boardedConf_betweenCalls (env : HalEnv W) {args : PopulateArgs}
    (htable : args.api.map Api.base = f.table) (memory : Driver) (arg : Ptr) (x : W) :
    BetweenCalls f (boardedConf f.peripheral env memory args f.onConfig arg x) := by
  refine .inl ⟨⟨rfl, htable, htable, rfl⟩, rfl, rfl, fun _ => trivial, ?_, fun _ => ?_⟩
  · exact List.forall_mem_nil _
  · exact List.forall_mem_nil _

/-- Safe at every step boundary of every interleaving. -/
theorem interleave_safe (hgates : f.Gates codes) (memory : Driver) {args : PopulateArgs}
    (htable : args.api.map Api.base = f.table) (arg : Ptr) (calls : List (WrapperCall f.peripheral))
    (schedule : List (Option (InterruptCall f.peripheral))) (x : W) :
    Safe f (interleave (.ofCodes codes) (InterruptCall.prog f.mem) schedule
      (interfaceThread f.mem calls,
        boardedConf f.peripheral (.ofCodes codes) memory args f.onConfig arg x)).2 := by
  have hrest := boardedConf_betweenCalls (.ofCodes codes) htable memory arg x
  exact (interfaceThread_leads (service_calm hgates) hgates calls _ hrest).interleave_inv schedule

end Thread

/-- An interface is safe under interrupts. A thread makes any calls of the interface of a driver,
`init` and `deinit` included, and between any two of its steps a handler makes any others, whatever the hooks
answer. The driver was populated and has its hook of the board. At every step boundary the record is well
formed, an INITIALIZED driver holds its board resources, and every call of a base-table hook other than
`config_validate` was made while they were held. The specific functions ask for no board: `CFN_HAL_CHECK_AND_CALL_FUNC`
does not test the status. -/
theorem interface_interrupt_safe (P : Peripheral) (mem : ConfigMemory) (codes : HookCodes W)
    (memory : Driver) (args : PopulateArgs) (fn : FnPtr) (arg : Ptr) (calls : List (WrapperCall P))
    (schedule : List (Option (InterruptCall P))) (x : W) :
    let env : HalEnv W := .ofCodes codes
    let s := (interleave env (InterruptCall.prog mem) schedule
      (interfaceThread mem calls, boardedConf P env memory args fn arg x)).2
    Represented P s.record ∧ (s.record.base.status = .initialized → BoardHeld s.log) ∧
      ∀ (e : HalEvent) older, e :: older <:+ s.log → e.OnBaseHook → BoardHeld older := by
  intro env s
  let f : Fixture := portFixture P mem args fn
  have hgates : f.Gates codes := portFixture_gates P mem args fn codes
  have hsafe : Safe f s := interleave_safe (f := f) hgates memory rfl arg calls schedule x
  exact ⟨hsafe.represented, hsafe.guarded.boardHeld, fun e older hsuf he => hsafe.guarded.onBaseHook hsuf he⟩

/-- Hook calls go where the table says, under interrupts too. Whoever makes it and whoever interrupts it,
a call of a base hook goes to the function that the driver's table has at the slot of the request, and unless
it is the port's `init` or `deinit`, a validation or one of the lock, the driver is INITIALIZED at that moment: the
test of the status and the call are two steps, and no handler that only uses the driver comes between them and its
end. -/
theorem interrupted_dispatch (P : Peripheral) (mem : ConfigMemory) (codes : HookCodes W)
    (memory : Driver) (args : PopulateArgs) (fn : FnPtr) (arg : Ptr) (calls : List (WrapperCall P))
    (schedule : List (Option (InterruptCall P))) (x : W) :
    let env : HalEnv W := .ofCodes codes
    let s := (interleave env (InterruptCall.prog mem) schedule
      (interfaceThread mem calls, boardedConf P env memory args fn arg x)).2
    ∀ e ∈ s.log, ∀ gn req, e.call = .vmt gn req →
      ((args.api.map Api.base).bind fun t => t.slot req) = some gn ∧
        (req ≠ .init → req ≠ .deinit → (∀ pConfig, req ≠ .configValidate pConfig) →
          req.isLocking = false → e.record.base.status = .initialized) := by
  intro env s e he gn req hcall
  let f : Fixture := portFixture P mem args fn
  have hgates : f.Gates codes := portFixture_gates P mem args fn codes
  have hsafe : Safe f s := interleave_safe (f := f) hgates memory rfl arg calls schedule x
  have hdispatch := hsafe.dispatched e he
  refine ⟨hdispatch.slot gn req hcall, fun hinit hdeinit hval hlock => ?_⟩
  have hreq : req.isService = true := by
    cases req with
    | init => exact absurd rfl hinit
    | deinit => exact absurd rfl hdeinit
    | lock timeout => cases hlock
    | unlock => cases hlock
    | _ => rfl
  exact hdispatch.live gn req hcall hreq hval

/-- What fits is what passes on a driver with the table. -/
theorem Fixture.Owns.fits_iff {f : Fixture} {d : Driver} (h : f.Owns d) (pConfig : Ptr) :
    f.Fits pConfig ↔ Passes f.mem f.opinion f.peripheral d pConfig := by
  unfold Fixture.Fits Fixture.PortAccepts Passes portOpinion DriverBase.hook
  rw [h.vmt]
  cases (f.table.bind fun t => t.slot (.configValidate pConfig)) with
  | none => simp
  | some fn => simp

/-- The gate stays shut under interrupts. For a peripheral whose `config_set` validates, a handler that
stores configurations between any two steps of `init`, or of another `config_set`, cannot bring a driver up
on one that the validator refuses: at every step boundary an INITIALIZED driver has a configuration that the
validator accepts, and the port was started on such configurations only, and given no others. -/
theorem gate_under_interrupts {P : Peripheral} (hP : P.validates = true) (mem : ConfigMemory)
    (opinion : FnPtr → Ptr → ErrorCode) (codes : HookCodes W) (memory : Driver) (args : PopulateArgs)
    (fn : FnPtr) (arg : Ptr) (calls : List (WrapperCall P))
    (schedule : List (Option (InterruptCall P))) (x : W) :
    let env : HalEnv W := .ofCodes (pureValidator opinion codes)
    let s := (interleave env (InterruptCall.prog mem) schedule
      (interfaceThread mem calls, boardedConf P env memory args fn arg x)).2
    (s.record.base.status = .initialized →
        s.record.config ≠ none ∧ ValidatorAccepts env mem P s.record s.record.config) ∧
      (∀ e ∈ s.log, ∀ gn, e.call = .vmt gn .init →
        ValidatorAccepts env mem P e.record e.record.config) ∧
      ∀ e ∈ s.log, ∀ gn pConfig, e.call = .vmt gn (.configSet pConfig) →
        ValidatorAccepts env mem P e.record pConfig := by
  intro env s
  let f : Fixture := ⟨P, args.api.map Api.base, fn, mem, opinion, True⟩
  have hgates : f.Gates (pureValidator opinion codes) := fun _ => ⟨hP, fun _ _ _ _ => rfl⟩
  have hsafe : Safe f s := interleave_safe (f := f) hgates memory rfl arg calls schedule x
  have accepts {d : Driver} (hd : f.Owns d) {pConfig : Ptr} (hfits : f.Fits pConfig) :
      ValidatorAccepts env mem P d pConfig :=
    (validatorAccepts_iff hd.type x).2 ((hd.fits_iff pConfig).1 hfits)
  refine ⟨fun hs => ?_, fun e he gn hcall => ?_, fun e he gn pConfig hcall => ?_⟩
  · have hfits := hsafe.stores trivial hs
    exact ⟨((hsafe.owned.fits_iff _).1 hfits).ne_none, accepts hsafe.owned hfits⟩
  · exact accepts ((hsafe.dispatched e he).owned) ((hsafe.admitted trivial e he).start gn hcall)
  · exact accepts ((hsafe.dispatched e he).owned) ((hsafe.admitted trivial e he).given gn pConfig hcall)

/-- A UART whose port refuses the configuration at address 1; a handler tries to store it while the thread
is inside `init`. -/
theorem gate_under_interrupts_uart :
    let env : HalEnv Unit := .ofCodes (pureValidator
      (fun _ pConfig => if pConfig = some 1 then .badConfig else .ok) okHooks)
    let store : InterruptCall .uart := ⟨.configSet (by decide) .ref (some 1), rfl⟩
    let calls : List (WrapperCall .uart) := [.init .ref]
    let s := (interleave env (InterruptCall.prog default)
      [none, none, none, some store, none, none, none, none, none, none, none, none, none, none]
      (interfaceThread default calls, boardedConf .uart env zeroedDriver fullArgs 30 none ())).2
    (s.record.base.status = .initialized →
        s.record.config ≠ none ∧ ValidatorAccepts env default .uart s.record s.record.config) ∧
      (∀ e ∈ s.log, ∀ gn, e.call = .vmt gn .init →
        ValidatorAccepts env default .uart e.record e.record.config) ∧
      ∀ e ∈ s.log, ∀ gn pConfig, e.call = .vmt gn (.configSet pConfig) →
        ValidatorAccepts env default .uart e.record pConfig :=
  gate_under_interrupts (P := .uart) rfl default _ okHooks zeroedDriver fullArgs 30 none
    [.init .ref] _ ()

end CaffeineHal
