import CaffeineHal.Lifecycle.Exact
import CaffeineHal.Peripheral.Representation

/-!
# The interface meets its contract exactly

The functions of a header do more than the base layer under them: they check a configuration before the driver
takes it, they store its address, and they call the port's own functions. `InterfaceStep` is the contract of the
whole interface, over what its callers know of a driver: where it stands, and which configuration it shows
(`Front`). It is built on the contract of the base layer.

`interface_exact` says that one call of an interface does what one step of its contract does, and
`interface_contract_exact` carries this over to runs: what the callers of an interface see is what its contract
allows, and nothing else.
-/

set_option autoImplicit false

namespace CaffeineHal

open CaffeineHal.Program CaffeineHal.Lifecycle

variable {W : Type}

/-! ## The contract -/

/-- What the callers of an interface know a driver by. -/
structure Front where
  standing : Standing
  config : Ptr

/-- What the hooks of an interface may return. -/
structure InterfaceAnswers where
  base : Answers BaseRequest
  specific : SpecificFn → ErrorCode → Prop

/-- The codes that the check of a configuration may return: the header has its say before the port. -/
inductive Checks (A : Answers BaseRequest) (rejects : Nat → Bool) : Ptr → ErrorCode → Prop
  | null : Checks A rejects none .badParam
  | refused {address : Nat} (h : rejects address = true) : Checks A rejects (some address) .badConfig
  | asked {address : Nat} {r : ErrorCode} (h : rejects address = false)
      (hq : A.request (.configValidate (some address)) r) : Checks A rejects (some address) r

/-- A step of the base layer leaves the configuration. -/
def BaseStep (A : Answers BaseRequest) (demand : Demand BaseRequest) (v : Front) (r : ErrorCode)
    (v' : Front) : Prop :=
  Contract A v.standing demand r v'.standing ∧ v'.config = v.config

/-- A step behind a check: a failed check is the end of it, with its code. -/
def Checked (check : ErrorCode → Prop) (next : ErrorCode → Front → Prop) (v : Front) (r : ErrorCode)
    (v' : Front) : Prop :=
  r ≠ .ok ∧ check r ∧ v' = v ∨ check .ok ∧ next r v'

/-- What a call asks of the base layer. -/
def WrapperCall.demand {P : Peripheral} : WrapperCall P → Demand BaseRequest
  | .init .ref => .start
  | .deinit .ref => .stop
  | .configSet _ .ref (some address) => .notify (.configSet (some address))
  | .callbackRegister .ref callback pUserArg => .notify (.callbackRegister callback pUserArg)
  | .powerStateSet .ref state => .move state (.powerStateSet state)
  | .eventEnable .ref eventMask => .use (.eventEnable eventMask)
  | .eventDisable .ref eventMask => .use (.eventDisable eventMask)
  | .eventGet .ref (some address) => .use (.eventGet (some address))
  | .errorEnable .ref errorMask => .use (.errorEnable errorMask)
  | .errorDisable .ref errorMask => .use (.errorDisable errorMask)
  | .errorGet .ref (some address) => .use (.errorGet (some address))
  | _ => .malformed

/-- The codes that a call of an interface may return, and where they lead. -/
def InterfaceStep {P : Peripheral} (A : InterfaceAnswers) (mem : ConfigMemory) (c : WrapperCall P)
    (v : Front) (r : ErrorCode) (v' : Front) : Prop :=
  match c with
  | .init .ref =>
      if P = .gpio then BaseStep A.base .start v r v'
      else Checked (Checks A.base (P.rejects mem) v.config) (BaseStep A.base .start v) v r v'
  | .configValidate .ref pConfig => Checks A.base (P.rejects mem) pConfig r ∧ v' = v
  | .configSet _ .ref pConfig =>
      -- What passes the check is stored, and then the base layer has its say.
      let stored : Front := { v with config := pConfig }
      if P.validates then
        Checked (Checks A.base (P.rejects mem) pConfig) (BaseStep A.base c.demand stored) v r v'
      else BaseStep A.base c.demand stored r v'
  | .specific func _ .ref _ => A.specific func r ∧ v' = v
  | c => BaseStep A.base c.demand v r v'

/-! ## The driver -/

/-- What the hooks behind a table and a board may return. -/
def Api.answers (api : Api) (onConfig : Option FnPtr) : InterfaceAnswers where
  base := api.base.answers onConfig
  specific func r := api.specific func = none → r = .notSupported

def Driver.front (d : Driver) : Front := ⟨d.standing, d.config⟩

/-- The driver, with this front. -/
def Driver.withFront (v : Front) (d : Driver) : Driver :=
  (d.withStanding v.standing).setConfig v.config

/-- A driver of an interface between two calls. -/
structure Serving (P : Peripheral) (api : Api) (onConfig : Option FnPtr) (d : Driver) : Prop where
  service : InService P.type api.base onConfig d
  table : d.api = some api

@[simp] theorem Driver.front_withFront (v : Front) (d : Driver) : (d.withFront v).front = v := by
  obtain ⟨⟨live, power⟩, config⟩ := v
  cases live <;> rfl

section Front

variable {ty : PeripheralType} {t : ApiBase} {onConfig : Option FnPtr} {d : Driver}

theorem InService.withFront_front (h : InService ty t onConfig d) : d.withFront d.front = d := by
  show (d.withStanding d.standing).setConfig d.config = d
  rw [h.withStanding_standing]
  rfl

theorem Serving.withFront {P : Peripheral} {api : Api} (h : Serving P api onConfig d) (v : Front) :
    Serving P api onConfig (d.withFront v) := by
  obtain ⟨htype, hvmt, honConfig, hstatus⟩ := h.service.withStanding (σ := v.standing)
  exact ⟨⟨htype, hvmt, honConfig, hstatus⟩, h.table⟩

end Front

/-! ## One call and one step -/

/-- The program does to the driver what the step says of its front. -/
def Shows (step : ErrorCode → Front → Prop) (d : Driver) (p : HalM ErrorCode) : Prop :=
  ∀ r d', Ends p d r d' ↔ ∃ v', step r v' ∧ d.withFront v' = d'

section Shows

variable {ty : PeripheralType} {t : ApiBase} {onConfig : Option FnPtr} {d : Driver} {p q : HalM ErrorCode}

/-- What meets the contract of the base layer. -/
theorem Meets.shows {demand : Demand BaseRequest} (h : Meets t onConfig d demand p) :
    Shows (BaseStep (t.answers onConfig) demand d.front) d p := by
  intro r d'
  rw [h r d']
  constructor
  · rintro ⟨σ', hc, rfl⟩
    exact ⟨⟨σ', d.config⟩, ⟨hc, rfl⟩, rfl⟩
  · rintro ⟨⟨σ', config⟩, ⟨hc, rfl⟩, rfl⟩
    exact ⟨σ', hc, rfl⟩

/-- A program that leaves the driver. -/
theorem shows_still (h : InService ty t onConfig d) {codes : ErrorCode → Prop}
    (hends : ∀ r d', Ends p d r d' ↔ codes r ∧ d = d') :
    Shows (fun r v' => codes r ∧ v' = d.front) d p := by
  intro r d'
  rw [hends]
  constructor
  · rintro ⟨hr, rfl⟩
    exact ⟨d.front, ⟨hr, rfl⟩, h.withFront_front⟩
  · rintro ⟨v', ⟨hr, rfl⟩, rfl⟩
    exact ⟨hr, h.withFront_front.symm⟩

/-- The check, and then the rest of the call. -/
theorem shows_checked (h : InService ty t onConfig d) {check : ErrorCode → Prop}
    {next : ErrorCode → Front → Prop} (hcheck : ∀ r d', Ends p d r d' ↔ check r ∧ d = d')
    (hnext : Shows next d q) :
    Shows (Checked check next d.front) d (p >>= fun error => if error ≠ .ok then return error else q) := by
  intro r d'
  rw [ends_bind]
  constructor
  · rintro ⟨error, d₁, hp, hrest⟩
    obtain ⟨herror, rfl⟩ := (hcheck error d₁).1 hp
    rw [ends_ite] at hrest
    rcases hrest with ⟨hne, rfl, rfl⟩ | ⟨hok, hq⟩
    · exact ⟨d.front, .inl ⟨hne, herror, rfl⟩, h.withFront_front⟩
    · obtain rfl := not_not.1 hok
      obtain ⟨v', hv', rfl⟩ := (hnext r d').1 hq
      exact ⟨v', .inr ⟨herror, hv'⟩, rfl⟩
  · rintro ⟨v', ⟨hne, hr, rfl⟩ | ⟨hok, hv'⟩, rfl⟩
    · refine ⟨r, d, (hcheck r d).2 ⟨hr, rfl⟩, ?_⟩
      rw [ends_ite]
      exact .inl ⟨hne, rfl, h.withFront_front.symm⟩
    · refine ⟨.ok, d, (hcheck .ok d).2 ⟨hok, rfl⟩, ?_⟩
      rw [ends_ite]
      exact .inr ⟨not_not.2 rfl, (hnext r _).2 ⟨v', hv', rfl⟩⟩

end Shows

section Calls

variable {P : Peripheral} {api : Api} {onConfig : Option FnPtr} {d : Driver}

theorem InService.setConfig {ty : PeripheralType} {t : ApiBase} (h : InService ty t onConfig d)
    (pConfig : Ptr) : InService ty t onConfig (d.setConfig pConfig) :=
  ⟨h.type, h.vmt, h.onConfig, h.status⟩

theorem InService.setCallback {ty : PeripheralType} {t : ApiBase} (h : InService ty t onConfig d)
    (callback pUserArg : Ptr) : InService ty t onConfig (d.setCallback callback pUserArg) :=
  ⟨h.type, h.vmt, h.onConfig, h.status⟩

/-- A driver that has its table is linked to it. -/
theorem Serving.linkVmt (h : Serving P api onConfig d) : d.linkVmt = d := by
  apply linkVmt_eq
  rw [h.service.vmt, h.table]
  rfl

variable (mem : ConfigMemory) (h : Serving P api onConfig d)
include h

theorem ends_configValidate (pConfig : Ptr) (r : ErrorCode) (d' : Driver) :
    Ends (P.configValidate mem .ref pConfig) d r d' ↔
      Checks (api.base.answers onConfig) (P.rejects mem) pConfig r ∧ d = d' := by
  rw [Peripheral.configValidate_eq]
  have ht : Typed .ref P.type d := ⟨rfl, h.service.type⟩
  cases pConfig with
  | none =>
      constructor
      · rintro ⟨rfl, rfl⟩
        exact ⟨.null, rfl⟩
      · rintro ⟨⟨⟩, rfl⟩
        exact ⟨rfl, rfl⟩
  | some address =>
      have hends : Ends (configValidate P (P.rejects mem) .ref (some address)) d r d' ↔
          P.rejects mem address = true ∧ .badConfig = r ∧ d = d' ∨
            ¬ P.rejects mem address = true ∧ api.base.MayAnswer (.configValidate (some address)) r ∧ d = d' := by
        unfold configValidate
        rw [ends_ite, ends_baseConfigValidate h.service ht]
        rfl
      rw [hends]
      constructor
      · rintro (⟨hrej, rfl, rfl⟩ | ⟨hpass, hq, rfl⟩)
        · exact ⟨.refused hrej, rfl⟩
        · exact ⟨.asked (Bool.eq_false_iff.2 hpass) hq, rfl⟩
      · rintro ⟨hc, rfl⟩
        cases hc with
        | refused hrej => exact .inl ⟨hrej, rfl, rfl⟩
        | asked hpass hq => exact .inr ⟨Bool.eq_false_iff.1 hpass, hq, rfl⟩

/-- `cfn_hal_<p>_init`. -/
theorem init_shows :
    Shows (InterfaceStep (api.answers onConfig) mem (.init .ref : WrapperCall P) d.front) d
      (P.init mem .ref) := by
  have hlinked : Linked .ref P.type d := h.service.linked_iff.2 ⟨rfl, rfl⟩
  have hbase := (baseInit_meets h.service hlinked).shows
  by_cases hg : P = .gpio
  · subst hg
    intro r d'
    have hlink : Ends (gpioInit .ref) d r d' ↔ Ends (baseInit .ref Peripheral.gpio.type) d.linkVmt r d' :=
      Iff.rfl
    show Ends (gpioInit .ref) d r d' ↔ _
    rw [hlink, h.linkVmt, hbase r d']
    rfl
  · rw [Peripheral.init_eq mem hg]
    have hchecked := shows_checked h.service (ends_configValidate mem h d.config) hbase
    intro r d'
    have hlink : Ends (validatedInit P (P.configValidate mem) .ref) d r d' ↔
        Ends (P.configValidate mem .ref d.linkVmt.config >>= fun error =>
          if error ≠ .ok then return error else baseInit .ref P.type) d.linkVmt r d' := Iff.rfl
    rw [hlink, h.linkVmt, hchecked r d']
    simp only [InterfaceStep, if_neg hg]
    rfl

/-- The base layer's part of `cfn_hal_<p>_config_set`, once the pointer is stored. -/
theorem stored_shows (hasConfig : P ≠ .gpio) (pConfig : Ptr) :
    Shows (BaseStep (api.base.answers onConfig) (WrapperCall.configSet hasConfig .ref pConfig).demand
        { d.front with config := pConfig }) d
      (Prog.modify (Driver.setConfig pConfig) >>= fun _ => baseConfigSet .ref P.type pConfig) := by
  have hstored := h.service.setConfig pConfig
  have hmeets : Meets api.base onConfig (d.setConfig pConfig)
      (WrapperCall.configSet hasConfig .ref pConfig).demand (baseConfigSet .ref P.type pConfig) := by
    cases pConfig with
    | none => exact serviceCall_refused hstored (.configSet .ref P.type none) fun hc => by cases hc.2.2
    | some address => exact serviceCall_meets hstored (.configSet .ref P.type (some address)) ⟨rfl, rfl, rfl⟩
  intro r d'
  exact hmeets.shows r d'

theorem configSet_shows (hasConfig : P ≠ .gpio) (pConfig : Ptr) :
    Shows (InterfaceStep (api.answers onConfig) mem (.configSet hasConfig .ref pConfig) d.front) d
      (P.configSet mem hasConfig .ref pConfig) := by
  have hbase := stored_shows h hasConfig pConfig
  cases hv : P.validates with
  | true =>
      rw [Peripheral.configSet_eq_validated mem hv]
      have hchecked := shows_checked h.service (ends_configValidate mem h pConfig) hbase
      intro r d'
      simp only [InterfaceStep, hv, if_true]
      exact hchecked r d'
  | false =>
      rw [Peripheral.configSet_eq_unchecked mem hv hasConfig]
      intro r d'
      simp only [InterfaceStep, hv, Bool.false_eq_true, if_false]
      exact hbase r d'

theorem specific_shows (func : SpecificFn) (own : func.peripheral = P) (args : List Arg) :
    Shows (InterfaceStep (api.answers onConfig) mem (.specific func own .ref args) d.front) d
      (func.call .ref args) := by
  refine shows_still h.service fun r d' => ?_
  have htype : d.base.type = func.peripheral.type := by
    rw [own]
    exact h.service.type
  show Ends (checkAndCallFunc func.peripheral.type func .ref args) d r d' ↔
    (api.specific func = none → r = .notSupported) ∧ d = d'
  unfold checkAndCallFunc
  cases hslot : api.specific func with
  | none => simp [htype, h.table, hslot, eq_comm]
  | some fn => simp [htype, h.table, hslot]

omit h in
/-- A call of no driver. -/
theorem null_shows (h : Serving P api onConfig d) {p : HalM ErrorCode} (hp : p = .done .badParam) :
    Shows (BaseStep (api.base.answers onConfig) .malformed d.front) d p := by
  subst hp
  exact (meets_malformed h.service fun r d' => Iff.rfl).shows

/-- What a call notes in the driver, whatever it returns. -/
def WrapperCall.note : WrapperCall P → Driver → Driver
  | .callbackRegister .ref callback pUserArg => Driver.setCallback callback pUserArg
  | _ => id

/-- One call of an interface does what one step of its contract does, and nothing else but its note. -/
theorem wrapperCall_shows (c : WrapperCall P) (r : ErrorCode) (d' : Driver) :
    Ends (c.prog mem) d r d' ↔
      ∃ v', InterfaceStep (api.answers onConfig) mem c d.front r v' ∧ (c.note d).withFront v' = d' := by
  have hs := h.service
  -- The calls that are one of the base layer's, with their arguments.
  have service (b : ServiceCall) (hb : b.pBase = .ref ∧ b.expectedType = P.type ∧ b.argNull = false) :
      Shows (BaseStep (api.base.answers onConfig) b.demand d.front) d b.prog :=
    (serviceCall_meets hs b hb).shows
  cases c with
  | init driver =>
      cases driver with
      | null => exact null_shows h (by cases P <;> rfl) r d'
      | ref => exact init_shows mem h r d'
  | deinit driver =>
      cases driver with
      | null => exact null_shows h rfl r d'
      | ref => exact (baseDeinit_meets hs (hs.linked_iff.2 ⟨rfl, rfl⟩)).shows r d'
  | configValidate driver pConfig =>
      cases driver with
      | null =>
          rw [WrapperCall.prog, Peripheral.configValidate_eq]
          exact null_shows h rfl r d'
      | ref => exact shows_still hs (ends_configValidate mem h pConfig) r d'
  | configSet hasConfig driver pConfig =>
      cases driver with
      | null => exact null_shows h (by cases P <;> first | rfl | exact absurd rfl hasConfig) r d'
      | ref => exact configSet_shows mem h hasConfig pConfig r d'
  | callbackRegister driver callback pUserArg =>
      cases driver with
      | null => exact null_shows h rfl r d'
      | ref =>
          have hnoted := hs.setCallback callback pUserArg
          exact (serviceCall_meets hnoted (.callbackRegister .ref P.type callback pUserArg)
            ⟨rfl, rfl, rfl⟩).shows r d'
  | powerStateSet driver state =>
      cases driver with
      | null => exact null_shows h rfl r d'
      | ref => exact service (.powerStateSet .ref P.type state) ⟨rfl, rfl, rfl⟩ r d'
  | eventEnable driver mask =>
      cases driver with
      | null => exact null_shows h rfl r d'
      | ref => exact service (.eventEnable .ref P.type mask) ⟨rfl, rfl, rfl⟩ r d'
  | eventDisable driver mask =>
      cases driver with
      | null => exact null_shows h rfl r d'
      | ref => exact service (.eventDisable .ref P.type mask) ⟨rfl, rfl, rfl⟩ r d'
  | eventGet driver pMask =>
      cases driver with
      | null => exact null_shows h rfl r d'
      | ref =>
          cases pMask with
          | none => exact (serviceCall_refused hs (.eventGet .ref P.type none) fun hc => by cases hc.2.2).shows r d'
          | some address => exact service (.eventGet .ref P.type (some address)) ⟨rfl, rfl, rfl⟩ r d'
  | errorEnable driver mask =>
      cases driver with
      | null => exact null_shows h rfl r d'
      | ref => exact service (.errorEnable .ref P.type mask) ⟨rfl, rfl, rfl⟩ r d'
  | errorDisable driver mask =>
      cases driver with
      | null => exact null_shows h rfl r d'
      | ref => exact service (.errorDisable .ref P.type mask) ⟨rfl, rfl, rfl⟩ r d'
  | errorGet driver pMask =>
      cases driver with
      | null => exact null_shows h rfl r d'
      | ref =>
          cases pMask with
          | none => exact (serviceCall_refused hs (.errorGet .ref P.type none) fun hc => by cases hc.2.2).shows r d'
          | some address => exact service (.errorGet .ref P.type (some address)) ⟨rfl, rfl, rfl⟩ r d'
  | specific func own driver args =>
      cases driver with
      | null => exact null_shows h rfl r d'
      | ref => exact specific_shows mem h func own args r d'

end Calls

/-! ## Runs -/

/-- A step of the contract, with the call and the code that its caller sees. -/
def InterfaceAllows {P : Peripheral} (A : InterfaceAnswers) (mem : ConfigMemory) (v : Front)
    (seen : WrapperCall P × ErrorCode) (v' : Front) : Prop :=
  InterfaceStep A mem seen.1 v seen.2 v'

section Runs

variable {P : Peripheral} {api : Api} {onConfig : Option FnPtr}

theorem Serving.note {d : Driver} (h : Serving P api onConfig d) (c : WrapperCall P) :
    Serving P api onConfig (c.note d) := by
  unfold WrapperCall.note
  split
  · exact ⟨h.service.setCallback _ _, h.table⟩
  · exact h

/-- The interface, seen by its callers, is exactly its contract. -/
theorem interface_exact (P : Peripheral) (api : Api) (onConfig : Option FnPtr) (mem : ConfigMemory) :
    Exact (endsOf (WrapperCall.prog (P := P) mem)) (Serving P api onConfig) Driver.front
      (InterfaceAllows (api.answers onConfig) mem) := by
  constructor
  case keeps =>
    rintro d ⟨c, r⟩ d' h hends
    obtain ⟨v', -, rfl⟩ := (wrapperCall_shows mem h c r d').1 hends
    exact (h.note c).withFront v'
  case sound =>
    rintro d ⟨c, r⟩ d' h hends
    obtain ⟨v', hstep, rfl⟩ := (wrapperCall_shows mem h c r d').1 hends
    rw [Driver.front_withFront]
    exact hstep
  case complete =>
    rintro d ⟨c, r⟩ v' h hstep
    exact ⟨(c.note d).withFront v', (wrapperCall_shows mem h c r _).2 ⟨v', hstep, rfl⟩,
      Driver.front_withFront v' _⟩

/-- A populated driver, with the hook of the board that its owner sets. -/
def connectedConf (P : Peripheral) (codes : HookCodes W) (memory : Driver) (args : PopulateArgs)
    (onConfig : Option FnPtr) (arg : Ptr) (x : W) : HalConf W :=
  (populatedConf P (.ofCodes codes) memory args x).written (Driver.setOnConfig onConfig arg)

/-- The front of a populated driver; the GPIO has no configuration. -/
def populatedFront (P : Peripheral) (args : PopulateArgs) : Front :=
  ⟨populatedStanding, if P = .gpio then none else args.config⟩

theorem connectedConf_serving {args : PopulateArgs} (hapi : args.api = some api) (codes : HookCodes W)
    (memory : Driver) (arg : Ptr) (x : W) :
    let s := connectedConf P codes memory args onConfig arg x
    Serving P api onConfig s.record ∧ s.record.front = populatedFront P args := by
  intro s
  have hvmt : s.record.base.vmt = some api.base := congrArg (Option.map Api.base) hapi
  refine ⟨⟨⟨rfl, hvmt, rfl, .inl rfl⟩, hapi⟩, ?_⟩
  cases P <;> rfl

/-- What an interface shows its callers is what its contract allows, and nothing else. From any driver just
populated, with any table, any hook of the board and any configurations in memory: every run of calls of the
interface shows codes that the contract allows and ends where it says, and every sequence of calls and codes
that the contract allows, with every end that it gives it, is a run for some answers of the hooks. -/
theorem interface_contract_exact (mem : ConfigMemory) (memory : Driver) (args : PopulateArgs)
    (hapi : args.api = some api) (arg : Ptr) :
    let allowed := Path (InterfaceAllows (P := P) (api.answers onConfig) mem) (populatedFront P args)
    (∀ (W : Type) (codes : HookCodes W) (ops : List (WrapperCall P)) (x : W),
      let start := connectedConf P codes memory args onConfig arg x
      allowed (answers (.ofCodes codes) (WrapperCall.prog mem) ops start)
        (runOps (.ofCodes codes) (WrapperCall.prog mem) ops start).record.front) ∧
    (∀ (calls : List (WrapperCall P × ErrorCode)) (v : Front), allowed calls v →
      ∃ script : List ErrorCode,
        let start := connectedConf P (scripted .ok) memory args onConfig arg script
        let ops := calls.map Prod.fst
        answers (.ofCodes (scripted .ok)) (WrapperCall.prog mem) ops start = calls ∧
          (runOps (.ofCodes (scripted .ok)) (WrapperCall.prog mem) ops start).record.front = v) := by
  intro allowed
  have hexact := interface_exact P api onConfig mem
  constructor
  · intro W codes ops x start
    obtain ⟨hserving, hfront⟩ : Serving P api onConfig start.record ∧ start.record.front = _ :=
      connectedConf_serving hapi codes memory arg x
    have hpath := (hexact.path_iff hserving).1 ⟨_, path_answers codes (WrapperCall.prog mem) ops start, rfl⟩
    rw [hfront] at hpath
    exact hpath
  · intro calls v hallowed
    let start : HalConf (List ErrorCode) := connectedConf P (scripted .ok) memory args onConfig arg []
    obtain ⟨hserving, hfront⟩ : Serving P api onConfig start.record ∧ start.record.front = _ :=
      connectedConf_serving hapi (scripted .ok) memory arg []
    simp only [allowed, ← hfront] at hallowed
    obtain ⟨d, hpath, rfl⟩ := (hexact.path_iff hserving).2 hallowed
    obtain ⟨script, hanswers, hrecord⟩ := (path_iff_script ErrorCode.ok).1 hpath
    exact ⟨script, hanswers, congrArg Driver.front hrecord⟩

/-- A DMA driver whose new configuration its port does not take shows it all the same. -/
theorem interface_contract_exact_dma :
    let calls : List (WrapperCall .dma × ErrorCode) :=
      [(.init .ref, .ok), (.configSet (by decide) .ref (some 1), .fail), (.deinit .ref, .ok)]
    ∃ script : List ErrorCode,
      let start := connectedConf .dma (scripted .ok) zeroedDriver fullArgs (some 30) none script
      let ops := calls.map Prod.fst
      answers (.ofCodes (scripted .ok)) (WrapperCall.prog default) ops start = calls ∧
        (runOps (.ofCodes (scripted .ok)) (WrapperCall.prog default) ops start).record.front =
          ⟨⟨false, .unknown⟩, some 1⟩ := by
  have hport (req : BaseRequest) (r : ErrorCode) : fullTable.MayAnswer req r :=
    fun h => absurd h (fullTable_slots req)
  have hboard (r : ErrorCode) : MayGrant (some 30) r := fun h => by cases h
  have htaken : fullTable.MayConfigure (some 1) .fail := .inr ⟨hport _ _, hport _ _⟩
  exact (interface_contract_exact default zeroedDriver fullArgs rfl none).2 _ _
    ⟨⟨⟨true, .unknown⟩, some 0⟩, .inr ⟨.asked rfl (hport _ _), .started (hboard _) (hport _ _), rfl⟩,
      ⟨⟨true, .unknown⟩, some 1⟩, .inr ⟨.asked rfl (hport _ _), .notified htaken, rfl⟩,
      ⟨⟨false, .unknown⟩, some 1⟩, ⟨.stopped (hport _ _) (hboard _), rfl⟩, rfl⟩

end Runs

end CaffeineHal
