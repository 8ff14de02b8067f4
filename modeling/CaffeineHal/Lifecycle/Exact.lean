import CaffeineHal.Driver.EventError
import CaffeineHal.Lifecycle.Contract
import CaffeineHal.Lifecycle.HookLog

/-!
# The base layer meets its contract exactly

The base layer, on a driver with any table and any hook of the board, shows its callers what the contract
allows and nothing else: `demand` says what a call asks for, `answers` what the hooks of the driver may
return, and `baseLayer_exact` that one call of the layer does what one step of the contract does.

`contract_exact` carries this over to runs. What a caller can tell of the status from the codes that it got
is then what it can tell by the contract (`status_observable`).
-/

set_option autoImplicit false

namespace CaffeineHal

open CaffeineHal.Program CaffeineHal.Lifecycle

variable {W : Type}

/-! ## What the hooks may return -/

/-- The code that a call returns where its hook is missing. -/
def BaseRequest.missingCode : BaseRequest → ErrorCode
  | .init | .deinit | .powerStateSet _ | .configSet _ | .eventEnable _ => .notSupported
  | _ => .ok

/-- The code may come back through the slot of a request. -/
def ApiBase.MayAnswer (t : ApiBase) (req : BaseRequest) (r : ErrorCode) : Prop :=
  t.slot req = none → r = req.missingCode

/-- The code may come back from the board. -/
def MayGrant (onConfig : Option FnPtr) (r : ErrorCode) : Prop :=
  onConfig = none → r = .ok

/-- The code may come back from a configuration: the port looks at it before it takes it. -/
def ApiBase.MayConfigure (t : ApiBase) (pConfig : Ptr) (r : ErrorCode) : Prop :=
  r ≠ .ok ∧ t.MayAnswer (.configValidate pConfig) r ∨
    t.MayAnswer (.configValidate pConfig) .ok ∧ t.MayAnswer (.configSet pConfig) r

/-- What the hooks of a driver may return. -/
def ApiBase.answers (t : ApiBase) (onConfig : Option FnPtr) : Answers BaseRequest where
  grant := MayGrant onConfig
  release := MayGrant onConfig
  start := t.MayAnswer .init
  stop := t.MayAnswer .deinit
  request
    | .configSet pConfig => t.MayConfigure pConfig
    | req => t.MayAnswer req

/-! ## What a call asks for -/

/-- What a service call asks for that is well formed. -/
def ServiceCall.demand : ServiceCall → Demand BaseRequest
  | .configSet _ _ pConfig => .notify (.configSet pConfig)
  | .configValidate _ _ pConfig => .inspect (.configValidate pConfig)
  | .callbackRegister _ _ pCallback pUserArg => .notify (.callbackRegister pCallback pUserArg)
  | .powerStateSet _ _ state => .move state (.powerStateSet state)
  | c => .use c.request

/-- A configuration or the place for a result is NULL. -/
def ServiceCall.argNull : ServiceCall → Bool
  | .configSet _ _ pConfig => pConfig.isNone
  | c => c.outputNull

/-- What a call asks of a driver with the tag `ty`. -/
def DriverCall.demand (ty : PeripheralType) : DriverCall → Demand BaseRequest
  | .inl (.init pBase ty') => if pBase = .ref ∧ ty' = ty then .start else .malformed
  | .inl (.deinit pBase ty') => if pBase = .ref ∧ ty' = ty then .stop else .malformed
  | .inr c =>
      if c.pBase = .ref ∧ c.expectedType = ty ∧ c.argNull = false then c.demand else .malformed

/-- What a run shows its caller, as demands with their codes. -/
def seen (ty : PeripheralType) (calls : List (DriverCall × ErrorCode)) :
    List (Demand BaseRequest × ErrorCode) :=
  calls.map fun a => (DriverCall.demand ty a.1, a.2)

/-- Where a driver stands. -/
def Driver.standing (d : Driver) : Standing where
  live := decide (d.base.status = .initialized)
  power := d.base.powerState

/-- The driver, standing at `σ`. -/
def Driver.withStanding (σ : Standing) (d : Driver) : Driver :=
  (d.setStatus (if σ.live then .initialized else .constructed)).setPowerState σ.power

/-- A driver between two calls of a run. -/
structure InService (ty : PeripheralType) (t : ApiBase) (onConfig : Option FnPtr) (d : Driver) : Prop where
  type : d.base.type = ty
  vmt : d.base.vmt = some t
  onConfig : d.base.onConfig = onConfig
  status : d.base.status = .constructed ∨ d.base.status = .initialized

/-! ## The ends of the base layer -/

section Ends

variable {ty : PeripheralType} {t : ApiBase} {onConfig : Option FnPtr} {d d' : Driver} {r : ErrorCode}

theorem ends_callSlot (req : BaseRequest) (missing : ErrorCode) (hm : req.missingCode = missing) :
    Ends (callSlot (some t) req missing) d r d' ↔ t.MayAnswer req r ∧ d = d' := by
  subst hm
  unfold callSlot ApiBase.MayAnswer
  rw [Option.bind_some]
  cases t.slot req with
  | none => simp [eq_comm]
  | some fn => simp

theorem ends_callOnConfig {phase : ConfigPhase} :
    Ends (callOnConfig phase) d r d' ↔ MayGrant d.base.onConfig r ∧ d = d' := by
  unfold callOnConfig MayGrant
  cases h : d.base.onConfig with
  | none => simp [h, eq_comm]
  | some fn => simp [h]

/-- The guards leave the driver. -/
theorem ends_typeRejects {pBase : DriverPtr} {ty' : PeripheralType} {b : Bool} :
    Ends (typeRejects pBase ty') d b d' ↔ (!decide (Typed pBase ty' d)) = b ∧ d = d' := by
  cases pBase with
  | null => simp [typeRejects, Typed]
  | ref => simp [typeRejects, Typed, and_comm]

theorem ends_linkRejects {pBase : DriverPtr} {ty' : PeripheralType} {b : Bool} :
    Ends (linkRejects pBase ty') d b d' ↔ (!decide (Linked pBase ty' d)) = b ∧ d = d' := by
  cases pBase with
  | null => simp [linkRejects, Linked, Typed]
  | ref =>
      by_cases ht : d.base.type = ty'
      · cases hv : d.base.vmt <;> simp [linkRejects, Linked, Typed, ht, hv, and_comm]
      · simp [linkRejects, Linked, Typed, ht, and_comm]

theorem ends_ite {α : Type} {c : Prop} [Decidable c] {p q : HalM α} {a : α} :
    Ends (if c then p else q) d a d' ↔ (c ∧ Ends p d a d') ∨ (¬ c ∧ Ends q d a d') := by
  by_cases hc : c
  · simp [hc]
  · simp [hc]

/-- A board that is asked may agree. -/
theorem mayGrant_ok : MayGrant onConfig .ok := fun _ => rfl

/-! Calls that the guards refuse. -/

theorem ends_baseConfigSet_refused {pBase : DriverPtr} {ty' : PeripheralType} {pConfig : Ptr}
    (h : ¬ Typed pBase ty' d ∨ pConfig = none) :
    Ends (baseConfigSet pBase ty' pConfig) d r d' ↔ .badParam = r ∧ d = d' := by
  rcases h with h | rfl
  · simp [baseConfigSet, ends_typeRejects, h]
  · simp [baseConfigSet, ends_typeRejects, Classical.em, and_comm]

theorem ends_baseConfigValidate_refused {pBase : DriverPtr} {ty' : PeripheralType} {pConfig : Ptr}
    (h : ¬ Typed pBase ty' d) :
    Ends (baseConfigValidate pBase ty' pConfig) d r d' ↔ .badParam = r ∧ d = d' := by
  simp [baseConfigValidate, ends_typeRejects, h]

theorem ends_baseCallbackRegister_refused {pBase : DriverPtr} {ty' : PeripheralType}
    {pCallback pUserArg : Ptr} (h : ¬ Typed pBase ty' d) :
    Ends (baseCallbackRegister pBase ty' pCallback pUserArg) d r d' ↔ .badParam = r ∧ d = d' := by
  simp [baseCallbackRegister, ends_typeRejects, h]

theorem ends_powerStateSet_refused {pBase : DriverPtr} {ty' : PeripheralType} {state : PowerState}
    (h : ¬ Typed pBase ty' d) :
    Ends (powerStateSet pBase ty' state) d r d' ↔ .badParam = r ∧ d = d' := by
  simp [powerStateSet, ends_typeRejects, h]

theorem ends_eventErrorCall_refused {pBase : DriverPtr} {ty' : PeripheralType} {argNull : Bool}
    {missing : ErrorCode} {req : BaseRequest} (h : ¬ Linked pBase ty' d ∨ argNull = true) :
    Ends (eventErrorCall pBase ty' argNull missing req) d r d' ↔ .badParam = r ∧ d = d' := by
  rcases h with h | rfl
  · simp [eventErrorCall, ends_linkRejects, h]
  · simp [eventErrorCall, ends_linkRejects, Classical.em, and_comm]

/-! Calls that no hook decides. -/

theorem ends_baseInit_live {pBase : DriverPtr} {ty' : PeripheralType} (hl : Linked pBase ty' d)
    (hs : d.base.status = .initialized) :
    Ends (baseInit pBase ty') d r d' ↔ .driverAlreadyInit = r ∧ d = d' := by
  simp [baseInit, ends_linkRejects, hl, hs]

theorem ends_baseDeinit_idle {pBase : DriverPtr} {ty' : PeripheralType} (hl : Linked pBase ty' d)
    (hs : d.base.status = .constructed) :
    Ends (baseDeinit pBase ty') d r d' ↔ .ok = r ∧ d = d' := by
  simp [baseDeinit, ends_linkRejects, hl, hs]

/-- A state that the driver is in already is not asked for again. -/
theorem ends_powerStateSet_same {pBase : DriverPtr} {ty' : PeripheralType} {state : PowerState}
    (hl : Typed pBase ty' d) (hp : d.base.powerState = state) :
    Ends (powerStateSet pBase ty' state) d r d' ↔ .ok = r ∧ d = d' := by
  simp [powerStateSet, ends_typeRejects, hl, hp]

theorem ends_powerStateSet_idle {pBase : DriverPtr} {ty' : PeripheralType} {state : PowerState}
    (hl : Typed pBase ty' d) (hp : d.base.powerState ≠ state) (hs : d.base.status ≠ .initialized) :
    Ends (powerStateSet pBase ty' state) d r d' ↔ .ok = r ∧ d.setPowerState state = d' := by
  simp [powerStateSet, ends_typeRejects, hl, hp, hs]

theorem ends_eventErrorCall_idle {pBase : DriverPtr} {ty' : PeripheralType} {missing : ErrorCode}
    {req : BaseRequest} (hl : Linked pBase ty' d) (hs : d.base.status ≠ .initialized) :
    Ends (eventErrorCall pBase ty' false missing req) d r d' ↔ .driverNotInit = r ∧ d = d' := by
  simp [eventErrorCall, ends_linkRejects, hl, hs]

theorem ends_baseCallbackRegister_idle {pBase : DriverPtr} {ty' : PeripheralType}
    {pCallback pUserArg : Ptr} (hl : Typed pBase ty' d) (hs : d.base.status ≠ .initialized) :
    Ends (baseCallbackRegister pBase ty' pCallback pUserArg) d r d' ↔ .ok = r ∧ d = d' := by
  simp [baseCallbackRegister, ends_typeRejects, hl, hs]

theorem ends_baseConfigSet_idle {pBase : DriverPtr} {ty' : PeripheralType} {address : Nat}
    (hl : Typed pBase ty' d) (hs : d.base.status ≠ .initialized) :
    Ends (baseConfigSet pBase ty' (some address)) d r d' ↔ .ok = r ∧ d = d' := by
  simp [baseConfigSet, ends_typeRejects, hl, hs]

/-! Calls that the hooks decide. -/

variable (h : InService ty t onConfig d)
include h

theorem InService.typed_iff {pBase : DriverPtr} {ty' : PeripheralType} :
    Typed pBase ty' d ↔ pBase = .ref ∧ ty' = ty := by
  rw [Typed, h.type, eq_comm (a := ty)]

theorem InService.linked_iff {pBase : DriverPtr} {ty' : PeripheralType} :
    Linked pBase ty' d ↔ pBase = .ref ∧ ty' = ty := by
  have hv : d.base.vmt ≠ none := by
    rw [h.vmt]
    exact Option.some_ne_none t
  rw [Linked, h.typed_iff]
  exact and_iff_left hv

/-- Phase A, phase B, and what either of them refuses. -/
theorem ends_baseInit_idle {pBase : DriverPtr} {ty' : PeripheralType} (hl : Linked pBase ty' d)
    (hs : d.base.status ≠ .initialized) :
    Ends (baseInit pBase ty') d r d' ↔
      (r ≠ .ok ∧ (MayGrant onConfig r ∨ t.MayAnswer .init r) ∧ d = d') ∨
      (r = .ok ∧ t.MayAnswer .init r ∧ d.setStatus .initialized = d') := by
  have hback : ∃ r, MayGrant onConfig r := ⟨.ok, mayGrant_ok⟩
  have hends : Ends (baseInit pBase ty') d r d' ↔ ∃ a, MayGrant onConfig a ∧
      ((a = .ok ∧ ∃ b, t.MayAnswer .init b ∧
          (b = .ok ∧ b = r ∧ d.setStatus .initialized = d' ∨ b ≠ .ok ∧ d = d' ∧ b = r)) ∨
        a ≠ .ok ∧ a = r ∧ d = d') := by
    simp [baseInit, ends_linkRejects, hl, hs, ends_ite, ends_callOnConfig,
      ends_callSlot .init .notSupported rfl, h.vmt, h.onConfig, hback]
  rw [hends]
  constructor
  · rintro ⟨a, hg, ⟨-, b, hi, ⟨rfl, rfl, hd⟩ | ⟨hb, hd, rfl⟩⟩ | ⟨ha, rfl, hd⟩⟩
    · exact .inr ⟨rfl, hi, hd⟩
    · exact .inl ⟨hb, .inr hi, hd⟩
    · exact .inl ⟨ha, .inl hg, hd⟩
  · rintro (⟨hr, hg | hi, hd⟩ | ⟨rfl, hi, hd⟩)
    · exact ⟨r, hg, .inr ⟨hr, rfl, hd⟩⟩
    · exact ⟨.ok, mayGrant_ok, .inl ⟨rfl, r, hi, .inr ⟨hr, hd, rfl⟩⟩⟩
    · exact ⟨.ok, mayGrant_ok, .inl ⟨rfl, .ok, hi, .inl ⟨rfl, rfl, hd⟩⟩⟩

/-- The port, and then the board. -/
theorem ends_baseDeinit_live {pBase : DriverPtr} {ty' : PeripheralType} (hl : Linked pBase ty' d)
    (hs : d.base.status = .initialized) :
    Ends (baseDeinit pBase ty') d r d' ↔
      (r ≠ .ok ∧ t.MayAnswer .deinit r ∧ d = d') ∨
      (t.MayAnswer .deinit .ok ∧ MayGrant onConfig r ∧ d.setStatus .constructed = d') := by
  have hends : Ends (baseDeinit pBase ty') d r d' ↔ ∃ a, t.MayAnswer .deinit a ∧
      (a = .ok ∧ MayGrant onConfig r ∧ d.setStatus .constructed = d' ∨
        a ≠ .ok ∧ a = r ∧ d = d') := by
    simp [baseDeinit, ends_linkRejects, hl, hs, ends_ite, ends_callOnConfig,
      ends_callSlot .deinit .notSupported rfl, h.vmt, h.onConfig]
  rw [hends]
  constructor
  · rintro ⟨a, ha, ⟨rfl, hg, hd⟩ | ⟨hne, rfl, hd⟩⟩
    · exact .inr ⟨ha, hg, hd⟩
    · exact .inl ⟨hne, ha, hd⟩
  · rintro (⟨hr, ha, hd⟩ | ⟨ha, hg, hd⟩)
    · exact ⟨r, ha, .inr ⟨hr, rfl, hd⟩⟩
    · exact ⟨.ok, ha, .inl ⟨rfl, hg, hd⟩⟩

/-- The field follows the port. -/
theorem ends_powerStateSet_live {pBase : DriverPtr} {ty' : PeripheralType} {state : PowerState}
    (hl : Typed pBase ty' d) (hp : d.base.powerState ≠ state) (hs : d.base.status = .initialized) :
    Ends (powerStateSet pBase ty' state) d r d' ↔
      (.ok = r ∧ t.MayAnswer (.powerStateSet state) .ok ∧ d.setPowerState state = d') ∨
      (r ≠ .ok ∧ t.MayAnswer (.powerStateSet state) r ∧ d = d') := by
  have hends : Ends (powerStateSet pBase ty' state) d r d' ↔
      ∃ a, t.MayAnswer (.powerStateSet state) a ∧
        (a = .ok ∧ a = r ∧ d.setPowerState state = d' ∨ a ≠ .ok ∧ a = r ∧ d = d') := by
    simp [powerStateSet, ends_typeRejects, hl, hp, hs, ends_ite,
      ends_callSlot (.powerStateSet state) .notSupported rfl, h.vmt]
  rw [hends]
  constructor
  · rintro ⟨a, ha, ⟨rfl, rfl, hd⟩ | ⟨hne, rfl, hd⟩⟩
    · exact .inl ⟨rfl, ha, hd⟩
    · exact .inr ⟨hne, ha, hd⟩
  · rintro (⟨rfl, ha, hd⟩ | ⟨hne, ha, hd⟩)
    · exact ⟨.ok, ha, .inl ⟨rfl, rfl, hd⟩⟩
    · exact ⟨r, ha, .inr ⟨hne, rfl, hd⟩⟩

theorem ends_eventErrorCall_live {pBase : DriverPtr} {ty' : PeripheralType} {missing : ErrorCode}
    {req : BaseRequest} (hm : req.missingCode = missing) (hl : Linked pBase ty' d)
    (hs : d.base.status = .initialized) :
    Ends (eventErrorCall pBase ty' false missing req) d r d' ↔ t.MayAnswer req r ∧ d = d' := by
  simp [eventErrorCall, ends_linkRejects, hl, hs, ends_callSlot req missing hm, h.vmt]

theorem ends_baseCallbackRegister_live {pBase : DriverPtr} {ty' : PeripheralType}
    {pCallback pUserArg : Ptr} (hl : Typed pBase ty' d) (hs : d.base.status = .initialized) :
    Ends (baseCallbackRegister pBase ty' pCallback pUserArg) d r d' ↔
      t.MayAnswer (.callbackRegister pCallback pUserArg) r ∧ d = d' := by
  simp [baseCallbackRegister, ends_typeRejects, hl, hs,
    ends_callSlot (.callbackRegister pCallback pUserArg) .ok rfl, h.vmt]

theorem ends_baseConfigValidate {pBase : DriverPtr} {ty' : PeripheralType} {pConfig : Ptr}
    (hl : Typed pBase ty' d) :
    Ends (baseConfigValidate pBase ty' pConfig) d r d' ↔
      t.MayAnswer (.configValidate pConfig) r ∧ d = d' := by
  simp [baseConfigValidate, ends_typeRejects, hl, ends_callSlot (.configValidate pConfig) .ok rfl,
    h.vmt]

/-- The port looks at the configuration, and then it takes it. -/
theorem ends_baseConfigSet_live {pBase : DriverPtr} {ty' : PeripheralType} {address : Nat}
    (hl : Typed pBase ty' d) (hs : d.base.status = .initialized) :
    Ends (baseConfigSet pBase ty' (some address)) d r d' ↔
      t.MayConfigure (some address) r ∧ d = d' := by
  have hends : Ends (baseConfigSet pBase ty' (some address)) d r d' ↔
      ∃ a, t.MayAnswer (.configValidate (some address)) a ∧
        (a = .ok ∧ t.MayAnswer (.configSet (some address)) r ∧ d = d' ∨ a ≠ .ok ∧ a = r ∧ d = d') := by
    simp [baseConfigSet, ends_typeRejects, hl, hs, ends_ite,
      ends_callSlot (.configValidate (some address)) .ok rfl,
      ends_callSlot (.configSet (some address)) .notSupported rfl, h.vmt]
  rw [hends, ApiBase.MayConfigure]
  constructor
  · rintro ⟨a, ha, ⟨rfl, hc, hd⟩ | ⟨hne, rfl, hd⟩⟩
    · exact ⟨.inr ⟨ha, hc⟩, hd⟩
    · exact ⟨.inl ⟨hne, ha⟩, hd⟩
  · rintro ⟨⟨hne, ha⟩ | ⟨ha, hc⟩, hd⟩
    · exact ⟨r, ha, .inr ⟨hne, rfl, hd⟩⟩
    · exact ⟨.ok, ha, .inl ⟨rfl, hc, hd⟩⟩

end Ends

/-! ## One call and one step of the contract -/

section Standing

variable {ty : PeripheralType} {t : ApiBase} {onConfig : Option FnPtr} {d : Driver} {σ : Standing}

theorem Driver.standing_live (hs : d.base.status = .initialized) :
    d.standing = ⟨true, d.base.powerState⟩ := by
  rw [standing, decide_eq_true hs]

theorem Driver.standing_idle (hs : d.base.status ≠ .initialized) :
    d.standing = ⟨false, d.base.powerState⟩ := by
  rw [standing, decide_eq_false hs]

@[simp] theorem Driver.standing_withStanding : (d.withStanding σ).standing = σ := by
  obtain ⟨live, power⟩ := σ
  cases live <;> rfl

/-- Writing the status or the power state that a driver has changes nothing. -/
theorem Driver.setStatus_self {status : DriverStatus} (hs : d.base.status = status) :
    d.setStatus status = d := by
  subst hs
  rfl

theorem Driver.withStanding_idle (hs : d.base.status = .constructed) (power : PowerState) :
    d.withStanding ⟨false, power⟩ = d.setPowerState power := by
  show (d.setStatus .constructed).setPowerState power = d.setPowerState power
  rw [setStatus_self hs]

theorem Driver.withStanding_live (hs : d.base.status = .initialized) (power : PowerState) :
    d.withStanding ⟨true, power⟩ = d.setPowerState power := by
  show (d.setStatus .initialized).setPowerState power = d.setPowerState power
  rw [setStatus_self hs]

theorem InService.withStanding (h : InService ty t onConfig d) :
    InService ty t onConfig (d.withStanding σ) := by
  obtain ⟨live, power⟩ := σ
  refine ⟨h.type, h.vmt, h.onConfig, ?_⟩
  cases live with
  | false => exact .inl rfl
  | true => exact .inr rfl

theorem InService.ne_initialized (hs : d.base.status = .constructed) :
    d.base.status ≠ .initialized := by
  rw [hs]
  exact DriverStatus.noConfusion

theorem InService.withStanding_standing (h : InService ty t onConfig d) :
    d.withStanding d.standing = d := by
  rcases h.status with hs | hs
  · rw [Driver.standing_idle (InService.ne_initialized hs), Driver.withStanding_idle hs]
    rfl
  · rw [Driver.standing_live hs, Driver.withStanding_live hs]
    rfl

end Standing

section Calls

variable {ty : PeripheralType} {t : ApiBase} {onConfig : Option FnPtr} {d : Driver}

/-- The program does to the driver what the contract says of the demand. -/
def Meets (t : ApiBase) (onConfig : Option FnPtr) (d : Driver) (demand : Demand BaseRequest)
    (p : HalM ErrorCode) : Prop :=
  ∀ r d', Ends p d r d' ↔
    ∃ σ', Contract (t.answers onConfig) d.standing demand r σ' ∧ d.withStanding σ' = d'

/-- A call that leaves the driver, whatever it returns. -/
theorem meets_of_still {demand : Demand BaseRequest} {p : HalM ErrorCode}
    (h : InService ty t onConfig d) {codes : ErrorCode → Prop}
    (hends : ∀ r d', Ends p d r d' ↔ codes r ∧ d = d')
    (hcontract : ∀ r σ', Contract (t.answers onConfig) d.standing demand r σ' ↔
      codes r ∧ d.standing = σ') : Meets t onConfig d demand p := by
  intro r d'
  have hself := h.withStanding_standing
  rw [hends]
  constructor
  · rintro ⟨hr, rfl⟩
    exact ⟨d.standing, (hcontract r _).2 ⟨hr, rfl⟩, hself⟩
  · rintro ⟨σ', hc, rfl⟩
    obtain ⟨hr, rfl⟩ := (hcontract r σ').1 hc
    exact ⟨hr, hself.symm⟩

theorem meets_malformed (h : InService ty t onConfig d) {p : HalM ErrorCode}
    (hends : ∀ r d', Ends p d r d' ↔ .badParam = r ∧ d = d') : Meets t onConfig d .malformed p := by
  refine meets_of_still h hends fun r σ' => ?_
  generalize d.standing = σ
  constructor
  · rintro ⟨⟩
    exact ⟨rfl, rfl⟩
  · rintro ⟨rfl, rfl⟩
    exact .malformed

theorem baseInit_meets (h : InService ty t onConfig d) {pBase : DriverPtr} {ty' : PeripheralType}
    (hl : Linked pBase ty' d) : Meets t onConfig d .start (baseInit pBase ty') := by
  rcases h.status with hs | hs
  · have hidle := InService.ne_initialized hs
    intro r d'
    rw [ends_baseInit_idle h hl hidle, Driver.standing_idle hidle]
    constructor
    · rintro (⟨hr, hg | hi, rfl⟩ | ⟨rfl, hi, rfl⟩)
      · exact ⟨_, .denied hr hg, Driver.withStanding_idle hs _⟩
      · exact ⟨_, .startFailed hr mayGrant_ok hi, Driver.withStanding_idle hs _⟩
      · exact ⟨_, .started mayGrant_ok hi, rfl⟩
    · rintro ⟨σ', hc, rfl⟩
      cases hc with
      | started _ hi => exact .inr ⟨rfl, hi, rfl⟩
      | denied hr hg => exact .inl ⟨hr, .inl hg, (Driver.withStanding_idle hs _).symm⟩
      | startFailed hr _ hi => exact .inl ⟨hr, .inr hi, (Driver.withStanding_idle hs _).symm⟩
  · refine meets_of_still h (fun r d' => ends_baseInit_live hl hs) fun r σ' => ?_
    rw [Driver.standing_live hs]
    constructor
    · rintro ⟨⟩
      exact ⟨rfl, rfl⟩
    · rintro ⟨rfl, rfl⟩
      exact .startLive

theorem baseDeinit_meets (h : InService ty t onConfig d) {pBase : DriverPtr} {ty' : PeripheralType}
    (hl : Linked pBase ty' d) : Meets t onConfig d .stop (baseDeinit pBase ty') := by
  rcases h.status with hs | hs
  · refine meets_of_still h (fun r d' => ends_baseDeinit_idle hl hs) fun r σ' => ?_
    rw [Driver.standing_idle (InService.ne_initialized hs)]
    constructor
    · rintro ⟨⟩
      exact ⟨rfl, rfl⟩
    · rintro ⟨rfl, rfl⟩
      exact .stopIdle
  · intro r d'
    rw [ends_baseDeinit_live h hl hs, Driver.standing_live hs]
    constructor
    · rintro (⟨hr, hd, rfl⟩ | ⟨hd, hg, rfl⟩)
      · exact ⟨_, .stopFailed hr hd, Driver.withStanding_live hs _⟩
      · exact ⟨_, .stopped hd hg, rfl⟩
    · rintro ⟨σ', hc, rfl⟩
      cases hc with
      | stopped hd hg => exact .inr ⟨hd, hg, rfl⟩
      | stopFailed hr hd => exact .inl ⟨hr, hd, (Driver.withStanding_live hs _).symm⟩

theorem powerStateSet_meets (h : InService ty t onConfig d) {pBase : DriverPtr}
    {ty' : PeripheralType} {state : PowerState} (hl : Typed pBase ty' d) :
    Meets t onConfig d (.move state (.powerStateSet state)) (powerStateSet pBase ty' state) := by
  by_cases hp : d.base.powerState = state
  · refine meets_of_still h (fun r d' => ends_powerStateSet_same hl hp) fun r σ' => ?_
    have hstanding : d.standing = ⟨d.standing.live, state⟩ := by rw [← hp]; rfl
    rw [hstanding]
    generalize d.standing.live = b
    constructor
    · intro hc
      cases hc with
      | moveSame => exact ⟨rfl, rfl⟩
      | moveIdle hne => exact absurd rfl hne
      | moved hne _ => exact absurd rfl hne
      | moveFailed hne _ _ => exact absurd rfl hne
    · rintro ⟨rfl, rfl⟩
      exact .moveSame
  intro r d'
  rcases h.status with hs | hs
  · have hidle := InService.ne_initialized hs
    rw [ends_powerStateSet_idle hl hp hidle, Driver.standing_idle hidle]
    constructor
    · rintro ⟨rfl, rfl⟩
      exact ⟨_, .moveIdle hp, Driver.withStanding_idle hs state⟩
    · rintro ⟨σ', hc, rfl⟩
      cases hc with
      | moveSame => exact absurd rfl hp
      | moveIdle _ => exact ⟨rfl, (Driver.withStanding_idle hs state).symm⟩
  · rw [ends_powerStateSet_live h hl hp hs, Driver.standing_live hs]
    constructor
    · rintro (⟨rfl, hq, rfl⟩ | ⟨hr, hq, rfl⟩)
      · exact ⟨_, .moved hp hq, Driver.withStanding_live hs state⟩
      · exact ⟨_, .moveFailed hp hr hq, Driver.withStanding_live hs _⟩
    · rintro ⟨σ', hc, rfl⟩
      cases hc with
      | moveSame => exact absurd rfl hp
      | moved _ hq => exact .inl ⟨rfl, hq, (Driver.withStanding_live hs state).symm⟩
      | moveFailed _ hr hq => exact .inr ⟨hr, hq, (Driver.withStanding_live hs _).symm⟩

/-- A call that needs a live driver and goes to one hook. -/
theorem meets_use (h : InService ty t onConfig d) {p : HalM ErrorCode} {q : BaseRequest}
    (hidle : d.base.status ≠ .initialized → ∀ r d', Ends p d r d' ↔ .driverNotInit = r ∧ d = d')
    (hlive : d.base.status = .initialized → ∀ r d', Ends p d r d' ↔
      (t.answers onConfig).request q r ∧ d = d') : Meets t onConfig d (.use q) p := by
  by_cases hs : d.base.status = .initialized
  · refine meets_of_still h (hlive hs) fun r σ' => ?_
    rw [Driver.standing_live hs]
    constructor
    · intro hc
      cases hc with
      | used hq => exact ⟨hq, rfl⟩
    · rintro ⟨hq, rfl⟩
      exact .used hq
  · refine meets_of_still h (hidle hs) fun r σ' => ?_
    rw [Driver.standing_idle hs]
    constructor
    · rintro ⟨⟩
      exact ⟨rfl, rfl⟩
    · rintro ⟨rfl, rfl⟩
      exact .useIdle

/-- A call that tells a live driver's port, and is OK where there is nobody to tell. -/
theorem meets_notify (h : InService ty t onConfig d) {p : HalM ErrorCode} {q : BaseRequest}
    (hidle : d.base.status ≠ .initialized → ∀ r d', Ends p d r d' ↔ .ok = r ∧ d = d')
    (hlive : d.base.status = .initialized → ∀ r d', Ends p d r d' ↔
      (t.answers onConfig).request q r ∧ d = d') : Meets t onConfig d (.notify q) p := by
  by_cases hs : d.base.status = .initialized
  · refine meets_of_still h (hlive hs) fun r σ' => ?_
    rw [Driver.standing_live hs]
    constructor
    · intro hc
      cases hc with
      | notified hq => exact ⟨hq, rfl⟩
    · rintro ⟨hq, rfl⟩
      exact .notified hq
  · refine meets_of_still h (hidle hs) fun r σ' => ?_
    rw [Driver.standing_idle hs]
    constructor
    · rintro ⟨⟩
      exact ⟨rfl, rfl⟩
    · rintro ⟨rfl, rfl⟩
      exact .notifyIdle

theorem eventError_meets (h : InService ty t onConfig d) {pBase : DriverPtr} {ty' : PeripheralType}
    {missing : ErrorCode} {req : BaseRequest} (hl : Linked pBase ty' d)
    (hm : req.missingCode = missing) (hreq : (t.answers onConfig).request req = t.MayAnswer req) :
    Meets t onConfig d (.use req) (eventErrorCall pBase ty' false missing req) := by
  refine meets_use h (fun hs r d' => ends_eventErrorCall_idle hl hs) fun hs r d' => ?_
  rw [hreq]
  exact ends_eventErrorCall_live h hm hl hs

/-- A service call on the driver, with its arguments. -/
theorem serviceCall_meets (h : InService ty t onConfig d) (c : ServiceCall)
    (hc : c.pBase = .ref ∧ c.expectedType = ty ∧ c.argNull = false) :
    Meets t onConfig d c.demand c.prog := by
  obtain ⟨hp, hty, hn⟩ := hc
  have ht : Typed c.pBase c.expectedType d := h.typed_iff.2 ⟨hp, hty⟩
  have hl : Linked c.pBase c.expectedType d := h.linked_iff.2 ⟨hp, hty⟩
  cases c with
  | configSet pBase ty' pConfig =>
      cases pConfig with
      | none => cases hn
      | some address =>
          exact meets_notify h (fun hs r d' => ends_baseConfigSet_idle ht hs)
            fun hs r d' => ends_baseConfigSet_live h ht hs
  | configValidate pBase ty' pConfig =>
      refine meets_of_still h (fun r d' => ends_baseConfigValidate h ht) fun r σ' => ?_
      generalize d.standing = σ
      constructor
      · intro hc
        cases hc with
        | inspected hq => exact ⟨hq, rfl⟩
      · rintro ⟨hq, rfl⟩
        exact .inspected hq
  | callbackRegister pBase ty' pCallback pUserArg =>
      exact meets_notify h (fun hs r d' => ends_baseCallbackRegister_idle ht hs)
        fun hs r d' => ends_baseCallbackRegister_live h ht hs
  | powerStateSet pBase ty' state => exact powerStateSet_meets h ht
  | eventEnable pBase ty' mask => exact eventError_meets h hl rfl rfl
  | eventDisable pBase ty' mask => exact eventError_meets h hl rfl rfl
  | eventGet pBase ty' pMask =>
      cases pMask with
      | none => cases hn
      | some address => exact eventError_meets h hl rfl rfl
  | errorEnable pBase ty' mask => exact eventError_meets h hl rfl rfl
  | errorDisable pBase ty' mask => exact eventError_meets h hl rfl rfl
  | errorGet pBase ty' pMask =>
      cases pMask with
      | none => cases hn
      | some address => exact eventError_meets h hl rfl rfl

/-- A service call on another driver, or without an argument that it needs. -/
theorem serviceCall_refused (h : InService ty t onConfig d) (c : ServiceCall)
    (hc : ¬ (c.pBase = .ref ∧ c.expectedType = ty ∧ c.argNull = false)) :
    Meets t onConfig d .malformed c.prog := by
  have hguard : ¬ Typed c.pBase c.expectedType d ∨ c.argNull = true := by
    by_cases hn : c.argNull = true
    · exact .inr hn
    · left
      intro ht
      obtain ⟨hp, hty⟩ := h.typed_iff.1 ht
      exact hc ⟨hp, hty, Bool.eq_false_iff.2 hn⟩
  have hlink : ¬ Linked c.pBase c.expectedType d ∨ c.argNull = true := hguard.imp_left (mt And.left)
  apply meets_malformed h
  cases c with
  | configSet pBase ty' pConfig =>
      exact fun r d' => ends_baseConfigSet_refused (hguard.imp_right Option.isNone_iff_eq_none.1)
  | configValidate pBase ty' pConfig =>
      exact fun r d' => ends_baseConfigValidate_refused (hguard.resolve_right Bool.false_ne_true)
  | callbackRegister pBase ty' pCallback pUserArg =>
      exact fun r d' => ends_baseCallbackRegister_refused (hguard.resolve_right Bool.false_ne_true)
  | powerStateSet pBase ty' state =>
      exact fun r d' => ends_powerStateSet_refused (hguard.resolve_right Bool.false_ne_true)
  | eventEnable pBase ty' mask => exact fun r d' => ends_eventErrorCall_refused hlink
  | eventDisable pBase ty' mask => exact fun r d' => ends_eventErrorCall_refused hlink
  | eventGet pBase ty' pMask => exact fun r d' => ends_eventErrorCall_refused hlink
  | errorEnable pBase ty' mask => exact fun r d' => ends_eventErrorCall_refused hlink
  | errorDisable pBase ty' mask => exact fun r d' => ends_eventErrorCall_refused hlink
  | errorGet pBase ty' pMask => exact fun r d' => ends_eventErrorCall_refused hlink

/-- One call of the base layer does what one step of the contract does, and nothing else. -/
theorem call_meets (h : InService ty t onConfig d) (c : DriverCall) :
    Meets t onConfig d (c.demand ty) c.prog := by
  rcases c with c | c
  · cases c with
    | init pBase ty' =>
        simp only [DriverCall.demand]
        split
        · next hw => exact baseInit_meets h (h.linked_iff.2 hw)
        · next hw =>
            have hl : ¬ Linked pBase ty' d := fun hl => hw (h.linked_iff.1 hl)
            apply meets_malformed h
            simp [DriverCall.prog, LifecycleCall.prog, baseInit, ends_linkRejects, hl]
    | deinit pBase ty' =>
        simp only [DriverCall.demand]
        split
        · next hw => exact baseDeinit_meets h (h.linked_iff.2 hw)
        · next hw =>
            have hl : ¬ Linked pBase ty' d := fun hl => hw (h.linked_iff.1 hl)
            apply meets_malformed h
            simp [DriverCall.prog, LifecycleCall.prog, baseDeinit, ends_linkRejects, hl]
  · simp only [DriverCall.demand]
    split
    · next hc => exact serviceCall_meets h c hc
    · next hc => exact serviceCall_refused h c hc

/-- The base layer, seen by its callers, is exactly its contract. -/
theorem baseLayer_exact (ty : PeripheralType) (t : ApiBase) (onConfig : Option FnPtr) :
    Exact (endsOf DriverCall.prog) (InService ty t onConfig) Driver.standing
      fun σ a σ' => Allows (t.answers onConfig) σ (a.1.demand ty, a.2) σ' := by
  constructor
  case keeps =>
    rintro d ⟨c, r⟩ d' h hends
    obtain ⟨σ', -, rfl⟩ := (call_meets h c r d').1 hends
    exact h.withStanding
  case sound =>
    rintro d ⟨c, r⟩ d' h hends
    obtain ⟨σ', hc, rfl⟩ := (call_meets h c r d').1 hends
    rw [Driver.standing_withStanding]
    exact hc
  case complete =>
    rintro d ⟨c, r⟩ σ' h hc
    exact ⟨d.withStanding σ', (call_meets h c r _).2 ⟨σ', hc, rfl⟩, Driver.standing_withStanding⟩

end Calls

/-! ## Runs -/

/-- The setup, with the table `t`. -/
def Setup.withTable (setup : Setup) (t : ApiBase) : Setup :=
  { setup with vmt := some t }

theorem Setup.inService (setup : Setup) (t : ApiBase) (onConfig : Option FnPtr) :
    InService setup.type t onConfig ((setup.withTable t).driver onConfig) :=
  ⟨rfl, rfl, rfl, .inl rfl⟩

/-- A driver just populated. -/
def populatedStanding : Standing := ⟨false, .unknown⟩

/-- For some answers of the hooks, the calls return these codes and leave the driver `d`. -/
def Setup.Replays (setup : Setup) (onConfig : Option FnPtr) (calls : List (DriverCall × ErrorCode))
    (d : Driver) : Prop :=
  ∃ script : List ErrorCode,
    let start := setup.conf onConfig script
    let ops := calls.map Prod.fst
    answers (.ofCodes (scripted .ok)) DriverCall.prog ops start = calls ∧
      (runOps (.ofCodes (scripted .ok)) DriverCall.prog ops start).record = d

/-- What the base layer shows its callers is what the contract allows, and nothing else. From any
driver just populated, with any table and any hook of the board: every run shows codes that the contract
allows and ends where it says, and every sequence of calls and codes that the contract allows, with every
end that it gives it, is a run for some answers of the hooks. -/
theorem contract_exact (setup : Setup) (t : ApiBase) (onConfig : Option FnPtr) :
    let setup := setup.withTable t
    let allowed := Path (Allows (t.answers onConfig)) populatedStanding
    (∀ (W : Type) (codes : HookCodes W) (ops : List DriverCall) (x : W),
      let start := setup.conf onConfig x
      allowed (seen setup.type (answers (.ofCodes codes) DriverCall.prog ops start))
        (runOps (.ofCodes codes) DriverCall.prog ops start).record.standing) ∧
    (∀ (calls : List (DriverCall × ErrorCode)) (σ : Standing), allowed (seen setup.type calls) σ →
      ∃ d, setup.Replays onConfig calls d ∧ d.standing = σ) := by
  intro setup' allowed
  have hserv := setup.inService t onConfig
  have hexact := baseLayer_exact setup.type t onConfig
  constructor
  · intro W codes ops x start
    apply path_map.2
    exact (hexact.path_iff hserv).1 ⟨_, path_answers codes DriverCall.prog ops start, rfl⟩
  · intro calls σ hallowed
    obtain ⟨d, hpath, hstanding⟩ := (hexact.path_iff hserv).2 (path_map.1 hallowed)
    exact ⟨d, (path_iff_script ErrorCode.ok).1 hpath, hstanding⟩

theorem fullTable_slots (req : BaseRequest) : fullTable.slot req ≠ none := by
  cases req <;> exact Option.some_ne_none _

end CaffeineHal
