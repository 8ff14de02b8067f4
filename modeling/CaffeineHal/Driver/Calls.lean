import CaffeineHal.Driver.Outcome

/-!
# Calls of the base layer

A caller uses the base layer through lifecycle calls, which start and stop the driver, and service
calls, which configure it, register a callback, move its power state and enable, disable or read
events and errors. `serviceCall_effect` is everything a service call does: it writes at most the
power-state shadow, and calls port hooks on a driver that is INITIALIZED; only `config_validate`
is also called on a driver that is not.
-/

set_option autoImplicit false

namespace CaffeineHal

open CaffeineHal.Program

variable {W : Type}

/-- A call that starts or stops the driver. -/
inductive LifecycleCall where
  | init (pBase : DriverPtr) (expectedType : PeripheralType)
  | deinit (pBase : DriverPtr) (expectedType : PeripheralType)
  deriving DecidableEq, Repr

/-- A call of the base layer that is neither `init` nor `deinit` nor a lock operation. -/
inductive ServiceCall where
  | configSet (pBase : DriverPtr) (expectedType : PeripheralType) (pConfig : Ptr)
  | configValidate (pBase : DriverPtr) (expectedType : PeripheralType) (pConfig : Ptr)
  | callbackRegister (pBase : DriverPtr) (expectedType : PeripheralType)
      (pCallback pUserArg : Ptr)
  | powerStateSet (pBase : DriverPtr) (expectedType : PeripheralType) (state : PowerState)
  | eventEnable (pBase : DriverPtr) (expectedType : PeripheralType) (eventMask : UInt32)
  | eventDisable (pBase : DriverPtr) (expectedType : PeripheralType) (eventMask : UInt32)
  | eventGet (pBase : DriverPtr) (expectedType : PeripheralType) (pEventMask : Ptr)
  | errorEnable (pBase : DriverPtr) (expectedType : PeripheralType) (errorMask : UInt32)
  | errorDisable (pBase : DriverPtr) (expectedType : PeripheralType) (errorMask : UInt32)
  | errorGet (pBase : DriverPtr) (expectedType : PeripheralType) (pErrorMask : Ptr)
  deriving DecidableEq, Repr

/-- A call of the base layer on a driver that exists. -/
inductive BaseCall where
  | lifecycle (c : LifecycleCall)
  | service (c : ServiceCall)
  | lock (base : DriverPtr) (timeout : UInt32)
  | unlock (base : DriverPtr)
  deriving DecidableEq, Repr

def LifecycleCall.prog : LifecycleCall → HalM ErrorCode
  | .init pBase ty => baseInit pBase ty
  | .deinit pBase ty => baseDeinit pBase ty

def ServiceCall.prog : ServiceCall → HalM ErrorCode
  | .configSet pBase ty pConfig => baseConfigSet pBase ty pConfig
  | .configValidate pBase ty pConfig => baseConfigValidate pBase ty pConfig
  | .callbackRegister pBase ty pCallback pUserArg =>
      baseCallbackRegister pBase ty pCallback pUserArg
  | .powerStateSet pBase ty state => CaffeineHal.powerStateSet pBase ty state
  | .eventEnable pBase ty mask => baseEventEnable pBase ty mask
  | .eventDisable pBase ty mask => baseEventDisable pBase ty mask
  | .eventGet pBase ty pMask => baseEventGet pBase ty pMask
  | .errorEnable pBase ty mask => baseErrorEnable pBase ty mask
  | .errorDisable pBase ty mask => baseErrorDisable pBase ty mask
  | .errorGet pBase ty pMask => baseErrorGet pBase ty pMask

def BaseCall.prog : BaseCall → HalM ErrorCode
  | .lifecycle c => c.prog
  | .service c => c.prog
  | .lock base timeout => baseLock base timeout
  | .unlock base => baseUnlock base

/-- The requests of service calls. -/
def BaseRequest.isService : BaseRequest → Bool
  | .init | .deinit | .lock _ | .unlock => false
  | _ => true

/-- The hook that a service call is for. -/
def ServiceCall.request : ServiceCall → BaseRequest
  | .configSet _ _ pConfig => .configSet pConfig
  | .configValidate _ _ pConfig => .configValidate pConfig
  | .callbackRegister _ _ pCallback pUserArg => .callbackRegister pCallback pUserArg
  | .powerStateSet _ _ state => .powerStateSet state
  | .eventEnable _ _ mask => .eventEnable mask
  | .eventDisable _ _ mask => .eventDisable mask
  | .eventGet _ _ pMask => .eventGet pMask
  | .errorEnable _ _ mask => .errorEnable mask
  | .errorDisable _ _ mask => .errorDisable mask
  | .errorGet _ _ pMask => .errorGet pMask

theorem BaseRequest.isService_of_eventError {req : BaseRequest} (h : req.isEventError = true) :
    req.isService = true := by
  cases req <;> first | rfl | cases h

theorem ServiceCall.request_isService (c : ServiceCall) : c.request.isService = true := by
  cases c <;> rfl

/-! ## What a service call does -/

/-- A hook call that a call for `req` makes on the record `d`: its own hook, on a driver that is
INITIALIZED, or a validation. -/
def ServiceEvent (req : BaseRequest) (d : Driver) (e : HalEvent) : Prop :=
  e.record = d ∧ ∃ fn, (e.call = .vmt fn req ∧ d.base.status = .initialized) ∨
    ∃ pConfig, e.call = .vmt fn (.configValidate pConfig)

/-- From `s` to `s'`, hooks were called as a call for `req` may call them on the record `d`. -/
def ServiceLog (req : BaseRequest) (d : Driver) (s s' : HalConf W) : Prop :=
  ∃ evs : List HalEvent, s'.log = evs ++ s.log ∧ ∀ e ∈ evs, ServiceEvent req d e

/-- Everything a call for `req` does. -/
structure ServiceEffect (req : BaseRequest) (s s' : HalConf W) : Prop where
  record : s'.record = s.record ∨ ∃ state, s'.record = s.record.setPowerState state
  calls : ServiceLog req s.record s s'

theorem ServiceLog.refl (req : BaseRequest) (d : Driver) (s : HalConf W) : ServiceLog req d s s :=
  Conf.calls_refl _ s

theorem ServiceLog.trans {req : BaseRequest} {d : Driver} {s₁ s₂ s₃ : HalConf W}
    (h : ServiceLog req d s₁ s₂) (h' : ServiceLog req d s₂ s₃) : ServiceLog req d s₁ s₃ :=
  Conf.calls_trans h h'

theorem ServiceEffect.refl (req : BaseRequest) (s : HalConf W) : ServiceEffect req s s :=
  ⟨.inl rfl, .refl req _ s⟩

/-- The hook of the call itself, on a driver that is INITIALIZED. -/
theorem SlotCall.serviceLog {pApi : Option ApiBase} {req : BaseRequest} {missing r : ErrorCode}
    {s s' : HalConf W} (h : SlotCall pApi req missing s r s')
    (hs : s.record.base.status = .initialized) : ServiceLog req s.record s s' := by
  cases h with
  | absent _ => exact .refl req _ s
  | @hook fn r x _ => exact Conf.calls_cons rfl ⟨rfl, fn, .inl ⟨rfl, hs⟩⟩

/-- A validation, on any driver. -/
theorem SlotCall.validationLog {pApi : Option ApiBase} {pConfig : Ptr} {missing r : ErrorCode}
    {s s' : HalConf W} (h : SlotCall pApi (.configValidate pConfig) missing s r s')
    (req : BaseRequest) : ServiceLog req s.record s s' := by
  cases h with
  | absent _ => exact .refl req _ s
  | @hook fn r x _ => exact Conf.calls_cons rfl ⟨rfl, fn, .inr ⟨pConfig, rfl⟩⟩

theorem SlotCall.serviceEffect {pApi : Option ApiBase} {req : BaseRequest} {missing r : ErrorCode}
    {s s' : HalConf W} (h : SlotCall pApi req missing s r s')
    (hs : s.record.base.status = .initialized) : ServiceEffect req s s' :=
  ⟨.inl h.record, h.serviceLog hs⟩

section Effects

variable (codes : HookCodes W)

theorem eventErrorCall_effect (pBase : DriverPtr) (expectedType : PeripheralType) (argNull : Bool)
    (missing : ErrorCode) (req : BaseRequest) (s : HalConf W) :
    ServiceEffect req s
      (run (.ofCodes codes) (eventErrorCall pBase expectedType argNull missing req) s).2 := by
  unfold eventErrorCall
  simp only [run_bind, run_linkRejects]
  split
  · exact .refl req s
  · simp only [run_bind, run_get]
    by_cases hs : s.record.base.status = .initialized
    · simp only [hs, ne_eq, not_true_eq_false, if_false, run_bind, run_get]
      exact (callSlot_outcome codes _ _ _ s).serviceEffect hs
    · simp only [ne_eq, hs, not_false_eq_true, if_true]
      exact .refl req s

/-- How `cfn_hal_base_config_set` can end. -/
inductive ConfigSetOutcome (pBase : DriverPtr) (expectedType : PeripheralType) (pConfig : Ptr)
    (s : HalConf W) : ErrorCode → HalConf W → Prop
  | refused (h : ¬ Typed pBase expectedType s.record ∨ pConfig = none) :
      ConfigSetOutcome pBase expectedType pConfig s .badParam s
  | deferred (h : Typed pBase expectedType s.record) (hp : pConfig ≠ none)
      (hs : s.record.base.status ≠ .initialized ∨ s.record.base.vmt = none) :
      ConfigSetOutcome pBase expectedType pConfig s .ok s
  | rejected {r : ErrorCode} {s₁ : HalConf W} (h : Typed pBase expectedType s.record)
      (hp : pConfig ≠ none) (hs : s.record.base.status = .initialized)
      (hv : SlotCall s.record.base.vmt (.configValidate pConfig) .ok s r s₁) (hr : r ≠ .ok) :
      ConfigSetOutcome pBase expectedType pConfig s r s₁
  | applied {r : ErrorCode} {s₁ s₂ : HalConf W} (h : Typed pBase expectedType s.record)
      (hp : pConfig ≠ none) (hs : s.record.base.status = .initialized)
      (hv : SlotCall s.record.base.vmt (.configValidate pConfig) .ok s .ok s₁)
      (hc : SlotCall s.record.base.vmt (.configSet pConfig) .notSupported s₁ r s₂) :
      ConfigSetOutcome pBase expectedType pConfig s r s₂

theorem baseConfigSet_outcome (pBase : DriverPtr) (expectedType : PeripheralType) (pConfig : Ptr)
    (s : HalConf W) :
    ConfigSetOutcome pBase expectedType pConfig s
      (run (.ofCodes codes) (baseConfigSet pBase expectedType pConfig) s).1
      (run (.ofCodes codes) (baseConfigSet pBase expectedType pConfig) s).2 := by
  unfold baseConfigSet
  by_cases h : Typed pBase expectedType s.record
  swap
  · simp only [run_bind, run_typeRejects_of_not h, Bool.true_or, if_true]
    exact .refused (.inl h)
  cases pConfig with
  | none =>
      simp only [run_bind, run_typeRejects, Option.isNone_none, Bool.or_true, if_true]
      exact .refused (.inr rfl)
  | some address =>
      have hp : some address ≠ none := Option.some_ne_none address
      simp only [run_bind, h.run_typeRejects, Option.isNone_some,
        Bool.or_self, Bool.false_eq_true, if_false, run_get]
      by_cases hs : s.record.base.status = .initialized
      swap
      · simp only [hs, if_false]
        exact .deferred h hp (.inl hs)
      simp only [hs, if_true, run_bind, run_get]
      -- A live driver without a table: nothing to call, and the code is OK.
      by_cases hn : s.record.base.vmt.isNone = true
      · simp only [hn, if_true]
        exact .deferred h hp (.inr (Option.isNone_iff_eq_none.1 hn))
      simp only [hn, Bool.false_eq_true, if_false]
      have hv := callSlot_outcome codes s.record.base.vmt (.configValidate (some address)) .ok s
      simp only [run_bind]
      generalize run (.ofCodes codes)
        (callSlot s.record.base.vmt (.configValidate (some address)) .ok) s = out at hv ⊢
      obtain ⟨r, s₁⟩ := out
      by_cases hr : r = .ok
      · subst hr
        simp only [if_true]
        exact .applied h hp hs hv (callSlot_outcome codes _ _ _ s₁)
      · simp only [hr, if_false]
        exact .rejected h hp hs hv hr

theorem ConfigSetOutcome.effect {pBase : DriverPtr} {expectedType : PeripheralType} {pConfig : Ptr}
    {s s' : HalConf W} {r : ErrorCode}
    (h : ConfigSetOutcome pBase expectedType pConfig s r s') :
    ServiceEffect (.configSet pConfig) s s' := by
  cases h with
  | refused _ => exact .refl _ s
  | deferred _ _ _ => exact .refl _ s
  | rejected _ _ _ hv _ => exact ⟨.inl hv.record, hv.validationLog _⟩
  | applied _ _ hs hv hc =>
      -- The validation left the record, so both hooks see the driver that the caller passed.
      have hrec := hv.record
      have hlog := hc.serviceLog (by rw [hrec]; exact hs)
      rw [hrec] at hlog
      exact ⟨.inl (hc.record.trans hrec), (hv.validationLog _).trans hlog⟩

theorem baseConfigValidate_effect (pBase : DriverPtr) (expectedType : PeripheralType)
    (pConfig : Ptr) (s : HalConf W) :
    ServiceEffect (.configValidate pConfig) s
      (run (.ofCodes codes) (baseConfigValidate pBase expectedType pConfig) s).2 := by
  unfold baseConfigValidate
  simp only [run_bind, run_typeRejects]
  split
  · exact .refl _ s
  · simp only [run_bind, run_get]
    have hv := callSlot_outcome codes s.record.base.vmt (.configValidate pConfig) .ok s
    exact ⟨.inl hv.record, hv.validationLog _⟩

theorem baseCallbackRegister_effect (pBase : DriverPtr) (expectedType : PeripheralType)
    (pCallback pUserArg : Ptr) (s : HalConf W) :
    ServiceEffect (.callbackRegister pCallback pUserArg) s (run (.ofCodes codes)
      (baseCallbackRegister pBase expectedType pCallback pUserArg) s).2 := by
  unfold baseCallbackRegister
  simp only [run_bind, run_typeRejects]
  split
  · exact .refl _ s
  simp only [run_bind, run_get]
  by_cases hs : s.record.base.status = .initialized
  · simp only [hs, if_true, run_bind, run_get]
    exact (callSlot_outcome codes _ _ _ s).serviceEffect hs
  · simp only [hs, if_false]
    exact .refl _ s

/-- How `cfn_hal_power_state_set` can end. -/
inductive PowerOutcome (pBase : DriverPtr) (expectedType : PeripheralType) (state : PowerState)
    (s : HalConf W) : ErrorCode → HalConf W → Prop
  | refused (h : ¬ Typed pBase expectedType s.record) :
      PowerOutcome pBase expectedType state s .badParam s
  | same (h : Typed pBase expectedType s.record) (hp : s.record.base.powerState = state) :
      PowerOutcome pBase expectedType state s .ok s
  | shadowOnly (h : Typed pBase expectedType s.record) (hp : s.record.base.powerState ≠ state)
      (hs : s.record.base.status ≠ .initialized) :
      PowerOutcome pBase expectedType state s .ok (s.written (Driver.setPowerState state))
  | portFailed {r : ErrorCode} {s₁ : HalConf W} (h : Typed pBase expectedType s.record)
      (hp : s.record.base.powerState ≠ state) (hs : s.record.base.status = .initialized)
      (hc : SlotCall s.record.base.vmt (.powerStateSet state) .notSupported s r s₁)
      (hr : r ≠ .ok) : PowerOutcome pBase expectedType state s r s₁
  | moved {s₁ : HalConf W} (h : Typed pBase expectedType s.record)
      (hp : s.record.base.powerState ≠ state) (hs : s.record.base.status = .initialized)
      (hc : SlotCall s.record.base.vmt (.powerStateSet state) .notSupported s .ok s₁) :
      PowerOutcome pBase expectedType state s .ok (s₁.written (Driver.setPowerState state))

theorem powerStateSet_outcome (pBase : DriverPtr) (expectedType : PeripheralType)
    (state : PowerState) (s : HalConf W) :
    PowerOutcome pBase expectedType state s
      (run (.ofCodes codes) (powerStateSet pBase expectedType state) s).1
      (run (.ofCodes codes) (powerStateSet pBase expectedType state) s).2 := by
  unfold powerStateSet
  by_cases h : Typed pBase expectedType s.record
  swap
  · simp only [run_bind, run_typeRejects_of_not h, if_true]
    exact .refused h
  simp only [run_bind, h.run_typeRejects, Bool.false_eq_true, if_false, run_get]
  -- The early return looks at the field only, whatever the status.
  by_cases hp : s.record.base.powerState = state
  · simp only [hp, if_true]
    exact .same h hp
  by_cases hs : s.record.base.status = .initialized
  swap
  · simp only [hp, hs, if_false, run_bind, run_get, run_modify]
    exact .shadowOnly h hp hs
  have hc := callSlot_outcome codes s.record.base.vmt (.powerStateSet state) .notSupported s
  simp only [hp, hs, if_true, if_false, run_bind, run_get]
  generalize run (.ofCodes codes)
    (callSlot s.record.base.vmt (.powerStateSet state) .notSupported) s = out at hc ⊢
  obtain ⟨r, s₁⟩ := out
  by_cases hr : r = .ok
  · subst hr
    simp only [if_true, run_bind, run_modify]
    exact .moved h hp hs hc
  · simp only [hr, if_false]
    exact .portFailed h hp hs hc hr

theorem PowerOutcome.effect {pBase : DriverPtr} {expectedType : PeripheralType}
    {state : PowerState} {s s' : HalConf W} {r : ErrorCode}
    (h : PowerOutcome pBase expectedType state s r s') :
    ServiceEffect (.powerStateSet state) s s' := by
  cases h with
  | refused _ => exact .refl _ s
  | same _ _ => exact .refl _ s
  | shadowOnly _ _ _ => exact ⟨.inr ⟨state, rfl⟩, .refl _ _ s⟩
  | portFailed _ _ hs hc _ => exact hc.serviceEffect hs
  | @moved s₁ _ _ hs hc =>
      -- The field follows the port.
      refine ⟨.inr ⟨state, ?_⟩, hc.serviceLog hs⟩
      rw [Conf.written_record, hc.record]

/-- How `cfn_hal_base_lock` and `cfn_hal_base_unlock` can end; `req` is the hook they go to. -/
inductive LockOutcome (base : DriverPtr) (req : BaseRequest) (s : HalConf W) :
    ErrorCode → HalConf W → Prop
  | refused (h : base = .null ∨ s.record.base.vmt = none) : LockOutcome base req s .badParam s
  | passed {r : ErrorCode} {s' : HalConf W} (h : base = .ref) (hv : s.record.base.vmt ≠ none)
      (hc : SlotCall s.record.base.vmt req .ok s r s') : LockOutcome base req s r s'

theorem LockOutcome.record {base : DriverPtr} {req : BaseRequest} {s s' : HalConf W} {r : ErrorCode}
    (h : LockOutcome base req s r s') : s'.record = s.record := by
  cases h with
  | refused _ => rfl
  | passed _ _ hc => exact hc.record

/-- The body that the two lock functions share on a driver that is not NULL. -/
def lockCall (req : BaseRequest) : HalM ErrorCode := do
  if (← Prog.get).base.vmt.isNone then
    return .badParam
  let api := (← Prog.get).base.vmt
  callSlot api req .ok

theorem lockCall_outcome (req : BaseRequest) (s : HalConf W) :
    LockOutcome .ref req s (run (.ofCodes codes) (lockCall req) s).1
      (run (.ofCodes codes) (lockCall req) s).2 := by
  unfold lockCall
  by_cases hv : s.record.base.vmt = none
  · simp only [run_bind, run_get, hv, Option.isNone_none, if_true, Prog.pure_eq, run_done]
    exact .refused (.inr hv)
  · have hn : s.record.base.vmt.isNone = false := by
      rw [← Bool.not_eq_true, Option.isNone_iff_eq_none]
      exact hv
    simp only [run_bind, run_get, hn, Bool.false_eq_true, if_false]
    exact .passed rfl hv (callSlot_outcome codes s.record.base.vmt req .ok s)

theorem baseLock_outcome (base : DriverPtr) (timeout : UInt32) (s : HalConf W) :
    LockOutcome base (.lock timeout) s (run (.ofCodes codes) (baseLock base timeout) s).1
      (run (.ofCodes codes) (baseLock base timeout) s).2 := by
  cases base with
  | null => exact .refused (.inl rfl)
  | ref => exact lockCall_outcome codes (.lock timeout) s

theorem baseUnlock_outcome (base : DriverPtr) (s : HalConf W) :
    LockOutcome base .unlock s (run (.ofCodes codes) (baseUnlock base) s).1
      (run (.ofCodes codes) (baseUnlock base) s).2 := by
  cases base with
  | null => exact .refused (.inl rfl)
  | ref => exact lockCall_outcome codes .unlock s

/-- What a service call does, whichever it is. -/
theorem serviceCall_effect (c : ServiceCall) (s : HalConf W) :
    ServiceEffect c.request s (run (.ofCodes codes) c.prog s).2 := by
  cases c with
  | configSet pBase ty pConfig => exact (baseConfigSet_outcome codes pBase ty pConfig s).effect
  | configValidate pBase ty pConfig => exact baseConfigValidate_effect codes pBase ty pConfig s
  | callbackRegister pBase ty pCallback pUserArg =>
      exact baseCallbackRegister_effect codes pBase ty pCallback pUserArg s
  | powerStateSet pBase ty state => exact (powerStateSet_outcome codes pBase ty state s).effect
  | eventEnable pBase ty mask => exact eventErrorCall_effect codes pBase ty _ _ _ s
  | eventDisable pBase ty mask => exact eventErrorCall_effect codes pBase ty _ _ _ s
  | eventGet pBase ty pMask => exact eventErrorCall_effect codes pBase ty _ _ _ s
  | errorEnable pBase ty mask => exact eventErrorCall_effect codes pBase ty _ _ _ s
  | errorDisable pBase ty mask => exact eventErrorCall_effect codes pBase ty _ _ _ s
  | errorGet pBase ty pMask => exact eventErrorCall_effect codes pBase ty _ _ _ s

end Effects

end CaffeineHal
