import CaffeineHal.Driver.Base

/-!
# What one call of the base layer can do

For every function of the base layer, run with hooks that return arbitrary codes and do not write the
record, the ways in which a call can end: the condition it ends under, the code it returns, the
fields it wrote and the hook calls it made. `BoardCall` and `SlotCall` are the two ways to call a
hook; the outcomes of the functions are built from them. Every later invariant is read off these
outcomes, so a change of one function of the source is a change of one outcome here.
-/

set_option autoImplicit false

namespace CaffeineHal

open CaffeineHal.Program

variable {W : Type}

/-! ## Guards -/

/-- The guard `!p_base || p_base->type != expected_type` lets the call pass. -/
def Typed (pBase : DriverPtr) (expectedType : PeripheralType) (d : Driver) : Prop :=
  pBase = .ref ∧ d.base.type = expectedType

/-- The guard with `!p_base->vmt` lets the call pass. -/
def Linked (pBase : DriverPtr) (expectedType : PeripheralType) (d : Driver) : Prop :=
  Typed pBase expectedType d ∧ d.base.vmt ≠ none

instance (pBase : DriverPtr) (expectedType : PeripheralType) (d : Driver) :
    Decidable (Typed pBase expectedType d) :=
  inferInstanceAs (Decidable (_ ∧ _))

instance (pBase : DriverPtr) (expectedType : PeripheralType) (d : Driver) :
    Decidable (Linked pBase expectedType d) :=
  inferInstanceAs (Decidable (_ ∧ _))

@[simp] theorem run_typeRejects (env : HalEnv W) (pBase : DriverPtr)
    (expectedType : PeripheralType) (s : HalConf W) :
    run env (typeRejects pBase expectedType) s =
      (!decide (Typed pBase expectedType s.record), s) := by
  cases pBase with
  | null => simp [typeRejects, Typed]
  | ref => by_cases ht : s.record.base.type = expectedType <;> simp [typeRejects, Typed, ht]

@[simp] theorem run_linkRejects (env : HalEnv W) (pBase : DriverPtr)
    (expectedType : PeripheralType) (s : HalConf W) :
    run env (linkRejects pBase expectedType) s =
      (!decide (Linked pBase expectedType s.record), s) := by
  cases pBase with
  | null => simp [linkRejects, Linked, Typed]
  | ref =>
      by_cases ht : s.record.base.type = expectedType
      · cases hv : s.record.base.vmt <;> simp [linkRejects, Linked, Typed, ht, hv]
      · simp [linkRejects, Linked, Typed, ht]

theorem Typed.run_typeRejects {env : HalEnv W} {pBase : DriverPtr} {expectedType : PeripheralType}
    {s : HalConf W} (h : Typed pBase expectedType s.record) :
    run env (typeRejects pBase expectedType) s = (false, s) := by
  rw [CaffeineHal.run_typeRejects, decide_eq_true h]
  rfl

theorem run_typeRejects_of_not {env : HalEnv W} {pBase : DriverPtr} {expectedType : PeripheralType}
    {s : HalConf W} (h : ¬ Typed pBase expectedType s.record) :
    run env (typeRejects pBase expectedType) s = (true, s) := by
  rw [run_typeRejects, decide_eq_false h]
  rfl

theorem Linked.run_linkRejects {env : HalEnv W} {pBase : DriverPtr} {expectedType : PeripheralType}
    {s : HalConf W} (h : Linked pBase expectedType s.record) :
    run env (linkRejects pBase expectedType) s = (false, s) := by
  rw [CaffeineHal.run_linkRejects, decide_eq_true h]
  rfl

theorem run_linkRejects_of_not {env : HalEnv W} {pBase : DriverPtr} {expectedType : PeripheralType}
    {s : HalConf W} (h : ¬ Linked pBase expectedType s.record) :
    run env (linkRejects pBase expectedType) s = (true, s) := by
  rw [run_linkRejects, decide_eq_false h]
  rfl

/-! ## Hook calls -/

/-- The ways a call of the board's hook can end. -/
inductive BoardCall (phase : ConfigPhase) (s : HalConf W) : ErrorCode → HalConf W → Prop
  | absent (h : s.record.base.onConfig = none) : BoardCall phase s .ok s
  | hook {fn : FnPtr} (r : ErrorCode) (x : W) (h : s.record.base.onConfig = some fn) :
      BoardCall phase s r (s.called (.onConfig fn s.record.base.onConfigArg phase) r x)

/-- The ways a call through a slot of the base table can end. -/
inductive SlotCall (pApi : Option ApiBase) (req : BaseRequest) (missing : ErrorCode)
    (s : HalConf W) : ErrorCode → HalConf W → Prop
  | absent (h : (pApi.bind fun t => t.slot req) = none) : SlotCall pApi req missing s missing s
  | hook {fn : FnPtr} (r : ErrorCode) (x : W) (h : (pApi.bind fun t => t.slot req) = some fn) :
      SlotCall pApi req missing s r (s.called (.vmt fn req) r x)

theorem BoardCall.record {phase : ConfigPhase} {s s' : HalConf W} {r : ErrorCode}
    (h : BoardCall phase s r s') : s'.record = s.record := by
  cases h with
  | absent _ => rfl
  | hook r x _ => rfl

theorem SlotCall.record {pApi : Option ApiBase} {req : BaseRequest} {missing r : ErrorCode}
    {s s' : HalConf W} (h : SlotCall pApi req missing s r s') : s'.record = s.record := by
  cases h with
  | absent _ => rfl
  | hook r x _ => rfl

theorem BoardCall.suffix {phase : ConfigPhase} {s s' : HalConf W} {r : ErrorCode}
    (h : BoardCall phase s r s') : s.log <:+ s'.log := by
  cases h with
  | absent _ => exact List.suffix_refl _
  | hook r x _ => exact List.suffix_cons _ _

theorem SlotCall.suffix {pApi : Option ApiBase} {req : BaseRequest} {missing r : ErrorCode}
    {s s' : HalConf W} (h : SlotCall pApi req missing s r s') : s.log <:+ s'.log := by
  cases h with
  | absent _ => exact List.suffix_refl _
  | hook r x _ => exact List.suffix_cons _ _

/-- A slot call that does not return the code of a missing hook found one. -/
theorem SlotCall.slot_ne_none {pApi : Option ApiBase} {req : BaseRequest} {missing r : ErrorCode}
    {s s' : HalConf W} (h : SlotCall pApi req missing s r s') (hr : r ≠ missing) :
    (pApi.bind fun t => t.slot req) ≠ none := by
  cases h with
  | absent _ => exact absurd rfl hr
  | @hook fn r x h =>
      rw [h]
      exact Option.some_ne_none fn

/-- A slot call makes at most the call it is for. -/
theorem SlotCall.calls {pApi : Option ApiBase} {req : BaseRequest} {missing r : ErrorCode}
    {s s' : HalConf W} (h : SlotCall pApi req missing s r s') :
    ∃ evs : List HalEvent, s'.log = evs ++ s.log ∧ ∀ e ∈ evs, ∃ fn, e.call = .vmt fn req := by
  cases h with
  | absent _ => exact Conf.calls_refl _ s
  | @hook fn r x _ => exact Conf.calls_cons rfl ⟨fn, rfl⟩

/-- With a hook set, the board is asked. -/
theorem BoardCall.of_some {phase : ConfigPhase} {s s' : HalConf W} {r : ErrorCode} {fn : FnPtr}
    (h : BoardCall phase s r s') (hfn : s.record.base.onConfig = some fn) :
    ∃ x, s' = s.called (.onConfig fn s.record.base.onConfigArg phase) r x := by
  cases h with
  | absent hn =>
      rw [hfn] at hn
      cases hn
  | @hook gn r x hg =>
      rw [hfn] at hg
      obtain rfl : fn = gn := Option.some.inj hg
      exact ⟨x, rfl⟩

/-- A slot call that does not return the code of a missing hook called the hook. -/
theorem SlotCall.of_ne {pApi : Option ApiBase} {req : BaseRequest} {missing r : ErrorCode}
    {s s' : HalConf W} (h : SlotCall pApi req missing s r s') (hr : r ≠ missing) :
    ∃ fn x, s' = s.called (.vmt fn req) r x := by
  cases h with
  | absent _ => exact absurd rfl hr
  | @hook fn r x _ => exact ⟨fn, x, rfl⟩

section Outcomes

variable (codes : HookCodes W)

theorem callOnConfig_outcome (phase : ConfigPhase) (s : HalConf W) :
    BoardCall phase s (run (.ofCodes codes) (callOnConfig phase) s).1
      (run (.ofCodes codes) (callOnConfig phase) s).2 := by
  cases h : s.record.base.onConfig with
  | none =>
      have e : run (.ofCodes codes) (callOnConfig phase) s = (.ok, s) := by
        simp [callOnConfig, h]
      rw [e]
      exact .absent h
  | some fn =>
      simp only [callOnConfig, run_bind, run_get, h, run_request, Conf.answered_ofCodes]
      exact .hook _ _ h

theorem callSlot_outcome (pApi : Option ApiBase) (req : BaseRequest) (missing : ErrorCode)
    (s : HalConf W) :
    SlotCall pApi req missing s (run (.ofCodes codes) (callSlot pApi req missing) s).1
      (run (.ofCodes codes) (callSlot pApi req missing) s).2 := by
  cases h : (pApi.bind fun t => t.slot req) with
  | none =>
      have e : run (.ofCodes codes) (callSlot pApi req missing) s = (missing, s) := by
        simp [callSlot, h]
      rw [e]
      exact .absent h
  | some fn =>
      simp only [callSlot, h, run_request, Conf.answered_ofCodes]
      exact .hook _ _ h

/-! ## Lifecycle -/

/-- How `cfn_hal_base_init` can end. -/
inductive InitOutcome (pBase : DriverPtr) (expectedType : PeripheralType) (s : HalConf W) :
    ErrorCode → HalConf W → Prop
  | refused (h : ¬ Linked pBase expectedType s.record) :
      InitOutcome pBase expectedType s .badParam s
  | alreadyInit (h : Linked pBase expectedType s.record)
      (hs : s.record.base.status = .initialized) :
      InitOutcome pBase expectedType s .driverAlreadyInit s
  | boardFailed {r : ErrorCode} {s₁ : HalConf W} (h : Linked pBase expectedType s.record)
      (hs : s.record.base.status ≠ .initialized) (hr : r ≠ .ok) (hb : BoardCall .init s r s₁) :
      InitOutcome pBase expectedType s r s₁
  | rolledBack {r r' : ErrorCode} {s₁ s₂ s₃ : HalConf W}
      (h : Linked pBase expectedType s.record) (hs : s.record.base.status ≠ .initialized)
      (hb : BoardCall .init s .ok s₁)
      (hi : SlotCall s.record.base.vmt .init .notSupported s₁ r s₂) (hr : r ≠ .ok)
      (hd : BoardCall .deinit s₂ r' s₃) : InitOutcome pBase expectedType s r s₃
  | live {s₁ s₂ : HalConf W} (h : Linked pBase expectedType s.record)
      (hs : s.record.base.status ≠ .initialized) (hb : BoardCall .init s .ok s₁)
      (hi : SlotCall s.record.base.vmt .init .notSupported s₁ .ok s₂) :
      InitOutcome pBase expectedType s .ok (s₂.written (Driver.setStatus .initialized))

theorem baseInit_outcome (pBase : DriverPtr) (expectedType : PeripheralType) (s : HalConf W) :
    InitOutcome pBase expectedType s (run (.ofCodes codes) (baseInit pBase expectedType) s).1
      (run (.ofCodes codes) (baseInit pBase expectedType) s).2 := by
  unfold baseInit
  by_cases h : Linked pBase expectedType s.record
  swap
  · simp only [run_bind, run_linkRejects_of_not h, if_true]
    exact .refused h
  by_cases hs : s.record.base.status = .initialized
  · simp only [run_bind, h.run_linkRejects, Bool.false_eq_true, if_false, run_get, hs, if_true]
    exact .alreadyInit h hs
  -- Phase A: the board is asked, and the record stays as it is.
  have hb := callOnConfig_outcome codes .init s
  simp only [run_bind, h.run_linkRejects, Bool.false_eq_true, if_false, run_get, hs]
  generalize run (.ofCodes codes) (callOnConfig .init) s = out at hb ⊢
  obtain ⟨r, s₁⟩ := out
  by_cases hr : r = .ok
  swap
  · simp only [ne_eq, hr, not_false_eq_true, if_true]
    exact .boardFailed h hs hr hb
  -- Phase B: the port is called through the table that the driver had before.
  subst hr
  have hrec : s₁.record = s.record := hb.record
  have hi := callSlot_outcome codes s.record.base.vmt .init .notSupported s₁
  simp only [ne_eq, not_true_eq_false, if_false, run_bind, run_get, hrec]
  generalize run (.ofCodes codes) (callSlot s.record.base.vmt .init .notSupported) s₁ = out at hi ⊢
  obtain ⟨r, s₂⟩ := out
  by_cases hr : r = .ok
  · subst hr
    simp only [if_true, run_bind, run_modify]
    exact .live h hs hb hi
  · -- The rollback, whose answer nobody looks at.
    have hd := callOnConfig_outcome codes .deinit s₂
    simp only [hr, if_false, run_bind]
    exact .rolledBack h hs hb hi hr hd

/-- How `cfn_hal_base_deinit` can end. -/
inductive DeinitOutcome (pBase : DriverPtr) (expectedType : PeripheralType) (s : HalConf W) :
    ErrorCode → HalConf W → Prop
  | refused (h : ¬ Linked pBase expectedType s.record) :
      DeinitOutcome pBase expectedType s .badParam s
  | notLive (h : Linked pBase expectedType s.record)
      (hs : s.record.base.status = .constructed) : DeinitOutcome pBase expectedType s .ok s
  | unconstructed (h : Linked pBase expectedType s.record)
      (hs : s.record.base.status = .unknown) :
      DeinitOutcome pBase expectedType s .driverNotInit s
  | stopFailed {r : ErrorCode} {s₁ : HalConf W} (h : Linked pBase expectedType s.record)
      (hs : s.record.base.status = .initialized ∨ s.record.base.status = .error)
      (hd : SlotCall s.record.base.vmt .deinit .notSupported s r s₁) (hr : r ≠ .ok) :
      DeinitOutcome pBase expectedType s r s₁
  | stopped {r : ErrorCode} {s₁ s₂ : HalConf W} (h : Linked pBase expectedType s.record)
      (hs : s.record.base.status = .initialized ∨ s.record.base.status = .error)
      (hd : SlotCall s.record.base.vmt .deinit .notSupported s .ok s₁)
      (hb : BoardCall .deinit (s₁.written (Driver.setStatus .constructed)) r s₂) :
      DeinitOutcome pBase expectedType s r s₂

theorem baseDeinit_outcome (pBase : DriverPtr) (expectedType : PeripheralType) (s : HalConf W) :
    DeinitOutcome pBase expectedType s (run (.ofCodes codes) (baseDeinit pBase expectedType) s).1
      (run (.ofCodes codes) (baseDeinit pBase expectedType) s).2 := by
  unfold baseDeinit
  by_cases h : Linked pBase expectedType s.record
  swap
  · simp only [run_bind, run_linkRejects_of_not h, if_true]
    exact .refused h
  by_cases hc : s.record.base.status = .constructed
  · simp only [run_bind, h.run_linkRejects, Bool.false_eq_true, if_false, run_get, hc, if_true]
    exact .notLive h hc
  by_cases hu : s.record.base.status = .unknown
  · simp only [run_bind, h.run_linkRejects, Bool.false_eq_true, if_false, run_get, hu,
      reduceCtorEq, if_true]
    exact .unconstructed h hu
  -- The two tests leave a live driver and a faulted one.
  have hs : s.record.base.status = .initialized ∨ s.record.base.status = .error := by
    cases hst : s.record.base.status with
    | unknown => exact absurd hst hu
    | constructed => exact absurd hst hc
    | initialized => exact .inl rfl
    | error => exact .inr rfl
  have hd := callSlot_outcome codes s.record.base.vmt .deinit .notSupported s
  simp only [run_bind, h.run_linkRejects, Bool.false_eq_true, if_false, run_get, hc, hu]
  generalize run (.ofCodes codes) (callSlot s.record.base.vmt .deinit .notSupported) s = out
    at hd ⊢
  obtain ⟨r, s₁⟩ := out
  by_cases hr : r = .ok
  · subst hr
    -- The board is asked on the record that says CONSTRUCTED already.
    have hb := callOnConfig_outcome codes .deinit (s₁.written (Driver.setStatus .constructed))
    simp only [if_true, run_bind, run_modify]
    exact .stopped h hs hd hb
  · simp only [hr, if_false]
    exact .stopFailed h hs hd hr

end Outcomes

end CaffeineHal
