import CaffeineHal.Peripheral.Gate

/-!
# What one call of an interface can do

The outcomes of the base layer, carried through the wrappers. `init` links the table and lets the
validator look at the driver before the base layer starts it; `deinit` is the base layer's; every other
call leaves the record as it is but for the power state, the configuration and the callback (`Upkeep`).
`WrapperCall.outcome` says so for every call at once, and the invariants of whole runs are read off it.
-/

set_option autoImplicit false

namespace CaffeineHal

open CaffeineHal.Program

variable {W : Type}

/-- The records differ in the fields at most that a call may write which does not start or stop the
driver. -/
def Upkeep (d d' : Driver) : Prop :=
  ∃ state pConfig callback pUserArg,
    d' = ((d.setPowerState state).setConfig pConfig).setCallback callback pUserArg

/-- The driver was linked, and the validator looked at it. -/
structure LinkedAndValidated (s s' : HalConf W) : Prop where
  record : s'.record = s.record.linkVmt
  calls : ∃ evs : List HalEvent, s'.log = evs ++ s.log ∧
    ∀ e ∈ evs, ∃ fn pConfig, e.call = .vmt fn (.configValidate pConfig)

/-- The calls that start or stop the driver. -/
def WrapperCall.isLifecycle {P : Peripheral} : WrapperCall P → Bool
  | .init _ | .deinit _ => true
  | _ => false

/-- How a call of an interface can end. -/
inductive WrapperOutcome {P : Peripheral} (s : HalConf W) :
    WrapperCall P → ErrorCode → HalConf W → Prop
  | initNull : WrapperOutcome s (.init .null) .badParam s
  | initRejected {r : ErrorCode} {s' : HalConf W} (hr : r ≠ .ok) (hv : LinkedAndValidated s s') :
      WrapperOutcome s (.init .ref) r s'
  | initBase {r : ErrorCode} {s₁ s' : HalConf W} (hv : LinkedAndValidated s s₁)
      (ho : InitOutcome .ref P.type s₁ r s') : WrapperOutcome s (.init .ref) r s'
  | deinitNull : WrapperOutcome s (.deinit .null) .badParam s
  | deinitBase {r : ErrorCode} {s' : HalConf W} (ho : DeinitOutcome .ref P.type s r s') :
      WrapperOutcome s (.deinit .ref) r s'
  | upkeep {c : WrapperCall P} {r : ErrorCode} {s' : HalConf W} (hc : c.isLifecycle = false)
      (hu : Upkeep s.record s'.record) : WrapperOutcome s c r s'

section Table

variable {pBase : DriverPtr} {ty : PeripheralType} {r : ErrorCode} {s s' : HalConf W}

theorem InitOutcome.vmt (ho : InitOutcome pBase ty s r s') :
    s'.record.base.vmt = s.record.base.vmt := by
  cases ho with
  | refused _ => rfl
  | alreadyInit _ _ => rfl
  | boardFailed _ _ _ hb => rw [hb.record]
  | rolledBack _ _ hb hi _ hd => rw [hd.record, hi.record, hb.record]
  | live _ _ hb hi => rw [Conf.written_record, Driver.setStatus_base_vmt, hi.record, hb.record]

theorem DeinitOutcome.vmt (ho : DeinitOutcome pBase ty s r s') :
    s'.record.base.vmt = s.record.base.vmt := by
  cases ho with
  | refused _ => rfl
  | notLive _ _ => rfl
  | unconstructed _ _ => rfl
  | stopFailed _ _ hd _ => rw [hd.record]
  | stopped _ _ hd hb =>
      rw [hb.record, Conf.written_record, Driver.setStatus_base_vmt, hd.record]

end Table

section Upkeep

variable {d d' d'' : Driver} {s s' : HalConf W}

theorem Upkeep.refl (d : Driver) : Upkeep d d :=
  ⟨d.base.powerState, d.config, d.cb, d.cbUserArg, rfl⟩

theorem Upkeep.trans (h : Upkeep d d') (h' : Upkeep d' d'') : Upkeep d d'' := by
  obtain ⟨_, _, _, _, rfl⟩ := h
  obtain ⟨state, pConfig, callback, pUserArg, rfl⟩ := h'
  exact ⟨state, pConfig, callback, pUserArg, rfl⟩

theorem upkeep_setConfig (pConfig : Ptr) (d : Driver) : Upkeep d (d.setConfig pConfig) :=
  ⟨d.base.powerState, pConfig, d.cb, d.cbUserArg, rfl⟩

theorem upkeep_setCallback (callback pUserArg : Ptr) (d : Driver) :
    Upkeep d (d.setCallback callback pUserArg) :=
  ⟨d.base.powerState, d.config, callback, pUserArg, rfl⟩

/-- A service call is upkeep. -/
theorem ServiceEffect.upkeep {req : BaseRequest} (h : ServiceEffect req s s') :
    Upkeep s.record s'.record := by
  rcases h.record with hrec | ⟨state, hrec⟩
  · rw [hrec]
    exact .refl s.record
  · rw [hrec]
    exact ⟨state, s.record.config, s.record.cb, s.record.cbUserArg, rfl⟩

/-- The test of the driver pointer that a wrapper begins with. -/
theorem nullChecked_upkeep {env : HalEnv W} {driver : DriverPtr} {p : HalM ErrorCode}
    (hp : Upkeep s.record (run env p s).2.record) :
    Upkeep s.record (run env (match driver with
      | .null => return .badParam
      | .ref => p : HalM ErrorCode) s).2.record := by
  cases driver with
  | null => exact .refl s.record
  | ref => exact hp

end Upkeep

/-- An `init` that is OK leaves an INITIALIZED driver. -/
theorem WrapperOutcome.live_of_ok {P : Peripheral} {s s' : HalConf W} {driver : DriverPtr}
    (ho : WrapperOutcome (P := P) s (.init driver) .ok s') : s'.record.base.status = .initialized := by
  cases ho with
  | initRejected hr _ => exact absurd rfl hr
  | initBase hv ho =>
      cases ho with
      | boardFailed _ _ hr _ => exact absurd rfl hr
      | rolledBack _ _ _ _ hr _ => exact absurd rfl hr
      | live _ _ _ _ => rfl
  | upkeep hc _ => cases hc

section Calls

variable (codes : HookCodes W) (mem : ConfigMemory) {P : Peripheral} (s : HalConf W)

theorem specific_record (func : SpecificFn) (driver : DriverPtr) (args : List Arg) :
    (run (.ofCodes codes) (func.call driver args) s).2.record = s.record := by
  cases driver with
  | null => rfl
  | ref =>
      simp only [SpecificFn.call, checkAndCallFunc, run_bind, run_get]
      by_cases htype : s.record.base.type = func.peripheral.type
      swap
      · simp [htype]
      simp only [htype, if_true]
      cases s.record.api with
      | none => rfl
      | some api => cases hslot : api.specific func <;> simp [hslot]

theorem configSet_upkeep (hasConfig : P ≠ .gpio) (driver : DriverPtr) (pConfig : Ptr) :
    Upkeep s.record
      (run (.ofCodes codes) (P.configSet mem hasConfig driver pConfig) s).2.record := by
  -- The base layer's part, on the driver with the new configuration.
  have hbase (s : HalConf W) : Upkeep s.record (run (.ofCodes codes)
      (baseConfigSet .ref P.type pConfig) (s.written (Driver.setConfig pConfig))).2.record :=
    (upkeep_setConfig pConfig s.record).trans
      (baseConfigSet_outcome codes .ref P.type pConfig _).effect.upkeep
  cases hv : P.validates with
  | true =>
      rw [Peripheral.configSet_eq_validated mem hv]
      apply nullChecked_upkeep
      have hval := (configValidate_effect codes mem P .ref pConfig s).upkeep
      simp only [run_bind]
      split
      · exact hval
      · exact hval.trans (hbase _)
  | false =>
      rw [Peripheral.configSet_eq_unchecked mem hv hasConfig]
      apply nullChecked_upkeep
      exact hbase s

/-- Calls that do not start or stop the driver are upkeep. -/
theorem WrapperCall.upkeep (c : WrapperCall P) (hc : c.isLifecycle = false) :
    Upkeep s.record (run (.ofCodes codes) (c.prog mem) s).2.record := by
  by_cases he : c.isEventError = true
  · obtain ⟨driver, _, _, _, -, hprog, -⟩ := c.eventError_eq mem he
    rw [hprog]
    apply nullChecked_upkeep
    exact (eventErrorCall_effect codes .ref _ _ _ _ s).upkeep
  cases c with
  | init driver => cases hc
  | deinit driver => cases hc
  | configValidate driver pConfig => exact (configValidate_effect codes mem P driver pConfig s).upkeep
  | configSet hasConfig driver pConfig => exact configSet_upkeep codes mem s hasConfig driver pConfig
  | specific func own driver args =>
      rw [WrapperCall.prog, specific_record]
      exact .refl s.record
  | callbackRegister driver callback pUserArg =>
      apply nullChecked_upkeep
      exact (upkeep_setCallback callback pUserArg s.record).trans
        (baseCallbackRegister_effect codes .ref _ _ _ _).upkeep
  | powerStateSet driver state =>
      apply nullChecked_upkeep
      exact (powerStateSet_outcome codes .ref _ state s).effect.upkeep
  | _ => exact absurd rfl he

/-- The validator calls at most `config_validate`, and leaves the record. -/
theorem configValidate_calls (driver : DriverPtr) (pConfig : Ptr) :
    let s' := (run (.ofCodes codes) (P.configValidate mem driver pConfig) s).2
    s'.record = s.record ∧ ∃ evs : List HalEvent, s'.log = evs ++ s.log ∧
      ∀ e ∈ evs, ∃ fn, e.call = .vmt fn (.configValidate pConfig) := by
  have quiet : s.record = s.record ∧ ∃ evs : List HalEvent, s.log = evs ++ s.log ∧
      ∀ e ∈ evs, ∃ fn, e.call = .vmt fn (.configValidate pConfig) :=
    ⟨rfl, Conf.calls_refl _ _⟩
  rw [Peripheral.configValidate_eq]
  cases driver with
  | null => exact quiet
  | ref =>
      cases pConfig with
      | none => exact quiet
      | some address =>
          cases hrej : P.rejects mem address with
          | true =>
              simp only [configValidate, hrej, if_true]
              exact quiet
          | false =>
              simp only [configValidate, hrej, Bool.false_eq_true, if_false, baseConfigValidate,
                run_bind, run_typeRejects]
              split
              · exact quiet
              · simp only [run_bind, run_get]
                have hc := callSlot_outcome codes s.record.base.vmt
                  (.configValidate (some address)) .ok s
                exact ⟨hc.record, hc.calls⟩

/-- How `cfn_hal_<p>_init` can end. -/
theorem init_outcome (driver : DriverPtr) :
    WrapperOutcome (P := P) s (.init driver) (run (.ofCodes codes) (P.init mem driver) s).1
      (run (.ofCodes codes) (P.init mem driver) s).2 := by
  have hlink : LinkedAndValidated s (s.written Driver.linkVmt) :=
    ⟨rfl, Conf.calls_refl _ _⟩
  by_cases hg : P = .gpio
  · subst hg
    cases driver with
    | null => exact .initNull
    | ref => exact .initBase hlink (baseInit_outcome codes .ref _ _)
  · rw [Peripheral.init_eq mem hg]
    cases driver with
    | null => exact .initNull
    | ref =>
        obtain ⟨hrec, evs, hlog, hevs⟩ := configValidate_calls codes mem (P := P)
          (s.written Driver.linkVmt) .ref (s.written Driver.linkVmt).record.config
        have hv : LinkedAndValidated s (run (.ofCodes codes) (P.configValidate mem .ref
            (s.written Driver.linkVmt).record.config) (s.written Driver.linkVmt)).2 := by
          refine ⟨hrec, evs, hlog, fun e hmem => ?_⟩
          obtain ⟨fn, hcall⟩ := hevs e hmem
          exact ⟨fn, _, hcall⟩
        simp only [validatedInit, run_bind, run_modify, run_get]
        split
        · next hr => exact .initRejected hr hv
        · exact .initBase hv (baseInit_outcome codes .ref _ _)

/-- How a call of an interface can end. -/
theorem WrapperCall.outcome (c : WrapperCall P) :
    WrapperOutcome s c (run (.ofCodes codes) (c.prog mem) s).1
      (run (.ofCodes codes) (c.prog mem) s).2 := by
  cases hc : c.isLifecycle with
  | false => exact .upkeep hc (c.upkeep codes mem s hc)
  | true =>
      cases c with
      | init driver => exact init_outcome codes mem s driver
      | deinit driver =>
          cases driver with
          | null => exact .deinitNull
          | ref => exact .deinitBase (baseDeinit_outcome codes .ref P.type s)
      | _ => cases hc

end Calls

end CaffeineHal
