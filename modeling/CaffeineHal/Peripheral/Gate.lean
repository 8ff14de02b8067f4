import CaffeineHal.Peripheral.ConfigSet

/-!
# The validation gate

Eighteen peripherals validate a configuration before they store it and again before they initialise the
port. With a port whose validation is a function of the configuration, that is a gate: no driver is
INITIALIZED with a configuration that its validator refuses, and the port is never given one
(`validation_gate`).

`Gated` is the invariant. Calls that neither start the port nor store a configuration keep it because
they leave what it reads (`Harmless`); `init_gated` and `configSet_gated` are the two that pass the gate.
-/

set_option autoImplicit false

namespace CaffeineHal

open CaffeineHal.Program

variable {W : Type}

/-! ## A port with an opinion -/

/-- Hooks whose `config_validate` answers what `opinion` says of the configuration. -/
def pureValidator (opinion : FnPtr → Ptr → ErrorCode) (codes : HookCodes W) : HookCodes W :=
  fun c d x =>
    match c with
    | .vmt fn (.configValidate pConfig) => (opinion fn pConfig, (codes c d x).2)
    | _ => codes c d x

/-- The opinion of a driver's port. -/
def portOpinion (opinion : FnPtr → Ptr → ErrorCode) (d : Driver) (pConfig : Ptr) : ErrorCode :=
  match d.base.hook (.configValidate pConfig) with
  | some fn => opinion fn pConfig
  | none => .ok

/-- `cfn_hal_<p>_config_validate(driver, p_config)` returns OK on the driver `d`. -/
def ValidatorAccepts (env : HalEnv W) (mem : ConfigMemory) (P : Peripheral) (d : Driver)
    (pConfig : Ptr) : Prop :=
  ∀ x log, (run env (P.configValidate mem .ref pConfig) ⟨d, x, log⟩).1 = .ok

/-- The structure of the configuration and the port's opinion of it. -/
def Passes (mem : ConfigMemory) (opinion : FnPtr → Ptr → ErrorCode) (P : Peripheral) (d : Driver)
    (pConfig : Ptr) : Prop :=
  ¬ StructureRejects P mem pConfig ∧ portOpinion opinion d pConfig = .ok

section Validator

variable {codes : HookCodes W} {mem : ConfigMemory} {opinion : FnPtr → Ptr → ErrorCode}
  {P : Peripheral} {d : Driver} {pConfig : Ptr} {s : HalConf W}

theorem portAnswer_pureValidator (codes : HookCodes W) (d : Driver) (x : W) :
    (portAnswer (pureValidator opinion codes) (.configValidate pConfig) .ok d x).1 =
      portOpinion opinion d pConfig := by
  unfold portAnswer portOpinion
  cases d.base.hook (.configValidate pConfig) with
  | none => rfl
  | some fn => rfl

theorem run_configValidate_ok (codes : HookCodes W) (mem : ConfigMemory)
    (opinion : FnPtr → Ptr → ErrorCode) (pConfig : Ptr) (htype : s.record.base.type = P.type) :
    (run (.ofCodes (pureValidator opinion codes)) (P.configValidate mem .ref pConfig) s).1 = .ok ↔
      Passes mem opinion P s.record pConfig := by
  obtain ⟨-, hok, -⟩ := run_configValidate (pureValidator opinion codes) htype mem pConfig
  rw [hok, portAnswer_pureValidator]
  rfl

/-- On a driver of its type, a validator accepts what passes, in whatever world it runs. -/
theorem validatorAccepts_iff (htype : d.base.type = P.type) (x : W) :
    ValidatorAccepts (.ofCodes (pureValidator opinion codes)) mem P d pConfig ↔
      Passes mem opinion P d pConfig := by
  constructor
  · intro h
    exact (run_configValidate_ok (s := ⟨d, x, []⟩) codes mem opinion pConfig htype).1 (h x [])
  · intro h y log
    exact (run_configValidate_ok (s := ⟨d, y, log⟩) codes mem opinion pConfig htype).2 h

theorem Passes.ne_none (h : Passes mem opinion P d pConfig) : pConfig ≠ none := by
  rintro rfl
  exact h.1 (structureRejects_none P mem)

/-- What passes depends on the table only. -/
theorem Passes.of_vmt {d' : Driver} (h : Passes mem opinion P d pConfig)
    (hvmt : d'.base.vmt = d.base.vmt) : Passes mem opinion P d' pConfig := by
  refine ⟨h.1, ?_⟩
  have hopinion := h.2
  unfold portOpinion DriverBase.hook at hopinion ⊢
  rw [hvmt]
  exact hopinion

end Validator

/-! ## The invariant -/

/-- A hook call that passed the gate: the port is started with a stored configuration that passes, and
given one that is stored and passes. -/
structure GateEvent (mem : ConfigMemory) (opinion : FnPtr → Ptr → ErrorCode) (P : Peripheral)
    (e : HalEvent) : Prop where
  start : ∀ fn, e.call = .vmt fn .init →
    e.record.base.type = P.type ∧ Passes mem opinion P e.record e.record.config
  given : ∀ fn pConfig, e.call = .vmt fn (.configSet pConfig) →
    e.record.base.type = P.type ∧ e.record.config = pConfig ∧
      Passes mem opinion P e.record pConfig

/-- No driver is INITIALIZED with a configuration that does not pass. -/
structure Gated (mem : ConfigMemory) (opinion : FnPtr → Ptr → ErrorCode) (P : Peripheral)
    (s : HalConf W) : Prop where
  type : s.record.base.type = P.type
  linked : s.record.base.vmt = s.record.api.map Api.base
  live : s.record.base.status = .initialized → Passes mem opinion P s.record s.record.config
  events : ∀ e ∈ s.log, GateEvent mem opinion P e

/-- A hook call that the gate has nothing to say about. -/
def HalEvent.Ungated (e : HalEvent) : Prop :=
  (∀ fn, e.call ≠ .vmt fn .init) ∧ ∀ fn pConfig, e.call ≠ .vmt fn (.configSet pConfig)

/-- From `s` to `s'`, nothing happened that the gate reads. -/
structure Harmless (s s' : HalConf W) : Prop where
  type : s'.record.base.type = s.record.base.type
  vmt : s'.record.base.vmt = s.record.base.vmt
  api : s'.record.api = s.record.api
  config : s'.record.config = s.record.config
  live : s'.record.base.status = .initialized → s.record.base.status = .initialized
  calls : ∃ evs : List HalEvent, s'.log = evs ++ s.log ∧ ∀ e ∈ evs, e.Ungated

section Invariant

variable {mem : ConfigMemory} {opinion : FnPtr → Ptr → ErrorCode} {P : Peripheral}
  {s s' s'' : HalConf W}

theorem HalEvent.Ungated.gateEvent {e : HalEvent} (h : e.Ungated) : GateEvent mem opinion P e :=
  ⟨fun fn hcall => absurd hcall (h.1 fn), fun fn p hcall => absurd hcall (h.2 fn p)⟩

theorem Harmless.refl (s : HalConf W) : Harmless s s :=
  ⟨rfl, rfl, rfl, rfl, id, Conf.calls_refl _ s⟩

theorem Harmless.trans (h : Harmless s s') (h' : Harmless s' s'') : Harmless s s'' :=
  ⟨h'.type.trans h.type, h'.vmt.trans h.vmt, h'.api.trans h.api, h'.config.trans h.config,
    fun hs => h.live (h'.live hs), Conf.calls_trans h.calls h'.calls⟩

/-- What the gate does not read keeps it. -/
theorem Gated.of_harmless (h : Gated mem opinion P s) (hh : Harmless s s') :
    Gated mem opinion P s' := by
  obtain ⟨evs, hlog, hevs⟩ := hh.calls
  constructor
  · rw [hh.type]
    exact h.type
  · rw [hh.vmt, hh.api]
    exact h.linked
  · intro hs
    rw [hh.config]
    exact (h.live (hh.live hs)).of_vmt hh.vmt
  · intro e hmem
    rw [hlog] at hmem
    rcases List.mem_append.1 hmem with hmem | hmem
    · exact (hevs e hmem).gateEvent
    · exact h.events e hmem

/-! ## Harmless calls -/

theorem BoardCall.harmless {phase : ConfigPhase} {r : ErrorCode} (h : BoardCall phase s r s') :
    Harmless s s' := by
  cases h with
  | absent _ => exact .refl s
  | hook r x _ => exact ⟨rfl, rfl, rfl, rfl, id, Conf.calls_cons rfl ⟨nofun, nofun⟩⟩

theorem SlotCall.harmless {pApi : Option ApiBase} {req : BaseRequest} {missing r : ErrorCode}
    (h : SlotCall pApi req missing s r s') (hinit : req ≠ .init)
    (hset : ∀ pConfig, req ≠ .configSet pConfig) : Harmless s s' := by
  cases h with
  | absent _ => exact .refl s
  | @hook fn r x _ =>
      refine ⟨rfl, rfl, rfl, rfl, id, Conf.calls_cons rfl ?_⟩
      constructor
      · intro gn heq
        injection heq with _ hreq
        exact hinit hreq
      · intro gn pConfig heq
        injection heq with _ hreq
        exact hset pConfig hreq

theorem deinit_harmless {pBase : DriverPtr} {ty : PeripheralType} {r : ErrorCode}
    (ho : DeinitOutcome pBase ty s r s') : Harmless s s' := by
  cases ho with
  | refused _ => exact .refl s
  | notLive _ _ => exact .refl s
  | unconstructed _ _ => exact .refl s
  | stopFailed _ _ hd _ => exact hd.harmless nofun nofun
  | @stopped r s₁ s₂ _ _ hd hb =>
      -- The status leaves INITIALIZED, which the gate allows at any time.
      have hstop : Harmless s₁ (s₁.written (Driver.setStatus .constructed)) :=
        ⟨rfl, rfl, rfl, rfl, nofun, Conf.calls_refl _ _⟩
      exact (hd.harmless nofun nofun).trans (hstop.trans hb.harmless)

theorem ServiceEffect.harmless {req : BaseRequest} (he : ServiceEffect req s s')
    (hreq : req.isService = true) (hset : ∀ pConfig, req ≠ .configSet pConfig) :
    Harmless s s' := by
  obtain ⟨hrec, evs, hlog, hevs⟩ := he
  have hcalls : ∃ evs : List HalEvent, s'.log = evs ++ s.log ∧ ∀ e ∈ evs, e.Ungated := by
    refine ⟨evs, hlog, fun e hmem => ?_⟩
    obtain ⟨-, fn, ⟨hcall, -⟩ | ⟨pConfig, hcall⟩⟩ := hevs e hmem
    · constructor
      · intro gn heq
        rw [hcall] at heq
        injection heq with _ heq
        subst heq
        cases hreq
      · intro gn pConfig heq
        rw [hcall] at heq
        injection heq with _ heq
        exact hset pConfig heq
    · constructor
      · intro gn heq
        rw [hcall] at heq
        cases heq
      · intro gn q heq
        rw [hcall] at heq
        cases heq
  rcases hrec with hrec | ⟨state, hrec⟩
  · exact ⟨by rw [hrec], by rw [hrec], by rw [hrec], by rw [hrec], by rw [hrec]; exact id, hcalls⟩
  · exact ⟨by rw [hrec]; rfl, by rw [hrec]; rfl, by rw [hrec]; rfl, by rw [hrec]; rfl,
      by rw [hrec]; exact id, hcalls⟩

/-! ## The two calls that pass the gate -/

/-- A hook call on a gated driver that passed the gate. -/
theorem Gated.called (h : Gated mem opinion P s) {c : HookCall} {r : ErrorCode} {x : W}
    (he : GateEvent mem opinion P ⟨c, s.record, r⟩) : Gated mem opinion P (s.called c r x) := by
  refine ⟨h.type, h.linked, h.live, fun e hmem => ?_⟩
  rcases List.mem_cons.1 hmem with rfl | hmem
  · exact he
  · exact h.events e hmem

theorem SlotCall.start_gated {pApi : Option ApiBase} {missing r : ErrorCode}
    (hc : SlotCall pApi .init missing s r s') (h : Gated mem opinion P s)
    (hp : Passes mem opinion P s.record s.record.config) : Gated mem opinion P s' := by
  cases hc with
  | absent _ => exact h
  | hook r x _ => exact h.called ⟨fun _ _ => ⟨h.type, hp⟩, nofun⟩

theorem SlotCall.given_gated {pApi : Option ApiBase} {missing r : ErrorCode}
    (hc : SlotCall pApi (.configSet s.record.config) missing s r s') (h : Gated mem opinion P s)
    (hp : Passes mem opinion P s.record s.record.config) : Gated mem opinion P s' := by
  cases hc with
  | absent _ => exact h
  | hook r x _ =>
      refine h.called ⟨nofun, fun gn pConfig heq => ?_⟩
      injection heq with _ heq
      injection heq with heq
      subst heq
      exact ⟨h.type, rfl, hp⟩

theorem baseInit_gated {pBase : DriverPtr} {ty : PeripheralType} {r : ErrorCode}
    (ho : InitOutcome pBase ty s r s') (h : Gated mem opinion P s)
    (hp : Passes mem opinion P s.record s.record.config) : Gated mem opinion P s' := by
  cases ho with
  | refused _ => exact h
  | alreadyInit _ _ => exact h
  | boardFailed _ _ _ hb => exact h.of_harmless hb.harmless
  | @rolledBack r r' s₁ s₂ s₃ _ _ hb hi _ hd =>
      -- The board's hook leaves the record, so what passed before passes now.
      have hp₁ : Passes mem opinion P s₁.record s₁.record.config := by
        rw [hb.record]
        exact hp
      exact (hi.start_gated (h.of_harmless hb.harmless) hp₁).of_harmless hd.harmless
  | @live s₁ s₂ _ _ hb hi =>
      have hp₁ : Passes mem opinion P s₁.record s₁.record.config := by
        rw [hb.record]
        exact hp
      have h₂ := hi.start_gated (h.of_harmless hb.harmless) hp₁
      -- INITIALIZED from here on, with the configuration that the port was started on.
      refine ⟨h₂.type, h₂.linked, fun _ => ?_, h₂.events⟩
      rw [← hi.record] at hp₁
      exact hp₁.of_vmt rfl

theorem baseConfigSet_gated {pBase : DriverPtr} {ty : PeripheralType} {r : ErrorCode}
    (ho : ConfigSetOutcome pBase ty s.record.config s r s') (h : Gated mem opinion P s)
    (hp : Passes mem opinion P s.record s.record.config) : Gated mem opinion P s' := by
  cases ho with
  | refused _ => exact h
  | deferred _ _ _ => exact h
  | rejected _ _ _ hv _ => exact h.of_harmless (hv.harmless nofun nofun)
  | applied _ _ _ hv hc =>
      -- The second validation leaves the record.
      rw [← hv.record] at hp hc
      exact hc.given_gated (h.of_harmless (hv.harmless nofun nofun)) hp

theorem configValidate_effect (codes : HookCodes W) (mem : ConfigMemory) (P : Peripheral)
    (driver : DriverPtr) (pConfig : Ptr) (s : HalConf W) :
    ServiceEffect (.configValidate pConfig) s
      (run (.ofCodes codes) (P.configValidate mem driver pConfig) s).2 := by
  rw [Peripheral.configValidate_eq]
  cases driver with
  | null => exact .refl _ s
  | ref =>
      cases pConfig with
      | none => exact .refl _ s
      | some address =>
          cases hrej : P.rejects mem address with
          | true =>
              simp only [configValidate, hrej, if_true]
              exact .refl _ s
          | false =>
              simp only [configValidate, hrej, Bool.false_eq_true, if_false]
              exact baseConfigValidate_effect codes .ref P.type (some address) s

theorem configValidate_harmless (codes : HookCodes W) (mem : ConfigMemory) (P : Peripheral)
    (driver : DriverPtr) (pConfig : Ptr) (s : HalConf W) :
    Harmless s (run (.ofCodes codes) (P.configValidate mem driver pConfig) s).2 :=
  (configValidate_effect codes mem P driver pConfig s).harmless rfl nofun

theorem init_gated (codes : HookCodes W) (hg : P ≠ .gpio) (driver : DriverPtr)
    (h : Gated mem opinion P s) :
    Gated mem opinion P
      (run (.ofCodes (pureValidator opinion codes)) (P.init mem driver) s).2 := by
  rw [Peripheral.init_eq mem hg]
  cases driver with
  | null => exact h
  | ref =>
      -- The table was linked before, so linking it again changes nothing.
      have hlink : Harmless s (s.written Driver.linkVmt) :=
        ⟨rfl, h.linked.symm, rfl, rfl, id, Conf.calls_refl _ _⟩
      have h₁ := h.of_harmless hlink
      have hv := configValidate_harmless (pureValidator opinion codes) mem P .ref
        (s.written Driver.linkVmt).record.config (s.written Driver.linkVmt)
      have hok := run_configValidate_ok codes mem opinion
        (s.written Driver.linkVmt).record.config h₁.type
      simp only [validatedInit, run_bind, run_modify, run_get]
      generalize run (.ofCodes (pureValidator opinion codes))
        (P.configValidate mem .ref (s.written Driver.linkVmt).record.config)
        (s.written Driver.linkVmt) = out at hv hok ⊢
      obtain ⟨r, s₂⟩ := out
      have h₂ := h₁.of_harmless hv
      by_cases hr : r = .ok
      · -- The stored configuration passed, and the validation left it where it was.
        have hp := hok.1 hr
        simp only [ne_eq, hr, not_true_eq_false, if_false]
        refine baseInit_gated (baseInit_outcome _ .ref P.type s₂) h₂ ?_
        rw [hv.config]
        exact hp.of_vmt hv.vmt
      · simp only [ne_eq, hr, not_false_eq_true, if_true]
        exact h₂

/-- A configuration that passes is stored, and then the base layer hands it on. -/
theorem stored_gated (codes : HookCodes W) (pConfig : Ptr) (h : Gated mem opinion P s)
    (hp : Passes mem opinion P s.record pConfig) :
    Gated mem opinion P (run (.ofCodes codes) (baseConfigSet .ref P.type pConfig)
      (s.written (Driver.setConfig pConfig))).2 := by
  have hstored : Gated mem opinion P (s.written (Driver.setConfig pConfig)) :=
    ⟨h.type, h.linked, fun _ => hp.of_vmt rfl, h.events⟩
  exact baseConfigSet_gated (baseConfigSet_outcome codes .ref P.type pConfig _) hstored
    (hp.of_vmt rfl)

theorem configSet_gated (codes : HookCodes W) (hP : P.validates = true) (hasConfig : P ≠ .gpio)
    (driver : DriverPtr) (pConfig : Ptr) (h : Gated mem opinion P s) :
    Gated mem opinion P (run (.ofCodes (pureValidator opinion codes))
      (P.configSet mem hasConfig driver pConfig) s).2 := by
  rw [Peripheral.configSet_eq_validated mem hP]
  cases driver with
  | null => exact h
  | ref =>
      have hv := configValidate_harmless (pureValidator opinion codes) mem P .ref pConfig s
      have hok := run_configValidate_ok codes mem opinion pConfig h.type
      simp only [validatedConfigSet, run_bind]
      generalize run (.ofCodes (pureValidator opinion codes))
        (P.configValidate mem .ref pConfig) s = out at hv hok ⊢
      obtain ⟨r, s₁⟩ := out
      have h₁ := h.of_harmless hv
      by_cases hr : r = .ok
      · -- It passes on the driver that it is stored in.
        have hp : Passes mem opinion P s₁.record pConfig := (hok.1 hr).of_vmt hv.vmt
        simp only [ne_eq, hr, not_true_eq_false, if_false, run_bind, run_modify]
        exact stored_gated _ pConfig h₁ hp
      · -- Refused, and nothing was stored.
        simp only [ne_eq, hr, not_false_eq_true, if_true]
        exact h₁

/-! ## The other calls -/

/-- The test of the driver pointer that a wrapper begins with. -/
theorem nullChecked_gated {env : HalEnv W} {driver : DriverPtr} {p : HalM ErrorCode}
    (h : Gated mem opinion P s) (hp : Harmless s (run env p s).2) :
    Gated mem opinion P (run env (match driver with
      | .null => return .badParam
      | .ref => p : HalM ErrorCode) s).2 := by
  cases driver with
  | null => exact h
  | ref => exact h.of_harmless hp

theorem callbackRegister_harmless (codes : HookCodes W) (driver : DriverPtr)
    (callback pUserArg : Ptr) :
    Harmless s (run (.ofCodes codes) (P.callbackRegister driver callback pUserArg) s).2 := by
  cases driver with
  | null => exact .refl s
  | ref =>
      have hstored : Harmless s (s.written (Driver.setCallback callback pUserArg)) :=
        ⟨rfl, rfl, rfl, rfl, id, Conf.calls_refl _ _⟩
      have he := baseCallbackRegister_effect codes .ref P.type callback pUserArg
        (s.written (Driver.setCallback callback pUserArg))
      exact hstored.trans (he.harmless rfl nofun)

theorem specific_harmless (codes : HookCodes W) (func : SpecificFn) (driver : DriverPtr)
    (args : List Arg) : Harmless s (run (.ofCodes codes) (func.call driver args) s).2 := by
  cases driver with
  | null => exact .refl s
  | ref =>
      simp only [SpecificFn.call, checkAndCallFunc, run_bind, run_get]
      by_cases htype : s.record.base.type = func.peripheral.type
      swap
      · simp only [htype, if_false]
        exact .refl s
      simp only [htype, if_true]
      cases s.record.api with
      | none => exact .refl s
      | some api =>
          cases hslot : api.specific func with
          | none =>
              simp only [hslot]
              exact .refl s
          | some fn =>
              simp only [hslot, run_request, Conf.answered_ofCodes]
              refine ⟨rfl, rfl, rfl, rfl, id, Conf.calls_cons rfl ?_⟩
              constructor
              · rintro gn ⟨⟩
              · rintro gn pConfig ⟨⟩

/-- Every call of an interface keeps the gate shut if its `config_set` does. -/
theorem WrapperCall.gated (codes : HookCodes W) (hg : P ≠ .gpio) (c : WrapperCall P)
    (h : Gated mem opinion P s)
    (hset : ∀ hasConfig driver pConfig, c = .configSet hasConfig driver pConfig →
      Gated mem opinion P (run (.ofCodes (pureValidator opinion codes)) (c.prog mem) s).2) :
    Gated mem opinion P (run (.ofCodes (pureValidator opinion codes)) (c.prog mem) s).2 := by
  by_cases he : c.isEventError = true
  · obtain ⟨driver, _, _, req, hreq, hprog, -⟩ := c.eventError_eq mem he
    rw [hprog]
    apply nullChecked_gated h
    refine (eventErrorCall_effect _ .ref _ _ _ _ s).harmless ?_ ?_
    · exact BaseRequest.isService_of_eventError hreq
    · rintro pConfig rfl
      cases hreq
  cases c with
  | init driver => exact init_gated codes hg driver h
  | configSet hasConfig driver pConfig => exact hset hasConfig driver pConfig rfl
  | configValidate driver pConfig =>
      exact h.of_harmless (configValidate_harmless _ mem P driver pConfig s)
  | callbackRegister driver callback pUserArg =>
      exact h.of_harmless (callbackRegister_harmless _ driver callback pUserArg)
  | specific func own driver args => exact h.of_harmless (specific_harmless _ func driver args)
  | deinit driver =>
      apply nullChecked_gated h
      exact deinit_harmless (baseDeinit_outcome _ .ref P.type s)
  | powerStateSet driver state =>
      apply nullChecked_gated h
      exact (powerStateSet_outcome _ .ref P.type state s).effect.harmless rfl nofun
  | _ => exact absurd rfl he

theorem populate_gated (env : HalEnv W) (driver : DriverPtr) (args : PopulateArgs)
    (h : Gated mem opinion P s) : Gated mem opinion P (run env (P.populate driver args) s).2 := by
  cases driver with
  | null => exact h
  -- Populated anew: linked, not INITIALIZED, with the hook calls that were made before.
  | ref => exact ⟨rfl, rfl, nofun, h.events⟩

theorem PeripheralCall.gated (codes : HookCodes W) (hg : P ≠ .gpio) (op : PeripheralCall P)
    (h : Gated mem opinion P s)
    (hset : ∀ hasConfig driver pConfig, op = .call (.configSet hasConfig driver pConfig) →
      Gated mem opinion P (run (.ofCodes (pureValidator opinion codes)) (op.prog mem) s).2) :
    Gated mem opinion P (run (.ofCodes (pureValidator opinion codes)) (op.prog mem) s).2 := by
  cases op with
  | call c =>
      refine c.gated codes hg h fun hasConfig driver pConfig hc => ?_
      exact hset hasConfig driver pConfig (congrArg PeripheralCall.call hc)
  | populate driver args =>
      simp only [PeripheralCall.prog, run_bind]
      exact populate_gated _ driver args h
  | construct portApi driver config phy clock dependency callback userArg =>
      simp only [PeripheralCall.prog, Peripheral.construct]
      split
      · exact h
      · simp only [run_bind]
        exact populate_gated _ driver _ h
  | destruct driver =>
      simp only [PeripheralCall.prog, Peripheral.destruct]
      split
      · exact h
      · simp only [run_bind]
        exact populate_gated _ driver _ h
  | setOnConfig onConfig arg =>
      have hset : Harmless s (s.written (Driver.setOnConfig onConfig arg)) :=
        ⟨rfl, rfl, rfl, rfl, id, Conf.calls_refl _ _⟩
      exact h.of_harmless hset

theorem populatedConf_gated (env : HalEnv W) (memory : Driver) (args : PopulateArgs) (x : W) :
    Gated mem opinion P (populatedConf P env memory args x) :=
  ⟨rfl, rfl, nofun, List.forall_mem_nil _⟩

end Invariant

/-! ## Runs -/

/-- What the gate promises of a run, in terms of the validator itself. -/
structure GateShut (env : HalEnv W) (mem : ConfigMemory) (P : Peripheral) (s : HalConf W) : Prop where
  live : s.record.base.status = .initialized →
    s.record.config ≠ none ∧ ValidatorAccepts env mem P s.record s.record.config
  started : ∀ e ∈ s.log, ∀ fn, e.call = .vmt fn .init →
    ValidatorAccepts env mem P e.record e.record.config
  given : ∀ e ∈ s.log, ∀ fn pConfig, e.call = .vmt fn (.configSet pConfig) →
    e.record.config = pConfig ∧ ValidatorAccepts env mem P e.record pConfig

theorem Gated.shut {mem : ConfigMemory} {opinion : FnPtr → Ptr → ErrorCode} {P : Peripheral}
    {s : HalConf W} (codes : HookCodes W) (h : Gated mem opinion P s) :
    GateShut (.ofCodes (pureValidator opinion codes)) mem P s := by
  constructor
  · intro hs
    have hp := h.live hs
    exact ⟨hp.ne_none, (validatorAccepts_iff h.type s.world).2 hp⟩
  · intro e hmem fn hcall
    obtain ⟨htype, hp⟩ := (h.events e hmem).start fn hcall
    exact (validatorAccepts_iff htype s.world).2 hp
  · intro e hmem fn pConfig hcall
    obtain ⟨htype, hconfig, hp⟩ := (h.events e hmem).given fn pConfig hcall
    exact ⟨hconfig, (validatorAccepts_iff htype s.world).2 hp⟩

/-- The validation gate. For a peripheral whose `config_set` validates, over any operations from the
moment the driver is populated: an INITIALIZED driver has a configuration that the validator accepts, the
port is started on such a configuration only, and it is given no other one than what the driver shows. -/
theorem validation_gate {P : Peripheral} (hP : P.validates = true) (mem : ConfigMemory)
    (opinion : FnPtr → Ptr → ErrorCode) (codes : HookCodes W) (memory : Driver) (args : PopulateArgs)
    (ops : List (PeripheralCall P)) (x : W) :
    let env : HalEnv W := .ofCodes (pureValidator opinion codes)
    GateShut env mem P
      (runOps env (PeripheralCall.prog mem) ops (populatedConf P env memory args x)) := by
  intro env
  have hgated : Gated mem opinion P
      (runOps env (PeripheralCall.prog mem) ops (populatedConf P env memory args x)) := by
    refine runOps_invariant env _ (Gated mem opinion P) (fun op s h => ?_) ops
      (populatedConf_gated env memory args x)
    refine op.gated codes (Peripheral.ne_gpio_of_validates hP) h ?_
    rintro hasConfig driver pConfig rfl
    exact configSet_gated codes hP hasConfig driver pConfig h
  exact hgated.shut codes

/-- A UART whose port refuses the configuration at address 1, brought up with the one at address 0. -/
theorem validation_gate_uart :
    let env : HalEnv Unit := .ofCodes (pureValidator
      (fun _ pConfig => if pConfig = some 1 then .badConfig else .ok) okHooks)
    let ops : List (PeripheralCall .uart) :=
      [.call (.init .ref), .call (.configSet (by decide) .ref (some 1))]
    GateShut env default .uart (runOps env (PeripheralCall.prog default) ops
      (populatedConf .uart env zeroedDriver fullArgs ())) :=
  validation_gate (P := .uart) rfl default _ okHooks zeroedDriver fullArgs _ ()

end CaffeineHal
