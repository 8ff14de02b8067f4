import CaffeineHal.Peripheral.Outcome
import CaffeineHal.Program.Independent

/-!
# Setting up a driver before it is initialised

On a CONSTRUCTED driver, `config_set`, `callback_register` and `power_state_set` write one field or two of
the record each, and ask nobody but the validator of the port. What one of them does depends on its arguments
and on fields that none of them writes (`SetupCall.step`), so they are independent in the sense of
`Independent`, and a caller may make them in any order (`setup_order`).
-/

set_option autoImplicit false

namespace CaffeineHal

open CaffeineHal.Program

variable {W : Type}

/-! ## Setup calls -/

/-- The three kinds of setup calls. -/
inductive SetupKind where
  | config
  | callback
  | power
  deriving DecidableEq, Repr

/-- A call that sets up a driver of a peripheral with a configuration. -/
inductive SetupCall where
  | configSet (driver : DriverPtr) (pConfig : Ptr)
  | callbackRegister (driver : DriverPtr) (callback pUserArg : Ptr)
  | powerStateSet (driver : DriverPtr) (state : PowerState)
  deriving DecidableEq, Repr

def SetupCall.kind : SetupCall → SetupKind
  | .configSet _ _ => .config
  | .callbackRegister _ _ _ => .callback
  | .powerStateSet _ _ => .power

def SetupCall.prog (P : Peripheral) (mem : ConfigMemory) (hasConfig : P ≠ .gpio) :
    SetupCall → HalM ErrorCode
  | .configSet driver pConfig => P.configSet mem hasConfig driver pConfig
  | .callbackRegister driver callback pUserArg => P.callbackRegister driver callback pUserArg
  | .powerStateSet driver state => P.powerStateSet driver state

/-- What the fields of a kind hold. -/
def SetupKind.Value : SetupKind → Type
  | .config => Ptr
  | .callback => Ptr × Ptr
  | .power => PowerState

/-- The fields of a kind. -/
def SetupKind.fields : (k : SetupKind) → Driver → k.Value
  | .config, d => d.config
  | .callback, d => (d.cb, d.cbUserArg)
  | .power, d => d.base.powerState

/-- A write of the fields of a kind. -/
inductive SetupWrite : SetupKind → (Driver → Driver) → Prop
  | keep (k : SetupKind) : SetupWrite k id
  | config (pConfig : Ptr) : SetupWrite .config (Driver.setConfig pConfig)
  | callback (callback pUserArg : Ptr) : SetupWrite .callback (Driver.setCallback callback pUserArg)
  | power (state : PowerState) : SetupWrite .power (Driver.setPowerState state)

/-- A port whose `config_validate` is a function of the configuration. -/
def statelessValidator (opinion : FnPtr → Ptr → ErrorCode) (codes : HookCodes W) : HookCodes W :=
  fun c d x =>
    match c with
    | .vmt fn (.configValidate pConfig) => (opinion fn pConfig, x)
    | _ => codes c d x

/-- From `s` to `s'` the validator looked at the driver at most. -/
structure Validated (s s' : HalConf W) : Prop where
  world : s'.world = s.world
  calls : ∃ evs : List HalEvent, s'.log = evs ++ s.log ∧
    ∀ e ∈ evs, ∃ fn pConfig, e.call = .vmt fn (.configValidate pConfig)

/-- The run `p` from `a` and from `b` is the same: it has the same result, leaves the same record and world,
and calls the same hooks. -/
structure BehavesSame (env : HalEnv W) (p : HalM ErrorCode) (a b : HalConf W) : Prop where
  code : (run env p a).1 = (run env p b).1
  record : (run env p a).2.record = (run env p b).2.record
  world : (run env p a).2.world = (run env p b).2.world
  calls : a.callsSince (run env p a).2 = b.callsSince (run env p b).2

section Writes

variable {k : SetupKind} {write : Driver → Driver} {d d' d'' : Driver} {s s' : HalConf W}

theorem SetupWrite.upkeep (h : SetupWrite k write) (d : Driver) : Upkeep d (write d) := by
  cases h with
  | keep => exact .refl d
  | config pConfig => exact upkeep_setConfig pConfig d
  | callback callback pUserArg => exact upkeep_setCallback callback pUserArg d
  | power state => exact ⟨state, d.config, d.cb, d.cbUserArg, rfl⟩

/-- A write of a kind is seen in its own fields, the same way on drivers where these are the same. -/
theorem SetupWrite.own (h : SetupWrite k write) (hfields : k.fields d = k.fields d') :
    k.fields (write d) = k.fields (write d') := by
  cases h with
  | keep => exact hfields
  | config pConfig => rfl
  | callback callback pUserArg => rfl
  | power state => rfl

/-- It is not seen in the fields of the other kinds. -/
theorem SetupWrite.other (h : SetupWrite k write) {j : SetupKind} (hj : k ≠ j) :
    j.fields (write d) = j.fields d := by
  cases h with
  | keep => rfl
  | config pConfig => cases j <;> first | rfl | exact absurd rfl hj
  | callback callback pUserArg => cases j <;> first | rfl | exact absurd rfl hj
  | power state => cases j <;> first | rfl | exact absurd rfl hj

/-- Drivers that were set up from one driver and agree in the fields of every kind are the same. -/
theorem Upkeep.eq_of_fields (h : Upkeep d d') (h' : Upkeep d d'')
    (hfields : ∀ k : SetupKind, k.fields d' = k.fields d'') : d' = d'' := by
  have hconfig : d'.config = d''.config := hfields .config
  have hcallback : (d'.cb, d'.cbUserArg) = (d''.cb, d''.cbUserArg) := hfields .callback
  have hpower : d'.base.powerState = d''.base.powerState := hfields .power
  obtain ⟨state, pConfig, callback, pUserArg, rfl⟩ := h
  obtain ⟨state', pConfig', callback', pUserArg', rfl⟩ := h'
  obtain rfl : pConfig = pConfig' := hconfig
  obtain rfl : state = state' := hpower
  obtain ⟨hcb, harg⟩ := Prod.mk.inj hcallback
  obtain rfl : callback = callback' := hcb
  obtain rfl : pUserArg = pUserArg' := harg
  rfl

theorem Validated.refl (s : HalConf W) : Validated s s :=
  ⟨rfl, Conf.calls_refl _ s⟩

theorem Validated.trans {s'' : HalConf W} (h : Validated s s') (h' : Validated s' s'') :
    Validated s s'' :=
  ⟨h'.world.trans h.world, Conf.calls_trans h.calls h'.calls⟩

theorem Validated.callsSince (h : Validated s s') :
    ∀ e ∈ s.callsSince s', ∃ fn pConfig, e.call = .vmt fn (.configValidate pConfig) := by
  obtain ⟨evs, hlog, hevs⟩ := h.calls
  rw [Conf.callsSince_eq hlog]
  exact hevs

end Writes

/-! ## One call -/

section Step

variable (opinion : FnPtr → Ptr → ErrorCode) (codes : HookCodes W) (P : Peripheral)
  (mem : ConfigMemory)

/-- The code of the validator: the pointer first, then the fields, then the port. -/
def validatorCode (d : Driver) (pConfig : Ptr) : ErrorCode :=
  match pConfig with
  | none => .badParam
  | some address =>
      if P.rejects mem address then .badConfig else portOpinion opinion d (some address)

/-- The code of `config_set` on a driver that is not INITIALIZED. -/
def configSetCode (d : Driver) (pConfig : Ptr) : ErrorCode :=
  if P.validates then validatorCode opinion P mem d pConfig
  else if pConfig.isNone then .badParam else .ok

/-- What `config_set` stores. -/
def configSetWrite (d : Driver) (pConfig : Ptr) : Driver → Driver :=
  if P.validates = true ∧ validatorCode opinion P mem d pConfig ≠ .ok then id
  else Driver.setConfig pConfig

theorem configSetWrite_setupWrite (d : Driver) (pConfig : Ptr) :
    SetupWrite .config (configSetWrite opinion P mem d pConfig) := by
  unfold configSetWrite
  split
  · exact .keep .config
  · exact .config pConfig

variable {opinion codes P mem} {s : HalConf W} {d : Driver}

/-- The opinion of a port depends on the table only. -/
theorem portOpinion_upkeep {d' : Driver} (h : Upkeep d d') (pConfig : Ptr) :
    portOpinion opinion d' pConfig = portOpinion opinion d pConfig := by
  obtain ⟨_, _, _, _, rfl⟩ := h
  rfl

theorem validatorCode_upkeep {d' : Driver} (h : Upkeep d d') (pConfig : Ptr) :
    validatorCode opinion P mem d' pConfig = validatorCode opinion P mem d pConfig := by
  cases pConfig with
  | none => rfl
  | some address => simp only [validatorCode, portOpinion_upkeep h]

variable (opinion codes P mem)

theorem configValidate_step (htype : s.record.base.type = P.type) (pConfig : Ptr) :
    let out := run (.ofCodes (statelessValidator opinion codes)) (P.configValidate mem .ref pConfig) s
    out.1 = validatorCode opinion P mem s.record pConfig ∧ out.2.record = s.record ∧
      Validated s out.2 := by
  rw [Peripheral.configValidate_eq]
  cases pConfig with
  | none => exact ⟨rfl, rfl, .refl s⟩
  | some address =>
      cases hrej : P.rejects mem address with
      | true =>
          simp only [configValidate, validatorCode, hrej, if_true, Prog.pure_eq, run_done]
          exact ⟨trivial, trivial, .refl s⟩
      | false =>
          have ht : Typed .ref P.type s.record := ⟨rfl, htype⟩
          simp only [configValidate, validatorCode, hrej, Bool.false_eq_true, if_false,
            baseConfigValidate, run_bind, ht.run_typeRejects, run_get]
          unfold callSlot portOpinion DriverBase.hook
          cases (s.record.base.vmt.bind fun t => t.slot (.configValidate (some address))) with
          | none => exact ⟨rfl, rfl, .refl s⟩
          | some fn =>
              -- The port is asked, and its world stays as it is.
              exact ⟨rfl, rfl, rfl, Conf.calls_cons rfl ⟨fn, some address, rfl⟩⟩

/-- On a driver that is not INITIALIZED the base layer tests the pointers only. -/
theorem baseConfigSet_step (env : HalEnv W) (htype : s.record.base.type = P.type)
    (hs : s.record.base.status = .constructed) (pConfig : Ptr) :
    run env (baseConfigSet .ref P.type pConfig) s =
      (if pConfig.isNone then .badParam else .ok, s) := by
  have ht : Typed .ref P.type s.record := ⟨rfl, htype⟩
  cases pConfig with
  | none => simp [baseConfigSet, ht]
  | some address => simp [baseConfigSet, ht, hs]

theorem configSet_step (hasConfig : P ≠ .gpio) (htype : s.record.base.type = P.type)
    (hs : s.record.base.status = .constructed) (pConfig : Ptr) :
    let out := run (.ofCodes (statelessValidator opinion codes))
      (P.configSet mem hasConfig .ref pConfig) s
    out.1 = configSetCode opinion P mem s.record pConfig ∧
      out.2.record = configSetWrite opinion P mem s.record pConfig s.record ∧ Validated s out.2 := by
  unfold configSetCode configSetWrite
  cases hv : P.validates with
  | true =>
      rw [Peripheral.configSet_eq_validated mem hv]
      obtain ⟨hcode, hrec, hval⟩ := configValidate_step opinion codes P mem htype pConfig
      simp only [validatedConfigSet, run_bind]
      generalize run (.ofCodes (statelessValidator opinion codes))
        (P.configValidate mem .ref pConfig) s = out at hcode hrec hval ⊢
      obtain ⟨r, s₁⟩ := out
      dsimp only at hcode hrec hval ⊢
      subst hcode
      by_cases hr : validatorCode opinion P mem s.record pConfig = .ok
      · -- Accepted, so there is a configuration.
        have hsome : pConfig.isNone = false := by
          cases pConfig with
          | none => cases hr
          | some address => rfl
        have htype₁ : (s₁.written (Driver.setConfig pConfig)).record.base.type = P.type := by
          rw [Conf.written_record, hrec]
          exact htype
        have hs₁ : (s₁.written (Driver.setConfig pConfig)).record.base.status = .constructed := by
          rw [Conf.written_record, hrec]
          exact hs
        simp only [hr, ne_eq, not_true_eq_false, and_false, if_false, if_true, run_bind, run_modify,
          baseConfigSet_step P _ htype₁ hs₁, hsome, Bool.false_eq_true, Conf.written_record, hrec]
        exact ⟨trivial, trivial, hval.world, hval.calls⟩
      · simp only [ne_eq, hr, not_false_eq_true, and_self, if_true, Prog.pure_eq, run_done]
        exact ⟨trivial, hrec, hval⟩
  | false =>
      rw [Peripheral.configSet_eq_unchecked mem hv hasConfig]
      have htype₁ : (s.written (Driver.setConfig pConfig)).record.base.type = P.type := htype
      have hs₁ : (s.written (Driver.setConfig pConfig)).record.base.status = .constructed := hs
      simp only [uncheckedConfigSet, run_bind, run_modify, baseConfigSet_step P _ htype₁ hs₁,
        Bool.false_eq_true, false_and, if_false]
      exact ⟨trivial, rfl, rfl, Conf.calls_refl _ _⟩

theorem callbackRegister_step (env : HalEnv W) (htype : s.record.base.type = P.type)
    (hs : s.record.base.status = .constructed) (callback pUserArg : Ptr) :
    run env (P.callbackRegister .ref callback pUserArg) s =
      (.ok, s.written (Driver.setCallback callback pUserArg)) := by
  have ht : Typed .ref P.type (s.written (Driver.setCallback callback pUserArg)).record :=
    ⟨rfl, htype⟩
  simp only [Peripheral.callbackRegister, baseCallbackRegister, run_bind, run_modify,
    ht.run_typeRejects, Bool.false_eq_true, if_false, run_get, Conf.written_record,
    Driver.setCallback_base, hs, reduceCtorEq, Prog.pure_eq, run_done]

theorem powerStateSet_step (env : HalEnv W) (htype : s.record.base.type = P.type)
    (hs : s.record.base.status = .constructed) (state : PowerState) :
    run env (P.powerStateSet .ref state) s = (.ok, s.written (Driver.setPowerState state)) := by
  have ht : Typed .ref P.type s.record := ⟨rfl, htype⟩
  by_cases hp : s.record.base.powerState = state
  · -- The state that is asked for is there already.
    have hkept : s.written (Driver.setPowerState state) = s := by
      rw [Conf.written, Driver.setPowerState, ← hp]
    rw [hkept]
    simp only [Peripheral.powerStateSet, powerStateSet, run_bind, ht.run_typeRejects,
      Bool.false_eq_true, if_false, run_get, hp, if_true, Prog.pure_eq, run_done]
  · simp only [Peripheral.powerStateSet, powerStateSet, run_bind, ht.run_typeRejects,
      Bool.false_eq_true, if_false, run_get, hp, hs, reduceCtorEq, run_modify, Prog.pure_eq, run_done]

/-- What a setup call does is fixed by its arguments and by what setup does not write: on all drivers set
up from `d`, it has one code and makes one write, of the fields of its kind. -/
theorem SetupCall.step (hasConfig : P ≠ .gpio) (htype : d.base.type = P.type)
    (hs : d.base.status = .constructed) (c : SetupCall) :
    ∃ code write, SetupWrite c.kind write ∧ ∀ s : HalConf W, Upkeep d s.record →
      let out := run (.ofCodes (statelessValidator opinion codes)) (c.prog P mem hasConfig) s
      out.1 = code ∧ out.2.record = write s.record ∧ Validated s out.2 := by
  have hframe (s : HalConf W) (h : Upkeep d s.record) :
      s.record.base.type = P.type ∧ s.record.base.status = .constructed := by
    obtain ⟨_, _, _, _, hrec⟩ := h
    rw [hrec]
    exact ⟨htype, hs⟩
  cases c with
  | configSet driver pConfig =>
      cases driver with
      | null =>
          refine ⟨.badParam, id, .keep .config, fun s _ => ?_⟩
          have hnull : run (.ofCodes (statelessValidator opinion codes))
              (P.configSet mem hasConfig .null pConfig) s = (.badParam, s) := by
            cases P <;> first | rfl | exact absurd rfl hasConfig
          rw [SetupCall.prog, hnull]
          exact ⟨rfl, rfl, .refl s⟩
      | ref =>
          refine ⟨configSetCode opinion P mem d pConfig, configSetWrite opinion P mem d pConfig,
            configSetWrite_setupWrite opinion P mem d pConfig, fun s h => ?_⟩
          obtain ⟨htype, hs⟩ := hframe s h
          have hstep := configSet_step opinion codes P mem hasConfig htype hs pConfig
          simp only [configSetCode, configSetWrite, validatorCode_upkeep h] at hstep ⊢
          exact hstep
  | callbackRegister driver callback pUserArg =>
      cases driver with
      | null => exact ⟨.badParam, id, .keep .callback, fun s _ => ⟨rfl, rfl, .refl s⟩⟩
      | ref =>
          refine ⟨.ok, _, .callback callback pUserArg, fun s h => ?_⟩
          obtain ⟨htype, hs⟩ := hframe s h
          rw [SetupCall.prog, callbackRegister_step P _ htype hs]
          exact ⟨rfl, rfl, rfl, Conf.calls_refl _ s⟩
  | powerStateSet driver state =>
      cases driver with
      | null => exact ⟨.badParam, id, .keep .power, fun s _ => ⟨rfl, rfl, .refl s⟩⟩
      | ref =>
          refine ⟨.ok, _, .power state, fun s h => ?_⟩
          obtain ⟨htype, hs⟩ := hframe s h
          rw [SetupCall.prog, powerStateSet_step P _ htype hs]
          exact ⟨rfl, rfl, rfl, Conf.calls_refl _ s⟩

/-- The setup calls are independent on the drivers that are set up from one driver. -/
theorem setup_independent (hasConfig : P ≠ .gpio) (htype : d.base.type = P.type)
    (hs : d.base.status = .constructed) :
    Independent (.ofCodes (statelessValidator opinion codes)) (SetupCall.prog P mem hasConfig)
      SetupCall.kind (fun k s => k.fields s.record) fun s : HalConf W => Upkeep d s.record := by
  constructor
  · intro c s h
    obtain ⟨code, write, hwrite, hstep⟩ := c.step opinion codes P mem hasConfig htype hs
    rw [(hstep s h).2.1]
    exact h.trans (hwrite.upkeep s.record)
  · intro c s s' h h' _
    obtain ⟨code, write, hwrite, hstep⟩ := c.step opinion codes P mem hasConfig htype hs
    rw [(hstep s h).1, (hstep s' h').1]
  · intro c s s' h h' hfields
    obtain ⟨code, write, hwrite, hstep⟩ := c.step opinion codes P mem hasConfig htype hs
    rw [(hstep s h).2.1, (hstep s' h').2.1]
    exact hwrite.own hfields
  · intro c s k h hk
    obtain ⟨code, write, hwrite, hstep⟩ := c.step opinion codes P mem hasConfig htype hs
    rw [(hstep s h).2.1]
    exact hwrite.other hk

/-- A run of setup calls is upkeep, and calls validators only. -/
theorem setup_run (hasConfig : P ≠ .gpio) (htype : s.record.base.type = P.type)
    (hs : s.record.base.status = .constructed) (cs : List SetupCall) :
    let s' := runOps (.ofCodes (statelessValidator opinion codes)) (SetupCall.prog P mem hasConfig) cs s
    Upkeep s.record s'.record ∧ Validated s s' := by
  refine runOps_invariant _ _ (fun s' => Upkeep s.record s'.record ∧ Validated s s')
    (fun c s' h => ?_) cs ⟨.refl s.record, .refl s⟩
  obtain ⟨code, write, hwrite, hstep⟩ := c.step opinion codes P mem hasConfig htype hs
  obtain ⟨-, hrec, hval⟩ := hstep s' h.1
  refine ⟨?_, h.2.trans hval⟩
  rw [hrec]
  exact h.1.trans (hwrite.upkeep s'.record)

end Step

/-- A program that starts from the same record and world behaves the same. -/
theorem behavesSame_of_eq (env : HalEnv W) (p : HalM ErrorCode) {a b : HalConf W}
    (hrec : a.record = b.record) (hworld : a.world = b.world) : BehavesSame env p a b := by
  obtain ⟨hcode, hrec', hworld', evs, hlog, hlog'⟩ := run_same env p hrec hworld
  refine ⟨hcode, hrec', hworld', ?_⟩
  rw [Conf.callsSince_eq hlog, Conf.callsSince_eq hlog']

/-- The order of setup does not matter. On a CONSTRUCTED driver of its type, with a validator that is a
function of the configuration: two lists of setup calls, with the same calls of each kind in the same order,
have the same codes and leave the same record; neither calls a hook but the validator, the driver stays
CONSTRUCTED, and an `init` that follows behaves the same. -/
theorem setup_order (P : Peripheral) (hasConfig : P ≠ .gpio) (mem : ConfigMemory)
    (opinion : FnPtr → Ptr → ErrorCode) (codes : HookCodes W) (s : HalConf W)
    (htype : s.record.base.type = P.type) (hs : s.record.base.status = .constructed)
    (xs ys : List SetupCall) (hsame : ∀ k, ofKind SetupCall.kind k xs = ofKind SetupCall.kind k ys) :
    let env : HalEnv W := .ofCodes (statelessValidator opinion codes)
    let prog := SetupCall.prog P mem hasConfig
    let a := runOps env prog xs s
    let b := runOps env prog ys s
    (∀ k, answersOf env prog SetupCall.kind k xs s = answersOf env prog SetupCall.kind k ys s) ∧
      a.record = b.record ∧ a.record.base.status = .constructed ∧
      (∀ e ∈ s.callsSince a ++ s.callsSince b,
        ∃ fn pConfig, e.call = .vmt fn (.configValidate pConfig)) ∧
      BehavesSame env (P.init mem .ref) a b := by
  intro env prog a b
  have hind := setup_independent opinion codes P mem hasConfig htype hs
  have horder := hind.reorder hsame (Upkeep.refl s.record)
  obtain ⟨hua, hva⟩ := setup_run opinion codes P mem hasConfig htype hs xs
  obtain ⟨hub, hvb⟩ := setup_run opinion codes P mem hasConfig htype hs ys
  have hrec : a.record = b.record := hua.eq_of_fields hub fun k => (horder k).1
  refine ⟨fun k => (horder k).2, hrec, ?_, fun e hmem => ?_, ?_⟩
  · obtain ⟨_, _, _, _, heq⟩ := hua
    show a.record.base.status = .constructed
    rw [heq]
    exact hs
  · rcases List.mem_append.1 hmem with hmem | hmem
    · exact hva.callsSince e hmem
    · exact hvb.callsSince e hmem
  · exact behavesSame_of_eq env (P.init mem .ref) hrec (hva.world.trans hvb.world.symm)

/-- A UART whose configuration and callback are set in either order. -/
theorem setup_order_uart :
    let s := populatedConf .uart (.ofCodes okHooks) zeroedDriver fullArgs ()
    let env : HalEnv Unit := .ofCodes (statelessValidator (fun _ _ => .ok) okHooks)
    let prog := SetupCall.prog .uart default (by decide)
    let xs : List SetupCall := [.configSet .ref (some 1), .callbackRegister .ref (some 2) none]
    let ys : List SetupCall := [.callbackRegister .ref (some 2) none, .configSet .ref (some 1)]
    (runOps env prog xs s).record = (runOps env prog ys s).record :=
  (setup_order .uart (by decide) default (fun _ _ => .ok) okHooks
    (populatedConf .uart (.ofCodes okHooks) zeroedDriver fullArgs ()) rfl rfl
    [.configSet .ref (some 1), .callbackRegister .ref (some 2) none]
    [.callbackRegister .ref (some 2) none, .configSet .ref (some 1)]
    (by intro k; cases k <;> rfl)).2.1

end CaffeineHal
