import CaffeineHal.Peripheral.Isolation
import CaffeineHal.Program.History

/-!
# Setting a configuration

`config_set` stores the new pointer before it calls the base layer, and the base layer can still refuse
it: the port's validation is asked a second time, the port's `config_set` may be missing or may fail.
Then the call reports an error and the driver shows a configuration that the hardware did not take,
although `cfn_hal_power_state_set` writes its field only after the port agreed.

`configSet_atomic_iff` says exactly which calls are atomic, and `runs_atomic_iff` which runs:
`FailsAfterStore` spells out, on the state and the answers of the hooks, the calls that fail too late.
-/

set_option autoImplicit false

namespace CaffeineHal

open CaffeineHal.Program

variable {W : Type}

/-! ## The answers of the port -/

/-- What the port answers to a request on the driver `d`; `missing` where the hook is not set. -/
def portAnswer (codes : HookCodes W) (req : BaseRequest) (missing : ErrorCode) (d : Driver) (x : W) :
    ErrorCode × W :=
  match d.base.hook req with
  | some fn => codes (.vmt fn req) d x
  | none => (missing, x)

/-- On a live driver, the port refuses the configuration when it is asked for its opinion and then told
to take it. -/
def PortRefuses (codes : HookCodes W) (pConfig : Ptr) (d : Driver) (x : W) : Prop :=
  d.base.status = .initialized ∧ d.base.vmt ≠ none ∧
    let opinion := portAnswer codes (.configValidate pConfig) .ok d x
    opinion.1 ≠ .ok ∨ (portAnswer codes (.configSet pConfig) .notSupported d opinion.2).1 ≠ .ok

/-- The checks of `config_validate` that come before the base layer fail. -/
def StructureRejects (P : Peripheral) (mem : ConfigMemory) (pConfig : Ptr) : Prop :=
  ∀ address, pConfig = some address → P.rejects mem address = true

/-- Without a configuration there is nothing to accept. -/
theorem structureRejects_none (P : Peripheral) (mem : ConfigMemory) :
    StructureRejects P mem none := by
  rintro address ⟨⟩

/-- `config_set` stores the pointer, another one than before, and then fails: it passed the checks that
come before the store, and either it is NULL or the port refuses it. -/
def FailsAfterStore (P : Peripheral) (mem : ConfigMemory) (codes : HookCodes W) (pConfig : Ptr)
    (s : HalConf W) : Prop :=
  let opinion := portAnswer codes (.configValidate pConfig) .ok s.record s.world
  let stored := s.record.setConfig pConfig
  pConfig ≠ s.record.config ∧
    if P.validates then
      ¬ StructureRejects P mem pConfig ∧ opinion.1 = .ok ∧
        PortRefuses codes pConfig stored opinion.2
    else
      pConfig = none ∨ PortRefuses codes pConfig stored s.world

section Runs

variable (codes : HookCodes W) {s : HalConf W} {P : Peripheral}

theorem run_callSlot (req : BaseRequest) (missing : ErrorCode) (s : HalConf W) :
    let out := run (.ofCodes codes) (callSlot s.record.base.vmt req missing) s
    let answer := portAnswer codes req missing s.record s.world
    out.1 = answer.1 ∧ out.2.record = s.record ∧ out.2.world = answer.2 := by
  unfold portAnswer callSlot DriverBase.hook
  cases (s.record.base.vmt.bind fun t => t.slot req) with
  | none => exact ⟨rfl, rfl, rfl⟩
  | some fn => exact ⟨rfl, rfl, rfl⟩

/-- `cfn_hal_base_config_set` fails on a driver of its type exactly when the pointer is NULL or the port
refuses it. -/
theorem run_baseConfigSet (htype : s.record.base.type = P.type) (pConfig : Ptr) :
    (run (.ofCodes codes) (baseConfigSet .ref P.type pConfig) s).1 ≠ .ok ↔
      pConfig = none ∨ PortRefuses codes pConfig s.record s.world := by
  have ht : Typed .ref P.type s.record := ⟨rfl, htype⟩
  cases pConfig with
  | none =>
      constructor
      · intro _
        exact .inl rfl
      · intro _
        simp [baseConfigSet, ht]
  | some address =>
      by_cases hs : s.record.base.status = .initialized
      swap
      · simp [baseConfigSet, ht, hs, PortRefuses]
      by_cases hv : s.record.base.vmt = none
      · simp [baseConfigSet, ht, hs, hv, PortRefuses]
      obtain ⟨hr, hrec, hw⟩ := run_callSlot codes (.configValidate (some address)) .ok s
      have hn : s.record.base.vmt.isNone = false := by
        rw [← Bool.not_eq_true, Option.isNone_iff_eq_none]
        exact hv
      simp only [baseConfigSet, run_bind, ht.run_typeRejects, Option.isNone_some, Bool.or_self,
        Bool.false_eq_true, if_false, run_get, hs, if_true, hn]
      generalize run (.ofCodes codes)
        (callSlot s.record.base.vmt (.configValidate (some address)) .ok) s = out at hr hrec hw ⊢
      obtain ⟨r, s₁⟩ := out
      simp only at hr hrec hw
      -- Both hooks see the same driver; the second one sees the world that the first one left.
      obtain ⟨hset, -, -⟩ := run_callSlot codes (.configSet (some address)) .notSupported s₁
      rw [hrec, hw] at hset
      by_cases hok : r = .ok
      · -- Accepted: the call ends as the port's `config_set` does.
        simp only [hok, if_true, hset]
        constructor
        · intro hfail
          exact .inr ⟨hs, hv, .inr hfail⟩
        · rintro (hnull | ⟨-, -, hopinion | hfail⟩)
          · cases hnull
          · exact absurd (hr.symm.trans hok) hopinion
          · exact hfail
      · -- Not accepted: the port is not told.
        simp only [hok, if_false]
        constructor
        · intro hfail
          refine .inr ⟨hs, hv, .inl ?_⟩
          rw [← hr]
          exact hfail
        · intro _
          exact hok

/-- The validator of a peripheral on a driver of its type: the structure first, then the port. -/
theorem run_configValidate (htype : s.record.base.type = P.type) (mem : ConfigMemory)
    (pConfig : Ptr) :
    let out := run (.ofCodes codes) (P.configValidate mem .ref pConfig) s
    let opinion := portAnswer codes (.configValidate pConfig) .ok s.record s.world
    out.2.record = s.record ∧
      (out.1 = .ok ↔ ¬ StructureRejects P mem pConfig ∧ opinion.1 = .ok) ∧
      (out.1 = .ok → out.2.world = opinion.2) := by
  have ht : Typed .ref P.type s.record := ⟨rfl, htype⟩
  rw [Peripheral.configValidate_eq]
  cases pConfig with
  | none =>
      refine ⟨rfl, ⟨?_, fun h => absurd (structureRejects_none P mem) h.1⟩, ?_⟩
      · rintro ⟨⟩
      · rintro ⟨⟩
  | some address =>
      have hstruct : StructureRejects P mem (some address) ↔ P.rejects mem address = true := by
        constructor
        · intro h
          exact h address rfl
        · intro h other heq
          obtain rfl : address = other := Option.some.inj heq
          exact h
      rw [hstruct]
      cases hrej : P.rejects mem address with
      | true =>
          simp only [configValidate, hrej, if_true, Prog.pure_eq, run_done]
          refine ⟨trivial, ⟨?_, fun h => absurd trivial h.1⟩, ?_⟩
          · rintro ⟨⟩
          · rintro ⟨⟩
      | false =>
          obtain ⟨hr, hrec, hw⟩ := run_callSlot codes (.configValidate (some address)) .ok s
          simp only [configValidate, hrej, Bool.false_eq_true, if_false, baseConfigValidate,
            run_bind, ht.run_typeRejects, run_get, not_false_eq_true, true_and]
          exact ⟨hrec, by rw [hr], fun _ => hw⟩

/-- The base layer leaves the pointer as it was stored. -/
theorem baseConfigSet_config (pConfig : Ptr) :
    (run (.ofCodes codes) (baseConfigSet .ref P.type pConfig) s).2.record.config =
      s.record.config := by
  rcases (baseConfigSet_outcome codes .ref P.type pConfig s).effect.record with h | ⟨state, h⟩
  · rw [h]
  · rw [h]
    rfl

/-- Past the store, the call keeps what the driver showed before (`old`) unless another pointer was stored
and the base layer fails. -/
theorem stored_atomic_iff (htype : s.record.base.type = P.type) (pConfig old : Ptr) :
    let out := run (.ofCodes codes) (baseConfigSet .ref P.type pConfig)
      (s.written (Driver.setConfig pConfig))
    (out.1 ≠ .ok → out.2.record.config = old) ↔
      ¬ (pConfig ≠ old ∧
        (pConfig = none ∨ PortRefuses codes pConfig (s.record.setConfig pConfig) s.world)) := by
  intro out
  have hstored : (s.written (Driver.setConfig pConfig)).record.base.type = P.type := htype
  have hconfig : out.2.record.config = pConfig := baseConfigSet_config codes pConfig
  have hfail : out.1 ≠ .ok ↔
      pConfig = none ∨ PortRefuses codes pConfig (s.record.setConfig pConfig) s.world :=
    run_baseConfigSet codes hstored pConfig
  rw [hconfig, hfail]
  constructor
  · rintro hkeep ⟨hne, hlate⟩
    exact hne (hkeep hlate)
  · intro hnot hlate
    by_contra hne
    exact hnot ⟨hne, hlate⟩

/-- A call is atomic when, if it fails, the driver shows the configuration that it showed before. -/
def ConfigSetAtomic (c : Ran Driver HookCall ErrorCode ErrorCode W (PeripheralCall P)) : Prop :=
  ∀ hasConfig pConfig, c.op = .call (.configSet hasConfig .ref pConfig) → c.value ≠ .ok →
    c.after.record.config = c.before.record.config

/-- Exactly the calls that do not fail after the store are atomic. -/
theorem configSet_atomic_iff (mem : ConfigMemory) (htype : s.record.base.type = P.type)
    (hasConfig : P ≠ .gpio) (pConfig : Ptr) :
    ((run (.ofCodes codes) (P.configSet mem hasConfig .ref pConfig) s).1 ≠ .ok →
        (run (.ofCodes codes) (P.configSet mem hasConfig .ref pConfig) s).2.record.config =
          s.record.config) ↔
      ¬ FailsAfterStore P mem codes pConfig s := by
  unfold FailsAfterStore
  cases hv : P.validates with
  | true =>
      rw [Peripheral.configSet_eq_validated mem hv]
      obtain ⟨hrec, hok, hworld⟩ := run_configValidate codes htype mem pConfig
      simp only [validatedConfigSet, run_bind, if_true]
      generalize run (.ofCodes codes) (P.configValidate mem .ref pConfig) s = out at hrec hok hworld ⊢
      obtain ⟨r, s₁⟩ := out
      simp only at hrec hok hworld
      by_cases hr : r = .ok
      · -- Past the checks there is a configuration, and the store comes next.
        obtain ⟨hstruct, hopinion⟩ := hok.1 hr
        have hnull : pConfig ≠ none := by
          rintro rfl
          exact hstruct (structureRejects_none P mem)
        simp only [ne_eq, hr, not_true_eq_false, if_false, run_bind, run_modify]
        have htype₁ : s₁.record.base.type = P.type := by
          rw [hrec]
          exact htype
        refine (stored_atomic_iff codes htype₁ pConfig s.record.config).trans ?_
        rw [hrec, hworld hr]
        simp [hstruct, hopinion, hnull]
      · -- Refused before the store.
        simp only [ne_eq, hr, not_false_eq_true, if_true, Prog.pure_eq, run_done]
        rw [hrec]
        constructor
        · intro _ hlate
          exact hr (hok.2 ⟨hlate.2.1, hlate.2.2.1⟩)
        · intro _ _
          rfl
  | false =>
      rw [Peripheral.configSet_eq_unchecked mem hv hasConfig]
      simp only [Bool.false_eq_true, if_false]
      exact stored_atomic_iff codes htype pConfig s.record.config

/-- Exactly the runs without a call that fails after the store are atomic. From any driver of type
`P`, in whatever state, over any operations of `P`, whatever the hooks answer. -/
theorem runs_atomic_iff (mem : ConfigMemory) (htype : s.record.base.type = P.type)
    (ops : List (PeripheralCall P)) :
    EveryCall (fun c _ => ConfigSetAtomic c)
        (history (.ofCodes codes) (PeripheralCall.prog mem) ops s) ↔
      EveryCall (fun c _ => ∀ hasConfig pConfig, c.op = .call (.configSet hasConfig .ref pConfig) →
        ¬ FailsAfterStore P mem codes pConfig c.before)
        (history (.ofCodes codes) (PeripheralCall.prog mem) ops s) := by
  -- Every operation keeps the tag, which is all that the rule for one call asks of a state.
  refine everyCall_history_iff (fun _ s => s.record.base.type = P.type)
    (fun op s _ h _ => ?_) (fun op s _ h => ?_) htype ops
  · exact run_maintains ((Env.ofCodes_keeps codes fun d => d.base.type).maintains P.type)
      (op.maintains mem) h
  · constructor
    · rintro hatomic hasConfig pConfig rfl
      exact (configSet_atomic_iff codes mem h hasConfig pConfig).1 (hatomic hasConfig pConfig rfl)
    · rintro hno hasConfig pConfig rfl
      exact (configSet_atomic_iff codes mem h hasConfig pConfig).2 (hno hasConfig pConfig rfl)

end Runs

/-- The rule at a UART that is brought up and given a configuration; a NULL after it is refused. -/
theorem runs_atomic_iff_uart :
    let s := populatedConf .uart (.ofCodes okHooks) zeroedDriver fullArgs ()
    let ops : List (PeripheralCall .uart) := [.call (.init .ref),
      .call (.configSet (by decide) .ref (some 1)), .call (.configSet (by decide) .ref none)]
    let calls := history (.ofCodes okHooks) (PeripheralCall.prog default) ops s
    (EveryCall (fun c _ => ConfigSetAtomic c) calls ↔
        EveryCall (fun c _ => ∀ hasConfig pConfig, c.op = .call (.configSet hasConfig .ref pConfig) →
          ¬ FailsAfterStore .uart default okHooks pConfig c.before) calls) ∧
      calls.map (fun c => (c.value, c.after.record.config)) =
        [(.badParam, some 1), (.ok, some 1), (.ok, some 0)] :=
  ⟨runs_atomic_iff okHooks default (populatedConf_type .uart _ zeroedDriver fullArgs ()) _,
    by decide +kernel⟩

/-- A port without a `config_set` hook. -/
def noConfigSetArgs : PopulateArgs :=
  { fullArgs with api := some ⟨{ fullTable with configSet := none }, fun _ => some 20⟩ }

/-- A live UART whose port cannot change its configuration reports NOT_SUPPORTED, and shows the new
configuration. -/
theorem unsupported_configSet_not_atomic :
    ¬ EveryCall (fun c _ => ConfigSetAtomic c)
      (history (.ofCodes okHooks) (PeripheralCall.prog default)
        [PeripheralCall.call (P := .uart) (.init .ref),
          .call (.configSet (by decide) .ref (some 1))]
        (populatedConf .uart (.ofCodes okHooks) zeroedDriver noConfigSetArgs ())) := by
  intro h
  obtain ⟨hlast, -⟩ := (everyCall_cons _ _).1 h
  have hkept := hlast (by decide) (some 1) rfl (by decide)
  exact absurd hkept (by decide)

end CaffeineHal
