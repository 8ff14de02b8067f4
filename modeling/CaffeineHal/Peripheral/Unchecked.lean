import CaffeineHal.Peripheral.Gate

/-!
# Setters without a gate

The clock, the crypto engine and the timer store a configuration and hand it on without a call of their
own validator, and `cfn_hal_gpio_pin_config` does not call `cfn_hal_gpio_pin_config_validate`, while the
18 other peripherals validate first. What the validator refuses is therefore stored or passed to the
port.

`settersRefuse_iff` says which runs are right all the same: exactly those in which no setter is given a
configuration that the validator refuses, except for a NULL over a NULL and for a pin of a port that
cannot configure pins.
-/

set_option autoImplicit false

namespace CaffeineHal

open CaffeineHal.Program

variable {W : Type}

/-- The port's `pin_config` hook of a driver. -/
def pinConfigHook (d : Driver) : Option FnPtr :=
  d.api.bind fun api => api.specific .gpioPinConfig

/-- What is expected of an operation of a peripheral with a validator: a setter refuses what the
validator refuses and passes it to no hook, `config_set` leaves the stored configuration, and a live
driver, if it has a configuration, has one that the validator accepts. -/
structure RefusesRejected (env : HalEnv W) (mem : ConfigMemory) (P : Peripheral)
    (c : Ran Driver HookCall ErrorCode ErrorCode W (PeripheralCall P)) : Prop where
  configSet : ∀ hasConfig pConfig, c.op = .call (.configSet hasConfig .ref pConfig) →
    ¬ ValidatorAccepts env mem P c.before.record pConfig →
      c.value ≠ .ok ∧ (∀ e ∈ c.calls, ∀ fn, e.call ≠ .vmt fn (.configSet pConfig)) ∧
        c.after.record.config = c.before.record.config
  pinConfig : ∀ own pPinCfg, c.op = .call (.specific .gpioPinConfig own .ref [.ptr pPinCfg]) →
    ¬ ValidatorAccepts env mem P c.before.record pPinCfg →
      c.value ≠ .ok ∧ ∀ e ∈ c.calls, ∀ fn, e.call ≠ .api fn .gpioPinConfig [.ptr pPinCfg]
  live : P ≠ .gpio → c.after.record.base.status = .initialized →
    c.after.record.config ≠ none ∧
      ValidatorAccepts env mem P c.after.record c.after.record.config

/-- A setter is given a configuration that the validator accepts, or one that it happens to refuse: NULL
where NULL is stored, or a pin of a port without a `pin_config` hook. -/
structure GivenAccepted (env : HalEnv W) (mem : ConfigMemory) (P : Peripheral)
    (c : Ran Driver HookCall ErrorCode ErrorCode W (PeripheralCall P)) : Prop where
  configSet : ∀ hasConfig pConfig, c.op = .call (.configSet hasConfig .ref pConfig) →
    ValidatorAccepts env mem P c.before.record pConfig ∨
      pConfig = none ∧ c.before.record.config = none
  pinConfig : ∀ own pPinCfg, c.op = .call (.specific .gpioPinConfig own .ref [.ptr pPinCfg]) →
    ValidatorAccepts env mem P c.before.record pPinCfg ∨ pinConfigHook c.before.record = none

section Setters

variable {mem : ConfigMemory} {opinion : FnPtr → Ptr → ErrorCode} {P : Peripheral} {s : HalConf W}

/-! ## `config_set` -/

theorem run_uncheckedConfigSet_null (codes : HookCodes W) (htype : s.record.base.type = P.type) :
    run (.ofCodes codes) (uncheckedConfigSet P .ref none) s =
      (.badParam, s.written (Driver.setConfig none)) := by
  have ht : Typed .ref P.type (s.record.setConfig none) := ⟨rfl, htype⟩
  simp [uncheckedConfigSet, baseConfigSet, ht]

/-- An unchecked `config_set` that fails on a gated driver and keeps its configuration was given one that
passes, or NULL over NULL. -/
theorem passes_of_refused (codes : HookCodes W) (h : Gated mem opinion P s) (pConfig : Ptr)
    (hvalue : (run (.ofCodes codes) (uncheckedConfigSet P .ref pConfig) s).1 ≠ .ok)
    (hconfig : (run (.ofCodes codes) (uncheckedConfigSet P .ref pConfig) s).2.record.config =
      s.record.config) :
    Passes mem opinion P s.record pConfig ∨ pConfig = none ∧ s.record.config = none := by
  have hstored : (s.written (Driver.setConfig pConfig)).record.base.type = P.type := h.type
  have hsame : pConfig = s.record.config := by
    have hkept :=
      baseConfigSet_config (P := P) (s := s.written (Driver.setConfig pConfig)) codes pConfig
    exact hkept.symm.trans hconfig
  -- What is stored already fails only where it is NULL, or where the driver is live and it passes.
  rcases (run_baseConfigSet codes hstored pConfig).1 hvalue with hnull | hport
  · exact .inr ⟨hnull, hsame ▸ hnull⟩
  · refine .inl ?_
    rw [hsame]
    exact h.live hport.1

/-- After such a call the driver is gated still. -/
theorem uncheckedConfigSet_gated (codes : HookCodes W) (h : Gated mem opinion P s) (pConfig : Ptr)
    (hgiven : Passes mem opinion P s.record pConfig ∨ pConfig = none ∧ s.record.config = none) :
    Gated mem opinion P (run (.ofCodes codes) (uncheckedConfigSet P .ref pConfig) s).2 := by
  rcases hgiven with hp | ⟨rfl, hnull⟩
  · exact stored_gated codes pConfig h hp
  · rw [run_uncheckedConfigSet_null codes h.type]
    have hstored : Harmless s (s.written (Driver.setConfig none)) :=
      ⟨rfl, rfl, rfl, hnull.symm, id, Conf.calls_refl _ _⟩
    exact h.of_harmless hstored

/-! ## `pin_config` -/

/-- `cfn_hal_gpio_pin_config` on a GPIO driver: without a hook it fails, and with one it hands on what it
was given. -/
theorem run_gpioPinConfig (codes : HookCodes W) (htype : s.record.base.type = Peripheral.gpio.type)
    (pPinCfg : Ptr) :
    match pinConfigHook s.record with
    | none => ∃ r, r ≠ .ok ∧ run (.ofCodes codes) (gpioPinConfig .ref pPinCfg) s = (r, s)
    | some fn => ∃ r x, run (.ofCodes codes) (gpioPinConfig .ref pPinCfg) s =
        (r, s.called (.api fn .gpioPinConfig [.ptr pPinCfg]) r x) := by
  have hguard : s.record.base.type = SpecificFn.gpioPinConfig.peripheral.type := htype
  simp only [gpioPinConfig, SpecificFn.call, checkAndCallFunc, run_bind, run_get, hguard, if_true,
    pinConfigHook]
  cases s.record.api with
  | none => exact ⟨.badParam, by rintro ⟨⟩, rfl⟩
  | some api =>
      cases hslot : api.specific .gpioPinConfig with
      | none =>
          simp only [Option.bind_some, hslot]
          exact ⟨.notSupported, by rintro ⟨⟩, rfl⟩
      | some fn =>
          simp only [Option.bind_some, hslot]
          exact ⟨_, _, rfl⟩

/-! ## One operation -/

theorem GivenAccepted.gated {codes : HookCodes W} {op : PeripheralCall P}
    (hP : P.validates = false) (hg : P ≠ .gpio) (h : Gated mem opinion P s)
    (hgiven : GivenAccepted (.ofCodes (pureValidator opinion codes)) mem P
      (ran (.ofCodes (pureValidator opinion codes)) (PeripheralCall.prog mem) op s)) :
    Gated mem opinion P (run (.ofCodes (pureValidator opinion codes)) (op.prog mem) s).2 := by
  refine op.gated codes hg h ?_
  rintro hasConfig driver pConfig rfl
  simp only [PeripheralCall.prog, WrapperCall.prog,
    Peripheral.configSet_eq_unchecked mem hP hasConfig]
  cases driver with
  | null => exact h
  | ref =>
      refine uncheckedConfigSet_gated _ h pConfig ?_
      rcases hgiven.configSet hasConfig pConfig rfl with haccepts | hnull
      · exact .inl ((validatorAccepts_iff h.type s.world).1 haccepts)
      · exact .inr hnull

/-- An operation given what the validator accepts does what is expected of it. -/
theorem GivenAccepted.refuses {codes : HookCodes W} {op : PeripheralCall P}
    (hP : P.validates = false) (htype : s.record.base.type = P.type)
    (h : P ≠ .gpio → Gated mem opinion P s)
    (hgiven : GivenAccepted (.ofCodes (pureValidator opinion codes)) mem P
      (ran (.ofCodes (pureValidator opinion codes)) (PeripheralCall.prog mem) op s)) :
    RefusesRejected (.ofCodes (pureValidator opinion codes)) mem P
      (ran (.ofCodes (pureValidator opinion codes)) (PeripheralCall.prog mem) op s) := by
  constructor
  · rintro hasConfig pConfig rfl hrejects
    -- What is left is NULL over NULL, which the base layer refuses.
    rcases hgiven.configSet hasConfig pConfig rfl with haccepts | ⟨rfl, hnull⟩
    · exact absurd haccepts hrejects
    have hrun := run_uncheckedConfigSet_null (pureValidator opinion codes) htype
    rw [← Peripheral.configSet_eq_unchecked mem hP hasConfig] at hrun
    refine ⟨?_, ?_, ?_⟩
    · simp only [ran, PeripheralCall.prog, WrapperCall.prog, hrun]
      rintro ⟨⟩
    · rw [Ran.calls_eq_nil]
      · exact List.forall_mem_nil _
      · simp only [ran, PeripheralCall.prog, WrapperCall.prog, hrun]
        rfl
    · simp only [ran, PeripheralCall.prog, WrapperCall.prog, hrun]
      exact hnull.symm
  · rintro own pPinCfg rfl hrejects
    -- What is left is a pin of a port without the hook.
    rcases hgiven.pinConfig own pPinCfg rfl with haccepts | hhook
    · exact absurd haccepts hrejects
    have hgpio : s.record.base.type = Peripheral.gpio.type := by
      rw [htype, ← own]
      rfl
    have hrun := run_gpioPinConfig (pureValidator opinion codes) hgpio pPinCfg
    simp only [ran] at hhook
    rw [hhook] at hrun
    obtain ⟨r, hr, hrun⟩ := hrun
    refine ⟨?_, ?_⟩
    · simp only [ran, PeripheralCall.prog, WrapperCall.prog]
      exact fun hok => hr ((congrArg Prod.fst hrun).symm.trans hok)
    · rw [Ran.calls_eq_nil (congrArg (fun out => out.2.log) hrun)]
      exact List.forall_mem_nil _
  · intro hg hs
    have hgated := hgiven.gated hP hg (h hg)
    exact (hgated.shut codes).live hs

/-- An operation that does what is expected of it was given what the validator accepts. -/
theorem RefusesRejected.given {codes : HookCodes W} {op : PeripheralCall P}
    (hP : P.validates = false) (htype : s.record.base.type = P.type)
    (h : P ≠ .gpio → Gated mem opinion P s)
    (hrefuses : RefusesRejected (.ofCodes (pureValidator opinion codes)) mem P
      (ran (.ofCodes (pureValidator opinion codes)) (PeripheralCall.prog mem) op s)) :
    GivenAccepted (.ofCodes (pureValidator opinion codes)) mem P
      (ran (.ofCodes (pureValidator opinion codes)) (PeripheralCall.prog mem) op s) := by
  constructor
  · rintro hasConfig pConfig rfl
    by_contra hnot
    obtain ⟨hrejects, hnull⟩ := not_or.1 hnot
    obtain ⟨hvalue, -, hconfig⟩ := hrefuses.configSet hasConfig pConfig rfl hrejects
    simp only [ran, PeripheralCall.prog, WrapperCall.prog,
      Peripheral.configSet_eq_unchecked mem hP hasConfig] at hvalue hconfig
    rcases passes_of_refused _ (h hasConfig) pConfig hvalue hconfig with hp | hboth
    · exact hrejects ((validatorAccepts_iff htype s.world).2 hp)
    · exact hnull hboth
  · rintro own pPinCfg rfl
    by_contra hnot
    obtain ⟨hrejects, hhook⟩ := not_or.1 hnot
    obtain ⟨-, hcalls⟩ := hrefuses.pinConfig own pPinCfg rfl hrejects
    have hgpio : s.record.base.type = Peripheral.gpio.type := by
      rw [htype, ← own]
      rfl
    have hrun := run_gpioPinConfig (pureValidator opinion codes) hgpio pPinCfg
    cases hfn : pinConfigHook s.record with
    | none => exact hhook hfn
    | some fn =>
        -- The hook is called with the pin's configuration, whatever it is.
        rw [hfn] at hrun
        obtain ⟨r, x, hrun⟩ := hrun
        rw [Ran.calls_eq_singleton (congrArg (fun out => out.2.log) hrun)] at hcalls
        exact hcalls _ (List.mem_singleton_self _) fn rfl

end Setters

/-! ## Runs -/

/-- The setters refuse what the validators refuse exactly in the runs that never give them any of it.
For the clock, the crypto engine, the timer and the GPIO, over any operations from the moment the driver
is populated, whatever the hooks answer. -/
theorem settersRefuse_iff {P : Peripheral} (hP : P.validates = false) (mem : ConfigMemory)
    (opinion : FnPtr → Ptr → ErrorCode) (codes : HookCodes W) (memory : Driver) (args : PopulateArgs)
    (ops : List (PeripheralCall P)) (x : W) :
    let env : HalEnv W := .ofCodes (pureValidator opinion codes)
    let calls := history env (PeripheralCall.prog mem) ops (populatedConf P env memory args x)
    EveryCall (fun c _ => RefusesRejected env mem P c) calls ↔
      EveryCall (fun c _ => GivenAccepted env mem P c) calls := by
  intro env calls
  -- The tag is kept by every operation, the gate by those that do what is expected of them.
  refine everyCall_history_iff
    (fun _ s => s.record.base.type = P.type ∧ (P ≠ .gpio → Gated mem opinion P s))
    (fun op s _ hinv hrefuses => ?_) (fun op s _ hinv => ?_)
    ⟨rfl, fun _ => populatedConf_gated env memory args x⟩ ops
  · obtain ⟨htype, hgated⟩ := hinv
    have hgiven := hrefuses.given hP htype hgated
    refine ⟨?_, fun hg => hgiven.gated hP hg (hgated hg)⟩
    have hkeeps : env.Keeps fun d => d.base.type := Env.ofCodes_keeps _ _
    exact run_maintains (hkeeps.maintains P.type) (op.maintains mem) htype
  · obtain ⟨htype, hgated⟩ := hinv
    exact ⟨fun hrefuses => hrefuses.given hP htype hgated,
      fun hgiven => hgiven.refuses hP htype hgated⟩

/-- The rule at a crypto driver that is given a configuration, brought up and given another one. -/
theorem settersRefuse_iff_crypto :
    let env : HalEnv Unit := .ofCodes (pureValidator (fun _ _ => .ok) okHooks)
    let ops : List (PeripheralCall .crypto) := [.call (.configSet (by decide) .ref (some 1)),
      .call (.init .ref), .call (.configSet (by decide) .ref (some 2))]
    let calls := history env (PeripheralCall.prog default) ops
      (populatedConf .crypto env zeroedDriver fullArgs ())
    (EveryCall (fun c _ => RefusesRejected env default .crypto c) calls ↔
        EveryCall (fun c _ => GivenAccepted env default .crypto c) calls) ∧
      calls.map (fun c => (c.value, c.after.record.config)) =
        [(.ok, some 2), (.ok, some 1), (.ok, some 1)] :=
  ⟨settersRefuse_iff (P := .crypto) rfl default _ okHooks zeroedDriver fullArgs _ (), by decide +kernel⟩

/-- A configuration memory with an unknown algorithm at address 1. -/
def unknownAlgorithm : ConfigMemory :=
  { (default : ConfigMemory) with crypto := fun address => if address = 1 then ⟨99⟩ else default }

/-- A crypto driver that was just populated takes the unknown algorithm and returns OK. -/
theorem cryptoConfigSet_takes_rejected :
    let env : HalEnv Unit := .ofCodes (pureValidator (fun _ _ => .ok) okHooks)
    ¬ EveryCall (fun c _ => RefusesRejected env unknownAlgorithm .crypto c)
      (history env (PeripheralCall.prog unknownAlgorithm)
        [PeripheralCall.call (P := .crypto) (.configSet (by decide) .ref (some 1))]
        (populatedConf .crypto env zeroedDriver fullArgs ())) := by
  intro env h
  obtain ⟨hset, -⟩ := (everyCall_cons _ _).1 h
  have hrejects : ¬ ValidatorAccepts env unknownAlgorithm .crypto
      (populatedConf .crypto env zeroedDriver fullArgs ()).record (some 1) := by
    intro haccepts
    exact absurd (haccepts () []) (by decide)
  obtain ⟨hvalue, -, -⟩ := hset.configSet (by decide) (some 1) rfl hrejects
  exact hvalue (by decide)

end CaffeineHal
