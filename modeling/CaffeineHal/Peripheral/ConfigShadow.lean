import CaffeineHal.Peripheral.ConfigSet
import CaffeineHal.Peripheral.Representation

/-!
# The configuration shadow

A driver stores a pointer to its configuration, and `config_get` reads it back. The hardware has the
configuration that the port was started on, or given since. `lastConfigMove` reads that off the hook calls, and
`Configured` says that a live driver shows what its hardware has.

`configShadow_iff` says exactly which runs keep it so: those in which no `config_set` on a live driver fails
after it stored another pointer. Nothing else can part the two: neither a failed `init` or `deinit`, nor a
refused validation, nor a `config_set` while the driver is down, since `init` starts the port on what is stored.
-/

set_option autoImplicit false

namespace CaffeineHal

open CaffeineHal.Program

variable {W : Type}

/-- A call that gave the port a configuration, and returned OK: `init` is made on a driver that stores one. -/
def HalEvent.configMove (e : HalEvent) : Option Ptr :=
  if e.answer = .ok then
    match e.call with
    | .vmt _ .init => some e.record.config
    | .vmt _ (.configSet pConfig) => some pConfig
    | _ => none
  else
    none

/-- The configuration that the hardware has. -/
def lastConfigMove (log : List HalEvent) : Option Ptr :=
  log.findSome? HalEvent.configMove

/-- A live driver shows the configuration that its hardware has. -/
def Configured (s : HalConf W) : Prop :=
  s.record.base.status = .initialized → lastConfigMove s.log = some s.record.config

section Log

theorem configMove_of_ungated {e : HalEvent} (h : e.Ungated) : e.configMove = none := by
  obtain ⟨c, d, r⟩ := e
  unfold HalEvent.configMove
  split
  · cases c with
    | vmt fn req =>
        cases req with
        | init => exact absurd rfl (h.1 fn)
        | configSet pConfig => exact absurd rfl (h.2 fn pConfig)
        | _ => rfl
    | _ => rfl
  · rfl

theorem configMove_of_failed (c : HookCall) (d : Driver) {r : ErrorCode} (hr : r ≠ .ok) :
    HalEvent.configMove ⟨c, d, r⟩ = none :=
  if_neg hr

theorem lastConfigMove_append {evs : List HalEvent} (h : ∀ e ∈ evs, e.configMove = none)
    (older : List HalEvent) : lastConfigMove (evs ++ older) = lastConfigMove older := by
  have hnone : evs.findSome? HalEvent.configMove = none := List.findSome?_eq_none_iff.2 h
  rw [lastConfigMove, List.findSome?_append, hnone]
  rfl

theorem lastConfigMove_cons {e : HalEvent} (h : e.configMove = none) (older : List HalEvent) :
    lastConfigMove (e :: older) = lastConfigMove older := by
  rw [lastConfigMove, List.findSome?_cons, h]
  rfl

end Log

section Steps

variable {P : Peripheral} {s s' : HalConf W} {r missing : ErrorCode} {phase : ConfigPhase}
  {pApi : Option ApiBase} {req : BaseRequest} {pConfig : Ptr}

theorem Harmless.lastConfigMove (h : Harmless s s') : lastConfigMove s'.log = lastConfigMove s.log := by
  obtain ⟨evs, hlog, hevs⟩ := h.calls
  rw [hlog]
  exact lastConfigMove_append (fun e he => configMove_of_ungated (hevs e he)) s.log

theorem Configured.of_harmless (h : Configured s) (hh : Harmless s s') : Configured s' := by
  intro hs
  rw [hh.lastConfigMove, hh.config]
  exact h (hh.live hs)

theorem BoardCall.lastConfigMove (h : BoardCall phase s r s') :
    lastConfigMove s'.log = lastConfigMove s.log := by
  cases h with
  | absent _ => rfl
  | hook r x _ =>
      refine lastConfigMove_cons (configMove_of_ungated ⟨?_, ?_⟩) s.log
      · rintro fn ⟨⟩
      · rintro fn p ⟨⟩

theorem SlotCall.lastConfigMove_failed (h : SlotCall pApi req missing s r s') (hr : r ≠ .ok) :
    lastConfigMove s'.log = lastConfigMove s.log := by
  cases h with
  | absent _ => rfl
  | hook r x _ => exact lastConfigMove_cons (configMove_of_failed _ _ hr) s.log

theorem SlotCall.lastConfigMove_validate (h : SlotCall pApi (.configValidate pConfig) missing s r s') :
    lastConfigMove s'.log = lastConfigMove s.log := by
  cases h with
  | absent _ => rfl
  | hook r x _ =>
      refine lastConfigMove_cons (configMove_of_ungated ⟨?_, ?_⟩) s.log
      · rintro fn ⟨⟩
      · rintro fn p ⟨⟩

/-! ## `init` -/

theorem InitOutcome.configured (ho : InitOutcome .ref P.type s r s') (h : Configured s) :
    Configured s' := by
  cases ho with
  | refused _ => exact h
  | alreadyInit _ _ => exact h
  | boardFailed _ hs _ hb =>
      intro hs'
      rw [hb.record] at hs'
      exact absurd hs' hs
  | rolledBack _ hs hb hi _ hd =>
      intro hs'
      rw [hd.record, hi.record, hb.record] at hs'
      exact absurd hs' hs
  | live _ _ _ hi =>
      -- The port was started on the configuration that the driver still shows.
      obtain ⟨fn, x, rfl⟩ := hi.of_ne nofun
      intro _
      rfl

theorem LinkedAndValidated.harmless (hv : LinkedAndValidated s s') (h : Represented P s.record) :
    Harmless s s' := by
  obtain ⟨evs, hlog, hevs⟩ := hv.calls
  have hrec : s'.record = s.record := hv.record.trans (linkVmt_eq h.table)
  refine ⟨by rw [hrec], by rw [hrec], by rw [hrec], by rw [hrec], fun hs => ?_, evs, hlog, ?_⟩
  · rw [hrec] at hs
    exact hs
  · intro e he
    obtain ⟨fn, p, hcall⟩ := hevs e he
    unfold HalEvent.Ungated
    simp [hcall]

theorem init_configured (codes : HookCodes W) (mem : ConfigMemory) (driver : DriverPtr)
    (hr : Represented P s.record) (h : Configured s) :
    Configured (run (.ofCodes codes) (P.init mem driver) s).2 := by
  have ho := init_outcome codes mem (P := P) s driver
  generalize run (.ofCodes codes) (P.init mem driver) s = out at ho ⊢
  obtain ⟨r, s'⟩ := out
  cases ho with
  | initNull => exact h
  | initRejected _ hv => exact h.of_harmless (hv.harmless hr)
  | initBase hv ho => exact ho.configured (h.of_harmless (hv.harmless hr))
  | upkeep hc _ => cases hc

/-! ## `config_set` -/

/-- The base layer gives the configuration to a live port, or fails. -/
theorem ConfigSetOutcome.move (ho : ConfigSetOutcome .ref P.type pConfig s r s')
    (hs : s.record.base.status = .initialized) (hv : s.record.base.vmt ≠ none) :
    (r = .ok → lastConfigMove s'.log = some pConfig) ∧
      (r ≠ .ok → lastConfigMove s'.log = lastConfigMove s.log) := by
  cases ho with
  | refused _ => exact ⟨nofun, fun _ => rfl⟩
  | deferred _ _ hdown =>
      rcases hdown with hdown | hdown
      · exact absurd hs hdown
      · exact absurd hdown hv
  | rejected _ _ _ hc hr => exact ⟨fun hok => absurd hok hr, fun _ => hc.lastConfigMove_validate⟩
  | applied _ _ _ hc hset =>
      constructor
      · rintro rfl
        obtain ⟨fn, x, rfl⟩ := hset.of_ne nofun
        rfl
      · intro hr
        rw [hset.lastConfigMove_failed hr, hc.lastConfigMove_validate]

/-- What a `config_set` on a live driver has given to the port. -/
theorem configSet_move (codes : HookCodes W) (mem : ConfigMemory) (hasConfig : P ≠ .gpio)
    (pConfig : Ptr) (h : Represented P s.record) (hs : s.record.base.status = .initialized) :
    let out := run (.ofCodes codes) (P.configSet mem hasConfig .ref pConfig) s
    (out.1 = .ok → lastConfigMove out.2.log = some out.2.record.config) ∧
      (out.1 ≠ .ok → lastConfigMove out.2.log = lastConfigMove s.log) := by
  have hv : s.record.base.vmt ≠ none := by
    obtain ⟨t, ht, -⟩ := h.live hs
    rw [ht]
    exact Option.some_ne_none t
  -- The base layer's part, on a driver that shows the new pointer.
  have hbase {s₁ : HalConf W} (hrec : s₁.record = s.record) :
      let out := run (.ofCodes codes) (baseConfigSet .ref P.type pConfig)
        (s₁.written (Driver.setConfig pConfig))
      (out.1 = .ok → lastConfigMove out.2.log = some out.2.record.config) ∧
        (out.1 ≠ .ok → lastConfigMove out.2.log = lastConfigMove s₁.log) := by
    intro out
    have hconfig : out.2.record.config = pConfig := baseConfigSet_config codes pConfig
    have ho : ConfigSetOutcome .ref P.type pConfig (s₁.written (Driver.setConfig pConfig)) out.1 out.2 :=
      baseConfigSet_outcome codes .ref P.type pConfig _
    rw [hconfig]
    rw [← hrec] at hs hv
    exact ho.move hs hv
  cases hP : P.validates with
  | false =>
      rw [Peripheral.configSet_eq_unchecked mem hP hasConfig]
      exact hbase rfl
  | true =>
      rw [Peripheral.configSet_eq_validated mem hP]
      obtain ⟨hrec, -, -⟩ := run_configValidate codes h.type mem pConfig
      have hval := configValidate_harmless codes mem P .ref pConfig s
      simp only [validatedConfigSet, run_bind]
      generalize run (.ofCodes codes) (P.configValidate mem .ref pConfig) s = out at hrec hval ⊢
      obtain ⟨r, s₁⟩ := out
      by_cases hr : r = .ok
      · simp only [ne_eq, hr, not_true_eq_false, if_false, run_bind, run_modify]
        have hstored := hbase hrec
        rw [hval.lastConfigMove] at hstored
        exact hstored
      · simp only [ne_eq, hr, not_false_eq_true, if_true]
        exact ⟨fun hok => absurd hok hr, fun _ => hval.lastConfigMove⟩

/-- A `config_set` on a live driver parts the driver from its hardware exactly if it fails after it stored
another pointer. -/
theorem configSet_configured_iff (codes : HookCodes W) (mem : ConfigMemory) (hasConfig : P ≠ .gpio)
    (pConfig : Ptr) (hr : Represented P s.record) (h : Configured s) :
    Configured (run (.ofCodes codes) (P.configSet mem hasConfig .ref pConfig) s).2 ↔
      (s.record.base.status = .initialized → ¬ FailsAfterStore P mem codes pConfig s) := by
  have hatomic := configSet_atomic_iff codes mem hr.type hasConfig pConfig
  have hmove := configSet_move codes mem hasConfig pConfig hr
  have hup := configSet_upkeep codes mem s hasConfig .ref pConfig
  rw [← hatomic]
  generalize run (.ofCodes codes) (P.configSet mem hasConfig .ref pConfig) s = out at hmove hup ⊢
  obtain ⟨state, stored, callback, pUserArg, hrec⟩ := hup
  have hstatus : out.2.record.base.status = s.record.base.status := by
    rw [hrec]
    rfl
  unfold Configured
  rw [hstatus]
  refine forall_congr' fun hs => ?_
  obtain ⟨hok, hfailed⟩ := hmove hs
  by_cases hr : out.1 = .ok
  · exact iff_of_true (hok hr) fun hne => absurd hr hne
  · -- The hardware has what it had, which is what the driver showed.
    rw [hfailed hr, h hs]
    constructor
    · intro heq _
      exact (Option.some.inj heq).symm
    · intro hkeep
      exact congrArg some (hkeep hr).symm

theorem nullChecked_configured {env : HalEnv W} {driver : DriverPtr} {p : HalM ErrorCode}
    (h : Configured s) (hp : Harmless s (run env p s).2) :
    Configured (run env (match driver with
      | .null => return .badParam
      | .ref => p : HalM ErrorCode) s).2 := by
  cases driver with
  | null => exact h
  | ref => exact h.of_harmless hp

/-- A call that neither starts the port nor gives it a configuration. -/
theorem WrapperCall.configured (codes : HookCodes W) (mem : ConfigMemory) (c : WrapperCall P)
    (hc : ∀ hasConfig pConfig, c ≠ .configSet hasConfig .ref pConfig) (hr : Represented P s.record)
    (h : Configured s) : Configured (run (.ofCodes codes) (c.prog mem) s).2 := by
  by_cases he : c.isEventError = true
  · obtain ⟨driver, _, _, req, hreq, hprog, -⟩ := c.eventError_eq mem he
    rw [hprog]
    apply nullChecked_configured h
    refine (eventErrorCall_effect codes .ref _ _ _ _ s).harmless ?_ ?_
    · exact BaseRequest.isService_of_eventError hreq
    · rintro pConfig rfl
      cases hreq
  cases c with
  | init driver => exact init_configured codes mem driver hr h
  | configSet hasConfig driver pConfig =>
      cases driver with
      | ref => exact absurd rfl (hc hasConfig pConfig)
      | null =>
          have hnull : P.configSet mem hasConfig .null pConfig = .done .badParam := by
            cases P <;> first | rfl | exact absurd rfl hasConfig
          rw [WrapperCall.prog, hnull]
          exact h
  | configValidate driver pConfig =>
      exact h.of_harmless (configValidate_harmless codes mem P driver pConfig s)
  | callbackRegister driver callback pUserArg =>
      exact h.of_harmless (callbackRegister_harmless codes driver callback pUserArg)
  | specific func own driver args => exact h.of_harmless (specific_harmless codes func driver args)
  | deinit driver =>
      apply nullChecked_configured h
      exact deinit_harmless (baseDeinit_outcome codes .ref P.type s)
  | powerStateSet driver state =>
      apply nullChecked_configured h
      refine (powerStateSet_outcome codes .ref P.type state s).effect.harmless rfl fun pConfig heq => ?_
      cases heq
  | _ => exact absurd rfl he

/-- Every other operation leaves the driver with what its hardware has. -/
theorem PeripheralCall.configured (codes : HookCodes W) (mem : ConfigMemory) (op : PeripheralCall P)
    (hop : ∀ hasConfig pConfig, op ≠ .call (.configSet hasConfig .ref pConfig))
    (hr : Represented P s.record) (h : Configured s) :
    Configured (run (.ofCodes codes) (op.prog mem) s).2 := by
  -- A driver that was populated is not live.
  have populated (driver : DriverPtr) (args : PopulateArgs) :
      Configured (run (.ofCodes codes) (P.populate driver args) s).2 := by
    cases driver with
    | null => exact h
    | ref =>
        intro hs
        cases hs
  cases op with
  | call c =>
      exact c.configured codes mem (fun hasConfig pConfig hc => hop hasConfig pConfig (by rw [hc])) hr h
  | populate driver args =>
      simp only [PeripheralCall.prog, run_bind]
      exact populated driver args
  | construct portApi driver config phy clock dependency callback userArg =>
      simp only [PeripheralCall.prog, Peripheral.construct]
      split
      · exact h
      · simp only [run_bind]
        exact populated driver _
  | destruct driver =>
      simp only [PeripheralCall.prog, Peripheral.destruct]
      split
      · exact h
      · simp only [run_bind]
        exact populated driver _
  | setOnConfig onConfig arg => exact h

end Steps

/-! ## Runs -/

/-- Exactly the runs without a `config_set` that fails after the store on a live driver keep the driver as its
hardware is. From any populated driver, over any operations of its peripheral, whatever the hooks answer. -/
theorem configShadow_iff (P : Peripheral) (mem : ConfigMemory) (codes : HookCodes W) (memory : Driver)
    (args : PopulateArgs) (ops : List (PeripheralCall P)) (x : W) :
    let calls := history (.ofCodes codes) (PeripheralCall.prog mem) ops
      (populatedConf P (.ofCodes codes) memory args x)
    EveryCall (fun c _ => Configured c.after) calls ↔
      EveryCall (fun c _ => c.before.record.base.status = .initialized → ∀ hasConfig pConfig,
        c.op = .call (.configSet hasConfig .ref pConfig) → ¬ FailsAfterStore P mem codes pConfig c.before)
        calls := by
  intro calls
  refine everyCall_history_iff (fun _ s => Represented P s.record ∧ Configured s)
    (fun op s _ h hc => ⟨op.represented codes mem h.1, hc⟩) (fun op s _ h => ?_) ?_ ops
  · obtain ⟨hr, h⟩ := h
    by_cases hop : ∃ hasConfig pConfig, op = .call (.configSet hasConfig .ref pConfig)
    · obtain ⟨hasConfig, pConfig, rfl⟩ := hop
      refine (configSet_configured_iff codes mem hasConfig pConfig hr h).trans ?_
      refine forall_congr' fun hs => ⟨?_, fun hno => hno hasConfig pConfig rfl⟩
      rintro hno _ _ heq
      injection heq with heq
      injection heq with _ heq
      subst heq
      exact hno
    · have hop : ∀ hasConfig pConfig, op ≠ .call (.configSet hasConfig .ref pConfig) :=
        fun hasConfig pConfig heq => hop ⟨hasConfig, pConfig, heq⟩
      exact iff_of_true (op.configured codes mem hop hr h) fun _ hasConfig pConfig heq =>
        absurd heq (hop hasConfig pConfig)
  · exact ⟨populated_represented P _ args _, nofun⟩

end CaffeineHal
