import CaffeineHal.Lifecycle.HookLog

/-!
# Lifecycle balance

Every run of the base layer follows the bring-up discipline: `Balanced` says that the monitor of the
discipline accepts the hook log and that its state is the one the status field stands for. Each exit
of `cfn_hal_base_init` and `cfn_hal_base_deinit` keeps it (`init_balanced`, `deinit_balanced`), and so
does every service call (`service_balanced`); `run_balanced` is the induction over calls.

`lifecycle_balanced` reads off what the discipline gives: the resources held, the order of the hook
calls, and what the status says about the peripheral.
-/

set_option autoImplicit false

namespace CaffeineHal

open CaffeineHal.Program CaffeineHal.Lifecycle

variable {W : Type}

/-- The phase that a status stands for between two calls. -/
def DriverStatus.phase (status : DriverStatus) : Phase :=
  if status = .initialized then .live else .down

/-- The status after a call agrees with the hooks called so far. -/
structure Balanced (fn : FnPtr) (s : HalConf W) : Prop where
  onConfig : s.record.base.onConfig = some fn
  status : s.record.base.status = .constructed ∨ s.record.base.status = .initialized
  tracked : bringup.track (actions s.log) = some s.record.base.status.phase

section Steps

variable {fn : FnPtr} {s s' : HalConf W} {r : ErrorCode} {pBase : DriverPtr}
  {expectedType : PeripheralType} {q : Phase}

/-- Asking the board leads from `down` to `held` exactly when it agrees. -/
theorem BoardCall.track_init (h : BoardCall .init s r s') (hfn : s.record.base.onConfig = some fn)
    (hs : bringup.track (actions s.log) = some .down) :
    bringup.track (actions s'.log) = some (if r = .ok then .held else .down) := by
  obtain ⟨x, rfl⟩ := h.of_some hfn
  rw [Conf.called_log, actions_cons_onInit, Monitor.track_cons, hs, Option.bind_some, next_acquire]
  simp only [decide_eq_true_eq]

/-- Giving the resources back leads from `held` to `down`, whatever the board answers. -/
theorem BoardCall.track_deinit (h : BoardCall .deinit s r s')
    (hfn : s.record.base.onConfig = some fn)
    (hs : bringup.track (actions s.log) = some .held) :
    bringup.track (actions s'.log) = some .down := by
  obtain ⟨x, rfl⟩ := h.of_some hfn
  rw [Conf.called_log, actions_cons_onDeinit, Monitor.track_cons, hs]
  rfl

theorem SlotCall.track_init {pApi : Option ApiBase}
    (h : SlotCall pApi .init .notSupported s r s')
    (hs : bringup.track (actions s.log) = some .held) :
    bringup.track (actions s'.log) = some (if r = .ok then .live else .held) := by
  cases h with
  | absent _ => exact hs
  | hook r x _ =>
      rw [Conf.called_log, actions_cons_init, Monitor.track_cons, hs, Option.bind_some, next_start]
      simp only [decide_eq_true_eq]

theorem SlotCall.track_deinit {pApi : Option ApiBase}
    (h : SlotCall pApi .deinit .notSupported s r s')
    (hs : bringup.track (actions s.log) = some .live) :
    bringup.track (actions s'.log) = some (if r = .ok then .held else .live) := by
  cases h with
  | absent _ => exact hs
  | hook r x _ =>
      rw [Conf.called_log, actions_cons_deinit, Monitor.track_cons, hs, Option.bind_some, next_stop]
      simp only [decide_eq_true_eq]

theorem Balanced.down (h : Balanced fn s) (hs : s.record.base.status ≠ .initialized) :
    bringup.track (actions s.log) = some .down := by
  have ht := h.tracked
  rwa [DriverStatus.phase, if_neg hs] at ht

theorem Balanced.live (h : Balanced fn s) (hs : s.record.base.status = .initialized) :
    bringup.track (actions s.log) = some .live := by
  have ht := h.tracked
  rwa [DriverStatus.phase, if_pos hs] at ht

/-- A state with the record of a balanced one and an accepted log is balanced. -/
theorem Balanced.of_record (h : Balanced fn s) (hrec : s'.record = s.record)
    (ht : bringup.track (actions s'.log) = some s.record.base.status.phase) : Balanced fn s' where
  onConfig := by rw [hrec]; exact h.onConfig
  status := by rw [hrec]; exact h.status
  tracked := by rw [hrec]; exact ht

/-- Every exit of `cfn_hal_base_init` keeps the balance. -/
theorem init_balanced (h : Balanced fn s) (ho : InitOutcome pBase expectedType s r s') :
    Balanced fn s' := by
  cases ho with
  | refused _ => exact h
  | alreadyInit _ _ => exact h
  | boardFailed _ hs hr hb =>
      -- The board refused: nothing is held.
      have ht := hb.track_init h.onConfig (h.down hs)
      rw [if_neg hr] at ht
      refine h.of_record hb.record ?_
      rw [ht, DriverStatus.phase, if_neg hs]
  | @rolledBack r r' s₁ s₂ s₃ _ hs hb hi hr hd =>
      -- Granted, not started, and given back.
      have hrec : s₂.record = s.record := hi.record.trans hb.record
      have hheld := hb.track_init h.onConfig (h.down hs)
      have hfail := hi.track_init hheld
      rw [if_neg hr] at hfail
      have hback := hd.track_deinit (by rw [hrec]; exact h.onConfig) hfail
      refine h.of_record (hd.record.trans hrec) ?_
      rw [hback, DriverStatus.phase, if_neg hs]
  | @live s₁ s₂ _ hs hb hi =>
      -- Granted and started, which is what INITIALIZED stands for.
      have hrec : s₂.record = s.record := hi.record.trans hb.record
      have hheld := hb.track_init h.onConfig (h.down hs)
      have hlive := hi.track_init hheld
      constructor
      · rw [Conf.written_record, hrec]
        exact h.onConfig
      · exact .inr rfl
      · exact hlive

/-- Every exit of `cfn_hal_base_deinit` keeps the balance. -/
theorem deinit_balanced (h : Balanced fn s) (ho : DeinitOutcome pBase expectedType s r s') :
    Balanced fn s' := by
  -- No call of the layer writes ERROR, so a driver that passes both tests is live.
  have hlive (hs : s.record.base.status = .initialized ∨ s.record.base.status = .error) :
      s.record.base.status = .initialized := by
    rcases hs with hs | hs
    · exact hs
    · rcases h.status with hc | hi
      · rw [hs] at hc
        cases hc
      · exact hi
  cases ho with
  | refused _ => exact h
  | notLive _ _ => exact h
  | unconstructed _ _ => exact h
  | stopFailed _ hs hd hr =>
      -- The port runs on, and the resources stay.
      have ht := hd.track_deinit (h.live (hlive hs))
      rw [if_neg hr] at ht
      refine h.of_record hd.record ?_
      rw [ht, DriverStatus.phase, if_pos (hlive hs)]
  | @stopped r s₁ s₂ _ hs hd hb =>
      -- Stopped, and given back, whatever the board answers.
      have hheld := hd.track_deinit (h.live (hlive hs))
      have hon : (s₁.written (Driver.setStatus .constructed)).record.base.onConfig = some fn := by
        rw [Conf.written_record, hd.record]
        exact h.onConfig
      have hdown := hb.track_deinit hon hheld
      constructor
      · rw [hb.record]
        exact hon
      · left
        rw [hb.record]
        rfl
      · rw [hdown, hb.record]
        rfl

/-- Every service call keeps the balance. -/
theorem service_balanced {req : BaseRequest} (h : Balanced fn s) (he : ServiceEffect req s s')
    (hreq : req.isService = true) : Balanced fn s' := by
  obtain ⟨hrec, hcalls⟩ := he
  obtain ⟨newer, hlog, huse⟩ := hcalls.actions hreq
  have ht : bringup.track (actions s'.log) = some s.record.base.status.phase := by
    rw [hlog]
    refine bringup.track_append_stay h.tracked fun a ha => ?_
    obtain ⟨rfl, hs⟩ := huse a ha
    rw [DriverStatus.phase, if_pos hs]
    exact next_use (by decide)
  rcases hrec with hrec | ⟨state, hrec⟩
  · exact h.of_record hrec ht
  · constructor
    · rw [hrec]
      exact h.onConfig
    · rw [hrec]
      exact h.status
    · rw [hrec]
      exact ht

end Steps

section Runs

variable (codes : HookCodes W)

theorem call_balanced {fn : FnPtr} (c : DriverCall) {s : HalConf W} (h : Balanced fn s) :
    Balanced fn (run (.ofCodes codes) c.prog s).2 := by
  rcases c with c | c
  · cases c with
    | init pBase ty => exact init_balanced h (baseInit_outcome codes pBase ty s)
    | deinit pBase ty => exact deinit_balanced h (baseDeinit_outcome codes pBase ty s)
  · exact service_balanced h (serviceCall_effect codes c s) c.request_isService

theorem setup_balanced (setup : Setup) (fn : FnPtr) (x : W) :
    Balanced fn (setup.conf (some fn) x) :=
  ⟨rfl, .inl rfl, rfl⟩

/-- Runs are balanced. -/
theorem run_balanced (setup : Setup) (fn : FnPtr) (ops : List DriverCall) (x : W) :
    Balanced fn (runOps (.ofCodes codes) DriverCall.prog ops (setup.conf (some fn) x)) :=
  runOps_invariant _ _ (Balanced fn) (fun c _ h => call_balanced codes c h) ops
    (setup_balanced setup fn x)

end Runs

/-! ## What the balance says -/

/-- Board resources held: grants of `on_config(INIT)` less calls of `on_config(DEINIT)`. -/
def held (log : List HalEvent) : Int :=
  balance (actions log)

/-- A call of a hook of the base table other than `config_validate`. -/
def HalEvent.OnBaseHook (e : HalEvent) : Prop :=
  ∃ fn req, e.call = .vmt fn req ∧ ∀ pConfig, req ≠ .configValidate pConfig

/-- The calls of the board and of the base table come in the order of the bring-up: the board is asked when
nothing is held, and the base hooks, `config_validate` apart, are called while the resources are. -/
def WellOrdered (log : List HalEvent) : Prop :=
  ∀ e older, e :: older <:+ log →
    ((∃ fn arg, e.call = .onConfig fn arg .init) → held older = 0) ∧
      (e.OnBaseHook → held older = 1)

/-- The most recent `init` or `deinit` of the port that returned OK was an `init`. -/
def LastMoveWasInit (log : List HalEvent) : Prop :=
  (actions log).find? BringupAction.moves = some (.start true)

theorem HalEvent.OnBaseHook.touches {e : HalEvent} (h : e.OnBaseHook) :
    ∃ a, e.action = some a ∧ a.touches = true := by
  obtain ⟨fn, req, hcall, hne⟩ := h
  cases req with
  | init => exact ⟨.start (decide (e.answer = .ok)), by rw [HalEvent.action, hcall], rfl⟩
  | deinit => exact ⟨.stop (decide (e.answer = .ok)), by rw [HalEvent.action, hcall], rfl⟩
  | configValidate pConfig => exact absurd rfl (hne pConfig)
  | _ => exact ⟨.use, by rw [HalEvent.action, hcall], rfl⟩

theorem held_of_track {log : List HalEvent} {q : Phase} (h : bringup.track (actions log) = some q) :
    held log = if q = .down then 0 else 1 :=
  balance_eq h

/-- A log that the discipline accepts is well ordered. -/
theorem wellOrdered_of_track {log : List HalEvent} {q : Phase}
    (h : bringup.track (actions log) = some q) : WellOrdered log := by
  intro e older hsuf
  -- The log up to this call is allowed too, so the monitor allowed the call itself.
  obtain ⟨p, hp⟩ := bringup.track_suffix (actions_suffix hsuf) h
  constructor
  · rintro ⟨fn, arg, hcall⟩
    have ha : e.action = some (.acquire (decide (e.answer = .ok))) := by
      rw [HalEvent.action, hcall]
    rw [actions_cons_of_action ha] at hp
    exact held_of_track (acquire_allowed hp)
  · intro hport
    obtain ⟨a, ha, ht⟩ := hport.touches
    rw [actions_cons_of_action ha] at hp
    obtain ⟨p', hp', hne⟩ := touch_allowed ht hp
    rw [held_of_track hp', if_neg hne]

theorem lastMoveWasInit_iff {log : List HalEvent} {q : Phase}
    (h : bringup.track (actions log) = some q) : LastMoveWasInit log ↔ q = .live :=
  live_iff_lastMove h

theorem DriverStatus.phase_eq_live_iff (status : DriverStatus) :
    status.phase = .live ↔ status = .initialized := by
  cases status <;> decide

theorem held_of_phase (status : DriverStatus) :
    (if status.phase = .down then (0 : Int) else 1) = if status = .initialized then 1 else 0 := by
  cases status <;> rfl

/-- The lifecycle is balanced over whole runs. From any driver just populated, with a hook for
the board and a base table whose slots may be missing, after any calls of the base layer with any
arguments and any codes from the hooks: one board resource is held while the status is INITIALIZED and
none otherwise, the calls of the board and of the base hooks come in the order of the bring-up, and the
status is INITIALIZED exactly when the last move of the peripheral was an `init`. -/
theorem lifecycle_balanced (setup : Setup) (fn : FnPtr) (codes : HookCodes W)
    (ops : List DriverCall) (x : W) :
    let s := runOps (.ofCodes codes) DriverCall.prog ops (setup.conf (some fn) x)
    held s.log = (if s.record.base.status = .initialized then 1 else 0) ∧
      WellOrdered s.log ∧
      (s.record.base.status = .initialized ↔ LastMoveWasInit s.log) := by
  intro s
  have h : Balanced fn s := run_balanced codes setup fn ops x
  refine ⟨?_, wellOrdered_of_track h.tracked, ?_⟩
  · rw [held_of_track h.tracked, held_of_phase]
  · rw [lastMoveWasInit_iff h.tracked, DriverStatus.phase_eq_live_iff]

end CaffeineHal
