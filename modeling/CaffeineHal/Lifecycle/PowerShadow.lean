import CaffeineHal.Lifecycle.HookLog
import CaffeineHal.Program.History

/-!
# The power-state shadow

`cfn_hal_power_state_set` returns early when the field `power_state` already has the state that is
asked for. The field documents the state of the hardware, but it is also written without a hook call
while the driver is not INITIALIZED, and neither `init` nor `deinit` touches it. So an INITIALIZED
driver can report a state that its port was never told.

`Agrees` is the invariant of all runs: on an INITIALIZED driver, a state that the port was told since
the last `init` is the one in the field. `powerHonest_iff` says exactly which runs are honest: those in
which no call asks an INITIALIZED driver for the state it already shows while the port was told
nothing since its `init`.
-/

set_option autoImplicit false

namespace CaffeineHal

open CaffeineHal.Program CaffeineHal.Lifecycle

variable {W : Type}

/-- A call of a run: it starts or stops the driver, or moves its power state. -/
inductive PowerCall where
  | lifecycle (c : LifecycleCall)
  | power (pBase : DriverPtr) (expectedType : PeripheralType) (state : PowerState)
  deriving DecidableEq, Repr

def PowerCall.prog : PowerCall → HalM ErrorCode
  | .lifecycle c => c.prog
  | .power pBase ty state => powerStateSet pBase ty state

/-- A call of the port's `init` or `power_state_set` that returned OK. -/
def HalEvent.powerMove (e : HalEvent) : Option BaseRequest :=
  if e.answer = .ok then
    match e.call with
    | .vmt _ .init => some .init
    | .vmt _ (.powerStateSet state) => some (.powerStateSet state)
    | _ => none
  else
    none

/-- The last call of the port's `init` or `power_state_set` that returned OK. -/
def lastPowerMove (log : List HalEvent) : Option BaseRequest :=
  log.findSome? HalEvent.powerMove

/-- The port was told the state after its last `init`, and nothing else since. -/
def Told (state : PowerState) (log : List HalEvent) : Prop :=
  lastPowerMove log = some (.powerStateSet state)

/-- The port was told no state after its last `init`. -/
def Untold (log : List HalEvent) : Prop :=
  ∀ state, lastPowerMove log ≠ some (.powerStateSet state)

/-- A `power_state_set` that succeeds on an INITIALIZED driver leaves the port told of the state. -/
def PowerHonest (calls : List (Ran Driver HookCall ErrorCode ErrorCode W PowerCall)) : Prop :=
  EveryCall (fun c _ => ∀ pBase ty state, c.op = .power pBase ty state → c.value = .ok →
    c.after.record.base.status = .initialized → Told state c.after.log) calls

/-- No `power_state_set` asks an INITIALIZED driver for the state that it shows already while the port
was told nothing since its last `init`. -/
def NoStaleRequest (calls : List (Ran Driver HookCall ErrorCode ErrorCode W PowerCall)) : Prop :=
  EveryCall (fun c _ => ∀ pBase ty state, c.op = .power pBase ty state →
    ¬ (Typed pBase ty c.before.record ∧ c.before.record.base.status = .initialized ∧
      c.before.record.base.powerState = state ∧ Untold c.before.log)) calls

/-- What an INITIALIZED driver's port was told is what its field shows. -/
def Agrees (s : HalConf W) : Prop :=
  s.record.base.status = .initialized →
    ∀ state, Told state s.log → s.record.base.powerState = state

section Log

@[simp] theorem lastPowerMove_cons_board (fn : FnPtr) (arg : Ptr) (phase : ConfigPhase) (d : Driver)
    (r : ErrorCode) (older : List HalEvent) :
    lastPowerMove (⟨.onConfig fn arg phase, d, r⟩ :: older) = lastPowerMove older := by
  simp [lastPowerMove, HalEvent.powerMove]

@[simp] theorem lastPowerMove_cons_deinit (fn : FnPtr) (d : Driver) (r : ErrorCode)
    (older : List HalEvent) :
    lastPowerMove (⟨.vmt fn .deinit, d, r⟩ :: older) = lastPowerMove older := by
  simp [lastPowerMove, HalEvent.powerMove]

theorem lastPowerMove_cons_failed (c : HookCall) (d : Driver) {r : ErrorCode} (hr : r ≠ .ok)
    (older : List HalEvent) : lastPowerMove (⟨c, d, r⟩ :: older) = lastPowerMove older := by
  simp [lastPowerMove, HalEvent.powerMove, hr]

theorem not_told_of_init {log : List HalEvent} (h : lastPowerMove log = some .init)
    (state : PowerState) : ¬ Told state log := by
  intro ht
  rw [Told, h] at ht
  cases ht

end Log

section Steps

variable {s s' : HalConf W} {r missing : ErrorCode} {pBase : DriverPtr}
  {expectedType : PeripheralType}

theorem BoardCall.lastPowerMove {phase : ConfigPhase} (h : BoardCall phase s r s') :
    lastPowerMove s'.log = lastPowerMove s.log := by
  cases h with
  | absent _ => rfl
  | hook r x _ => exact lastPowerMove_cons_board _ _ _ _ _ _

theorem SlotCall.lastPowerMove_deinit {pApi : Option ApiBase}
    (h : SlotCall pApi .deinit missing s r s') : lastPowerMove s'.log = lastPowerMove s.log := by
  cases h with
  | absent _ => rfl
  | hook r x _ => exact lastPowerMove_cons_deinit _ _ _ _

theorem SlotCall.lastPowerMove_failed {pApi : Option ApiBase} {req : BaseRequest}
    (h : SlotCall pApi req missing s r s') (hr : r ≠ .ok) :
    lastPowerMove s'.log = lastPowerMove s.log := by
  cases h with
  | absent _ => rfl
  | hook r x _ => exact lastPowerMove_cons_failed _ _ hr _

/-- What the last power move was matters only on an INITIALIZED driver. -/
theorem Agrees.of_move (h : Agrees s) (hrec : s'.record = s.record)
    (hlog : lastPowerMove s'.log = lastPowerMove s.log) : Agrees s' := by
  intro hs state ht
  rw [hrec] at hs ⊢
  rw [Told, hlog] at ht
  exact h hs state ht

theorem init_agrees (h : Agrees s) (ho : InitOutcome pBase expectedType s r s') : Agrees s' := by
  cases ho with
  | refused _ => exact h
  | alreadyInit _ _ => exact h
  | boardFailed _ _ _ hb => exact h.of_move hb.record hb.lastPowerMove
  | rolledBack _ _ hb hi hr hd =>
      refine h.of_move (hd.record.trans (hi.record.trans hb.record)) ?_
      rw [hd.lastPowerMove, hi.lastPowerMove_failed hr, hb.lastPowerMove]
  | live _ _ _ hi =>
      -- The port was started and has been told nothing yet.
      obtain ⟨fn, x, rfl⟩ := hi.of_ne nofun
      intro _ state ht
      exact absurd ht (not_told_of_init rfl state)

theorem deinit_agrees (h : Agrees s) (ho : DeinitOutcome pBase expectedType s r s') :
    Agrees s' := by
  cases ho with
  | refused _ => exact h
  | notLive _ _ => exact h
  | unconstructed _ _ => exact h
  | stopFailed _ _ hd _ => exact h.of_move hd.record hd.lastPowerMove_deinit
  | stopped _ _ hd hb =>
      -- CONSTRUCTED: the field promises nothing.
      intro hs
      rw [hb.record] at hs
      cases hs

theorem power_agrees {state : PowerState} (h : Agrees s)
    (ho : PowerOutcome pBase expectedType state s r s') : Agrees s' := by
  cases ho with
  | refused _ => exact h
  | same _ _ => exact h
  | shadowOnly _ _ hs =>
      intro hs'
      exact absurd hs' hs
  | portFailed _ _ _ hc hr => exact h.of_move hc.record (hc.lastPowerMove_failed hr)
  | moved _ _ _ hc =>
      -- The port was told last what the field shows now.
      obtain ⟨fn, x, rfl⟩ := hc.of_ne nofun
      intro _ state' ht
      injection Option.some.inj ht

/-- A call is honest exactly when it is no stale request. -/
theorem power_honest_iff {state : PowerState} (h : Agrees s)
    (ho : PowerOutcome pBase expectedType state s r s') :
    (r = .ok → s'.record.base.status = .initialized → Told state s'.log) ↔
      ¬ (Typed pBase expectedType s.record ∧ s.record.base.status = .initialized ∧
        s.record.base.powerState = state ∧ Untold s.log) := by
  cases ho with
  | refused hne =>
      constructor
      · rintro _ ⟨ht, -⟩
        exact hne ht
      · intro _ hr
        cases hr
  | same ht hp =>
      -- The early return, which is honest exactly when the port was told something.
      constructor
      · rintro honest ⟨-, hs, -, hu⟩
        exact hu state (honest rfl hs)
      · intro hfresh _ hs
        by_contra hnot
        refine hfresh ⟨ht, hs, hp, fun told htold => ?_⟩
        -- What the port was told is what the field shows, and that is the state asked for.
        have hshown : s.record.base.powerState = told := h hs told htold
        rw [hp] at hshown
        subst hshown
        exact hnot htold
  | shadowOnly ht hp hs =>
      constructor
      · rintro _ ⟨-, hs', -⟩
        exact hs hs'
      · intro _ _ hs'
        exact absurd hs' hs
  | portFailed _ hp _ _ hr =>
      constructor
      · rintro _ ⟨-, -, hp', -⟩
        exact hp hp'
      · intro _ hok
        exact absurd hok hr
  | moved _ hp _ hc =>
      obtain ⟨fn, x, rfl⟩ := hc.of_ne nofun
      constructor
      · rintro _ ⟨-, -, hp', -⟩
        exact hp hp'
      · intro _ _ _
        rfl

end Steps

section Runs

variable (codes : HookCodes W)

theorem powerCall_agrees (c : PowerCall) {s : HalConf W} (h : Agrees s) :
    Agrees (run (.ofCodes codes) c.prog s).2 := by
  cases c with
  | lifecycle c =>
      cases c with
      | init pBase ty => exact init_agrees h (baseInit_outcome codes pBase ty s)
      | deinit pBase ty => exact deinit_agrees h (baseDeinit_outcome codes pBase ty s)
  | power pBase ty state => exact power_agrees h (powerStateSet_outcome codes pBase ty state s)

/-- Exactly the runs without a stale request are honest. From any populated driver, over any calls
of `init`, `deinit` and `power_state_set`, whatever the hooks answer. -/
theorem powerHonest_iff (setup : Setup) (onConfig : Option FnPtr) (ops : List PowerCall) (x : W) :
    PowerHonest (history (.ofCodes codes) PowerCall.prog ops (setup.conf onConfig x)) ↔
      NoStaleRequest (history (.ofCodes codes) PowerCall.prog ops (setup.conf onConfig x)) := by
  refine everyCall_history_iff (fun _ s => Agrees s)
    (fun op s _ h _ => powerCall_agrees codes op h) (fun op s _ h => ?_) ?_ ops
  · have hcall (pBase : DriverPtr) (ty : PeripheralType) (state : PowerState) :=
      power_honest_iff h (powerStateSet_outcome codes pBase ty state s)
    constructor
    · intro honest pBase ty state hop
      obtain rfl : op = .power pBase ty state := hop
      exact (hcall pBase ty state).1 (honest pBase ty state rfl)
    · intro fresh pBase ty state hop
      obtain rfl : op = .power pBase ty state := hop
      exact (hcall pBase ty state).2 (fresh pBase ty state rfl)
  · intro hs
    cases hs

end Runs

/-- The state requested before `init` is in the field already when it is requested again, and the port,
which implements `power_state_set`, is never told. -/
theorem staleRequest_not_honest :
    ¬ PowerHonest (history (.ofCodes okHooks) PowerCall.prog
      [.power .ref Peripheral.uart.type .on, .lifecycle (.init .ref Peripheral.uart.type),
        .power .ref Peripheral.uart.type .on] (uartSetup.conf (some 0) ())) := by
  intro honest
  obtain ⟨hlast, -⟩ := (everyCall_cons _ _).1 honest
  have htold := hlast .ref Peripheral.uart.type .on rfl (by decide) (by decide)
  exact absurd htold (by unfold Told; decide)

end CaffeineHal
