import CaffeineHal.Driver.EventError
import CaffeineHal.Driver.Frame
import CaffeineHal.Program.History

/-!
# What the base layer writes, and when

The frame of every function of the base layer, by its result. A call that fails leaves the record, but for a
`deinit` whose board release fails: the port is stopped by then, and the driver is CONSTRUCTED. A call that
succeeds writes the one field it is for (`BaseCall.written`). An `init` that fails after the board agreed
reports what the port said, whatever the rollback answers.
-/

set_option autoImplicit false

namespace CaffeineHal

open CaffeineHal.Program

variable {W : Type}

/-- What a call that returns OK makes of the record. -/
def BaseCall.written : BaseCall → Driver → Driver
  | .lifecycle (.init _ _), d => d.setStatus .initialized
  | .lifecycle (.deinit _ _), d => d.setStatus .constructed
  | .service (.powerStateSet _ _ state), d => d.setPowerState state
  | _, d => d

def BaseCall.isDeinit : BaseCall → Bool
  | .lifecycle (.deinit _ _) => true
  | _ => false

/-- The hook calls of a `deinit` that stopped the port and failed to release the board, newest first. -/
def StoppedUnreleased (calls : List HalEvent) : Prop :=
  ∃ released stopped, calls = [released, stopped] ∧
    (∃ fn, stopped.call = .vmt fn .deinit) ∧ stopped.answer = .ok ∧
    (∃ fn arg, released.call = .onConfig fn arg .deinit) ∧ released.answer ≠ .ok

/-- What a call wrote, by its result. -/
structure EffectFrame (c : BaseCall) (s : HalConf W) (r : ErrorCode) (s' : HalConf W) : Prop where
  failed : r ≠ .ok → ¬ (c.isDeinit = true ∧ StoppedUnreleased (s.callsSince s')) →
    s'.record = s.record
  unreleased : c.isDeinit = true → StoppedUnreleased (s.callsSince s') →
    r ≠ .ok ∧ s'.record = s.record.setStatus .constructed
  succeeded : r = .ok → s'.record = c.written s.record

/-- The code of an `init` whose board agreed is the port's, where that is an error. -/
def ReportsPhaseB (env : HalEnv W) (c : BaseCall) (s : HalConf W) : Prop :=
  ∀ pBase ty, c = .lifecycle (.init pBase ty) → Linked pBase ty s.record →
    s.record.base.status ≠ .initialized →
    let board := run env (callOnConfig .init) s
    let port := run env (callSlot board.2.record.base.vmt .init .notSupported) board.2
    board.1 = .ok → port.1 ≠ .ok → (run env c.prog s).1 = port.1

section Frames

variable {s s' : HalConf W} {r : ErrorCode} {pBase : DriverPtr} {ty : PeripheralType}

theorem setStatus_eq_self {d : Driver} {status : DriverStatus} (h : d.base.status = status) :
    d.setStatus status = d := by
  rw [Driver.setStatus, ← h]

/-- A call that is not a `deinit` and leaves the record when it fails. -/
theorem EffectFrame.of_not_deinit {c : BaseCall} (hc : c.isDeinit = false)
    (hfail : r ≠ .ok → s'.record = s.record) (hok : r = .ok → s'.record = c.written s.record) :
    EffectFrame c s r s' := by
  constructor
  · intro hr _
    exact hfail hr
  · intro hdeinit
    rw [hc] at hdeinit
    cases hdeinit
  · exact hok

theorem not_stoppedUnreleased_nil : ¬ StoppedUnreleased [] := by
  rintro ⟨_, _, ⟨⟩, -⟩

theorem not_stoppedUnreleased_singleton (e : HalEvent) : ¬ StoppedUnreleased [e] := by
  rintro ⟨_, _, ⟨⟩, -⟩

theorem InitOutcome.frame (ho : InitOutcome pBase ty s r s') :
    EffectFrame (.lifecycle (.init pBase ty)) s r s' := by
  cases ho with
  | refused _ => exact .of_not_deinit rfl (fun _ => rfl) ErrorCode.noConfusion
  | alreadyInit _ _ => exact .of_not_deinit rfl (fun _ => rfl) ErrorCode.noConfusion
  | boardFailed _ _ hr hb =>
      exact .of_not_deinit rfl (fun _ => hb.record) fun hok => absurd hok hr
  | rolledBack _ _ hb hi hr hd =>
      -- Three hooks were called, and none of them writes.
      exact .of_not_deinit rfl (fun _ => hd.record.trans (hi.record.trans hb.record))
        fun hok => absurd hok hr
  | live _ _ hb hi =>
      refine .of_not_deinit rfl (fun hr => absurd rfl hr) fun _ => ?_
      rw [Conf.written_record, hi.record, hb.record]
      rfl

/-- A `deinit` that ended before it asked the board. -/
theorem EffectFrame.of_not_asked {evs : List HalEvent} (hrec : s'.record = s.record)
    (hlog : s'.log = evs ++ s.log) (hevs : ¬ StoppedUnreleased evs)
    (hok : r = .ok → s.record.base.status = .constructed) :
    EffectFrame (.lifecycle (.deinit pBase ty)) s r s' := by
  rw [← Conf.callsSince_eq hlog] at hevs
  constructor
  · intro _ _
    exact hrec
  · intro _ h
    exact absurd h hevs
  · intro hr
    rw [hrec]
    exact (setStatus_eq_self (hok hr)).symm

theorem DeinitOutcome.frame (ho : DeinitOutcome pBase ty s r s') :
    EffectFrame (.lifecycle (.deinit pBase ty)) s r s' := by
  cases ho with
  | refused _ =>
      exact .of_not_asked rfl (List.nil_append _).symm not_stoppedUnreleased_nil
        ErrorCode.noConfusion
  | notLive _ hs =>
      exact .of_not_asked rfl (List.nil_append _).symm not_stoppedUnreleased_nil fun _ => hs
  | unconstructed _ _ =>
      exact .of_not_asked rfl (List.nil_append _).symm not_stoppedUnreleased_nil
        ErrorCode.noConfusion
  | stopFailed _ _ hd hr =>
      have hok : r = .ok → s.record.base.status = .constructed := fun hok => absurd hok hr
      have hrec := hd.record
      cases hd with
      | absent _ =>
          exact .of_not_asked rfl (List.nil_append _).symm not_stoppedUnreleased_nil hok
      | hook _ x _ =>
          exact .of_not_asked hrec (List.singleton_append).symm
            (not_stoppedUnreleased_singleton _) hok
  | stopped _ _ hd hb =>
      obtain ⟨fn, x, rfl⟩ := hd.of_ne ErrorCode.noConfusion
      have hrec : s'.record = s.record.setStatus .constructed := hb.record
      let stopped : HalEvent := ⟨.vmt fn .deinit, s.record, .ok⟩
      have hlog : ((s.called (.vmt fn .deinit) .ok x).written (Driver.setStatus .constructed)).log =
          stopped :: s.log := rfl
      generalize (s.called (.vmt fn .deinit) .ok x).written (Driver.setStatus .constructed) = s₁
        at hb hlog
      cases hb with
      | absent _ =>
          have hcalls : s.callsSince s' = [stopped] := Conf.callsSince_eq hlog
          constructor
          · intro hr
            exact absurd rfl hr
          · intro _ h
            rw [hcalls] at h
            exact absurd h (not_stoppedUnreleased_singleton _)
          · intro _
            exact hrec
      | @hook gn _ y _ =>
          -- The board answered, and its answer is the result.
          let released : HalEvent :=
            ⟨.onConfig gn s₁.record.base.onConfigArg .deinit, s₁.record, r⟩
          have hcalls : s.callsSince (s₁.called released.call r y) = [released, stopped] :=
            Conf.callsSince_eq (congrArg (List.cons released) hlog)
          have hiff : StoppedUnreleased (s.callsSince (s₁.called released.call r y)) ↔ r ≠ .ok := by
            rw [hcalls]
            constructor
            · rintro ⟨_, _, heq, -, -, -, hne⟩
              obtain ⟨rfl, -⟩ := List.cons.inj heq
              exact hne
            · intro hr
              exact ⟨released, stopped, rfl, ⟨fn, rfl⟩, rfl, ⟨gn, _, rfl⟩, hr⟩
          constructor
          · intro hr hnot
            exact absurd ⟨rfl, hiff.2 hr⟩ hnot
          · intro _ h
            exact ⟨hiff.1 h, hrec⟩
          · intro _
            exact hrec

theorem PowerOutcome.frame {state : PowerState} (ho : PowerOutcome pBase ty state s r s') :
    EffectFrame (.service (.powerStateSet pBase ty state)) s r s' := by
  cases ho with
  | refused _ => exact .of_not_deinit rfl (fun _ => rfl) ErrorCode.noConfusion
  | same _ hp =>
      refine .of_not_deinit rfl (fun _ => rfl) fun _ => ?_
      show s.record = s.record.setPowerState state
      rw [Driver.setPowerState, ← hp]
  | shadowOnly _ _ _ => exact .of_not_deinit rfl (fun hr => absurd rfl hr) fun _ => rfl
  | portFailed _ _ _ hc hr =>
      exact .of_not_deinit rfl (fun _ => hc.record) fun hok => absurd hok hr
  | moved _ _ _ hc =>
      refine .of_not_deinit rfl (fun hr => absurd rfl hr) fun _ => ?_
      rw [Conf.written_record, hc.record]
      rfl

variable (codes : HookCodes W)

/-- Calls whose programs write nothing leave the record. -/
theorem run_record_eq {p : HalM ErrorCode}
    (hp : p.Maintains HookCall.LeavesLock fun d => d = s.record) :
    (run (.ofCodes codes) p s).2.record = s.record :=
  run_maintains (fun _ _ _ hd => hd) hp rfl

theorem ServiceCall.record_eq (c : ServiceCall)
    (hc : ∀ pBase ty state, c ≠ .powerStateSet pBase ty state) :
    (run (.ofCodes codes) c.prog s).2.record = s.record := by
  by_cases he : c.isEventError = true
  · rw [ServiceCall.eventError_prog he]
    have hreq := BaseRequest.not_locking_of_eventError (ServiceCall.request_isEventError he)
    exact run_record_eq codes (eventErrorCall_maintains _ _ _ _ _ hreq)
  cases c with
  | configSet pBase ty pConfig => exact run_record_eq codes (baseConfigSet_maintains pBase ty pConfig)
  | configValidate pBase ty pConfig =>
      exact run_record_eq codes (baseConfigValidate_maintains pBase ty pConfig)
  | callbackRegister pBase ty pCallback pUserArg =>
      exact run_record_eq codes (baseCallbackRegister_maintains pBase ty pCallback pUserArg)
  | powerStateSet pBase ty state => exact absurd rfl (hc pBase ty state)
  | _ => exact absurd rfl he

theorem BaseCall.frame (c : BaseCall) (s : HalConf W) :
    EffectFrame c s (run (.ofCodes codes) c.prog s).1 (run (.ofCodes codes) c.prog s).2 := by
  cases c with
  | lifecycle c =>
      cases c with
      | init pBase ty => exact (baseInit_outcome codes pBase ty s).frame
      | deinit pBase ty => exact (baseDeinit_outcome codes pBase ty s).frame
  | service c =>
      by_cases hc : ∃ pBase ty state, c = .powerStateSet pBase ty state
      · obtain ⟨pBase, ty, state, rfl⟩ := hc
        exact (powerStateSet_outcome codes pBase ty state s).frame
      · have hne : ∀ pBase ty state, c ≠ .powerStateSet pBase ty state :=
          fun pBase ty state heq => hc ⟨pBase, ty, state, heq⟩
        have hrec := c.record_eq codes (s := s) hne
        have hwritten : (BaseCall.service c).written s.record = s.record := by
          cases c with
          | powerStateSet pBase ty state => exact absurd rfl (hne pBase ty state)
          | _ => rfl
        refine .of_not_deinit rfl (fun _ => hrec) fun _ => ?_
        rw [hwritten]
        exact hrec
  | lock base timeout =>
      have hrec := (baseLock_outcome codes base timeout s).record
      exact .of_not_deinit rfl (fun _ => hrec) fun _ => hrec
  | unlock base =>
      have hrec := (baseUnlock_outcome codes base s).record
      exact .of_not_deinit rfl (fun _ => hrec) fun _ => hrec

theorem baseInit_reportsPhaseB (c : BaseCall) (s : HalConf W) :
    ReportsPhaseB (.ofCodes codes) c s := by
  rintro pBase ty rfl hl hs board port hboard hport
  -- The code is set at the port's answer, and the rollback comes after.
  have hprog : (BaseCall.lifecycle (.init pBase ty)).prog = baseInit pBase ty := rfl
  rw [hprog, baseInit]
  simp only [run_bind, hl.run_linkRejects, Bool.false_eq_true, if_false, run_get, hs]
  simp only [board, port] at hboard hport ⊢
  simp only [hboard, ne_eq, not_true_eq_false, if_false, run_bind, run_get, hport]
  rfl

end Frames

/-- The complete frame of the base layer. For every call, on every driver, with every argument and any
codes from the hooks: a failed call leaves every field, but for a `deinit` that stopped the port and failed
to release the board, which leaves the driver CONSTRUCTED; a call that returns OK writes its own field at
most; and an `init` that fails after the board agreed returns the port's error. -/
theorem base_effect (codes : HookCodes W) (c : BaseCall) (s : HalConf W) :
    let out := run (.ofCodes codes) c.prog s
    EffectFrame c s out.1 out.2 ∧ ReportsPhaseB (.ofCodes codes) c s :=
  ⟨c.frame codes s, baseInit_reportsPhaseB codes c s⟩

end CaffeineHal
