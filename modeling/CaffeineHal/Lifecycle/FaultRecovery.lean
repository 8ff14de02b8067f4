import CaffeineHal.Lifecycle.HookLog
import CaffeineHal.Program.History

/-!
# Recovery from a fault

The status ERROR is documented to require a `deinit`/`init` cycle. `cfn_hal_base_deinit` stops a
faulted driver as it stops a live one, but `cfn_hal_base_init` refuses only INITIALIZED: it brings a
faulted driver up over the resources it still holds.

`tornDownFirst_iff` says exactly which runs tear a faulted driver down first: those in which no `init`
passes its guard while the status is ERROR, unless neither the board nor the port has a hook to call.
`Recovering` is what carries it: until the port was stopped the status stays ERROR, and afterwards it
never is again.
-/

set_option autoImplicit false

namespace CaffeineHal

open CaffeineHal.Program CaffeineHal.Lifecycle

variable {W : Type}

/-- A call of the port's `deinit` that returned OK. -/
def HalEvent.Stops (e : HalEvent) : Prop :=
  ∃ fn, e.call = .vmt fn .deinit ∧ e.answer = .ok

/-- A call of `on_config(INIT)` or of the port's `init`. -/
def HalEvent.BringsUp (e : HalEvent) : Prop :=
  (∃ fn arg, e.call = .onConfig fn arg .init) ∨ ∃ fn, e.call = .vmt fn .init

/-- The port was stopped. -/
def WasStopped (log : List HalEvent) : Prop :=
  ∃ e ∈ log, HalEvent.Stops e

/-- Nothing is brought up before the port was stopped, and the driver is not INITIALIZED before. -/
def TornDownFirst (s : HalConf W) : Prop :=
  Preceded HalEvent.Stops HalEvent.BringsUp s.log ∧
    (s.record.base.status = .initialized → WasStopped s.log)

/-- A call of `init` that its guard lets pass, on a faulted driver with a hook to call. -/
def InitsFaulted (op : BaseCall) (d : Driver) : Prop :=
  ∃ pBase ty, op = .lifecycle (.init pBase ty) ∧ Linked pBase ty d ∧ d.base.status = .error ∧
    (d.base.onConfig ≠ none ∨ d.base.hook .init ≠ none)

/-- The state in which a driver faults. -/
def faultConf (d : Driver) (x : W) : HalConf W where
  record := d.setStatus .error
  world := x
  log := []

/-- A hook call that neither stops the port nor brings anything up. -/
def HalEvent.Quiet (e : HalEvent) : Prop :=
  ¬ e.Stops ∧ ¬ e.BringsUp

/-- Until the port was stopped the status is ERROR and nothing was brought up; afterwards the status
is not ERROR. -/
inductive Recovering (s : HalConf W) : Prop
  | faulted (hs : s.record.base.status = .error) (hquiet : ∀ e ∈ s.log, HalEvent.Quiet e)
  | tornDown (hs : s.record.base.status ≠ .error) (hstop : WasStopped s.log)
      (hlog : Preceded HalEvent.Stops HalEvent.BringsUp s.log)

section Steps

variable {s s' : HalConf W} {r missing : ErrorCode} {pBase : DriverPtr}
  {expectedType : PeripheralType}

theorem Recovering.of_suffix (hs : s'.record.base.status ≠ .error) (hstop : WasStopped s.log)
    (hlog : Preceded HalEvent.Stops HalEvent.BringsUp s.log) (hsuf : s.log <:+ s'.log) :
    Recovering s' :=
  .tornDown hs (exists_of_suffix hsuf hstop) (hlog.of_suffix hstop hsuf)

/-- Quiet hook calls that leave the status keep the recovery where it is. -/
theorem Recovering.of_quiet (h : Recovering s) (evs : List HalEvent)
    (hs : s'.record.base.status = s.record.base.status) (hlog : s'.log = evs ++ s.log)
    (hevs : ∀ e ∈ evs, HalEvent.Quiet e) : Recovering s' := by
  cases h with
  | faulted he hquiet =>
      -- No hook call so far stopped the port or brought it up, and the new ones do not either.
      refine .faulted (hs.trans he) fun e hmem => ?_
      rw [hlog, List.mem_append] at hmem
      rcases hmem with hmem | hmem
      · exact hevs e hmem
      · exact hquiet e hmem
  | tornDown hne hstop hpre =>
      exact .of_suffix (by rw [hs]; exact hne) hstop hpre ⟨evs, hlog.symm⟩

/-- A call of a base-table hook is quiet unless it is an `init` or a `deinit` that succeeds. -/
theorem quiet_of_vmt {fn : FnPtr} {req : BaseRequest} {e : HalEvent} (hcall : e.call = .vmt fn req)
    (hinit : req ≠ .init) (hdeinit : req = .deinit → e.answer ≠ .ok) : e.Quiet := by
  constructor
  · rintro ⟨gn, hstop, hok⟩
    rw [hcall] at hstop
    injection hstop with _ hreq
    exact hdeinit hreq hok
  · rintro (⟨gn, arg, hboard⟩ | ⟨gn, hup⟩)
    · rw [hcall] at hboard
      cases hboard
    · rw [hcall] at hup
      injection hup with _ hreq
      exact hinit hreq

theorem service_recovering {req : BaseRequest} (h : Recovering s) (he : ServiceEffect req s s')
    (hreq : req.isService = true) : Recovering s' := by
  obtain ⟨hrec, evs, hlog, hevs⟩ := he
  refine h.of_quiet evs ?_ hlog fun e hmem => ?_
  · rcases hrec with hrec | ⟨state, hrec⟩
    · rw [hrec]
    · rw [hrec]
      rfl
  · obtain ⟨-, fn, ⟨hcall, -⟩ | ⟨pConfig, hcall⟩⟩ := hevs e hmem
    · refine quiet_of_vmt hcall ?_ ?_
      · rintro rfl
        cases hreq
      · rintro rfl
        cases hreq
    · exact quiet_of_vmt hcall nofun nofun

theorem SlotCall.recovering {pApi : Option ApiBase} {req : BaseRequest}
    (hc : SlotCall pApi req missing s r s') (h : Recovering s) (hinit : req ≠ .init)
    (hdeinit : req = .deinit → r ≠ .ok) : Recovering s' := by
  cases hc with
  | absent _ => exact h
  | @hook fn r x _ =>
      refine h.of_quiet [⟨.vmt fn req, s.record, r⟩] rfl rfl fun e hmem => ?_
      rw [List.mem_singleton] at hmem
      subst hmem
      exact quiet_of_vmt rfl hinit hdeinit

theorem lock_recovering {req : BaseRequest} (h : Recovering s) (ho : LockOutcome pBase req s r s')
    (hinit : req ≠ .init) (hdeinit : req ≠ .deinit) : Recovering s' := by
  cases ho with
  | refused _ => exact h
  | passed _ _ hc => exact hc.recovering h hinit fun heq => absurd heq hdeinit

/-- Once the port was stopped, the board's release is of no matter. -/
theorem deinit_recovering (h : Recovering s) (ho : DeinitOutcome pBase expectedType s r s') :
    Recovering s' := by
  cases ho with
  | refused _ => exact h
  | notLive _ _ => exact h
  | unconstructed _ _ => exact h
  | stopFailed _ _ hd hr => exact hd.recovering h nofun fun _ => hr
  | @stopped r s₁ s₂ _ _ hd hb =>
      obtain ⟨fn, x, rfl⟩ := hd.of_ne nofun
      have hstop : WasStopped (s.called (.vmt fn .deinit) .ok x).log :=
        ⟨_, List.mem_cons_self, fn, rfl, rfl⟩
      have hpre : Preceded HalEvent.Stops HalEvent.BringsUp
          (s.called (.vmt fn .deinit) .ok x).log := by
        cases h with
        | faulted _ hquiet =>
            -- The stop is the first call that is not quiet.
            refine preceded_of_forall_not fun e hmem => ?_
            rcases List.mem_cons.1 hmem with rfl | hmem
            · rintro (⟨gn, arg, hup⟩ | ⟨gn, hup⟩)
              · cases hup
              · cases hup
            · exact (hquiet e hmem).2
        | tornDown _ hstop hpre => exact hpre.of_suffix hstop (List.suffix_cons _ _)
      refine .of_suffix ?_ hstop hpre hb.suffix
      rw [hb.record]
      exact nofun

/-- Past its guard, on a driver that is not INITIALIZED, `init` begins by bringing something up, or
there is no hook to call and nothing happens. -/
theorem init_idle_or_bringsUp (ho : InitOutcome pBase expectedType s r s')
    (hl : Linked pBase expectedType s.record) (hs : s.record.base.status ≠ .initialized) :
    (s' = s ∧ s.record.base.onConfig = none ∧ s.record.base.hook .init = none) ∨
      ((s.record.base.onConfig ≠ none ∨ s.record.base.hook .init ≠ none) ∧
        ∃ e : HalEvent, e.BringsUp ∧ e :: s.log <:+ s'.log) := by
  -- The board is asked first; without a board hook, the port's hook is the first to be called.
  have board {fn : FnPtr} {s₁ : HalConf W} {r₁ : ErrorCode}
      (hfn : s.record.base.onConfig = some fn)
      (hsuf : ⟨.onConfig fn s.record.base.onConfigArg .init, s.record, r₁⟩ :: s.log <:+ s₁.log) :
      (s.record.base.onConfig ≠ none ∨ s.record.base.hook .init ≠ none) ∧
        ∃ e : HalEvent, e.BringsUp ∧ e :: s.log <:+ s₁.log :=
    ⟨.inl (by rw [hfn]; exact Option.some_ne_none fn), _, .inl ⟨fn, _, rfl⟩, hsuf⟩
  have port {fn : FnPtr} {s₁ : HalConf W} {r₁ : ErrorCode}
      (hfn : s.record.base.hook .init = some fn)
      (hsuf : ⟨.vmt fn .init, s.record, r₁⟩ :: s.log <:+ s₁.log) :
      (s.record.base.onConfig ≠ none ∨ s.record.base.hook .init ≠ none) ∧
        ∃ e : HalEvent, e.BringsUp ∧ e :: s.log <:+ s₁.log :=
    ⟨.inr (by rw [hfn]; exact Option.some_ne_none fn), _, .inr ⟨fn, rfl⟩, hsuf⟩
  cases ho with
  | refused h => exact absurd hl h
  | alreadyInit _ h => exact absurd h hs
  | boardFailed _ _ hr hb =>
      cases hb with
      | absent _ => exact absurd rfl hr
      | hook r x hfn => exact .inr (board hfn (List.suffix_refl _))
  | rolledBack _ _ hb hi hr hd =>
      cases hb with
      | hook _ x hfn => exact .inr (board hfn (hi.suffix.trans hd.suffix))
      | absent hno =>
          cases hi with
          | hook r x hfn => exact .inr (port hfn hd.suffix)
          | absent hni =>
              cases hd with
              | absent _ => exact .inl ⟨rfl, hno, hni⟩
              | hook r x hfn => cases hno.symm.trans hfn
  | live _ _ hb hi =>
      cases hb with
      | hook _ x hfn => exact .inr (board hfn hi.suffix)
      | absent hno =>
          cases hi with
          | hook _ x hfn => exact .inr (port hfn (List.suffix_refl _))

/-- Something brought up over a fault is a call out of order. -/
theorem not_tornDownFirst {e : HalEvent} (hup : e.BringsUp) (hsuf : e :: s.log <:+ s'.log)
    (hstop : ¬ WasStopped s.log) : ¬ TornDownFirst s' := by
  rintro ⟨hpre, -⟩
  exact hstop (hpre e s.log hsuf hup)

theorem Recovering.not_wasStopped (h : Recovering s) (hs : s.record.base.status = .error) :
    ¬ WasStopped s.log := by
  rintro ⟨e, hmem, hstop⟩
  cases h with
  | faulted _ hquiet => exact (hquiet e hmem).1 hstop
  | tornDown hne _ _ => exact hne hs

theorem Recovering.tornDownFirst (h : Recovering s) : TornDownFirst s := by
  cases h with
  | faulted hs hquiet =>
      refine ⟨preceded_of_forall_not fun e hmem => (hquiet e hmem).2, fun hi => ?_⟩
      rw [hs] at hi
      cases hi
  | tornDown _ hstop hpre => exact ⟨hpre, fun _ => hstop⟩

/-- An `init` keeps the recovery exactly when it does not bring up a faulted driver. -/
theorem init_recovering (h : Recovering s) (ho : InitOutcome pBase expectedType s r s') :
    (Linked pBase expectedType s.record ∧ s.record.base.status = .error ∧
        (s.record.base.onConfig ≠ none ∨ s.record.base.hook .init ≠ none) ∧ ¬ TornDownFirst s') ∨
      (¬ (Linked pBase expectedType s.record ∧ s.record.base.status = .error ∧
        (s.record.base.onConfig ≠ none ∨ s.record.base.hook .init ≠ none)) ∧ Recovering s') := by
  by_cases hl : Linked pBase expectedType s.record
  swap
  · -- Refused, and nothing happened.
    cases ho with
    | refused _ => exact .inr ⟨fun hf => hl hf.1, h⟩
    | alreadyInit hl' _ => exact absurd hl' hl
    | boardFailed hl' _ _ _ => exact absurd hl' hl
    | rolledBack hl' _ _ _ _ _ => exact absurd hl' hl
    | live hl' _ _ _ => exact absurd hl' hl
  by_cases hs : s.record.base.status = .error
  · have hni : s.record.base.status ≠ .initialized := by
      rw [hs]
      exact nofun
    -- Over a fault `init` is harmless only where it finds no hook to call.
    rcases init_idle_or_bringsUp ho hl hni with ⟨rfl, hno, hni⟩ | ⟨hook, e, hup, hsuf⟩
    · refine .inr ⟨?_, h⟩
      rintro ⟨-, -, hook | hook⟩
      · exact hook hno
      · exact hook hni
    · exact .inl ⟨hl, hs, hook, not_tornDownFirst hup hsuf (h.not_wasStopped hs)⟩
  · -- The port was stopped before, so whatever `init` does is in order.
    refine .inr ⟨fun hf => hs hf.2.1, ?_⟩
    cases h with
    | faulted he _ => exact absurd he hs
    | tornDown _ hstop hpre =>
        cases ho with
        | refused _ => exact .tornDown hs hstop hpre
        | alreadyInit _ _ => exact .tornDown hs hstop hpre
        | boardFailed _ _ _ hb =>
            exact .of_suffix (by rw [hb.record]; exact hs) hstop hpre hb.suffix
        | rolledBack _ _ hb hi _ hd =>
            refine .of_suffix ?_ hstop hpre (hb.suffix.trans (hi.suffix.trans hd.suffix))
            rw [hd.record, hi.record, hb.record]
            exact hs
        | live _ _ hb hi => exact .of_suffix nofun hstop hpre (hb.suffix.trans hi.suffix)

end Steps

section Runs

variable (codes : HookCodes W)

/-- At a call that recovery finds the run in, the driver is torn down first exactly when the call is no
`init` of a faulted driver; and then recovery goes on. -/
theorem call_recovering (op : BaseCall) {s : HalConf W} (h : Recovering s) :
    (TornDownFirst (run (.ofCodes codes) op.prog s).2 ↔ ¬ InitsFaulted op s.record) ∧
      (TornDownFirst (run (.ofCodes codes) op.prog s).2 →
        Recovering (run (.ofCodes codes) op.prog s).2) := by
  -- Every call but `init` keeps the recovery, and is no `init` of a faulted driver.
  have keeps {s' : HalConf W} (hk : Recovering s')
      (hop : ∀ pBase ty, op ≠ .lifecycle (.init pBase ty)) :
      (TornDownFirst s' ↔ ¬ InitsFaulted op s.record) ∧ (TornDownFirst s' → Recovering s') := by
    refine ⟨⟨fun _ => ?_, fun _ => hk.tornDownFirst⟩, fun _ => hk⟩
    rintro ⟨pBase, ty, heq, -⟩
    exact hop pBase ty heq
  cases op with
  | lifecycle c =>
      cases c with
      | deinit pBase ty =>
          exact keeps (deinit_recovering h (baseDeinit_outcome codes pBase ty s)) nofun
      | init pBase ty =>
          rcases init_recovering h (baseInit_outcome codes pBase ty s) with
            ⟨hl, hs, hook, hnot⟩ | ⟨hnot, hk⟩
          · refine ⟨⟨fun ht => absurd ht hnot, fun hf => ?_⟩, fun ht => absurd ht hnot⟩
            exact absurd ⟨pBase, ty, rfl, hl, hs, hook⟩ hf
          · refine ⟨⟨fun _ => ?_, fun _ => hk.tornDownFirst⟩, fun _ => hk⟩
            rintro ⟨pBase', ty', heq, hf⟩
            cases heq
            exact hnot hf
  | service c =>
      exact keeps (service_recovering h (serviceCall_effect codes c s) c.request_isService) nofun
  | lock base timeout =>
      exact keeps (lock_recovering h (baseLock_outcome codes base timeout s) nofun nofun) nofun
  | unlock base =>
      exact keeps (lock_recovering h (baseUnlock_outcome codes base s) nofun nofun) nofun

/-- Exactly the runs that never bring up a faulted driver tear it down first. From any driver whose
status became ERROR, over any calls of the base layer, whatever the hooks answer. -/
theorem tornDownFirst_iff (d : Driver) (ops : List BaseCall) (x : W) :
    EveryCall (fun c _ => TornDownFirst c.after)
        (history (.ofCodes codes) BaseCall.prog ops (faultConf d x)) ↔
      EveryCall (fun c _ => ¬ InitsFaulted c.op c.before.record)
        (history (.ofCodes codes) BaseCall.prog ops (faultConf d x)) := by
  refine everyCall_history_iff (fun _ s => Recovering s)
    (fun op s _ h ht => (call_recovering codes op h).2 ht)
    (fun op s _ h => (call_recovering codes op h).1) ?_ ops
  exact .faulted rfl (List.forall_mem_nil _)

end Runs

/-- One `init` brings a faulted driver up over the resources it holds. -/
theorem faulted_init_not_tornDownFirst :
    ¬ EveryCall (fun c _ => TornDownFirst c.after)
      (history (.ofCodes okHooks) BaseCall.prog
        [.lifecycle (.init .ref Peripheral.uart.type)]
        (faultConf (uartSetup.driver (some 0)) ())) := by
  intro h
  obtain ⟨⟨-, hlive⟩, -⟩ := (everyCall_cons _ _).1 h
  obtain ⟨e, hmem, fn, hcall, -⟩ := hlive (by decide)
  rcases List.mem_cons.1 hmem with rfl | hmem
  · cases hcall
  rcases List.mem_cons.1 hmem with rfl | hmem
  · cases hcall
  · cases hmem

end CaffeineHal
