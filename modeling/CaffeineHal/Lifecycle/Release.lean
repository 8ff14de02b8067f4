import CaffeineHal.Lifecycle.HookLog
import CaffeineHal.Program.History

/-!
# Failed releases of the board

`cfn_hal_base_deinit` is documented to release the board's resources and to return OK on success. It
marks the driver CONSTRUCTED before it asks the board, so when the release fails the next `deinit`
returns OK at its first test, and the release is never tried again.

A release is attributed to the call that made it: `releaseOf` is the answer to the `on_config(DEINIT)`
of one `deinit` call. `releaseRemembered_iff` says exactly which runs remember a failed release: those
in which no `deinit` passes its guard on a CONSTRUCTED driver after one.
-/

set_option autoImplicit false

namespace CaffeineHal

open CaffeineHal.Program CaffeineHal.Lifecycle

variable {W : Type}

/-- A `deinit` or `init` of a run. -/
abbrev LifecycleRan (W : Type) := Ran Driver HookCall ErrorCode ErrorCode W LifecycleCall

def LifecycleCall.isDeinit : LifecycleCall → Bool
  | .init _ _ => false
  | .deinit _ _ => true

/-- The board's answer, where the hook call is `on_config(DEINIT)`. -/
def HalEvent.release (e : HalEvent) : Option ErrorCode :=
  match e.call with
  | .onConfig _ _ .deinit => some e.answer
  | _ => none

/-- The board's answer to the release that a `deinit` asked for, if it asked. -/
def LifecycleRan.releaseOf (c : LifecycleRan W) : Option ErrorCode :=
  if c.op.isDeinit then c.calls.findSome? HalEvent.release else none

/-- The answer to the last release that a `deinit` asked for. -/
def lastRelease (calls : List (LifecycleRan W)) : Option ErrorCode :=
  calls.findSome? LifecycleRan.releaseOf

/-- The last release that a `deinit` asked for failed. -/
def ReleaseFailed (calls : List (LifecycleRan W)) : Prop :=
  ∃ r, lastRelease calls = some r ∧ r ≠ .ok

/-- A `deinit` that returned an error because its release failed. -/
def LifecycleRan.FailedRelease (c : LifecycleRan W) : Prop :=
  ∃ r, c.releaseOf = some r ∧ r ≠ .ok ∧ c.value ≠ .ok

/-- A `deinit` returned an error because its release failed, and no `init` came after it. -/
def PendingRelease (calls : List (LifecycleRan W)) : Prop :=
  ∃ c ∈ calls.takeWhile fun c => c.op.isDeinit, c.FailedRelease

/-- No `deinit` forgets a failed release: while one is pending it asks the board again or returns an
error, and it does not return OK after the last release failed. -/
def ReleaseRemembered (calls : List (LifecycleRan W)) : Prop :=
  EveryCall (fun (c : LifecycleRan W) older => c.op.isDeinit →
    (PendingRelease older → c.releaseOf ≠ none ∨ c.value ≠ .ok) ∧
      (c.value = .ok → ¬ ReleaseFailed (c :: older))) calls

/-- No `deinit` passes its guard on a CONSTRUCTED driver after the last release failed. -/
def NoDeinitAfterFailedRelease (calls : List (LifecycleRan W)) : Prop :=
  EveryCall (fun c older => ∀ pBase ty, c.op = .deinit pBase ty →
    ¬ (Linked pBase ty c.before.record ∧ c.before.record.base.status = .constructed ∧
      ReleaseFailed older)) calls

/-- The board's hook is set, and while a release is pending the driver is CONSTRUCTED and the last
release has failed. -/
structure ReleaseState (fn : FnPtr) (calls : List (LifecycleRan W)) (s : HalConf W) : Prop where
  onConfig : s.record.base.onConfig = some fn
  pending : PendingRelease calls → s.record.base.status = .constructed ∧ ReleaseFailed calls

/-! ## The releases of one call -/

theorem LifecycleRan.releaseOf_deinit {c : LifecycleRan W} (evs : List HalEvent)
    (h : c.op.isDeinit = true) (hlog : c.after.log = evs ++ c.before.log) :
    c.releaseOf = evs.findSome? HalEvent.release := by
  rw [LifecycleRan.releaseOf, if_pos h, Ran.calls_eq hlog]

theorem lastRelease_cons_none {c : LifecycleRan W} (h : c.releaseOf = none)
    (older : List (LifecycleRan W)) : lastRelease (c :: older) = lastRelease older := by
  rw [lastRelease, List.findSome?_cons, h]
  rfl

theorem lastRelease_cons_some {c : LifecycleRan W} {r : ErrorCode} (h : c.releaseOf = some r)
    (older : List (LifecycleRan W)) : lastRelease (c :: older) = some r := by
  rw [lastRelease, List.findSome?_cons, h]

theorem releaseFailed_cons_none {c : LifecycleRan W} (h : c.releaseOf = none)
    (older : List (LifecycleRan W)) : ReleaseFailed (c :: older) ↔ ReleaseFailed older := by
  rw [ReleaseFailed, ReleaseFailed, lastRelease_cons_none h]

theorem not_pendingRelease_init {c : LifecycleRan W} (h : c.op.isDeinit = false)
    (older : List (LifecycleRan W)) : ¬ PendingRelease (c :: older) := by
  rintro ⟨d, hmem, -⟩
  rw [List.takeWhile_cons, h] at hmem
  cases hmem

theorem pendingRelease_deinit {c : LifecycleRan W} (h : c.op.isDeinit = true)
    (older : List (LifecycleRan W)) :
    PendingRelease (c :: older) ↔ c.FailedRelease ∨ PendingRelease older := by
  constructor
  · rintro ⟨d, hmem, hd⟩
    rw [List.takeWhile_cons, if_pos h] at hmem
    rcases List.mem_cons.1 hmem with rfl | hmem
    · exact .inl hd
    · exact .inr ⟨d, hmem, hd⟩
  · rintro (hc | ⟨d, hmem, hd⟩)
    · refine ⟨c, ?_, hc⟩
      rw [List.takeWhile_cons, if_pos h]
      exact List.mem_cons_self
    · refine ⟨d, ?_, hd⟩
      rw [List.takeWhile_cons, if_pos h]
      exact List.mem_cons_of_mem c hmem

/-- What a `deinit` does to the driver and the board: it returned early without a release, or it stopped
the driver and passes the board's answer on. -/
inductive DeinitRelease (pBase : DriverPtr) (expectedType : PeripheralType) (c : LifecycleRan W) :
    Prop
  | forgotten (hl : Linked pBase expectedType c.before.record)
      (hs : c.before.record.base.status = .constructed) (hrel : c.releaseOf = none)
      (hv : c.value = .ok) (hs' : c.after.record = c.before.record)
  | failed (hnot : ¬ (Linked pBase expectedType c.before.record ∧
        c.before.record.base.status = .constructed))
      (hrel : c.releaseOf = none) (hv : c.value ≠ .ok) (hs' : c.after.record = c.before.record)
  | asked (hs : c.before.record.base.status ≠ .constructed) (hrel : c.releaseOf = some c.value)
      (hs' : c.after.record.base.status = .constructed)
      (hon : c.after.record.base.onConfig = c.before.record.base.onConfig)

theorem deinit_release {fn : FnPtr} {pBase : DriverPtr} {expectedType : PeripheralType}
    {s s' : HalConf W} {r : ErrorCode} (hon : s.record.base.onConfig = some fn)
    (ho : DeinitOutcome pBase expectedType s r s') :
    DeinitRelease pBase expectedType ⟨.deinit pBase expectedType, s, r, s'⟩ := by
  have quiet {value : ErrorCode} :
      LifecycleRan.releaseOf ⟨.deinit pBase expectedType, s, value, s⟩ = none :=
    LifecycleRan.releaseOf_deinit [] rfl rfl
  have started (hs : s.record.base.status = .initialized ∨ s.record.base.status = .error) :
      s.record.base.status ≠ .constructed := by
    rcases hs with hs | hs
    · rw [hs]
      exact nofun
    · rw [hs]
      exact nofun
  cases ho with
  | refused hnot => exact .failed (fun hl => hnot hl.1) quiet nofun rfl
  | notLive hl hs => exact .forgotten hl hs quiet rfl rfl
  | unconstructed _ hs =>
      refine .failed (fun hl => ?_) quiet nofun rfl
      have hc := hl.2
      rw [hs] at hc
      cases hc
  | stopFailed _ hs hd hr =>
      refine .failed (fun hl => started hs hl.2) ?_ hr hd.record
      cases hd with
      | absent _ => exact quiet
      | @hook gn r x _ =>
          exact LifecycleRan.releaseOf_deinit [⟨.vmt gn .deinit, s.record, r⟩] rfl rfl
  | @stopped r s₁ s₂ _ hs hd hb =>
      obtain ⟨gn, x, rfl⟩ := hd.of_ne nofun
      obtain ⟨y, rfl⟩ := hb.of_some hon
      -- The release is the newest hook call, after the port's `deinit`.
      refine .asked (started hs) ?_ rfl rfl
      exact LifecycleRan.releaseOf_deinit [⟨.onConfig fn s.record.base.onConfigArg .deinit,
        s.record.setStatus .constructed, r⟩, ⟨.vmt gn .deinit, s.record, .ok⟩] rfl rfl

section Runs

variable {fn : FnPtr} {calls : List (LifecycleRan W)} {s s' : HalConf W} {r : ErrorCode}
  {pBase : DriverPtr} {expectedType : PeripheralType}

theorem InitOutcome.onConfig (ho : InitOutcome pBase expectedType s r s') :
    s'.record.base.onConfig = s.record.base.onConfig := by
  cases ho with
  | refused _ => rfl
  | alreadyInit _ _ => rfl
  | boardFailed _ _ _ hb => rw [hb.record]
  | rolledBack _ _ hb hi _ hd => rw [hd.record, hi.record, hb.record]
  | live _ _ hb hi =>
      rw [Conf.written_record, Driver.setStatus_base_onConfig, hi.record, hb.record]

/-- A `deinit` keeps the bookkeeping of releases. -/
theorem DeinitRelease.releaseState {c : LifecycleRan W} (hc : DeinitRelease pBase expectedType c)
    (hop : c.op.isDeinit = true) (h : ReleaseState fn calls c.before) :
    ReleaseState fn (c :: calls) c.after := by
  cases hc with
  | forgotten _ hs hrel hv hs' =>
      -- The early return changes nothing, so what was pending is pending still.
      refine ⟨by rw [hs']; exact h.onConfig, fun hp => ?_⟩
      rw [hs', releaseFailed_cons_none hrel]
      rcases (pendingRelease_deinit hop calls).1 hp with ⟨r, hr, -⟩ | hp
      · rw [hrel] at hr
        cases hr
      · exact h.pending hp
  | failed _ hrel hv hs' =>
      refine ⟨by rw [hs']; exact h.onConfig, fun hp => ?_⟩
      rw [hs', releaseFailed_cons_none hrel]
      rcases (pendingRelease_deinit hop calls).1 hp with ⟨r, hr, -⟩ | hp
      · rw [hrel] at hr
        cases hr
      · exact h.pending hp
  | asked hs hrel hs' hon =>
      -- The driver was not CONSTRUCTED, so nothing was pending but what this call leaves.
      refine ⟨by rw [hon]; exact h.onConfig, fun hp => ⟨hs', ?_⟩⟩
      rcases (pendingRelease_deinit hop calls).1 hp with ⟨r, hr, hne, -⟩ | hp
      · rw [hrel] at hr
        obtain rfl : c.value = r := Option.some.inj hr
        exact ⟨c.value, lastRelease_cons_some hrel calls, hne⟩
      · exact absurd (h.pending hp).1 hs

/-- A `deinit` remembers a failed release exactly when it does not return early after one. -/
theorem DeinitRelease.remembered_iff {c : LifecycleRan W}
    (hc : DeinitRelease pBase expectedType c) (h : ReleaseState fn calls c.before) :
    ((PendingRelease calls → c.releaseOf ≠ none ∨ c.value ≠ .ok) ∧
        (c.value = .ok → ¬ ReleaseFailed (c :: calls))) ↔
      ¬ (Linked pBase expectedType c.before.record ∧
        c.before.record.base.status = .constructed ∧ ReleaseFailed calls) := by
  cases hc with
  | forgotten hl hs hrel hv _ =>
      rw [releaseFailed_cons_none hrel]
      constructor
      · rintro ⟨-, hok⟩ ⟨-, -, hfail⟩
        exact hok hv hfail
      · intro hnot
        have hnofail : ¬ ReleaseFailed calls := fun hfail => hnot ⟨hl, hs, hfail⟩
        exact ⟨fun hp => absurd (h.pending hp).2 hnofail, fun _ => hnofail⟩
  | failed hnot hrel hv _ =>
      -- An error is reported, so nothing is forgotten.
      constructor
      · rintro - ⟨hl, hs, -⟩
        exact hnot ⟨hl, hs⟩
      · intro _
        exact ⟨fun _ => .inr hv, fun hok => absurd hok hv⟩
  | asked hs hrel _ _ =>
      -- The board was asked, and its answer is the result.
      constructor
      · rintro - ⟨-, hs', -⟩
        exact hs hs'
      · intro _
        refine ⟨fun _ => .inl ?_, ?_⟩
        · rw [hrel]
          exact Option.some_ne_none _
        · rintro hok ⟨r, hr, hne⟩
          rw [lastRelease_cons_some hrel] at hr
          obtain rfl : c.value = r := Option.some.inj hr
          exact hne hok

variable (codes : HookCodes W)

theorem call_releaseState (op : LifecycleCall) (h : ReleaseState fn calls s) :
    ReleaseState fn (ran (.ofCodes codes) LifecycleCall.prog op s :: calls)
      (run (.ofCodes codes) op.prog s).2 := by
  cases op with
  | init pBase ty =>
      refine ⟨?_, fun hp => absurd hp (not_pendingRelease_init rfl calls)⟩
      rw [show run (.ofCodes codes) (LifecycleCall.init pBase ty).prog s =
        run (.ofCodes codes) (baseInit pBase ty) s from rfl,
        (baseInit_outcome codes pBase ty s).onConfig]
      exact h.onConfig
  | deinit pBase ty =>
      have hrel : DeinitRelease pBase ty
          (ran (.ofCodes codes) LifecycleCall.prog (.deinit pBase ty) s) :=
        deinit_release h.onConfig (baseDeinit_outcome codes pBase ty s)
      exact hrel.releaseState rfl h

/-- Exactly the runs without a `deinit` after a failed release remember it. From any populated
driver with a hook for the board, over any calls of `init` and `deinit`, whatever the hooks answer. -/
theorem releaseRemembered_iff (setup : Setup) (fn : FnPtr) (ops : List LifecycleCall) (x : W) :
    ReleaseRemembered (history (.ofCodes codes) LifecycleCall.prog ops
        (setup.conf (some fn) x)) ↔
      NoDeinitAfterFailedRelease (history (.ofCodes codes) LifecycleCall.prog ops
        (setup.conf (some fn) x)) := by
  refine everyCall_history_iff (fun calls s => ReleaseState fn calls s)
    (fun op s calls h _ => call_releaseState codes op h) (fun op s calls h => ?_) ?_ ops
  · cases op with
    | init pBase ty =>
        constructor
        · rintro - pBase' ty' heq
          cases heq
        · intro _ hdeinit
          cases hdeinit
    | deinit pBase ty =>
        have hrel : DeinitRelease pBase ty
            (ran (.ofCodes codes) LifecycleCall.prog (.deinit pBase ty) s) :=
          deinit_release h.onConfig (baseDeinit_outcome codes pBase ty s)
        have hiff := hrel.remembered_iff h
        constructor
        · intro hrem pBase' ty' heq
          cases heq
          exact hiff.1 (hrem rfl)
        · intro hno _
          exact hiff.2 (hno pBase ty rfl)
  · refine ⟨rfl, ?_⟩
    rintro ⟨c, hmem, -⟩
    cases hmem

end Runs

/-- A board whose release fails. -/
def stuckBoard : HookCodes Unit
  | .onConfig _ _ .deinit, _, _ => (.external, ())
  | _, _, _ => (.ok, ())

/-- The release fails, `deinit` returns the board's error, and the retry returns OK. -/
theorem retry_forgets_release :
    ¬ ReleaseRemembered (history (.ofCodes stuckBoard) LifecycleCall.prog
      [.init .ref Peripheral.uart.type, .deinit .ref Peripheral.uart.type,
        .deinit .ref Peripheral.uart.type] (uartSetup.conf (some 0) ())) := by
  intro h
  obtain ⟨hretry, -⟩ := (everyCall_cons _ _).1 h
  exact (hretry rfl).2 (by decide) ⟨.external, by decide, by decide⟩

end CaffeineHal
