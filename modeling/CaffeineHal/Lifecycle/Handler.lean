import CaffeineHal.Lifecycle.Balance
import CaffeineHal.Program.Interference

/-!
# Bring-up and teardown under an interrupt handler

One thread runs any sequence of `cfn_hal_base_init` and `cfn_hal_base_deinit`; between any two of its
steps (a guard, a hook call, the status write) a handler runs service calls to completion. The thread
stands at a point of the bring-up at every step: `At fn status q` says which status the record shows
and where the monitor of the discipline is. A handler keeps every such point at which an INITIALIZED
driver has its resources (`at_stable`), and the order of the hook calls and status writes in `init` and
`deinit` visits no other (`baseInit_establishes`, `baseDeinit_establishes`).

`interrupt_safe` is the result: at every step boundary of every interleaving an INITIALIZED driver
holds its board resources, and no hook of the base table but `config_validate` was called while they were
released.
-/

set_option autoImplicit false

namespace CaffeineHal

open CaffeineHal.Program CaffeineHal.Lifecycle

variable {W : Type}

/-- The thread: the calls one after the other. -/
def lifecycleThread : List LifecycleCall → HalM Unit
  | [] => return ()
  | c :: calls => do
      let _ ← c.prog
      lifecycleThread calls

/-- The board was asked last, and it agreed. -/
def BoardHeld (log : List HalEvent) : Prop :=
  (actions log).find? BringupAction.onBoard = some (.acquire true)

/-- The thread is at this point of the bring-up. -/
structure At (fn : FnPtr) (status : DriverStatus) (q : Phase) (s : HalConf W) : Prop where
  onConfig : s.record.base.onConfig = some fn
  status : s.record.base.status = status
  tracked : bringup.track (actions s.log) = some q

/-- What holds at every step boundary. -/
def Guarded (s : HalConf W) : Prop :=
  ∃ q, bringup.track (actions s.log) = some q ∧
    (s.record.base.status = .initialized → q ≠ .down)

/-- The thread is between two calls. -/
def Idle (fn : FnPtr) (s : HalConf W) : Prop :=
  At fn .constructed .down s ∨ At fn .initialized .live s

section Points

variable (codes : HookCodes W) {fn : FnPtr} {status : DriverStatus} {q : Phase}

/-- A handler leaves the thread where it is, as long as an INITIALIZED driver has its resources. -/
theorem at_stable (hq : status = .initialized → q ≠ .down) :
    Stable (.ofCodes codes) ServiceCall.prog (At (W := W) fn status q) := by
  intro c s h
  obtain ⟨hrec, hcalls⟩ := serviceCall_effect codes c s
  obtain ⟨newer, hlog, huse⟩ := hcalls.actions c.request_isService
  have ht : bringup.track (actions (run (.ofCodes codes) c.prog s).2.log) = some q := by
    rw [hlog]
    refine bringup.track_append_stay h.tracked fun a ha => ?_
    -- The handler only uses the peripheral, and only of an INITIALIZED driver.
    obtain ⟨rfl, hs⟩ := huse a ha
    exact next_use (hq (h.status.symm.trans hs))
  rcases hrec with hrec | ⟨state, hrec⟩
  · exact ⟨by rw [hrec]; exact h.onConfig, by rw [hrec]; exact h.status, ht⟩
  · exact ⟨by rw [hrec]; exact h.onConfig, by rw [hrec]; exact h.status, ht⟩

theorem At.guarded (hq : status = .initialized → q ≠ .down) {s : HalConf W}
    (h : At fn status q s) : Guarded s :=
  ⟨q, h.tracked, fun hs => hq (h.status.symm.trans hs)⟩

theorem idle_stable : Stable (.ofCodes codes) ServiceCall.prog (Idle (W := W) fn) := by
  intro c s h
  rcases h with h | h
  · exact .inl (at_stable codes (by decide) c s h)
  · exact .inr (at_stable codes (by decide) c s h)

theorem Idle.guarded {s : HalConf W} (h : Idle fn s) : Guarded s := by
  rcases h with h | h
  · exact h.guarded (by decide)
  · exact h.guarded (by decide)

end Points

/-! ## The thread's programs -/

/-- What the thread establishes, whatever the handler does in between. -/
abbrev Establishes {α : Type} (codes : HookCodes W) (P : HalConf W → Prop) (p : HalM α)
    (post : α → HalConf W → Prop) : Prop :=
  Hoare (.ofCodes codes) ServiceCall.prog Guarded P p post

section Thread

variable (codes : HookCodes W) {fn : FnPtr} {status : DriverStatus} {q : Phase}

/-- What a read of the record at a point of the bring-up tells. -/
theorem get_establishes (hq : status = .initialized → q ≠ .down) :
    Establishes codes (At fn status q) Prog.get
      (fun d s => At fn status q s ∧ d.base.status = status ∧ d.base.onConfig = some fn) := by
  refine Hoare.read (at_stable codes hq) (fun s h => h.guarded hq) fun t ht => ?_
  refine Hoare.done (at_stable codes hq) (fun s h => h.guarded hq) fun s h => ?_
  exact ⟨h, ht.status, ht.onConfig⟩

theorem return_establishes {α : Type} (hq : status = .initialized → q ≠ .down) (a : α) :
    Establishes codes (At fn status q) (.done a) (fun _ => At fn status q) :=
  Hoare.done (at_stable codes hq) (fun _ h => h.guarded hq) fun _ h => h

/-- A test for the status that the driver has. -/
theorem sameStatus_establishes {α : Type} {p p' : HalM α} {post : α → HalConf W → Prop}
    (hq : status = .initialized → q ≠ .down) (hp : Establishes codes (At fn status q) p post) :
    Establishes codes (At fn status q)
      (Prog.get >>= fun d => if d.base.status = status then p else p') post := by
  apply Hoare.bind (get_establishes codes hq)
  rintro d s ⟨h, hst, -⟩
  rw [if_pos hst]
  exact hp s h

/-- A test for another status. -/
theorem otherStatus_establishes {α : Type} {status' : DriverStatus} {p p' : HalM α}
    {post : α → HalConf W → Prop} (hq : status = .initialized → q ≠ .down)
    (hne : status ≠ status') (hp : Establishes codes (At fn status q) p' post) :
    Establishes codes (At fn status q)
      (Prog.get >>= fun d => if d.base.status = status' then p else p') post := by
  apply Hoare.bind (get_establishes codes hq)
  rintro d s ⟨h, hst, -⟩
  have hd : d.base.status ≠ status' := by
    rw [hst]
    exact hne
  rw [if_neg hd]
  exact hp s h

theorem linkRejects_establishes (pBase : DriverPtr) (expectedType : PeripheralType) :
    Establishes codes (Idle fn) (linkRejects pBase expectedType) (fun _ => Idle fn) := by
  cases pBase with
  | null => exact Hoare.done (idle_stable codes) (fun _ h => h.guarded) fun _ h => h
  | ref =>
      refine Hoare.read (idle_stable codes) (fun _ h => h.guarded) fun t _ => ?_
      exact Hoare.done (idle_stable codes) (fun _ h => h.guarded) fun _ h => h

/-- A hook call moves the thread as the discipline says for its action. -/
theorem request_establishes {c : HookCall} {a : ErrorCode → BringupAction} {q' : ErrorCode → Phase}
    (ha : ∀ d r, HalEvent.action ⟨c, d, r⟩ = some (a r))
    (hnext : ∀ r, bringup.next q (a r) = some (q' r))
    (hq : status = .initialized → q ≠ .down) (hq' : ∀ r, status = .initialized → q' r ≠ .down) :
    Establishes codes (At fn status q) (Prog.request c) (fun r => At fn status (q' r)) := by
  refine Hoare.call (Q := fun r => At fn status (q' r)) (at_stable codes hq)
    (fun s h => h.guarded hq) (fun s h => ?_) fun r => return_establishes codes (hq' r) r
  refine ⟨h.onConfig, h.status, ?_⟩
  rw [Conf.answered_log, actions_cons_of_action (ha _ _), Monitor.track_cons, h.tracked]
  exact hnext _

/-- The board's hook is set, so it is called. -/
theorem callOnConfig_establishes {phase : ConfigPhase} {a : ErrorCode → BringupAction}
    {q' : ErrorCode → Phase}
    (ha : ∀ gn arg d r, HalEvent.action ⟨.onConfig gn arg phase, d, r⟩ = some (a r))
    (hnext : ∀ r, bringup.next q (a r) = some (q' r)) (hq : status = .initialized → q ≠ .down)
    (hq' : ∀ r, status = .initialized → q' r ≠ .down) :
    Establishes codes (At fn status q) (callOnConfig phase) (fun r => At fn status (q' r)) := by
  refine Hoare.bind (get_establishes codes hq) fun d s hs => ?_
  obtain ⟨h, -, hon⟩ := hs
  simp only [hon]
  exact request_establishes codes (fun d r => ha fn _ d r) hnext hq hq' s h

/-- A port hook that is missing moves nothing; one that is set moves as its action says. -/
theorem callSlot_establishes {pApi : Option ApiBase} {req : BaseRequest} {missing : ErrorCode}
    {a : ErrorCode → BringupAction} {q' : ErrorCode → Phase}
    (ha : ∀ gn d r, HalEvent.action ⟨.vmt gn req, d, r⟩ = some (a r))
    (hnext : ∀ r, bringup.next q (a r) = some (q' r)) (hmissing : q' missing = q)
    (hq : status = .initialized → q ≠ .down) (hq' : ∀ r, status = .initialized → q' r ≠ .down) :
    Establishes codes (At fn status q) (callSlot pApi req missing)
      (fun r => At fn status (q' r)) := by
  unfold callSlot
  cases hslot : (pApi.bind fun t => t.slot req) with
  | none =>
      refine Hoare.done (at_stable codes hq) (fun s h => h.guarded hq) fun s h => ?_
      rw [hmissing]
      exact h
  | some gn => exact request_establishes codes (fun d r => ha gn d r) hnext hq hq'

theorem setStatus_establishes {status' : DriverStatus} (hq : status = .initialized → q ≠ .down)
    (hq' : status' = .initialized → q ≠ .down) :
    Establishes codes (At fn status q) (Prog.modify (Driver.setStatus status'))
      (fun _ => At fn status' q) := by
  refine Hoare.write (Q := At fn status' q) (at_stable codes hq) (fun s h => h.guarded hq)
    (fun s h => ?_) (return_establishes codes hq' _)
  exact ⟨h.onConfig, rfl, h.tracked⟩

/-- Phase A of `init`. -/
theorem askBoard_establishes (hs : status ≠ .initialized) :
    Establishes codes (At fn status .down) (callOnConfig .init)
      (fun r => At fn status (if r = .ok then .held else .down)) := by
  refine callOnConfig_establishes codes (a := fun r => .acquire (decide (r = .ok)))
    (fun _ _ _ _ => rfl) (fun r => ?_) (fun h => absurd h hs) (fun _ h => absurd h hs)
  rw [next_acquire]
  simp only [decide_eq_true_eq]

/-- The rollback of `init`, and phase B of `deinit`. -/
theorem releaseBoard_establishes (hs : status ≠ .initialized) :
    Establishes codes (At fn status .held) (callOnConfig .deinit) (fun _ => At fn status .down) :=
  callOnConfig_establishes codes (a := fun _ => .release) (fun _ _ _ _ => rfl) (fun _ => rfl)
    (fun h => absurd h hs) (fun _ h => absurd h hs)

/-- Phase B of `init`. -/
theorem startPort_establishes (pApi : Option ApiBase) :
    Establishes codes (At fn .constructed .held) (callSlot pApi .init .notSupported)
      (fun r => At fn .constructed (if r = .ok then .live else .held)) := by
  refine callSlot_establishes codes (a := fun r => .start (decide (r = .ok)))
    (fun _ _ _ => rfl) (fun r => ?_) rfl (by decide) (fun r => ?_)
  · rw [next_start]
    simp only [decide_eq_true_eq]
  · intro h
    cases h

/-- Phase A of `deinit`. -/
theorem stopPort_establishes (pApi : Option ApiBase) :
    Establishes codes (At fn .initialized .live) (callSlot pApi .deinit .notSupported)
      (fun r => At fn .initialized (if r = .ok then .held else .live)) := by
  refine callSlot_establishes codes (a := fun r => .stop (decide (r = .ok)))
    (fun _ _ _ => rfl) (fun r => ?_) rfl (by decide) (fun r => ?_)
  · rw [next_stop]
    simp only [decide_eq_true_eq]
  · intro _
    by_cases hr : r = .ok
    · rw [if_pos hr]
      decide
    · rw [if_neg hr]
      decide

theorem returnIdle_establishes {α : Type} {P : HalConf W → Prop} (a : α)
    (hP : ∀ s, P s → Idle fn s) :
    Establishes codes P (.done a) (fun _ => Idle fn) := by
  intro s hs
  exact Hoare.done (idle_stable codes) (fun _ h => h.guarded) (fun _ h => h) s (hP s hs)

/-- `cfn_hal_base_init` leads the thread from rest to rest, over points at which the handler finds an
INITIALIZED driver only with its resources held. -/
theorem baseInit_establishes (pBase : DriverPtr) (expectedType : PeripheralType) :
    Establishes codes (Idle fn) (baseInit pBase expectedType) (fun _ => Idle fn) := by
  apply Hoare.bind (linkRejects_establishes codes pBase expectedType)
  intro refused
  cases refused with
  | true => exact returnIdle_establishes codes _ fun _ h => h
  | false =>
      intro s h
      rcases h with h | h
      · -- Not INITIALIZED: the board is asked, then the port.
        refine otherStatus_establishes codes (by decide) (by decide) ?_ s h
        apply Hoare.bind (askBoard_establishes codes (by decide))
        intro r
        by_cases hr : r = .ok
        swap
        · simp only [ne_eq, hr, not_false_eq_true, if_true, if_false]
          exact returnIdle_establishes codes _ fun _ h => .inl h
        simp only [ne_eq, hr, not_true_eq_false, if_true, if_false]
        apply Hoare.bind (get_establishes codes (by decide))
        rintro d s ⟨h, -, -⟩
        refine Hoare.bind (startPort_establishes codes d.base.vmt) (fun r => ?_) s h
        by_cases hr : r = .ok
        · -- The port runs before the status says so.
          simp only [hr, if_true]
          apply Hoare.bind (setStatus_establishes codes (by decide) (by decide))
          intro _
          exact returnIdle_establishes codes _ fun _ h => .inr h
        · simp only [hr, if_false]
          apply Hoare.bind (releaseBoard_establishes codes (by decide))
          intro _
          exact returnIdle_establishes codes _ fun _ h => .inl h
      · -- INITIALIZED: refused, at rest as before.
        refine sameStatus_establishes codes (by decide) ?_ s h
        exact returnIdle_establishes codes _ fun _ h => .inr h

/-- `cfn_hal_base_deinit` does too: the status leaves INITIALIZED before the board is told. -/
theorem baseDeinit_establishes (pBase : DriverPtr) (expectedType : PeripheralType) :
    Establishes codes (Idle fn) (baseDeinit pBase expectedType) (fun _ => Idle fn) := by
  apply Hoare.bind (linkRejects_establishes codes pBase expectedType)
  intro refused
  cases refused with
  | true => exact returnIdle_establishes codes _ fun _ h => h
  | false =>
      intro s h
      rcases h with h | h
      · -- CONSTRUCTED: nothing to tear down.
        refine sameStatus_establishes codes (by decide) ?_ s h
        exact returnIdle_establishes codes _ fun _ h => .inl h
      · -- INITIALIZED: neither of the two tests holds.
        refine otherStatus_establishes codes (by decide) (by decide) ?_ s h
        apply otherStatus_establishes codes (by decide) (by decide)
        apply Hoare.bind (get_establishes codes (by decide))
        rintro d s ⟨h, -, -⟩
        refine Hoare.bind (stopPort_establishes codes d.base.vmt) (fun r => ?_) s h
        by_cases hr : r = .ok
        · -- From here to the release a handler finds a driver that is not INITIALIZED.
          simp only [hr, if_true]
          apply Hoare.bind (setStatus_establishes codes (by decide) (by decide))
          intro _ s h
          exact (releaseBoard_establishes codes (by decide) s h).mono fun _ _ h => .inl h
        · simp only [hr, if_false]
          exact returnIdle_establishes codes _ fun _ h => .inr h

theorem lifecycleThread_establishes (calls : List LifecycleCall) :
    Establishes codes (Idle fn) (lifecycleThread calls) (fun _ => Idle fn) := by
  induction calls with
  | nil => exact returnIdle_establishes codes _ fun _ h => h
  | cons c calls ih =>
      cases c with
      | init pBase ty => exact Hoare.bind (baseInit_establishes codes pBase ty) fun _ => ih
      | deinit pBase ty => exact Hoare.bind (baseDeinit_establishes codes pBase ty) fun _ => ih

end Thread

/-- What the monitor says at a boundary, in terms of the log. -/
theorem Guarded.boardHeld {s : HalConf W} (h : Guarded s)
    (hs : s.record.base.status = .initialized) : BoardHeld s.log := by
  obtain ⟨q, hq, hne⟩ := h
  exact (held_iff_lastBoard hq).2 (hne hs)

theorem Guarded.onBaseHook {s : HalConf W} (h : Guarded s) {e : HalEvent} {older : List HalEvent}
    (hsuf : e :: older <:+ s.log) (he : e.OnBaseHook) : BoardHeld older := by
  obtain ⟨q, hq, -⟩ := h
  obtain ⟨a, ha, ht⟩ := he.touches
  obtain ⟨p, hp⟩ := bringup.track_suffix (actions_suffix hsuf) hq
  rw [actions_cons_of_action ha] at hp
  obtain ⟨p', hp', hne⟩ := touch_allowed ht hp
  exact (held_iff_lastBoard hp').2 hne

/-- Bring-up and teardown are safe under interrupts. At every step boundary of every interleaving
of a thread of `init` and `deinit` calls with a handler's service calls, whatever the hooks answer: an
INITIALIZED driver holds its board resources, and every call of a base-table hook other than
`config_validate`, the handler's included, was made while they were held. -/
theorem interrupt_safe (setup : Setup) (fn : FnPtr) (codes : HookCodes W)
    (calls : List LifecycleCall) (schedule : List (Option ServiceCall)) (x : W) :
    let s := (interleave (.ofCodes codes) ServiceCall.prog schedule
      (lifecycleThread calls, setup.conf (some fn) x)).2
    (s.record.base.status = .initialized → BoardHeld s.log) ∧
      ∀ (e : HalEvent) older, e :: older <:+ s.log → e.OnBaseHook → BoardHeld older := by
  intro s
  have hidle : Idle fn (setup.conf (some fn) x) := .inl ⟨rfl, rfl, rfl⟩
  have hg : Guarded s :=
    (lifecycleThread_establishes codes calls _ hidle).interleave_inv schedule
  exact ⟨hg.boardHeld, fun e older hsuf he => hg.onBaseHook hsuf he⟩

end CaffeineHal
