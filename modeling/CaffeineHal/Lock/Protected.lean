import CaffeineHal.Lock.WithLock
import CaffeineHal.Peripheral.Bound
import CaffeineHal.Peripheral.Interrupted
import CaffeineHal.Program.Locked

/-!
# What `CFN_HAL_WITH_LOCK` protects

Clients that make every call of an interface, `init` and `deinit` included, under the lock of the driver
(`LockedCall`), and an interrupt handler that cannot wait for the lock and makes its calls without it. The
clients' steps and the handler's calls interleave in any way, and still the driver keeps its contract in every
state, and stands where its status says whenever the lock is free (`locked_calls_safe`). No client waits: with
enough turns each of them is done, and the lock is free then (`locked_calls_finish`).

The macro is a bracket (`LockedCall.bracket`), and what it protects is what holds between two calls of a single
thread under interrupts, `BetweenCalls`.
-/

set_option autoImplicit false

namespace CaffeineHal

open CaffeineHal.Program CaffeineHal.Lifecycle

variable {W : Type}

/-- A call of the interface with the timeout of its section. -/
structure LockedCall (P : Peripheral) where
  timeout : UInt32
  call : WrapperCall P

def LockedCall.prog {P : Peripheral} (mem : ConfigMemory) (c : LockedCall P) : HalM ErrorCode :=
  withLock .ref c.timeout (c.call.prog mem)

/-- The port whose other hooks answer these codes. -/
def MutexPort.withCodes (port : MutexPort W) (codes : HookCodes W) : MutexPort W :=
  { port with hooks := .ofCodes codes }

/-- A call that is not one of the lock. -/
def HookCall.apartFromLock (c : HookCall) : Bool :=
  !(c.isLock || c.isUnlock)

theorem HookCall.LeavesLock.isLock_eq {c : HookCall} (h : c.LeavesLock) : c.isLock = false := by
  cases c with
  | onConfig fn arg phase => rfl
  | api fn slot args => rfl
  | vmt fn req =>
      have hreq := h fn req rfl
      cases req <;> first | rfl | cases hreq

theorem HookCall.LeavesLock.isUnlock_eq {c : HookCall} (h : c.LeavesLock) :
    c.isUnlock = false := by
  cases c with
  | onConfig fn arg phase => rfl
  | api fn slot args => rfl
  | vmt fn req =>
      have hreq := h fn req rfl
      cases req <;> first | rfl | cases hreq

/-- The hook calls, the lock's apart. -/
def hookCalls (log : List HalEvent) : List HalEvent :=
  log.filter fun e => e.call.apartFromLock

section Bracket

variable (port : MutexPort W) (codes : HookCodes W)

/-- The port without its mutex. -/
def MutexPort.inner : Inner (port.withCodes codes).mutex (.ofCodes codes : HalEnv W) where
  proj := Prod.snd
  other := by
    intro c d x hc
    have hlock : c.isLock = false := acquires_of_about hc
    have hunlock : c.isUnlock = false := releases_of_about hc
    rw [MutexPort.answer_other _ hlock hunlock]
    rfl
  lock := by
    rintro c d ⟨held, x⟩ hc
    cases c with
    | onConfig fn arg phase => cases hc
    | api fn slot args => cases hc
    | vmt fn req =>
        cases req with
        | lock timeout => cases held <;> exact ⟨rfl, rfl⟩
        | unlock => exact ⟨rfl, rfl⟩
        | _ => cases hc

/-- A program without lock operations is quiet. -/
theorem quiet_of_maintains {inv : Driver → Prop} {p : HalM ErrorCode}
    (hp : p.Maintains HookCall.LeavesLock inv) : p.Quiet (port.withCodes codes).mutex := by
  refine hp.calls_mono fun c hc => ?_
  show (c.isLock || c.isUnlock) = false
  rw [hc.isLock_eq, hc.isUnlock_eq]
  rfl

theorem WrapperCall.quiet {f : Fixture} (c : WrapperCall f.peripheral) :
    (c.prog f.mem).Quiet (port.withCodes codes).mutex :=
  quiet_of_maintains port codes (c.maintains (keptByLayer_type f.peripheral.type))

/-- The macro is a bracket around the call. -/
def LockedCall.bracket {f : Fixture} {t : LockTable} (htable : f.table = some t.table)
    (c : LockedCall f.peripheral) :
    Bracket (port.withCodes codes).mutex f.Owns (c.prog f.mem) where
  request := .vmt t.lockFn (.lock c.timeout)
  next := afterLock (c.call.prog f.mem)
  body := c.call.prog f.mem
  exit := fun result => baseUnlock .ref >>= fun _ => pure result
  acquires := rfl
  enter := withLock_entering (fun _ hd => hd.vmt.trans htable) c.timeout (c.call.prog f.mem)
  refused := fun _ hr => if_neg (of_decide_eq_false hr)
  granted := fun _ hr => if_pos (of_decide_eq_true hr)
  quiet := c.call.quiet port codes
  leaves := by
    intro result
    have hslot : t.table.slot .unlock = some t.unlockFn := t.unlock_eq
    exact ⟨.vmt t.unlockFn .unlock, result, rfl,
      lockCall_entering (fun _ hd => hd.vmt.trans htable) hslot fun _ => pure result⟩

/-- What the lock protects is what holds between two calls. -/
theorem play_betweenCalls {ι : Type} [DecidableEq ι] {f : Fixture} {t : LockTable}
    (hgates : f.Gates codes) (htable : f.table = some t.table)
    (jobs : ι → List (LockedCall f.peripheral)) (schedule : List (ι ⊕ InterruptCall f.peripheral))
    {s : HalConf (Bool × W)} (hfree : s.world.1 = false)
    (hs : BetweenCalls f ((port.inner codes).view s)) :
    let st := Crew.play (port.withCodes codes).env (LockedCall.prog f.mem) (InterruptCall.prog f.mem) jobs
      schedule (.start s)
    let inside := (port.inner codes).view st.conf
    Safe f inside ∧ (st.conf.world.1 = false → BetweenCalls f inside) ∧
      ((∀ i, (st.clients i).current = none) → st.conf.world.1 = false) := by
  have hcalm : Calm f codes (InterruptCall.prog f.mem) := service_calm hgates
  exact Crew.play_protected (G := fun c : LockedCall f.peripheral => c.bracket port codes htable)
    (fun c => c.1.quiet port codes) (betweenCalls_stable hcalm) (fun c => c.call.leads hcalm hgates)
    (fun _ h => h.safe) (fun _ h => h.owned) hfree hs schedule

/-- The lock and the unlock take three steps each, and call one hook each. -/
theorem withLock_within {timeout : UInt32} {p : HalM ErrorCode} {n m : Nat} (hp : p.Within n m) :
    (withLock .ref timeout p).Within (n + 6) (m + 2) := by
  unfold withLock
  have hunlocked (result : ErrorCode) : (baseUnlock .ref >>= fun _ => pure result).Within 3 1 :=
    .bind (lockCall_within .unlock) fun _ => .done _ 0 0
  have hsection : ((baseLock .ref timeout) >>= fun result =>
      if result = .ok then p >>= fun inner => baseUnlock .ref >>= fun _ => pure inner
      else pure result).Within (3 + n + 3) (1 + m + 1) :=
    .bind (lockCall_within (.lock timeout)) fun _ => .ite (.bind hp hunlocked) (.done _ _ _)
  exact hsection.mono (by omega) (by omega)

/-- A locked call is over after at most 19 steps of its client: it does not wait for the lock. -/
theorem LockedCall.within {P : Peripheral} {mem : ConfigMemory} (c : LockedCall P) :
    (c.prog mem).Within 19 (c.call.hookBound + 2) :=
  withLock_within c.call.within

end Bracket

/-- An interface is safe under the lock and under interrupts. Any clients, each with a list of calls of one
driver's interface, `init` and `deinit` included, make them under `CFN_HAL_WITH_LOCK`, whatever the hooks
answer; their steps interleave in any way, and between any two of them a handler that does not take the lock
makes calls that neither start nor stop the driver. In every state the record is well formed, an INITIALIZED
driver holds its board, the board was asked when nothing was held, and the hooks of the base table, the lock's and
`config_validate` apart, were called only while the board was, and for a service only on an INITIALIZED driver.
Whenever the lock is free, the board is held exactly by a
driver that is INITIALIZED, and it is that exactly if the last move of the port was an `init`. -/
theorem locked_calls_safe {ι : Type} [DecidableEq ι] (P : Peripheral) (mem : ConfigMemory)
    (port : MutexPort W) (codes : HookCodes W) (memory : Driver) (args : PopulateArgs) (t : LockTable)
    (htable : args.api.map Api.base = some t.table) (fn : FnPtr) (arg : Ptr)
    (jobs : ι → List (LockedCall P)) (schedule : List (ι ⊕ InterruptCall P)) (x : W) :
    let env := (port.withCodes codes).env
    let clients : Crew ι Driver HookCall ErrorCode ErrorCode (Bool × W) (LockedCall P) :=
      .start (boardedConf P env memory args fn arg (false, x))
    let s := (clients.play env (LockedCall.prog mem) (InterruptCall.prog mem) jobs schedule).conf
    let calls := hookCalls s.log
    (Represented P s.record ∧ (s.record.base.status = .initialized → BoardHeld calls) ∧
        WellOrdered calls ∧
        ∀ e ∈ calls, ∀ gn req, e.call = .vmt gn req → req.isService = true →
          (∀ pConfig, req ≠ .configValidate pConfig) → e.record.base.status = .initialized) ∧
      (s.world.1 = false →
        held calls = (if s.record.base.status = .initialized then 1 else 0) ∧
          (s.record.base.status = .initialized ↔ LastMoveWasInit calls)) := by
  intro env clients s calls
  let f : Fixture := portFixture P mem args fn
  have hgates : f.Gates codes := portFixture_gates P mem args fn codes
  have hboarded : BetweenCalls f clients.conf :=
    boardedConf_betweenCalls env rfl memory arg (false, x)
  obtain ⟨hsafe, hbetween, -⟩ := play_betweenCalls port codes (f := f) hgates htable jobs schedule
    (s := clients.conf) rfl (BetweenCalls.ofWorld (x := (false, x)) hboarded)
  obtain ⟨q, htrack, -⟩ := id hsafe.guarded
  refine ⟨⟨hsafe.represented, hsafe.guarded.boardHeld, wellOrdered_of_track htrack, ?_⟩, fun hst => ?_⟩
  · intro e he gn req hcall hreq hval
    exact (hsafe.dispatched e he).live gn req hcall hreq hval
  · have htracked : bringup.track (actions calls) = some s.record.base.status.phase :=
      (hbetween hst).tracked
    constructor
    · rw [held_of_track htracked, held_of_phase]
    · rw [lastMoveWasInit_iff htracked, DriverStatus.phase_eq_live_iff]

/-- Two clients bring one UART up and down. The second one is refused the lock while the first one has it, and a
handler stores a configuration and enables an event in the middle of the first one's `init`. -/
theorem locked_calls_safe_uart :
    let env := (busyPort.withCodes okHooks).env
    let jobs : Bool → List (LockedCall .uart) := fun _ => [⟨100, .init .ref⟩, ⟨100, .deinit .ref⟩]
    let store : InterruptCall .uart := ⟨.configSet (by decide) .ref (some 1), rfl⟩
    let enable : InterruptCall .uart := ⟨.eventEnable .ref 1, rfl⟩
    let schedule : List (Bool ⊕ InterruptCall .uart) := List.replicate 5 (.inl true) ++
      List.replicate 5 (.inl false) ++ .inr store :: List.replicate 12 (.inl true) ++
      .inr enable :: List.replicate 24 (.inl true) ++ List.replicate 24 (.inl false)
    let clients : Crew Bool Driver HookCall ErrorCode ErrorCode (Bool × Unit) (LockedCall .uart) :=
      .start (boardedConf .uart env zeroedDriver fullArgs 30 none (false, ()))
    let st := clients.play env (LockedCall.prog default) (InterruptCall.prog default) jobs schedule
    let s := st.conf
    let calls := hookCalls s.log
    ((Represented .uart s.record ∧ (s.record.base.status = .initialized → BoardHeld calls) ∧
          WellOrdered calls ∧
          ∀ e ∈ calls, ∀ gn req, e.call = .vmt gn req → req.isService = true →
            (∀ pConfig, req ≠ .configValidate pConfig) → e.record.base.status = .initialized) ∧
        (s.world.1 = false →
          held calls = (if s.record.base.status = .initialized then 1 else 0) ∧
            (s.record.base.status = .initialized ↔ LastMoveWasInit calls))) ∧
      (st.clients true).results = [.ok, .ok] ∧ (st.clients false).results = [.busy, .ok] ∧
      calls.map (fun e => e.call) = [.onConfig 30 none .deinit, .vmt 2 .deinit, .vmt 7 (.eventEnable 1),
        .vmt 1 .init, .onConfig 30 none .init, .vmt 5 (.configValidate (some 1)),
        .vmt 5 (.configValidate (some 1))] ∧ s.world.1 = false :=
  ⟨locked_calls_safe .uart default busyPort okHooks zeroedDriver fullArgs fullLockTable rfl 30 none _ _ (),
    by decide +kernel, by decide +kernel, by decide +kernel, by decide +kernel⟩

/-- Clients under the lock finish. Whatever the hooks answer and however often the handler comes, a schedule
that gives each client 21 turns for each of its calls sees all of them done. The lock is free then, the board is
held exactly if the driver is INITIALIZED, and it is that exactly if the last move of the port was an `init`. -/
theorem locked_calls_finish {ι : Type} [DecidableEq ι] (P : Peripheral) (mem : ConfigMemory)
    (port : MutexPort W) (codes : HookCodes W) (memory : Driver) (args : PopulateArgs) (t : LockTable)
    (htable : args.api.map Api.base = some t.table) (fn : FnPtr) (arg : Ptr)
    (jobs : ι → List (LockedCall P)) (schedule : List (ι ⊕ InterruptCall P))
    (hturns : ∀ i, (jobs i).length * 21 ≤ Crew.turnsOf i schedule) (x : W) :
    let env := (port.withCodes codes).env
    let clients : Crew ι Driver HookCall ErrorCode ErrorCode (Bool × W) (LockedCall P) :=
      .start (boardedConf P env memory args fn arg (false, x))
    let st := clients.play env (LockedCall.prog mem) (InterruptCall.prog mem) jobs schedule
    let calls := hookCalls st.conf.log
    st.Finished jobs ∧ st.conf.world.1 = false ∧
      held calls = (if st.conf.record.base.status = .initialized then 1 else 0) ∧
      (st.conf.record.base.status = .initialized ↔ LastMoveWasInit calls) := by
  intro env clients st calls
  have hfinished : st.Finished jobs :=
    Crew.play_finishes (fun c : LockedCall P => ⟨_, c.within⟩) schedule hturns clients.conf
  let f : Fixture := portFixture P mem args fn
  have hgates : f.Gates codes := portFixture_gates P mem args fn codes
  have hboarded : BetweenCalls f clients.conf :=
    boardedConf_betweenCalls env rfl memory arg (false, x)
  obtain ⟨-, hbetween, hidle⟩ := play_betweenCalls port codes (f := f) hgates htable jobs schedule
    (s := clients.conf) rfl (BetweenCalls.ofWorld (x := (false, x)) hboarded)
  have hfree : st.conf.world.1 = false := hidle fun i => (hfinished i).1
  have htracked : bringup.track (actions calls) = some st.conf.record.base.status.phase :=
    (hbetween hfree).tracked
  refine ⟨hfinished, hfree, ?_, ?_⟩
  · rw [held_of_track htracked, held_of_phase]
  · rw [lastMoveWasInit_iff htracked, DriverStatus.phase_eq_live_iff]

/-- Two clients with an `init` each, one of them after the other. -/
theorem locked_calls_finish_uart :
    let env := (busyPort.withCodes okHooks).env
    let jobs : Bool → List (LockedCall .uart) := fun _ => [⟨100, .init .ref⟩]
    let schedule : List (Bool ⊕ InterruptCall .uart) :=
      List.replicate 21 (.inl true) ++ List.replicate 21 (.inl false)
    let clients : Crew Bool Driver HookCall ErrorCode ErrorCode (Bool × Unit) (LockedCall .uart) :=
      .start (boardedConf .uart env zeroedDriver fullArgs 30 none (false, ()))
    let st := clients.play env (LockedCall.prog default) (InterruptCall.prog default) jobs schedule
    let calls := hookCalls st.conf.log
    st.Finished jobs ∧ st.conf.world.1 = false ∧
      held calls = (if st.conf.record.base.status = .initialized then 1 else 0) ∧
      (st.conf.record.base.status = .initialized ↔ LastMoveWasInit calls) :=
  locked_calls_finish .uart default busyPort okHooks zeroedDriver fullArgs fullLockTable rfl 30 none _ _
    (by intro i; cases i <;> decide) ()

end CaffeineHal
