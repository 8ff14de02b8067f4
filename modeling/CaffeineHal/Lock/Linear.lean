import CaffeineHal.Lock.Nested
import CaffeineHal.Peripheral.Contract

/-!
# Calls under the lock keep the contract

Clients call the interface of one driver under `CFN_HAL_WITH_LOCK`. Alone, such a call does to the driver what the
call without the lock does (`run_withLock_alone`); sections are serial, and a serial run keeps the contract. So
the clients, however their steps interleave, see one driver that keeps its contract: in the order in which they got
the lock, their calls and codes are a path of it (`locked_calls_linearizable`).
-/

set_option autoImplicit false

namespace CaffeineHal

open CaffeineHal.Program CaffeineHal.Program.Prog CaffeineHal.Lifecycle

variable {W : Type}

/-! ## One section alone -/

section Alone

variable (port : MutexPort W) (codes : HookCodes W) (inv : Driver → Prop) {t : LockTable}
  {s : HalConf (Bool × W)}

/-- A lock operation is not seen inside. -/
theorem view_lockCall {req : BaseRequest} {fn : FnPtr} (hvmt : s.record.base.vmt = some t.table)
    (hslot : t.table.slot req = some fn) (hreq : (port.withCodes codes).mutex.about (.vmt fn req) = true) :
    let out := run (port.withCodes codes).env (lockCall req) s
    (port.inner codes).view out.2 = (port.inner codes).view s := by
  intro out
  have hout : out = _ := run_lockCall (port.withCodes codes).env hvmt hslot
  rw [hout]
  exact (port.inner codes).view_lock hreq

/-- Alone, a section does what its function does without the lock, and frees the mutex. -/
theorem run_withLock_alone (hvmt : ∀ d, inv d → d.base.vmt = some t.table) {p : HalM ErrorCode}
    (hp : p.Maintains HookCall.LeavesLock inv) (timeout : UInt32) (hs : inv s.record)
    (hfree : s.world.1 = false) :
    let out := run (port.withCodes codes).env (withLock .ref timeout p) s
    let inside := run (.ofCodes codes) p ((port.inner codes).view s)
    (out.1, (port.inner codes).view out.2) = inside ∧ inv out.2.record ∧ out.2.world.1 = false := by
  intro out inside
  have hhooks : (port.withCodes codes).hooks.Maintains inv := fun _ _ _ hd => hd
  have hgranted := run_baseLock_free (port.withCodes codes) (hvmt _ hs) timeout hfree
  have hlocked : (port.inner codes).view
      (run (port.withCodes codes).env (baseLock .ref timeout) s).2 = (port.inner codes).view s :=
    view_lockCall port codes (hvmt _ hs) t.lock_eq rfl
  have hout : out = _ := run_withLock_ref (port.withCodes codes).env timeout p s
  generalize run (port.withCodes codes).env (baseLock .ref timeout) s = locked at hgranted hlocked hout
  obtain ⟨hcode, hrecord, -⟩ := hgranted
  rw [if_pos hcode] at hout
  -- The function runs between the lock and the unlock, and neither is seen inside.
  have hkept : inv (run (port.withCodes codes).env p locked.2).2.record :=
    run_maintains ((port.withCodes codes).env_maintains hhooks) hp (hrecord.symm ▸ hs)
  obtain ⟨hbody, -⟩ :=
    (port.inner codes).view_run (s := locked.2) (quiet_of_maintains port codes hp)
  obtain ⟨hsame, hunlocked⟩ := run_baseUnlock (port.withCodes codes) (hvmt _ hkept)
  have hview : (port.inner codes).view out.2 =
      (port.inner codes).view (run (port.withCodes codes).env p locked.2).2 := by
    rw [hout]
    exact view_lockCall port codes (hvmt _ hkept) t.unlock_eq rfl
  refine ⟨?_, ?_, ?_⟩
  · rw [hlocked] at hbody
    rw [hview, hout]
    exact hbody.symm
  · rw [hout]
    exact hsame.symm ▸ hkept
  · rw [hout]
    exact hunlocked

/-- Sections one after another do what their functions do without the lock. -/
theorem serial_alone {ι : Type} {P : Peripheral} (mem : ConfigMemory) (tasks : List (Task ι (LockedCall P)))
    (hs : OnTable t.table s.record) (hfree : s.world.1 = false) :
    let env := (port.withCodes codes).env
    let prog : Task ι (LockedCall P) → HalM ErrorCode := fun task => task.op.prog mem
    let calls := tasks.map fun task => task.op.call
    let inside := (port.inner codes).view s
    (answers env prog tasks s).map (fun a => (a.1.op.call, a.2)) =
        answers (.ofCodes codes) (WrapperCall.prog mem) calls inside ∧
      (port.inner codes).view (runOps env prog tasks s) =
        runOps (.ofCodes codes) (WrapperCall.prog mem) calls inside := by
  induction tasks generalizing s with
  | nil => exact ⟨rfl, rfl⟩
  | cons task tasks ih =>
      have hkeeps : (task.op.call.prog mem).Maintains HookCall.LeavesLock (OnTable t.table) :=
        task.op.call.maintains (keptByLayer_vmt t.table)
      obtain ⟨hrun, hkept, hunlocked⟩ := run_withLock_alone port codes (OnTable t.table) (t := t)
        (fun _ hd => hd.1) hkeeps task.op.timeout hs hfree
      obtain ⟨hanswers, hend⟩ := ih hkept hunlocked
      dsimp only at hrun hanswers hend ⊢
      rw [List.map_cons, answers_cons, answers_cons, List.map_cons, runOps_cons, runOps_cons, ← hrun]
      exact ⟨congrArg (List.cons _) hanswers, hend⟩

end Alone

/-! ## Clients -/

/-- The clients saw one driver that keeps its contract: the calls that got the lock, in the order in which they
did, with the codes that they returned, are a path of it from `v`, which ends where the driver stands; the other
calls returned an error. -/
structure Linearised {ι : Type} {P : Peripheral} (port : MutexPort W) (mem : ConfigMemory)
    (answers : InterfaceAnswers) (v : Front) (jobs : ι → List (LockedCall P))
    (st : Shared ι Driver HookCall ErrorCode ErrorCode (Bool × W) (LockedCall P))
    (served : List (Task ι (LockedCall P) × ErrorCode)) : Prop where
  order : served.map Prod.fst = port.mutex.order st.trace
  once : (served.map Prod.fst).Nodup
  tasks : ∀ a ∈ served, (jobs a.1.client)[a.1.number]? = some a.1.op
  results : ∀ a ∈ served, (st.clients a.1.client).results[a.1.number]? = some a.2
  contract : Path (InterfaceAllows answers mem) v (served.map fun a => (a.1.op.call, a.2)) st.record.front
  others : ∀ i k c, (jobs i)[k]? = some c → ⟨i, k, c⟩ ∉ served.map Prod.fst →
    ∃ r, r ≠ .ok ∧ (st.clients i).results[k]? = some r

/-- Calls under the lock are linearisable to the contract. Any clients, each with a list of calls of the
interface of one populated driver under `CFN_HAL_WITH_LOCK`, with a mutex in the port and any answers of the other
hooks. In every schedule that gives each client 21 turns for each of its calls, all calls return, and the clients
saw one driver that keeps its contract. -/
theorem locked_calls_linearizable {ι : Type} [DecidableEq ι] (P : Peripheral) (mem : ConfigMemory)
    (port : MutexPort W) (codes : HookCodes W) (memory : Driver) (args : PopulateArgs) (api : Api)
    (t : LockTable) (hapi : args.api = some api) (htable : api.base = t.table) (fn : FnPtr) (arg : Ptr)
    (jobs : ι → List (LockedCall P)) (schedule : List ι)
    (hturns : ∀ i, (jobs i).length * 21 ≤ schedule.count i) (x : W) :
    let env := (port.withCodes codes).env
    let s := boardedConf P env memory args fn arg (false, x)
    let st := play env (LockedCall.prog mem) jobs schedule (.start s.record s.world)
    st.Finished jobs ∧ ∃ served : List (Task ι (LockedCall P) × ErrorCode),
      Linearised (port.withCodes codes) mem (api.answers (some fn)) (populatedFront P args) jobs st served := by
  intro env s st
  have hfinished : st.Finished jobs :=
    clients_finish (fun c : LockedCall P => ⟨_, c.within⟩) schedule hturns s.record s.world
  have hhooks : (port.withCodes codes).hooks.Maintains (OnTable t.table) := fun _ _ _ hd => hd
  have hvmt : ∀ d, OnTable t.table d → d.base.vmt = some t.table := fun _ hd => hd.1
  have hbase : args.api.map Api.base = some t.table := by
    rw [hapi, Option.map_some, htable]
  have hs : OnTable t.table s.record := ⟨hbase, hbase⟩
  -- Every call is a section, so the run is a serial one.
  let section_ (c : LockedCall P) : LockedSection (port.withCodes codes) (OnTable t.table) :=
    ⟨c.timeout, c.call.prog mem, fun _ x hd => (port.withCodes codes).keeps_of_maintains hhooks
      (c.call.maintains (keptByLayer_vmt t.table)) hd x⟩
  obtain ⟨holder, hcoherent⟩ : ∃ holder,
      Coherent (fun c => (section_ c).critical hvmt) jobs s.record s.world holder st :=
    play_coherent hs rfl schedule
  have hserial := hcoherent.serialised hfinished
  let order := (port.withCodes codes).mutex.order st.trace
  let served := answers env (fun task : Task ι (LockedCall P) => task.op.prog mem) order s
  have horder : served.map Prod.fst = order := answers_map_fst ..
  obtain ⟨hanswers, hend⟩ := serial_alone port codes (t := t) mem order (s := s) hs rfl
  refine ⟨hfinished, served, horder, ?_, fun a ha => ?_, fun a ha => ?_, ?_, fun i k c hjob hc => ?_⟩
  · rw [horder]
    exact hserial.once
  · have hserved : a.1 ∈ order := horder ▸ List.mem_map_of_mem ha
    exact hserial.tasks a.1 hserved
  · -- What a task returned in the serial run is its result.
    have hran : served = ((serialHistory env (LockedCall.prog mem) s.record s.world order).map
        fun c => (c.op, c.value)).reverse := answers_eq_history ..
    obtain ⟨c, hc, rfl⟩ := List.mem_map.1 (List.mem_reverse.1 (hran ▸ ha))
    exact hserial.results c hc
  · -- The serial run does to the driver what the calls do without the lock.
    obtain ⟨hserving, hfront⟩ : Serving P api (some fn) s.record ∧ s.record.front = populatedFront P args :=
      connectedConf_serving hapi codes memory arg x
    have hpath := path_answers codes (WrapperCall.prog mem) (order.map fun task => task.op.call)
      ((port.inner codes).view s)
    have hrecord : st.record = (runOps (.ofCodes codes) (WrapperCall.prog mem)
        (order.map fun task => task.op.call) ((port.inner codes).view s)).record :=
      hserial.record.trans (congrArg Conf.record hend)
    rw [← hanswers, ← hrecord] at hpath
    rw [← hfront]
    exact ((interface_exact P api (some fn) mem).path_iff hserving).1 ⟨_, hpath, rfl⟩
  · rw [horder] at hc
    obtain ⟨r, ⟨e, -, -, hrefused, rfl, -⟩, hresult⟩ := hserial.others i k c hjob hc
    exact ⟨_, of_decide_eq_false hrefused, hresult⟩

/-- Two clients that initialise one UART. -/
theorem locked_calls_linearizable_uart :
    let env := (busyPort.withCodes okHooks).env
    let api : Api := ⟨fullTable, fun _ => some 20⟩
    let s := boardedConf .uart env zeroedDriver fullArgs 30 none (false, ())
    let jobs : Bool → List (LockedCall .uart) := fun _ => [⟨100, .init .ref⟩]
    let schedule := List.replicate 21 true ++ List.replicate 21 false
    let st := play env (LockedCall.prog default) jobs schedule (.start s.record s.world)
    st.Finished jobs ∧ ∃ served : List (Task Bool (LockedCall .uart) × ErrorCode),
      Linearised (busyPort.withCodes okHooks) default (api.answers (some 30)) (populatedFront .uart fullArgs)
        jobs st served :=
  locked_calls_linearizable .uart default busyPort okHooks zeroedDriver fullArgs _ fullLockTable rfl rfl 30 none
    _ _ (by intro i; cases i <;> decide) ()

end CaffeineHal
