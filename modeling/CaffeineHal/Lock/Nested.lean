import CaffeineHal.Lock.Leak
import CaffeineHal.Lock.Protected

/-!
# Nested sections on one driver

A client may use `CFN_HAL_WITH_LOCK` inside a function that runs under it. The port's mutex is taken then, so the
inner lock is refused: the inner function is not called, its result is the error of the lock, and the outer
section goes on. `LockProgram.outermost` is the program without its inner functions, and
`nested_sections_refused` says that a client runs as if it were that program, however deep its sections nest.
-/

set_option autoImplicit false

namespace CaffeineHal

open CaffeineHal.Program

variable {W Op : Type}

/-- A section whose function is not called. -/
def withLockRefused (args : LockArgs) : HalM ErrorCode :=
  match args.driver with
  | .null => return .badParam
  | .ref => baseLock .ref args.timeout

/-- The program without the functions of its inner sections; `inside` says that a section is around it. -/
def LockProgram.outermost (op : Op → HalM ErrorCode) : Bool → LockProgram Op → HalM ErrorCode
  | _, .ret r => return r
  | inside, .op o next => do outermost op inside (next (← op o))
  | false, .within args function next => do
      let result ← withLock args.driver args.timeout (outermost op true function)
      outermost op false (next result)
  | true, .within args _ next => do outermost op true (next (← withLockRefused args))

section Runs

variable (port : MutexPort W) {inv : Driver → Prop} {t : LockTable}

/-- A program that makes no lock operation leaves the lock. -/
theorem run_keepsLock (hhooks : port.hooks.Maintains inv) {p : HalM ErrorCode}
    (hp : p.Maintains HookCall.LeavesLock inv) {s : HalConf (Bool × W)} (hs : inv s.record) :
    inv (run port.env p s).2.record ∧ (run port.env p s).2.world.1 = s.world.1 := by
  refine ⟨run_maintains (port.env_maintains hhooks) hp hs, ?_⟩
  -- Only a call changes the world, and no other hook touches the mutex.
  induction p generalizing s with
  | done a => rfl
  | read k ih => exact ih s.record (hp s.record) hs
  | write f k ih => exact ih hp.2 (hp.1 s.record hs)
  | call c k ih =>
      have hnext : inv (s.answered port.env c).record :=
        port.env_maintains hhooks c s.record s.world hs
      have hsame : (s.answered port.env c).world.1 = s.world.1 := by
        have hlock := hp.1.isLock_eq
        have hunlock := hp.1.isUnlock_eq
        rw [Conf.answered, port.answer_other hlock hunlock]
      exact (ih _ (hp.2 _) hnext).trans hsame

/-- On a driver with a table, a lock function makes one call, of its hook. -/
theorem run_lockCall (env : HalEnv W) {table : ApiBase} {req : BaseRequest} {fn : FnPtr}
    {s : HalConf W} (hvmt : s.record.base.vmt = some table) (hslot : table.slot req = some fn) :
    run env (lockCall req) s = (s.reply env (.vmt fn req), s.answered env (.vmt fn req)) := by
  have hbind : (some table).bind (fun t => t.slot req) = some fn := hslot
  simp only [lockCall, run_bind, run_get, hvmt, Option.isNone_some, Bool.false_eq_true, if_false,
    callSlot, hbind, run_request]

/-- A taken mutex refuses, and stays as it was. -/
theorem run_baseLock_taken {s : HalConf (Bool × W)} (hvmt : s.record.base.vmt = some t.table)
    (timeout : UInt32) (htaken : s.world.1 = true) :
    let out := run port.env (baseLock .ref timeout) s
    out.1 ≠ .ok ∧ out.2.record = s.record ∧ out.2.world = s.world := by
  have hslot : t.table.slot (.lock timeout) = some t.lockFn := t.lock_eq
  have hanswer := port.answer_lock t.lockFn timeout s.record s.world
  rw [if_pos htaken] at hanswer
  have hcall := run_lockCall port.env hvmt hslot
  refine hcall ▸ ⟨?_, ?_, ?_⟩
  · rw [Conf.reply, hanswer]
    exact port.refusal_ne_ok timeout s.record s.world.2
  · rw [Conf.answered, hanswer]
  · rw [Conf.answered, hanswer]

/-- A free mutex is taken. -/
theorem run_baseLock_free {s : HalConf (Bool × W)} (hvmt : s.record.base.vmt = some t.table)
    (timeout : UInt32) (hfree : s.world.1 = false) :
    let out := run port.env (baseLock .ref timeout) s
    out.1 = .ok ∧ out.2.record = s.record ∧ out.2.world.1 = true := by
  have hslot : t.table.slot (.lock timeout) = some t.lockFn := t.lock_eq
  have hanswer := port.answer_lock t.lockFn timeout s.record s.world
  rw [if_neg (ne_true_of_eq_false hfree)] at hanswer
  have hcall := run_lockCall port.env hvmt hslot
  refine hcall ▸ ⟨?_, ?_, ?_⟩
  · rw [Conf.reply, hanswer]
  · rw [Conf.answered, hanswer]
  · rw [Conf.answered, hanswer]

/-- The unlock frees the mutex. -/
theorem run_baseUnlock {s : HalConf (Bool × W)} (hvmt : s.record.base.vmt = some t.table) :
    let out := run port.env (baseUnlock .ref) s
    out.2.record = s.record ∧ out.2.world.1 = false := by
  have hslot : t.table.slot .unlock = some t.unlockFn := t.unlock_eq
  have hcall := run_lockCall port.env hvmt hslot
  exact hcall ▸ ⟨rfl, rfl⟩

/-- The macro, by the answer of the lock. -/
theorem run_withLock_ref (env : HalEnv W) (timeout : UInt32) (function : HalM ErrorCode)
    (s : HalConf W) :
    run env (withLock .ref timeout function) s =
      let locked := run env (baseLock .ref timeout) s
      if locked.1 = .ok then
        let out := run env function locked.2
        (out.1, (run env (baseUnlock .ref) out.2).2)
      else locked := by
  simp only [withLock, run_bind]
  split
  · simp only [run_bind, Prog.pure_eq, run_done]
  · rfl

/-- Inside a section the function of another one is not called. -/
theorem run_withLock_inside (hvmt : ∀ d, inv d → d.base.vmt = some t.table) (args : LockArgs)
    (function : HalM ErrorCode) {s : HalConf (Bool × W)} (hs : inv s.record)
    (htaken : s.world.1 = true) :
    let out := run port.env (withLock args.driver args.timeout function) s
    out = run port.env (withLockRefused args) s ∧ inv out.2.record ∧ out.2.world.1 = true := by
  obtain ⟨driver, timeout⟩ := args
  cases driver with
  | null => exact ⟨rfl, hs, htaken⟩
  | ref =>
      have hrefused := run_baseLock_taken port (hvmt s.record hs) timeout htaken
      dsimp only at hrefused ⊢
      obtain ⟨hcode, hrecord, hworld⟩ := hrefused
      rw [run_withLock_ref]
      simp only [if_neg hcode]
      refine ⟨rfl, ?_, ?_⟩
      · rwa [hrecord]
      · rwa [hworld]

/-- Outside every section, functions that run alike under the lock run alike in a section. -/
theorem run_withLock_outside (hvmt : ∀ d, inv d → d.base.vmt = some t.table) (args : LockArgs)
    {f g : HalM ErrorCode}
    (hsame : ∀ s : HalConf (Bool × W), inv s.record → s.world.1 = true →
      run port.env f s = run port.env g s ∧ inv (run port.env f s).2.record)
    {s : HalConf (Bool × W)} (hs : inv s.record) (hfree : s.world.1 = false) :
    let out := run port.env (withLock args.driver args.timeout f) s
    out = run port.env (withLock args.driver args.timeout g) s ∧ inv out.2.record ∧
      out.2.world.1 = false := by
  obtain ⟨driver, timeout⟩ := args
  cases driver with
  | null => exact ⟨rfl, hs, hfree⟩
  | ref =>
      have hgranted := run_baseLock_free port (hvmt s.record hs) timeout hfree
      dsimp only at hgranted ⊢
      obtain ⟨hcode, hrecord, htaken⟩ := hgranted
      obtain ⟨hrun, hkept⟩ := hsame _ (hrecord.symm ▸ hs) htaken
      have hunlock := run_baseUnlock port (hvmt _ hkept)
      simp only [run_withLock_ref, if_pos hcode, ← hrun]
      exact ⟨trivial, hunlock.1.symm ▸ hkept, hunlock.2⟩

section Programs

variable {op : Op → HalM ErrorCode} (env : HalEnv W) (s : HalConf W)

theorem run_outermost_op (inside : Bool) (o : Op) (next : ErrorCode → LockProgram Op) :
    run env (LockProgram.outermost op inside (.op o next)) s =
      let out := run env (op o) s
      run env (LockProgram.outermost op inside (next out.1)) out.2 := by
  cases inside <;> exact run_bind env _ _ s

theorem run_outermost_outside (args : LockArgs) (body : LockProgram Op)
    (next : ErrorCode → LockProgram Op) :
    run env (LockProgram.outermost op false (.within args body next)) s =
      let out := run env
        (withLock args.driver args.timeout (LockProgram.outermost op true body)) s
      run env (LockProgram.outermost op false (next out.1)) out.2 :=
  run_bind env _ _ s

theorem run_outermost_inside (args : LockArgs) (body : LockProgram Op)
    (next : ErrorCode → LockProgram Op) :
    run env (LockProgram.outermost op true (.within args body next)) s =
      let out := run env (withLockRefused args) s
      run env (LockProgram.outermost op true (next out.1)) out.2 :=
  run_bind env _ _ s

end Programs

/-- What nests in a section is refused, and the mutex is as it was. -/
theorem run_outermost (hhooks : port.hooks.Maintains inv)
    (hvmt : ∀ d, inv d → d.base.vmt = some t.table) {op : Op → HalM ErrorCode}
    (hop : ∀ o, (op o).Maintains HookCall.LeavesLock inv) (p : LockProgram Op) (inside : Bool)
    {s : HalConf (Bool × W)} (hs : inv s.record) (hlock : s.world.1 = inside) :
    run port.env (LockProgram.prog op p) s = run port.env (LockProgram.outermost op inside p) s ∧
      inv (run port.env (LockProgram.prog op p) s).2.record ∧
      (run port.env (LockProgram.prog op p) s).2.world.1 = inside := by
  induction p generalizing inside s with
  | ret r => cases inside <;> exact ⟨rfl, hs, hlock⟩
  | op o next ih =>
      obtain ⟨hkept, hsame⟩ := run_keepsLock port hhooks (hop o) hs
      rw [run_op, run_outermost_op]
      exact ih (run port.env (op o) s).1 inside hkept (hsame.trans hlock)
  | within args body next ihbody ihnext =>
      rw [run_within]
      cases inside with
      | true =>
          obtain ⟨hrun, hkept, htaken⟩ :=
            run_withLock_inside port hvmt args (LockProgram.prog op body) hs hlock
          rw [run_outermost_inside, ← hrun]
          exact ihnext _ true hkept htaken
      | false =>
          have hsame : ∀ s : HalConf (Bool × W), inv s.record → s.world.1 = true →
              run port.env (LockProgram.prog op body) s =
                  run port.env (LockProgram.outermost op true body) s ∧
                inv (run port.env (LockProgram.prog op body) s).2.record := by
            intro s hs htaken
            obtain ⟨hrun, hkept, -⟩ := ihbody true hs htaken
            exact ⟨hrun, hkept⟩
          obtain ⟨hrun, hkept, hfree⟩ := run_withLock_outside port hvmt args hsame hs hlock
          rw [run_outermost_outside, ← hrun]
          exact ihnext _ false hkept hfree

end Runs

/-- Sections on one driver do not nest. A client makes calls of an interface on one driver, in any state that
leads to the table with the lock, and uses `CFN_HAL_WITH_LOCK` on it to any depth. With a mutex in the port, free
at first, and whatever the other hooks answer, its run is that of the program in which every inner section is a
lock that is refused: no function of an inner section is called, and its result is the error of the lock. The
outer sections run to their end, and the mutex is free after the last. -/
theorem nested_sections_refused (P : Peripheral) (mem : ConfigMemory) (port : MutexPort W)
    (codes : HookCodes W) (t : LockTable) (s : HalConf (Bool × W)) (htable : OnTable t.table s.record)
    (hfree : s.world.1 = false) (p : LockProgram (WrapperCall P)) :
    let env := (port.withCodes codes).env
    let op : WrapperCall P → HalM ErrorCode := fun c => c.prog mem
    let out := run env (LockProgram.prog op p) s
    out = run env (LockProgram.outermost op false p) s ∧ out.2.world.1 = false := by
  intro env op out
  have hhooks : (port.withCodes codes).hooks.Maintains (OnTable t.table) := fun _ _ _ hd => hd
  have hop : ∀ c, (op c).Maintains HookCall.LeavesLock (OnTable t.table) :=
    fun c => c.maintains (keptByLayer_vmt t.table)
  obtain ⟨hrun, -, hleft⟩ := run_outermost (port.withCodes codes) (t := t) hhooks
    (fun _ hd => hd.1) hop p false htable hfree
  exact ⟨hrun, hleft⟩

/-- The power of a UART, switched in a section of a section. -/
theorem nested_sections_refused_uart :
    let env := (busyPort.withCodes okHooks).env
    let op : WrapperCall .uart → HalM ErrorCode := fun c => c.prog default
    let s := populatedConf .uart env zeroedDriver fullArgs (false, ())
    let off : LockProgram (WrapperCall .uart) := .op (.powerStateSet .ref .off) .ret
    let p : LockProgram (WrapperCall .uart) := .within ⟨.ref, 100⟩ (.within ⟨.ref, 100⟩ off .ret) .ret
    let out := run env (LockProgram.prog op p) s
    (out = run env (LockProgram.outermost op false p) s ∧ out.2.world.1 = false) ∧ out.1 = .busy :=
  ⟨nested_sections_refused .uart default busyPort okHooks fullLockTable _ ⟨rfl, rfl⟩ rfl _, rfl⟩

end CaffeineHal
