import CaffeineHal.Lock.WithLock
import CaffeineHal.Peripheral.Representation
import CaffeineHal.Program.Pairing

/-!
# Locks that are not released

`CFN_HAL_WITH_LOCK` locks through `base.vmt`, runs its function and unlocks through `base.vmt` as it is then,
and drops the code of the unlock. A function that gives the driver another table, or none, leaves the lock
of the first table taken, and unlocks another one.

`LockProgram.Releases` says of every section of a run, the nested ones included, that it released what it
locked. `releases_iff` says in which runs that is so: in those whose sections end on the table that granted
their lock. Where that table has both hooks, it takes a `populate`, a `construct` or a `destruct` to another one
to leak a lock (`kept_releases`), and a client of the interface alone makes none (`quiet_releases`).
-/

set_option autoImplicit false

namespace CaffeineHal

open CaffeineHal.Program

variable {W : Type}

/-! ## Locks and unlocks in a log -/

/-- What a hook call does to the lock of the table it was made through. -/
def HalEvent.lockAction (e : HalEvent) : Option (PairAction (Option ApiBase)) :=
  match e.call with
  | .vmt _ (.lock _) => if e.answer = .ok then some (.grant e.record.base.vmt) else none
  | .vmt _ .unlock => some (.release e.record.base.vmt)
  | _ => none

def lockActions (log : List HalEvent) : List (PairAction (Option ApiBase)) :=
  log.filterMap HalEvent.lockAction

/-- A section with these hook calls released what it locked: as many unlocks as locks that returned OK, each
on the table that granted the lock. -/
structure SectionReleases (calls : List HalEvent) : Prop where
  counts : calls.countP (fun e => e.call.isUnlock) =
    calls.countP fun e => e.call.isLock && decide (e.answer = .ok)
  tables : ∃ held, pairing.track (lockActions calls) = some held

theorem lockActions_append (newer older : List HalEvent) :
    lockActions (newer ++ older) = lockActions newer ++ lockActions older :=
  List.filterMap_append

theorem isRelease_lockAction (e : HalEvent) :
    (e.lockAction.map PairAction.isRelease).getD false = e.call.isUnlock := by
  obtain ⟨call, record, answer⟩ := e
  cases call with
  | onConfig fn arg phase => rfl
  | api fn slot args => rfl
  | vmt fn req =>
      cases req with
      | lock timeout => by_cases h : answer = .ok <;> simp [HalEvent.lockAction, h,
          PairAction.isRelease, HookCall.isUnlock]
      | _ => rfl

theorem isGrant_lockAction (e : HalEvent) :
    (e.lockAction.map PairAction.isGrant).getD false =
      (e.call.isLock && decide (e.answer = .ok)) := by
  obtain ⟨call, record, answer⟩ := e
  cases call with
  | onConfig fn arg phase => rfl
  | api fn slot args => rfl
  | vmt fn req =>
      cases req with
      | lock timeout => by_cases h : answer = .ok <;> simp [HalEvent.lockAction, h,
          PairAction.isGrant, HookCall.isLock]
      | _ => rfl

theorem sectionReleases_iff (calls : List HalEvent) :
    SectionReleases calls ↔ Matched (lockActions calls) := by
  have hrelease : (lockActions calls).countP PairAction.isRelease =
      calls.countP fun e => e.call.isUnlock := by
    rw [lockActions, List.countP_filterMap]
    simp only [isRelease_lockAction]
  have hgrant : (lockActions calls).countP PairAction.isGrant =
      calls.countP fun e => e.call.isLock && decide (e.answer = .ok) := by
    rw [lockActions, List.countP_filterMap]
    simp only [isGrant_lockAction]
  rw [matched_iff, hrelease, hgrant]
  exact ⟨fun h => ⟨h.counts, h.tables⟩, fun h => ⟨h.1, h.2⟩⟩

/-- Calls that are not lock operations do nothing to a lock. -/
theorem lockActions_eq_nil {evs : List HalEvent} (h : ∀ e ∈ evs, e.call.LeavesLock) :
    lockActions evs = [] := by
  rw [lockActions, List.filterMap_eq_nil_iff]
  intro e hmem
  have he := h e hmem
  obtain ⟨call, record, answer⟩ := e
  cases call with
  | onConfig fn arg phase => rfl
  | api fn slot args => rfl
  | vmt fn req =>
      have hreq := he fn req rfl
      cases req with
      | lock timeout => cases hreq
      | unlock => cases hreq
      | _ => rfl

/-! ## Clients -/

namespace LockProgram

variable {Op : Type} (env : HalEnv W) (op : Op → HalM ErrorCode)

/-- Every section of the run released what it locked. -/
def Releases : LockProgram Op → HalConf W → Prop
  | .ret _, _ => True
  | .op o next, s =>
      let out := run env (op o) s
      Releases (next out.1) out.2
  | .within args body next, s =>
      let locked := run env (baseLock args.driver args.timeout) s
      let out := run env (withLock args.driver args.timeout (LockProgram.prog op body)) s
      (locked.1 = .ok → Releases body locked.2) ∧
        SectionReleases (s.callsSince out.2) ∧ Releases (next out.1) out.2

/-- A section that began on the driver `d` ends on `d'`, where its unlock is the counterpart of its lock: the
same table, with an unlock hook, or no unlock hook where the table had no lock hook to call. -/
def Returned (timeout : UInt32) (d d' : Driver) : Prop :=
  if d.base.hook (.lock timeout) = none then d'.base.hook .unlock = none
  else d'.base.vmt = d.base.vmt ∧ d.base.hook .unlock ≠ none

/-- The function of every section that got its lock leaves the driver on a table that fits. -/
def ReturnsTables : LockProgram Op → HalConf W → Prop
  | .ret _, _ => True
  | .op o next, s =>
      let out := run env (op o) s
      ReturnsTables (next out.1) out.2
  | .within args body next, s =>
      let locked := run env (baseLock args.driver args.timeout) s
      let out := run env (withLock args.driver args.timeout (LockProgram.prog op body)) s
      (locked.1 = .ok → ReturnsTables body locked.2 ∧
          Returned args.timeout s.record (run env (LockProgram.prog op body) locked.2).2.record) ∧
        ReturnsTables (next out.1) out.2

/-- Every operation of the run, with the state that it left, is as `Q` has it. -/
def EveryOp (Q : Op → HalConf W → Prop) : LockProgram Op → HalConf W → Prop
  | .ret _, _ => True
  | .op o next, s =>
      let out := run env (op o) s
      Q o out.2 ∧ EveryOp Q (next out.1) out.2
  | .within args body next, s =>
      let locked := run env (baseLock args.driver args.timeout) s
      let out := run env (withLock args.driver args.timeout (LockProgram.prog op body)) s
      (locked.1 = .ok → EveryOp Q body locked.2) ∧ EveryOp Q (next out.1) out.2

end LockProgram

/-! ## One section -/

section Section

variable (codes : HookCodes W) (s : HalConf W)

/-- What `cfn_hal_base_lock` does: it leaves the record, and where there is a hook that returns OK, the lock
of the driver's table is granted. -/
theorem baseLock_actions (timeout : UInt32) :
    let out := run (.ofCodes codes) (baseLock .ref timeout) s
    out.2.record = s.record ∧ ∃ evs : List HalEvent, out.2.log = evs ++ s.log ∧
      lockActions evs = if out.1 = .ok ∧ s.record.base.hook (.lock timeout) ≠ none then
        [.grant s.record.base.vmt] else [] := by
  have ho := baseLock_outcome codes .ref timeout s
  generalize run (.ofCodes codes) (baseLock .ref timeout) s = out at ho ⊢
  obtain ⟨r, s'⟩ := out
  dsimp only at ho ⊢
  cases ho with
  | refused _ => exact ⟨rfl, [], rfl, by simp; rfl⟩
  | passed _ _ hc =>
      cases hc with
      | absent hn => exact ⟨rfl, [], rfl, by simp [DriverBase.hook, hn]; rfl⟩
      | @hook fn r x hfn =>
          refine ⟨rfl, [⟨.vmt fn (.lock timeout), s.record, r⟩], rfl, ?_⟩
          by_cases hr : r = .ok <;>
            simp [lockActions, HalEvent.lockAction, DriverBase.hook, hfn, hr]

/-- What `cfn_hal_base_unlock` does: where there is a hook, the lock of the driver's table is released. -/
theorem baseUnlock_actions :
    ∃ evs : List HalEvent, (run (.ofCodes codes) (baseUnlock .ref) s).2.log = evs ++ s.log ∧
      lockActions evs = if s.record.base.hook .unlock ≠ none then
        [.release s.record.base.vmt] else [] := by
  have ho := baseUnlock_outcome codes .ref s
  generalize run (.ofCodes codes) (baseUnlock .ref) s = out at ho ⊢
  obtain ⟨r, s'⟩ := out
  dsimp only at ho ⊢
  cases ho with
  | refused h =>
      have hn : s.record.base.vmt = none := h.resolve_left DriverPtr.noConfusion
      exact ⟨[], rfl, by simp [DriverBase.hook, hn]; rfl⟩
  | passed _ _ hc =>
      cases hc with
      | absent hn => exact ⟨[], rfl, by simp [DriverBase.hook, hn]; rfl⟩
      | @hook fn r x hfn =>
          refine ⟨[⟨.vmt fn .unlock, s.record, r⟩], rfl, ?_⟩
          simp [lockActions, HalEvent.lockAction, DriverBase.hook, hfn]

/-- The macro, when the lock was granted and when it was not. -/
theorem run_withLock (driver : DriverPtr) (timeout : UInt32) (function : HalM ErrorCode) :
    let locked := run (.ofCodes codes) (baseLock driver timeout) s
    (run (.ofCodes codes) (withLock driver timeout function) s).2 =
      if locked.1 = .ok then
        (run (.ofCodes codes) (baseUnlock driver)
          (run (.ofCodes codes) function locked.2).2).2
      else locked.2 := by
  cases driver with
  | null => rfl
  | ref =>
      simp only [withLock, run_bind]
      split
      · simp only [run_bind, Prog.pure_eq, run_done]
      · rfl

/-- A section releases what it locked exactly when its function ends on a table that fits, if the sections
in its function do. -/
theorem section_releases_iff (driver : DriverPtr) (timeout : UInt32) (function : HalM ErrorCode)
    {locked : ErrorCode × HalConf W}
    (hlocked : run (.ofCodes codes) (baseLock driver timeout) s = locked)
    (hbody : locked.1 = .ok → Matched (lockActions
      (locked.2.callsSince (run (.ofCodes codes) function locked.2).2))) :
    SectionReleases (s.callsSince
        (run (.ofCodes codes) (withLock driver timeout function) s).2) ↔
      (locked.1 = .ok → LockProgram.Returned timeout s.record
        (run (.ofCodes codes) function locked.2).2.record) := by
  rw [sectionReleases_iff, run_withLock, hlocked]
  cases driver with
  | null =>
      -- Refused, and no hook was called.
      obtain rfl : (ErrorCode.badParam, s) = locked := hlocked
      refine iff_of_true ?_ (by rintro ⟨⟩)
      have hcalls : s.callsSince s = [] := Conf.callsSince_eq rfl
      rw [if_neg ErrorCode.noConfusion, hcalls]
      exact matched_nil
  | ref =>
      obtain ⟨hrec, lockEvs, hlock, hgrant⟩ := baseLock_actions codes s timeout
      rw [hlocked] at hrec hlock hgrant
      by_cases hok : locked.1 = .ok
      swap
      · -- An error: nothing was granted.
        refine iff_of_true ?_ (fun h => absurd h hok)
        rw [if_neg hok, Conf.callsSince_eq hlock, hgrant, if_neg fun h => hok h.1]
        exact matched_nil
      have hB := hbody hok
      obtain ⟨evs, hrun⟩ := run_log (.ofCodes codes) function locked.2
      obtain ⟨unlockEvs, hunlock, hrelease⟩ :=
        baseUnlock_actions codes (run (.ofCodes codes) function locked.2).2
      rw [Conf.callsSince_eq hrun] at hB
      have hcalls : s.callsSince (run (.ofCodes codes) (baseUnlock .ref)
          (run (.ofCodes codes) function locked.2).2).2 = unlockEvs ++ (evs ++ lockEvs) := by
        apply Conf.callsSince_eq
        rw [hunlock, hrun, hlock, List.append_assoc, List.append_assoc]
      rw [if_pos hok, hcalls, lockActions_append, lockActions_append, hgrant, hrelease]
      simp only [hok, true_and, true_implies, LockProgram.Returned]
      generalize (run (.ofCodes codes) function locked.2).2.record = d' at hrelease ⊢
      -- The lock and the unlock each called a hook or found none.
      by_cases hl : s.record.base.hook (.lock timeout) = none
      · simp only [hl, ne_eq, not_true_eq_false, if_false, if_true, List.append_nil]
        by_cases hu : d'.base.hook .unlock = none
        · simp only [hu, not_true_eq_false, if_false, List.nil_append, iff_true]
          exact hB
        · simp only [hu, not_false_eq_true, if_true, iff_false]
          exact not_matched_release hB _
      · simp only [hl, ne_eq, not_false_eq_true, if_true, if_false]
        by_cases hu : d'.base.hook .unlock = none
        · simp only [hu, not_true_eq_false, if_false, List.nil_append]
          refine iff_of_false (not_matched_grant hB _) ?_
          rintro ⟨hv, hs⟩
          -- The same table, and it has no unlock hook.
          apply hs
          rw [DriverBase.hook, ← hv]
          exact hu
        · simp only [hu, not_false_eq_true, if_true]
          rw [List.singleton_append, matched_bracket_iff hB]
          constructor
          · intro hv
            refine ⟨hv, ?_⟩
            rw [DriverBase.hook, ← hv]
            exact hu
          · intro h
            exact h.1

end Section

/-! ## Runs of a client -/

section Runs

variable {Op : Type} (codes : HookCodes W) {op : Op → HalM ErrorCode}

/-- Operations of a client that make no lock operation. -/
def LeaveLocks (env : HalEnv W) (op : Op → HalM ErrorCode) : Prop :=
  ∀ o (s : HalConf W), lockActions (s.callsSince (run env (op o) s).2) = []

theorem run_within (args : LockArgs) (body : LockProgram Op) (next : ErrorCode → LockProgram Op)
    (env : HalEnv W) (s : HalConf W) :
    run env (LockProgram.prog op (.within args body next)) s =
      let out := run env (withLock args.driver args.timeout (LockProgram.prog op body)) s
      run env (LockProgram.prog op (next out.1)) out.2 :=
  run_bind env _ _ s

theorem run_op (o : Op) (next : ErrorCode → LockProgram Op) (env : HalEnv W) (s : HalConf W) :
    run env (LockProgram.prog op (.op o next)) s =
      let out := run env (op o) s
      run env (LockProgram.prog op (next out.1)) out.2 :=
  run_bind env _ _ s

/-- A client whose sections release what they lock, locks nothing beyond them. -/
theorem LockProgram.Releases.matched (hop : LeaveLocks (.ofCodes codes) op) {p : LockProgram Op}
    {s : HalConf W} (h : p.Releases (.ofCodes codes) op s) :
    Matched (lockActions (s.callsSince (run (.ofCodes codes) (LockProgram.prog op p) s).2)) := by
  induction p generalizing s with
  | ret r =>
      have hcalls : s.callsSince s = [] := Conf.callsSince_eq rfl
      show Matched (lockActions (s.callsSince s))
      rw [hcalls]
      exact matched_nil
  | op o next ih =>
      rw [run_op, Conf.callsSince_trans (run_log _ (op o) s) (run_log _ _ _), lockActions_append,
        hop o s, List.append_nil]
      exact ih _ h
  | within args body next _ ih =>
      rw [run_within, Conf.callsSince_trans (run_log _ _ s) (run_log _ _ _), lockActions_append]
      exact (ih _ h.2.2).append ((sectionReleases_iff _).1 h.2.1)

/-- Sections release what they lock in exactly the runs whose sections end on a table that fits. -/
theorem LockProgram.releases_iff (hop : LeaveLocks (.ofCodes codes) op) (p : LockProgram Op)
    (s : HalConf W) :
    p.Releases (.ofCodes codes) op s ↔ p.ReturnsTables (.ofCodes codes) op s := by
  -- The sections inside come first: a section can match only around matched calls.
  induction p generalizing s with
  | ret r => exact Iff.rfl
  | op o next ih => exact ih _ _
  | within args body next ihbody ihnext =>
      obtain ⟨driver, timeout⟩ := args
      simp only [LockProgram.Releases, LockProgram.ReturnsTables]
      generalize hlocked : run (.ofCodes codes) (baseLock driver timeout) s = locked
      constructor
      · rintro ⟨hin, hsection, hnext⟩
        have hfits := (section_releases_iff codes s driver timeout _ hlocked
          fun hok => (hin hok).matched codes hop).1 hsection
        exact ⟨fun hok => ⟨(ihbody _).1 (hin hok), hfits hok⟩, (ihnext _ _).1 hnext⟩
      · rintro ⟨hin, hnext⟩
        have hbody := fun hok => (ihbody locked.2).2 (hin hok).1
        have hsection := (section_releases_iff codes s driver timeout _ hlocked
          fun hok => (hbody hok).matched codes hop).2 fun hok => (hin hok).2
        exact ⟨hbody, hsection, (ihnext _ _).2 hnext⟩

/-- Programs that make no lock operation. -/
theorem leaveLocks_of_maintains {inv : Driver → Prop}
    (h : ∀ o, (op o).Maintains HookCall.LeavesLock inv) (env : HalEnv W) : LeaveLocks env op := by
  intro o s
  obtain ⟨evs, hlog, hevs⟩ := run_calls env (h o) s
  rw [Conf.callsSince_eq hlog]
  exact lockActions_eq_nil hevs

theorem publicCall_leaveLocks (P : Peripheral) (mem : ConfigMemory) (env : HalEnv W) :
    LeaveLocks env (PublicCall.prog (P := P) mem) := by
  intro op s
  cases op with
  | peripheral op => exact leaveLocks_of_maintains (PeripheralCall.maintains mem) env op s
  | configGet hasConfig driver pConfig =>
      have hcalls : s.callsSince s = [] := Conf.callsSince_eq rfl
      simp only [PublicCall.prog, run_bind, configGet_record]
      show lockActions (s.callsSince s) = []
      rw [hcalls]
      rfl

/-- No lock leaks in exactly the runs whose sections end on the table that granted their lock. For any
client of a driver of `P`, with any operations, sections and nesting, on any driver, whatever the hooks
answer. -/
theorem lockLeak_iff (P : Peripheral) (mem : ConfigMemory) (client : LockProgram (PublicCall P))
    (s : HalConf W) :
    client.Releases (.ofCodes codes) (PublicCall.prog mem) s ↔
      client.ReturnsTables (.ofCodes codes) (PublicCall.prog mem) s :=
  client.releases_iff codes (publicCall_leaveLocks P mem _) s

/-- A UART that is destructed under its own lock, which then stays taken. -/
theorem destruct_leaks_lock :
    let client : LockProgram (PublicCall .uart) :=
      .within ⟨.ref, 100⟩ (.op (.peripheral (.destruct .ref)) .ret) .ret
    ¬ client.Releases (.ofCodes okHooks) (PublicCall.prog default)
      (populatedConf .uart (.ofCodes okHooks) zeroedDriver fullArgs ()) := by
  intro client h
  have hcounts := h.2.1.counts
  revert hcounts
  decide

/-! ## Clients that cannot leak -/

/-- Both pointers of the driver lead to the table. -/
def OnTable (t : ApiBase) (d : Driver) : Prop :=
  d.base.vmt = some t ∧ d.api.map Api.base = some t

theorem wrapperCall_onTable (P : Peripheral) (mem : ConfigMemory) (t : ApiBase)
    (c : WrapperCall P) (s : HalConf W) (h : OnTable t s.record) :
    OnTable t (run (.ofCodes codes) (c.prog mem) s).2.record :=
  run_maintains (fun _ _ _ hd => hd) (c.maintains (keptByLayer_vmt t)) h

theorem baseLock_keeps (inv : Driver → Prop) (driver : DriverPtr) (timeout : UInt32) {s : HalConf W}
    (hs : inv s.record) : inv (run (.ofCodes codes) (baseLock driver timeout) s).2.record := by
  rw [(baseLock_outcome codes driver timeout s).record]
  exact hs

/-- What its function keeps of the record where it is called, a section keeps: the lock and the unlock leave
it. -/
theorem withLock_keeps (inv : Driver → Prop) (driver : DriverPtr) (timeout : UInt32)
    {function : HalM ErrorCode} {s : HalConf W} (hs : inv s.record)
    (hf : (run (.ofCodes codes) (baseLock driver timeout) s).1 = .ok →
      inv (run (.ofCodes codes) function
        (run (.ofCodes codes) (baseLock driver timeout) s).2).2.record) :
    inv (run (.ofCodes codes) (withLock driver timeout function) s).2.record := by
  rw [run_withLock]
  split
  case isTrue hok =>
    rw [(baseUnlock_outcome codes driver _).record]
    exact hf hok
  case isFalse => exact baseLock_keeps codes inv driver timeout hs

namespace LockProgram

variable {Q : Op → HalConf W → Prop} {t : LockTable} {p : LockProgram Op} {s : HalConf W}

theorem everyOp_of_forall (env : HalEnv W) (h : ∀ o s, Q o s) (p : LockProgram Op) (s : HalConf W) :
    p.EveryOp env op Q s := by
  induction p generalizing s with
  | ret r => trivial
  | op o next ih => exact ⟨h _ _, ih _ _⟩
  | within args body next ihbody ihnext => exact ⟨fun _ => ihbody _, ihnext _ _⟩

/-- What the operations of a run keep of the record, the run keeps. -/
theorem EveryOp.keeps {inv : Driver → Prop}
    (hkeep : ∀ o (s : HalConf W), inv s.record → Q o (run (.ofCodes codes) (op o) s).2 →
      inv (run (.ofCodes codes) (op o) s).2.record)
    (h : p.EveryOp (.ofCodes codes) op Q s) (hs : inv s.record) :
    inv (run (.ofCodes codes) (LockProgram.prog op p) s).2.record := by
  induction p generalizing s with
  | ret r => exact hs
  | op o next ih =>
      rw [run_op]
      exact ih _ h.2 (hkeep o s hs h.1)
  | within args body next ihbody ihnext =>
      have hlocked := baseLock_keeps codes inv args.driver args.timeout hs
      rw [run_within]
      exact ihnext _ h.2 (withLock_keeps codes inv args.driver args.timeout hs
        fun hok => ihbody (h.1 hok) hlocked)

/-- On a table with both hooks, a section fits exactly where its function ends on that table. -/
theorem returned_iff {d : Driver} (hd : d.base.vmt = some t.table) (timeout : UInt32) (d' : Driver) :
    Returned timeout d d' ↔ d'.base.vmt = some t.table := by
  have hlock : d.base.hook (.lock timeout) ≠ none := by
    rw [DriverBase.hook, hd]
    exact Option.ne_none_iff_exists'.2 ⟨t.lockFn, t.lock_eq⟩
  have hunlock : d.base.hook .unlock ≠ none := by
    rw [DriverBase.hook, hd]
    exact Option.ne_none_iff_exists'.2 ⟨t.unlockFn, t.unlock_eq⟩
  rw [Returned, if_neg hlock, hd]
  exact ⟨fun h => h.1, fun h => ⟨h, hunlock⟩⟩

/-- A client whose operations keep the driver on a table with both hooks leaks no lock. -/
theorem EveryOp.releases (hleave : LeaveLocks (.ofCodes codes) op)
    (hkeep : ∀ o (s : HalConf W), OnTable t.table s.record → Q o (run (.ofCodes codes) (op o) s).2 →
      OnTable t.table (run (.ofCodes codes) (op o) s).2.record)
    (h : p.EveryOp (.ofCodes codes) op Q s) (hs : OnTable t.table s.record) :
    p.Releases (.ofCodes codes) op s := by
  rw [p.releases_iff codes hleave]
  induction p generalizing s with
  | ret r => trivial
  | op o next ih => exact ih _ h.2 (hkeep o s hs h.1)
  | within args body next ihbody ihnext =>
      have hlocked := baseLock_keeps codes (OnTable t.table) args.driver args.timeout hs
      have hbody := fun hok => (h.1 hok).keeps codes hkeep hlocked
      refine ⟨fun hok => ⟨ihbody (h.1 hok) hlocked, ?_⟩, ihnext _ h.2 ?_⟩
      · -- The table was there at the lock and is there at the unlock.
        exact (returned_iff hs.1 args.timeout _).2 (hbody hok).1
      · exact withLock_keeps codes (OnTable t.table) args.driver args.timeout hs hbody

end LockProgram

/-- The operations that write the driver's table. -/
def PublicCall.writesTable {P : Peripheral} : PublicCall P → Bool
  | .peripheral (.populate ..) => true
  | .peripheral (.construct ..) => true
  | .peripheral (.destruct _) => true
  | _ => false

theorem PublicCall.onTable {P : Peripheral} (mem : ConfigMemory) {t : ApiBase} (o : PublicCall P)
    (ho : o.writesTable = false) {s : HalConf W} (h : OnTable t s.record) :
    OnTable t (run (.ofCodes codes) (o.prog mem) s).2.record := by
  cases o with
  | peripheral o =>
      cases o with
      | call c => exact wrapperCall_onTable codes P mem t c s h
      | setOnConfig onConfig arg => exact h
      | populate driver args => cases ho
      | construct portApi driver config phy clock dependency callback userArg => cases ho
      | destruct driver => cases ho
  | configGet hasConfig driver pConfig =>
      simp only [PublicCall.prog, run_bind, configGet_record]
      exact h

/-- On a table with a lock and an unlock hook, a client whose populations, constructions and destructions leave
the driver on that table leaks no lock, whatever else it calls and however it nests. -/
theorem kept_releases (P : Peripheral) (mem : ConfigMemory) (t : LockTable)
    (client : LockProgram (PublicCall P)) (s : HalConf W) (h : OnTable t.table s.record)
    (hkept : client.EveryOp (.ofCodes codes) (PublicCall.prog mem)
      (fun o left => o.writesTable = true → OnTable t.table left.record) s) :
    client.Releases (.ofCodes codes) (PublicCall.prog mem) s := by
  refine hkept.releases codes (publicCall_leaveLocks P mem _) (fun o s hs ho => ?_) h
  cases hwrites : o.writesTable with
  | true => exact ho hwrites
  | false => exact o.onTable codes mem hwrites hs

/-- A client of the interface alone leaks no lock: on a driver whose table has a lock and an unlock hook,
without construction and destruction, whatever it calls and however it nests. -/
theorem quiet_releases (P : Peripheral) (mem : ConfigMemory) (t : LockTable)
    (client : LockProgram (WrapperCall P)) (s : HalConf W)
    (h : OnTable t.table s.record) :
    client.Releases (.ofCodes codes) (WrapperCall.prog mem) s := by
  have hleave : LeaveLocks (.ofCodes codes) (WrapperCall.prog (P := P) mem) :=
    leaveLocks_of_maintains (fun c => c.maintains (keptByLayer_type P.type)) _
  have hevery : client.EveryOp (.ofCodes codes) (WrapperCall.prog mem) (fun _ _ => True) s :=
    LockProgram.everyOp_of_forall _ (fun _ _ => trivial) client s
  exact hevery.releases codes hleave (fun c s hs _ => wrapperCall_onTable codes P mem t.table c s hs) h

end Runs

end CaffeineHal
