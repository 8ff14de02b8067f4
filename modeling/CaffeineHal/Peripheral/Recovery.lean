import CaffeineHal.Peripheral.ConfigShadow
import CaffeineHal.Peripheral.Interrupted

/-!
# Recovery

Safety says what a driver never does. This module says what its owner can always do: whatever calls were made
and whatever the hooks answered, once the hooks work again `deinit` brings the driver down and the board back,
and then `config_set` and `init` bring it into service. No sequence of failures leaves a driver from which the
way back is longer.

`recovery_iff` is sharp: the way back ends in service on a configuration exactly if its structure passes.
-/

set_option autoImplicit false

namespace CaffeineHal

open CaffeineHal.Program CaffeineHal.Lifecycle

variable {W : Type}

/-- Every hook returns OK. -/
def Working (codes : HookCodes W) : Prop :=
  ∀ c d x, (codes c d x).1 = .ok

section Steps

variable {codes : HookCodes W} {f : Fixture} {s : HalConf W} {t : ApiBase} {fn : FnPtr}

theorem run_callSlot_working (h : Working codes) {pApi : Option ApiBase} {req : BaseRequest}
    (missing : ErrorCode) (hslot : (pApi.bind fun t => t.slot req) = some fn) (s : HalConf W) :
    (run (.ofCodes codes) (callSlot pApi req missing) s).1 = .ok ∧
      (run (.ofCodes codes) (callSlot pApi req missing) s).2.record = s.record := by
  have hrun := h (.vmt fn req) s.record s.world
  simp [callSlot, hslot, hrun]

theorem run_callOnConfig_working (h : Working codes) (phase : ConfigPhase) (s : HalConf W) :
    (run (.ofCodes codes) (callOnConfig phase) s).1 = .ok ∧
      (run (.ofCodes codes) (callOnConfig phase) s).2.record = s.record := by
  cases hfn : s.record.base.onConfig with
  | none => simp [callOnConfig, hfn]
  | some fn =>
      have hrun := h (.onConfig fn s.record.base.onConfigArg phase) s.record s.world
      simp [callOnConfig, hfn, hrun]

/-- A working port has nothing against a configuration. -/
theorem portAnswer_working (h : Working codes) (pConfig : Ptr) (d : Driver) (x : W) :
    (portAnswer codes (.configValidate pConfig) .ok d x).1 = .ok := by
  unfold portAnswer
  split
  · exact h _ d x
  · rfl

/-- A working port is started. -/
theorem baseInit_working (h : Working codes) {ty : PeripheralType} (hl : Linked .ref ty s.record)
    (hs : s.record.base.status ≠ .initialized)
    (hslot : (s.record.base.vmt.bind fun t => t.slot .init) = some fn) :
    (run (.ofCodes codes) (baseInit .ref ty) s).2.record = s.record.setStatus .initialized := by
  obtain ⟨hboard, hrec⟩ := run_callOnConfig_working h .init s
  unfold baseInit
  simp only [run_bind, hl.run_linkRejects, Bool.false_eq_true, if_false, run_get, hs, hboard, ne_eq,
    not_true_eq_false, hrec]
  obtain ⟨hport, hrec'⟩ := run_callSlot_working h .notSupported hslot
    (run (.ofCodes codes) (callOnConfig .init) s).2
  simp only [hport, if_true, run_bind, run_modify]
  exact congrArg (Driver.setStatus .initialized) (hrec'.trans hrec)

/-- A working port is stopped. -/
theorem baseDeinit_working (h : Working codes) {ty : PeripheralType} (hl : Linked .ref ty s.record)
    (hs : s.record.base.status = .initialized)
    (hslot : (s.record.base.vmt.bind fun t => t.slot .deinit) = some fn) :
    (run (.ofCodes codes) (baseDeinit .ref ty) s).2.record = s.record.setStatus .constructed := by
  obtain ⟨hport, hrec⟩ := run_callSlot_working h .notSupported hslot s
  unfold baseDeinit
  simp only [run_bind, hl.run_linkRejects, Bool.false_eq_true, if_false, run_get, hs, reduceCtorEq, hport,
    if_true, run_modify]
  obtain ⟨-, hrec'⟩ := run_callOnConfig_working h .deinit
    ((run (.ofCodes codes) (callSlot s.record.base.vmt .deinit .notSupported) s).2.written
      (Driver.setStatus .constructed))
  exact hrec'.trans (congrArg (Driver.setStatus .constructed) hrec)

/-- From rest, `deinit` brings the driver down. -/
theorem deinit_working (h : Working codes) (ht : (f.table.bind fun t => t.slot .deinit) = some fn)
    (hb : BetweenCalls f s) :
    (run (.ofCodes codes) (f.peripheral.deinit .ref) s).2.record.base.status = .constructed := by
  have hr := hb.safe.represented
  have howned := hb.safe.owned
  have hslot : (s.record.base.vmt.bind fun t => t.slot .deinit) = some fn := by
    rw [howned.vmt]
    exact ht
  have hl : Linked .ref f.peripheral.type s.record := by
    refine ⟨⟨rfl, hr.type⟩, fun hn => ?_⟩
    rw [hn] at hslot
    cases hslot
  show (run (.ofCodes codes) (baseDeinit .ref f.peripheral.type) s).2.record.base.status = .constructed
  rcases hr.status with hs | hs
  · -- It is down already.
    simp [baseDeinit, hl.run_linkRejects, hs]
  · rw [baseDeinit_working h hl hs hslot]
    rfl

/-- From rest on a driver that is down, `init` starts the port on what is stored, if that passes. -/
theorem init_working (h : Working codes) (hg : f.peripheral ≠ .gpio)
    (ht : (f.table.bind fun t => t.slot .init) = some fn) (hb : BetweenCalls f s)
    (hs : s.record.base.status = .constructed) :
    let d := (run (.ofCodes codes) (f.peripheral.init f.mem .ref) s).2.record
    d.config = s.record.config ∧
      (d.base.status = .initialized ↔ ¬ StructureRejects f.peripheral f.mem s.record.config) := by
  have hr := hb.safe.represented
  have howned := hb.safe.owned
  have hlink : s.written Driver.linkVmt = s := by
    rw [Conf.written, linkVmt_eq hr.table]
  obtain ⟨hrec, hok, -⟩ := run_configValidate codes hr.type f.mem s.record.config
  rw [portAnswer_working h] at hok
  simp only [Peripheral.init_eq f.mem hg, validatedInit, run_bind, run_modify, run_get, hlink]
  generalize run (.ofCodes codes) (f.peripheral.configValidate f.mem .ref s.record.config) s = out
    at hrec hok ⊢
  obtain ⟨r, s₁⟩ := out
  simp only at hrec hok
  by_cases hrej : StructureRejects f.peripheral f.mem s.record.config
  · -- Refused, and the port is not started.
    have hr : r ≠ .ok := fun heq => (hok.1 heq).1 hrej
    simp [hr, hrec, hs, hrej]
  · have hr : r = .ok := hok.2 ⟨hrej, trivial⟩
    have hslot : (s₁.record.base.vmt.bind fun t => t.slot .init) = some fn := by
      rw [hrec, howned.vmt]
      exact ht
    have hl : Linked .ref f.peripheral.type s₁.record := by
      refine ⟨⟨rfl, by rw [hrec, howned.type]⟩, fun hn => ?_⟩
      rw [hn] at hslot
      cases hslot
    have hdown : s₁.record.base.status ≠ .initialized := by
      rw [hrec, hs]
      exact DriverStatus.noConfusion
    simp only [ne_eq, hr, not_true_eq_false, if_false, baseInit_working h hl hdown hslot, hrec]
    exact ⟨rfl, iff_of_true rfl hrej⟩

/-- `config_set` on a driver that is down stores what passes, and more where the header does not check. -/
theorem configSet_working (h : Working codes) (hasConfig : f.peripheral ≠ .gpio) (pConfig : Ptr)
    (hb : BetweenCalls f s) (hs : s.record.base.status = .constructed) :
    let d := (run (.ofCodes codes) (f.peripheral.configSet f.mem hasConfig .ref pConfig) s).2.record
    d.base.status = .constructed ∧ (¬ StructureRejects f.peripheral f.mem pConfig → d.config = pConfig) := by
  have hr := hb.safe.represented
  intro d
  obtain ⟨state, stored, callback, pUserArg, hup⟩ := configSet_upkeep codes f.mem s hasConfig .ref pConfig
  have hstatus : d.base.status = s.record.base.status := by
    rw [show d = _ from hup]
    rfl
  refine ⟨hstatus.trans hs, fun hpass => ?_⟩
  cases hP : f.peripheral.validates with
  | false =>
      show (run (.ofCodes codes) (f.peripheral.configSet f.mem hasConfig .ref pConfig) s).2.record.config = _
      rw [Peripheral.configSet_eq_unchecked f.mem hP hasConfig]
      exact baseConfigSet_config codes pConfig
  | true =>
      show (run (.ofCodes codes) (f.peripheral.configSet f.mem hasConfig .ref pConfig) s).2.record.config = _
      rw [Peripheral.configSet_eq_validated f.mem hP]
      obtain ⟨-, hok, -⟩ := run_configValidate codes hr.type f.mem pConfig
      rw [portAnswer_working h] at hok
      simp only [validatedConfigSet, run_bind, hok.2 ⟨hpass, rfl⟩, ne_eq, not_true_eq_false, if_false,
        run_modify]
      exact baseConfigSet_config codes pConfig

end Steps

/-- The way back into service. On a driver whose board hook, `init` and `deinit` are set, after any calls of an
interface, whatever its hooks answered, let the hooks work. Then `deinit` brings the driver down and gives the
board back, and `config_set` and `init` bring it into service on a configuration exactly if its structure passes;
and then the hardware has it, and the board is held once. -/
theorem recovery_iff {P : Peripheral} (hasConfig : P ≠ .gpio) (mem : ConfigMemory) (codes : HookCodes W)
    (memory : Driver) (args : PopulateArgs) {t : ApiBase} (htable : args.api.map Api.base = some t)
    (hinit : t.init ≠ none) (hdeinit : t.deinit ≠ none) (fn : FnPtr) (arg : Ptr)
    (ops : List (WrapperCall P)) (x : W) {repaired : HookCodes W} (hrepaired : Working repaired)
    (pConfig : Ptr) :
    let s := runOps (.ofCodes codes) (WrapperCall.prog mem) ops
      (boardedConf P (.ofCodes codes) memory args fn arg x)
    let down := (run (.ofCodes repaired) (P.deinit .ref) s).2
    let up := runOps (.ofCodes repaired) (WrapperCall.prog mem)
      [.configSet hasConfig .ref pConfig, .init .ref] down
    (down.record.base.status = .constructed ∧ held down.log = 0) ∧
      (up.record.base.status = .initialized ∧ up.record.config = pConfig ∧
          lastConfigMove up.log = some pConfig ∧ held up.log = 1 ↔
        ¬ StructureRejects P mem pConfig) := by
  intro s down up
  let f : Fixture := portFixture P mem args fn
  have hgates (codes : HookCodes W) : f.Gates codes := portFixture_gates P mem args fn codes
  have hft : f.table = some t := htable
  obtain ⟨initFn, hinitFn⟩ := Option.ne_none_iff_exists'.1 hinit
  obtain ⟨deinitFn, hdeinitFn⟩ := Option.ne_none_iff_exists'.1 hdeinit
  have hinitSlot : (f.table.bind fun t => t.slot .init) = some initFn := by
    rw [hft]
    exact hinitFn
  have hdeinitSlot : (f.table.bind fun t => t.slot .deinit) = some deinitFn := by
    rw [hft]
    exact hdeinitFn
  -- Every stretch of the way leads from rest to rest.
  have hs : BetweenCalls f s := runOps_invariant _ _ (BetweenCalls f)
    (fun c _ h => WrapperCall.run_betweenCalls (f := f) (hgates codes) c h) ops
    (boardedConf_betweenCalls _ rfl memory arg x)
  have hdown : BetweenCalls f down :=
    WrapperCall.run_betweenCalls (f := f) (hgates repaired) (.deinit .ref) hs
  let stored := (run (.ofCodes repaired) (P.configSet mem hasConfig .ref pConfig) down).2
  have hstored : BetweenCalls f stored :=
    WrapperCall.run_betweenCalls (f := f) (hgates repaired) (.configSet hasConfig .ref pConfig) hdown
  have hup : BetweenCalls f up :=
    WrapperCall.run_betweenCalls (f := f) (hgates repaired) (.init .ref) hstored
  have hcount {s : HalConf W} (h : BetweenCalls f s) :
      held s.log = if s.record.base.status = .initialized then 1 else 0 :=
    (held_of_track h.tracked).trans (held_of_phase _)
  have hdownStatus : down.record.base.status = .constructed :=
    deinit_working (f := f) hrepaired hdeinitSlot hs
  obtain ⟨hstoredStatus, hconfig⟩ := configSet_working (f := f) hrepaired hasConfig pConfig hdown hdownStatus
  obtain ⟨hupConfig, hlive⟩ := init_working (f := f) hrepaired hasConfig hinitSlot hstored hstoredStatus
  refine ⟨⟨hdownStatus, ?_⟩, ?_⟩
  · rw [hcount hdown, hdownStatus]
    rfl
  constructor
  · rintro ⟨hst, hc, -, -⟩
    have hpass : ¬ StructureRejects P mem stored.record.config := hlive.1 hst
    rw [hupConfig.symm.trans hc] at hpass
    exact hpass
  · intro hpass
    have hc : stored.record.config = pConfig := hconfig hpass
    have hst : up.record.base.status = .initialized := by
      rw [← hc] at hpass
      exact hlive.2 hpass
    have hupc : up.record.config = pConfig := hupConfig.trans hc
    refine ⟨hst, hupc, ?_, ?_⟩
    · -- The port was started on it.
      have hconfigured : Configured stored := by
        intro hlive
        rw [show stored.record.base.status = .constructed from hstoredStatus] at hlive
        cases hlive
      have hup' : Configured up := init_configured repaired mem .ref hstored.safe.represented hconfigured
      rw [hup' hst, hupc]
    · rw [hcount hup, hst]
      rfl

/-- A UART whose hooks were busy when it was brought up. -/
theorem recovery_iff_uart :
    let busy : HookCodes Unit := fun _ _ _ => (.busy, ())
    let s := runOps (.ofCodes busy) (WrapperCall.prog (P := .uart) default) [.init .ref]
      (boardedConf .uart (.ofCodes busy) zeroedDriver fullArgs 30 none ())
    let down := (run (.ofCodes okHooks) (Peripheral.uart.deinit .ref) s).2
    let up := runOps (.ofCodes okHooks) (WrapperCall.prog (P := .uart) default)
      [.configSet (by decide) .ref (some 1), .init .ref] down
    (down.record.base.status = .constructed ∧ held down.log = 0) ∧
      (up.record.base.status = .initialized ∧ up.record.config = some 1 ∧
          lastConfigMove up.log = some (some 1) ∧ held up.log = 1 ↔
        ¬ StructureRejects .uart default (some 1)) :=
  recovery_iff (P := .uart) (by decide) default _ zeroedDriver fullArgs (t := fullTable) rfl (by decide)
    (by decide) 30 none [.init .ref] () (fun _ _ _ => rfl) (some 1)

end CaffeineHal
