import CaffeineHal.Peripheral.Outcome

/-!
# The representation of a driver

A driver holds its table twice: `base.vmt` is read by the base layer and written by population and by
every `init`, and `driver->api` is read by the specific functions and written by population. In every
state that a run reaches, the two are one table (`Represented`), the tag is the peripheral's, the status is
one of the two that the layer writes, and a live driver has a table with an `init` hook.
-/

set_option autoImplicit false

namespace CaffeineHal

open CaffeineHal.Program

variable {W : Type}

/-- An operation on a driver of `P`, the read of its configuration included. -/
inductive PublicCall (P : Peripheral) where
  | peripheral (op : PeripheralCall P)
  | configGet (hasConfig : P ≠ .gpio) (driver : DriverPtr) (pConfig : Ptr)

def PublicCall.prog {P : Peripheral} (mem : ConfigMemory) : PublicCall P → HalM ErrorCode
  | .peripheral op => op.prog mem
  | .configGet hasConfig driver pConfig => do
      let (error, _) ← P.configGet hasConfig driver pConfig
      return error

/-- The record of a driver of `P` is well formed. -/
structure Represented (P : Peripheral) (d : Driver) : Prop where
  type : d.base.type = P.type
  table : d.base.vmt = d.api.map Api.base
  status : d.base.status = .constructed ∨ d.base.status = .initialized
  live : d.base.status = .initialized → ∃ t, d.base.vmt = some t ∧ t.init ≠ none

section Steps

variable {P : Peripheral} {d d' : Driver} {s s' : HalConf W} {r : ErrorCode}

/-- Linking a well-formed driver again changes nothing. -/
theorem linkVmt_eq (h : d.base.vmt = d.api.map Api.base) : d.linkVmt = d := by
  rw [Driver.linkVmt, ← h]

theorem Represented.upkeep (h : Represented P d) (hu : Upkeep d d') : Represented P d' := by
  obtain ⟨state, pConfig, callback, pUserArg, rfl⟩ := hu
  exact ⟨h.type, h.table, h.status, h.live⟩

/-- A driver may always stop. -/
theorem Represented.stopped (h : Represented P d) : Represented P (d.setStatus .constructed) :=
  ⟨h.type, h.table, .inl rfl, DriverStatus.noConfusion⟩

theorem InitOutcome.represented (ho : InitOutcome .ref P.type s r s')
    (h : Represented P s.record) : Represented P s'.record := by
  cases ho with
  | refused _ => exact h
  | alreadyInit _ _ => exact h
  | boardFailed _ _ _ hb =>
      rw [hb.record]
      exact h
  | rolledBack _ _ hb hi _ hd =>
      rw [hd.record, hi.record, hb.record]
      exact h
  | @live s₁ s₂ hl _ hb hi =>
      -- The code of a missing hook is an error, so the port's `init` was there to return OK.
      have hslot := hi.slot_ne_none nofun
      rw [Conf.written_record, hi.record, hb.record]
      refine ⟨h.type, h.table, .inr rfl, fun _ => ?_⟩
      obtain ⟨t, ht⟩ := Option.ne_none_iff_exists'.1 hl.2
      rw [ht] at hslot
      exact ⟨t, ht, hslot⟩

theorem DeinitOutcome.represented (ho : DeinitOutcome .ref P.type s r s')
    (h : Represented P s.record) : Represented P s'.record := by
  cases ho with
  | refused _ => exact h
  | notLive _ _ => exact h
  | unconstructed _ _ => exact h
  | stopFailed _ _ hd _ =>
      rw [hd.record]
      exact h
  | stopped _ _ hd hb =>
      rw [hb.record, Conf.written_record, hd.record]
      exact h.stopped

/-- Every call of the interface keeps a driver well formed, the calls that fail included. -/
theorem WrapperOutcome.represented {c : WrapperCall P} (ho : WrapperOutcome s c r s')
    (h : Represented P s.record) : Represented P s'.record := by
  -- `init` writes the table pointer before anything can fail; it is the pointer that was there.
  have linked {s₁ : HalConf W} (hv : LinkedAndValidated s s₁) : Represented P s₁.record := by
    rw [hv.record, linkVmt_eq h.table]
    exact h
  cases ho with
  | initNull => exact h
  | initRejected _ hv => exact linked hv
  | initBase hv ho => exact ho.represented (linked hv)
  | deinitNull => exact h
  | deinitBase ho => exact ho.represented h
  | upkeep _ hu => exact h.upkeep hu

/-- Population makes a driver well formed, whatever was in the memory. -/
theorem populated_represented (P : Peripheral) (env : HalEnv W) (args : PopulateArgs)
    (s : HalConf W) : Represented P (run env (P.populate .ref args) s).2.record :=
  ⟨rfl, rfl, .inl rfl, DriverStatus.noConfusion⟩

theorem populate_represented (env : HalEnv W) (driver : DriverPtr) (args : PopulateArgs)
    (h : Represented P s.record) : Represented P (run env (P.populate driver args) s).2.record := by
  cases driver with
  | null => exact h
  | ref => exact populated_represented P env args s

variable (codes : HookCodes W) (mem : ConfigMemory)

theorem PeripheralCall.represented (op : PeripheralCall P) (h : Represented P s.record) :
    Represented P (run (.ofCodes codes) (op.prog mem) s).2.record := by
  cases op with
  | call c => exact (c.outcome codes mem s).represented h
  | populate driver args =>
      simp only [PeripheralCall.prog, run_bind]
      exact populate_represented _ driver args h
  | construct portApi driver config phy clock dependency callback userArg =>
      simp only [PeripheralCall.prog, Peripheral.construct]
      split
      · exact h
      · simp only [run_bind]
        exact populate_represented _ driver _ h
  | destruct driver =>
      simp only [PeripheralCall.prog, Peripheral.destruct]
      split
      · exact h
      · simp only [run_bind]
        exact populate_represented _ driver _ h
  | setOnConfig onConfig arg => exact ⟨h.type, h.table, h.status, h.live⟩

theorem configGet_record (hasConfig : P ≠ .gpio) (driver : DriverPtr) (pConfig : Ptr)
    (env : HalEnv W) (s : HalConf W) :
    (run env (P.configGet hasConfig driver pConfig) s).2 = s := by
  cases driver with
  | null => rfl
  | ref =>
      simp only [Peripheral.configGet, run_bind, run_get]
      by_cases hn : (pConfig.isNone || s.record.config.isNone) = true
      · simp [hn]
      · simp [hn]

theorem PublicCall.represented (op : PublicCall P) (h : Represented P s.record) :
    Represented P (run (.ofCodes codes) (op.prog mem) s).2.record := by
  cases op with
  | peripheral op => exact op.represented codes mem h
  | configGet hasConfig driver pConfig =>
      simp only [PublicCall.prog, run_bind, configGet_record]
      exact h

end Steps

/-- The record is well formed in every state that a run reaches. -/
theorem reachable_represented (P : Peripheral) (mem : ConfigMemory) (codes : HookCodes W)
    (memory : Driver) (args : PopulateArgs) (ops : List (PublicCall P)) (x : W) :
    Represented P (runOps (.ofCodes codes) (PublicCall.prog mem) ops
      (populatedConf P (.ofCodes codes) memory args x)).record := by
  refine runOps_invariant _ _ (fun s => Represented P s.record) (fun op s h => ?_) ops
    (populated_represented P _ args _)
  exact op.represented codes mem h

/-- The state after `destruct` has no table on either path. -/
theorem destruct_unlinked (P : Peripheral) (env : HalEnv W) (s : HalConf W) :
    (run env (P.destruct .ref) s).2.record.base.vmt = none ∧
      (run env (P.destruct .ref) s).2.record.api = none :=
  ⟨rfl, rfl⟩

/-- A driver is well formed in every reachable state. Populated with any table, in any memory, after
any operations of its peripheral with any arguments and any codes from the hooks: the tag is the
peripheral's, the two table pointers are one table, or NULL both once `destruct` ran, the status is
CONSTRUCTED or INITIALIZED, and a driver that is INITIALIZED has a table with an `init` hook. -/
theorem driver_represented (P : Peripheral) (mem : ConfigMemory) (codes : HookCodes W)
    (memory : Driver) (args : PopulateArgs) (ops : List (PublicCall P)) (x : W) :
    let env : HalEnv W := .ofCodes codes
    let s := runOps env (PublicCall.prog mem) ops (populatedConf P env memory args x)
    Represented P s.record ∧
      ((run env (P.destruct .ref) s).2.record.base.vmt = none ∧
        (run env (P.destruct .ref) s).2.record.api = none) := by
  intro env s
  exact ⟨reachable_represented P mem codes memory args ops x, destruct_unlinked P env s⟩

end CaffeineHal
