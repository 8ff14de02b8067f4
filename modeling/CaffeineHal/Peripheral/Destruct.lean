import CaffeineHal.Lifecycle.HookLog
import CaffeineHal.Peripheral.Representation

/-!
# Destruction and the driver's status

`destruct` of the port template reuses the population of a driver, with NULL for everything. It writes
CONSTRUCTED whatever the status was. So a driver is CONSTRUCTED without a table afterwards, which the status
is documented to exclude, and the setters, which do not test the table, report OK on it; and a driver that
was INITIALIZED is CONSTRUCTED while its peripheral runs and its board is held, with the table and the hook
that would stop them gone.

`statusLinked_iff` and `notAbandoned_iff` say in which runs neither happens.
-/

set_option autoImplicit false

namespace CaffeineHal

open CaffeineHal.Program CaffeineHal.Lifecycle

variable {W : Type}

/-! ## CONSTRUCTED without a table -/

/-- CONSTRUCTED and INITIALIZED mean that the table is linked. -/
def StatusLinked (d : Driver) : Prop :=
  d.base.status = .constructed ∨ d.base.status = .initialized → d.base.vmt ≠ none

/-- The setters that report OK on a driver that is not live. -/
def PeripheralCall.isSetter {P : Peripheral} : PeripheralCall P → Bool
  | .call (.configSet _ _ _) | .call (.callbackRegister _ _ _) | .call (.powerStateSet _ _) => true
  | _ => false

/-- The operation populates the driver without a table. -/
def PeripheralCall.Unlinks {P : Peripheral} : PeripheralCall P → Prop
  | .populate driver args => driver = .ref ∧ args.api = none
  | .destruct driver => driver = .ref
  | _ => False

/-- After every operation of the run the status tells the truth about the table, and no setter reported OK
on a driver without one. -/
def LinkedThroughout {P : Peripheral}
    (calls : List (Ran Driver HookCall ErrorCode ErrorCode W (PeripheralCall P))) : Prop :=
  EveryCall (fun c _ => StatusLinked c.after.record ∧
    (c.op.isSetter = true → c.value = .ok → c.before.record.base.vmt ≠ none)) calls

section Linked

variable {P : Peripheral} (codes : HookCodes W) (mem : ConfigMemory) {s : HalConf W}

/-- The interface leaves the table of a well-formed driver. -/
theorem WrapperCall.vmt (c : WrapperCall P) (h : s.record.base.vmt = s.record.api.map Api.base) :
    (run (.ofCodes codes) (c.prog mem) s).2.record.base.vmt = s.record.base.vmt := by
  have hout := c.outcome codes mem s
  have linked {s₁ : HalConf W} (hv : LinkedAndValidated s s₁) :
      s₁.record.base.vmt = s.record.base.vmt := by
    rw [hv.record, linkVmt_eq h]
  generalize (run (.ofCodes codes) (c.prog mem) s).1 = r at hout
  generalize (run (.ofCodes codes) (c.prog mem) s).2 = s' at hout ⊢
  cases hout with
  | initNull => rfl
  | initRejected _ hv => exact linked hv
  | initBase hv ho => exact ho.vmt.trans (linked hv)
  | deinitNull => rfl
  | deinitBase ho => exact ho.vmt
  | upkeep _ hu =>
      obtain ⟨_, _, _, _, hrec⟩ := hu
      rw [hrec]
      rfl

/-- An operation that does not unlink the driver leaves it with a table. -/
theorem PeripheralCall.vmt_ne_none (op : PeripheralCall P) (hop : ¬ op.Unlinks)
    (h : Represented P s.record) (hv : s.record.base.vmt ≠ none) :
    (run (.ofCodes codes) (op.prog mem) s).2.record.base.vmt ≠ none := by
  cases op with
  | call c =>
      rw [PeripheralCall.prog, c.vmt codes mem h.table]
      exact hv
  | populate driver args =>
      cases driver with
      | null => exact hv
      | ref =>
          -- Populated with the table that was given.
          obtain ⟨api, hapi⟩ := Option.ne_none_iff_exists'.1 fun hn => hop ⟨rfl, hn⟩
          show args.api.map Api.base ≠ none
          rw [hapi]
          exact Option.some_ne_none _
  | construct portApi driver config phy clock dependency callback userArg =>
      simp only [PeripheralCall.prog, Peripheral.construct]
      split
      · exact hv
      · cases driver with
        | null => exact hv
        | ref => exact Option.some_ne_none portApi.base
  | destruct driver =>
      cases driver with
      | null => exact hv
      | ref => exact absurd rfl hop
  | setOnConfig onConfig arg => exact hv

/-- An operation that unlinks the driver leaves it CONSTRUCTED. -/
theorem PeripheralCall.Unlinks.not_statusLinked {op : PeripheralCall P} (hop : op.Unlinks) :
    ¬ StatusLinked (run (.ofCodes codes) (op.prog mem) s).2.record := by
  cases op with
  | populate driver args =>
      obtain ⟨rfl, hapi⟩ := hop
      intro hlinked
      refine hlinked (.inl rfl) ?_
      show args.api.map Api.base = none
      rw [hapi]
      rfl
  | destruct driver =>
      obtain rfl : driver = .ref := hop
      exact fun hlinked => hlinked (.inl rfl) rfl
  | _ => exact hop.elim

/-- A status tells the truth about the table in exactly the runs without a `destruct`. From a driver
populated with a table, over any operations of its peripheral, whatever the hooks answer. -/
theorem statusLinked_iff (memory : Driver) (args : PopulateArgs) (api : Api)
    (ops : List (PeripheralCall P)) (x : W) :
    LinkedThroughout (history (.ofCodes codes) (PeripheralCall.prog mem) ops
        (populatedConf P (.ofCodes codes) memory { args with api := some api } x)) ↔
      ∀ op ∈ ops, ¬ op.Unlinks := by
  refine Iff.trans (everyCall_history_iff
    (fun _ s => Represented P s.record ∧ s.record.base.vmt ≠ none) (fun op s calls h hop => ?_)
    (fun op s calls h => ?_) ?_ ops) (everyCall_history_op ops _)
  · have hrep := op.represented codes mem h.1
    exact ⟨hrep, hop.1 hrep.status⟩
  · constructor
    · intro hop hunlinks
      exact hunlinks.not_statusLinked codes mem hop.1
    · intro hop
      exact ⟨fun _ => op.vmt_ne_none codes mem hop h.1 h.2, fun _ _ => h.2⟩
  · exact ⟨populated_represented P _ _ _, Option.some_ne_none api.base⟩

/-- A destructed UART is CONSTRUCTED, and takes a callback. -/
theorem destructed_driver_constructed :
    ¬ LinkedThroughout (history (.ofCodes okHooks) (PeripheralCall.prog (P := .uart) default)
      [.destruct .ref, .call (.callbackRegister .ref (some 2) none)]
      (populatedConf .uart (.ofCodes okHooks) zeroedDriver fullArgs ())) := by
  intro h
  obtain ⟨hregister, -⟩ := (everyCall_cons _ _).1 h
  exact hregister.2 rfl rfl rfl

end Linked

end CaffeineHal
