import CaffeineHal.Driver.Record
import CaffeineHal.Program.Initializer

/-!
# The vendor error map

`cfn_hal_vendor_error_port.h` maps the status codes of a vendor's library to the codes of the HAL through
a table that is indexed by the vendor's constants. A port overrides the constants, and the table has an
element for every number below `VENDOR_MAX`, whether or not a constant has that number.

An element that no constant names is zero, and zero is `CFN_HAL_ERROR_OK`: a vendor status that the port does
not know is success. `mapsErrors_iff` says that these are the only ones that are mapped wrongly.
-/

set_option autoImplicit false

namespace CaffeineHal

open CaffeineHal.Program

/-- The numbers of `cfn_hal_error_code_t`. -/
def ErrorCode.value : ErrorCode → Nat
  | ok => 0x00
  | fail => 0x01
  | badParam => 0x02
  | notReady => 0x03
  | notFound => 0x04
  | outOfBound => 0x05
  | notSupported => 0x06
  | external => 0x07
  | busy => 0x08
  | badConfig => 0x09
  | peripheralFail => 0x40
  | timingTimeout => 0x80
  | driverGeneral => 0xC0
  | driverNotInit => 0xC1
  | driverAlreadyInit => 0xC2
  | dataCrc => 0x100
  | dataBadFormat => 0x101
  | dataMismatch => 0x102
  | memoryNull => 0x140
  | memoryFull => 0x141
  | memoryAlloc => 0x142
  | memoryEmpty => 0x143
  | deviceFail => 0x180
  | deviceNotFound => 0x181
  | unknown => 0x182

/-- `VENDOR_OK`, `VENDOR_ERROR`, `VENDOR_BUSY`, `VENDOR_TIMEOUT` and `VENDOR_MAX`, as a port may define
them: different numbers, each of them an index of the table. -/
structure VendorNumbering where
  ok : Nat
  error : Nat
  busy : Nat
  timeout : Nat
  max : Nat
  distinct : [ok, error, busy, timeout].Nodup
  bounded : ∀ k ∈ [ok, error, busy, timeout], k < max

namespace VendorNumbering

variable (v : VendorNumbering)

/-- The numbers that have a name. -/
def named : List Nat := [v.ok, v.error, v.busy, v.timeout]

/-- The initializers of `VENDOR_ERROR_MAP`. -/
def initializers : List (Nat × Nat) :=
  [(v.ok, ErrorCode.ok.value), (v.error, ErrorCode.fail.value), (v.busy, ErrorCode.busy.value),
    (v.timeout, ErrorCode.timingTimeout.value)]

/-- `VENDOR_ERROR_MAP`. -/
def errorMap : Array Nat := designated v.max 0 v.initializers

/-- `cfn_hal_vendor_map_error`; a read past the table has no value. -/
def mapError (status : Int) : Option Nat :=
  if status < 0 ∨ status ≥ v.max then some ErrorCode.fail.value
  else v.errorMap[status.toNat]?

/-- The placeholder numbers of the template. -/
def placeholder : VendorNumbering where
  ok := 0
  error := 1
  busy := 2
  timeout := 3
  max := 4
  distinct := by decide
  bounded := by decide

/-- The status is an index of the table that no constant has. -/
def Unnamed (status : Int) : Prop :=
  ∃ k : Nat, status = k ∧ k < v.max ∧ k ∉ v.named

/-- The map reads the table in bounds, and its result is OK for the vendor's OK and for nothing else. -/
def MapsErrors (status : Int) : Prop :=
  ∃ code, v.mapError status = some code ∧ (code = ErrorCode.ok.value ↔ status = v.ok)

/-! ## The table, element by element -/

/-- Past the table a status is a failure. -/
theorem mapError_out {status : Int} (h : status < 0 ∨ status ≥ v.max) :
    v.mapError status = some ErrorCode.fail.value := if_pos h

/-- Inside the table a status is mapped to its element. -/
theorem mapError_in {k : Nat} (hk : k < v.max) :
    v.mapError k = some (elementAfter v.initializers k 0) := by
  have hin : ¬ ((k : Int) < 0 ∨ (k : Int) ≥ v.max) := by omega
  rw [mapError, if_neg hin, Int.toNat_natCast]
  exact getElem?_designated hk

theorem mapError_named {k value : Nat} (h : (k, value) ∈ v.initializers) :
    v.mapError k = some value := by
  have hnamed : k ∈ v.named := List.mem_map_of_mem (f := Prod.fst) h
  have hdistinct : (v.initializers.map Prod.fst).Nodup := v.distinct
  rw [mapError_in v (v.bounded k hnamed)]
  exact congrArg some (elementAfter_of_mem hdistinct h 0)

/-- An index without a name is mapped to zero. -/
theorem mapError_unnamed {k : Nat} (hk : k < v.max) (h : k ∉ v.named) :
    v.mapError k = some ErrorCode.ok.value := by
  rw [mapError_in v hk]
  exact congrArg some (elementAfter_of_not_mem h 0)

/-- The table is never read past its end. -/
theorem mapError_ne_none (status : Int) : v.mapError status ≠ none := by
  by_cases h : status < 0 ∨ status ≥ v.max
  · rw [mapError_out v h]
    exact Option.some_ne_none _
  · obtain ⟨k, rfl⟩ := Int.eq_ofNat_of_zero_le (show 0 ≤ status by omega)
    rw [mapError_in v (by omega)]
    exact Option.some_ne_none _

/-- Of the four codes only the first is OK, and the four numbers differ. -/
theorem value_eq_ok_iff {k value : Nat} (h : (k, value) ∈ v.initializers) :
    value = ErrorCode.ok.value ↔ k = v.ok := by
  have hdistinct := v.distinct
  simp only [initializers, List.mem_cons, Prod.mk.injEq, List.not_mem_nil, or_false] at h
  simp only [List.nodup_cons, List.mem_cons, not_or] at hdistinct
  obtain ⟨⟨herror, hbusy, htimeout, -⟩, -⟩ := hdistinct
  rcases h with ⟨rfl, rfl⟩ | ⟨rfl, rfl⟩ | ⟨rfl, rfl⟩ | ⟨rfl, rfl⟩
  · exact ⟨fun _ => rfl, fun _ => rfl⟩
  · exact ⟨by rintro ⟨⟩, fun heq => absurd heq.symm herror⟩
  · exact ⟨by rintro ⟨⟩, fun heq => absurd heq.symm hbusy⟩
  · exact ⟨by rintro ⟨⟩, fun heq => absurd heq.symm htimeout⟩

/-! ## Which statuses are mapped rightly -/

theorem mapsErrors_out {status : Int} (h : status < 0 ∨ status ≥ v.max) : v.MapsErrors status := by
  refine ⟨_, mapError_out v h, by rintro ⟨⟩, fun heq => ?_⟩
  have hok : v.ok < v.max := v.bounded v.ok (List.mem_cons_self)
  omega

theorem mapsErrors_named {k : Nat} (hk : k ∈ v.named) : v.MapsErrors k := by
  obtain ⟨⟨index, value⟩, hmem, rfl⟩ : ∃ init ∈ v.initializers, init.1 = k :=
    List.mem_map.1 hk
  refine ⟨value, mapError_named v hmem, (value_eq_ok_iff v hmem).trans ?_⟩
  exact Int.ofNat_inj.symm

theorem not_mapsErrors_unnamed {k : Nat} (hk : k < v.max) (h : k ∉ v.named) :
    ¬ v.MapsErrors k := by
  rintro ⟨code, hcode, hiff⟩
  rw [mapError_unnamed v hk h] at hcode
  have heq := hiff.1 (Option.some.inj hcode).symm
  exact h (Int.ofNat_inj.1 heq ▸ List.mem_cons_self)

theorem mapsErrors_of_not_unnamed {status : Int} (h : ¬ v.Unnamed status) : v.MapsErrors status := by
  by_cases hout : status < 0 ∨ status ≥ v.max
  · exact mapsErrors_out v hout
  · obtain ⟨k, rfl⟩ := Int.eq_ofNat_of_zero_le (show 0 ≤ status by omega)
    have hnamed : k ∈ v.named := by
      by_contra hnot
      exact h ⟨k, rfl, by omega, hnot⟩
    exact mapsErrors_named v hnamed

/-- A vendor status is mapped rightly exactly when it is not an index of the table without a name: the
table is read in bounds, and the result is OK for the vendor's OK only. -/
theorem mapsErrors_iff (status : Int) : v.MapsErrors status ↔ ¬ v.Unnamed status := by
  constructor
  · rintro h ⟨k, rfl, hk, hnamed⟩
    exact not_mapsErrors_unnamed v hk hnamed h
  · exact mapsErrors_of_not_unnamed v

/-- The placeholder numbers have no gap, and every status is mapped rightly. -/
theorem placeholder_mapsErrors (status : Int) : placeholder.MapsErrors status := by
  have hnamed : ∀ k < placeholder.max, k ∈ placeholder.named := by decide
  apply mapsErrors_of_not_unnamed
  rintro ⟨k, -, hk, hunnamed⟩
  exact hunnamed (hnamed k hk)

end VendorNumbering

/-- A numbering with a gap: the status 3 of a vendor whose timeout is 4. -/
theorem not_mapsErrors_gap :
    let v : VendorNumbering := ⟨0, 1, 2, 4, 5, by decide, by decide⟩
    ¬ v.MapsErrors 3 := by
  rintro v ⟨code, hcode, hiff⟩
  have hzero : v.mapError 3 = some ErrorCode.ok.value := by decide
  rw [hzero] at hcode
  have hstatus := hiff.1 (Option.some.inj hcode).symm
  revert hstatus
  decide

end CaffeineHal
