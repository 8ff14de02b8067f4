import CaffeineHal.Program.Integers

/-!
# The bit macros

`CFN_HAL_BIT` and the macros over it, on an unsigned variable of any standard type. The mask is an
`unsigned long` whatever the variable is, and its width is the data model's: the 32-bit targets and the
64-bit hosts differ in it.

Setting and toggling touch the one bit everywhere. Clearing complements the mask at the mask's own
width, so on a variable wider than an `unsigned long` the bits above are cleared with it; `bitLaws_iff`
says that these bits are the only ones the macros can get wrong.
-/

set_option autoImplicit false

namespace CaffeineHal

open CaffeineHal.Program

/-! ## The macros -/

section Macros

variable (D : Widths) {r : Rank}

/-- `CFN_HAL_BIT`: `(1UL) << (uint32_t) (x)`. -/
def bit (y : Nat) : D.Unsigned .long :=
  (1 : BitVec (D.bits .long)) <<< (UInt32.ofNat y).toNat

/-- `CFN_HAL_BIT_SET`: `(x) |= (CFN_HAL_BIT(y))`. -/
def bitSet (x : D.Unsigned r) (y : Nat) : D.Unsigned r := D.assign .or x (bit D y)

/-- `CFN_HAL_BIT_CLEAR`: `(x) &= ~(CFN_HAL_BIT(y))`; the complement is an `unsigned long` too. -/
def bitClear (x : D.Unsigned r) (y : Nat) : D.Unsigned r :=
  let mask : D.Unsigned .long := ~~~(bit D y)
  D.assign .and x mask

/-- `CFN_HAL_BIT_TOGGLE`: `(x) ^= (CFN_HAL_BIT(y))`. -/
def bitToggle (x : D.Unsigned r) (y : Nat) : D.Unsigned r := D.assign .xor x (bit D y)

/-- `CFN_HAL_BIT_CHECK`: `(x) & (CFN_HAL_BIT(y))`, of the common type. -/
def bitCheck (x : D.Unsigned r) (y : Nat) : D.Value (D.common (.unsigned r) (.unsigned .long)) :=
  D.binary .and x (bit D y)

/-- `CFN_HAL_BIT_IS_SET`: `(CFN_HAL_BIT_CHECK(x, y)) != 0`. -/
def bitIsSet (x : D.Unsigned r) (y : Nat) : Bool := decide (bitCheck D x y ≠ 0)

end Macros

/-! ## Bit by bit -/

/-- `y` is the index of a bit of an `unsigned long`, and so of the mask; the shift is undefined
elsewhere. -/
structure MaskIndex (D : Widths) (y : Nat) : Prop where
  lt_bits : y < D.bits .long
  lt_uint32 : y < UInt32.size

section Bits

variable (D : Widths) {r : Rank} (x : D.Unsigned r) {y : Nat} (hy : MaskIndex D y)
include hy

theorem getLsbD_bit (i : Nat) : (bit D y).getLsbD i = decide (i = y) := by
  rw [bit, UInt32.toNat_ofNat_of_lt' hy.lt_uint32]
  show (BitVec.twoPow (D.bits .long) y).getLsbD i = decide (i = y)
  rw [BitVec.getLsbD_twoPow, decide_eq_true hy.lt_bits, Bool.true_and]
  exact decide_eq_decide.2 eq_comm

theorem getLsbD_bitSet (i : Nat) :
    (bitSet D x y).getLsbD i = (decide (i < D.bits r) && (x.getLsbD i || decide (i = y))) := by
  rw [bitSet, D.getLsbD_assign .or Rank.int_le_long, getLsbD_bit D hy]
  rfl

/-- Clearing keeps the bits that the mask has, but the one. -/
theorem getLsbD_bitClear (i : Nat) :
    (bitClear D x y).getLsbD i =
      (x.getLsbD i && (decide (i < D.bits .long) && !decide (i = y))) := by
  rw [bitClear, D.getLsbD_assign .and Rank.int_le_long, BitVec.getLsbD_not, getLsbD_bit D hy]
  -- `x` has no bits past its width.
  show (_ && (x.getLsbD i && _)) = _
  rw [← Bool.and_assoc, lt_and_getLsbD x (Nat.le_refl _)]

theorem getLsbD_bitToggle (i : Nat) :
    (bitToggle D x y).getLsbD i = (decide (i < D.bits r) && (x.getLsbD i ^^ decide (i = y))) := by
  rw [bitToggle, D.getLsbD_assign .xor Rank.int_le_long, getLsbD_bit D hy]
  rfl

theorem getLsbD_bitCheck (i : Nat) :
    (bitCheck D x y).getLsbD i = (x.getLsbD i && decide (i = y)) := by
  rw [bitCheck, D.getLsbD_binary .and Rank.int_le_long, getLsbD_bit D hy]
  rfl

/-- `CFN_HAL_BIT_IS_SET` reports the bit, whatever the widths. -/
theorem bitIsSet_eq : bitIsSet D x y = x.getLsbD y := by
  have hzero : bitCheck D x y = 0 ↔ x.getLsbD y = false := by
    constructor
    · intro h
      have hbit := getLsbD_bitCheck D x hy y
      rw [h, decide_eq_true rfl, Bool.and_true] at hbit
      rw [← hbit]
      exact BitVec.getLsbD_zero
    · intro h
      apply BitVec.eq_of_getLsbD_eq
      intro i _
      rw [getLsbD_bitCheck D x hy]
      by_cases hi : i = y
      · rw [hi, h]
        exact BitVec.getLsbD_zero.symm
      · rw [decide_eq_false hi, Bool.and_false]
        exact BitVec.getLsbD_zero.symm
  unfold bitIsSet
  cases hx : x.getLsbD y with
  | false => exact decide_eq_false fun hne => hne (hzero.2 hx)
  | true =>
      refine decide_eq_true fun h => ?_
      rw [hzero.1 h] at hx
      cases hx

end Bits

/-! ## The laws -/

/-- What the macros are for: each changes bit `y` of the variable and no other bit, the test reports
the bit as it is afterwards, and toggling twice restores the variable. -/
structure BitLaws (D : Widths) {r : Rank} (x : D.Unsigned r) (y : Nat) : Prop where
  set_bits : ∀ i, (bitSet D x y).getLsbD i = if i = y then true else x.getLsbD i
  clear_bits : ∀ i, (bitClear D x y).getLsbD i = if i = y then false else x.getLsbD i
  toggle_bits : ∀ i, (bitToggle D x y).getLsbD i = if i = y then !x.getLsbD y else x.getLsbD i
  isSet_set : bitIsSet D (bitSet D x y) y = true
  isSet_clear : bitIsSet D (bitClear D x y) y = false
  isSet_toggle : bitIsSet D (bitToggle D x y) y = !x.getLsbD y
  toggle_toggle : bitToggle D (bitToggle D x y) y = x

section Laws

variable (D : Widths) {r : Rank} (x : D.Unsigned r) {y : Nat} (hy : MaskIndex D y)
  (hyr : y < D.bits r)
include hy hyr

theorem bitSet_bits (i : Nat) :
    (bitSet D x y).getLsbD i = if i = y then true else x.getLsbD i := by
  rw [getLsbD_bitSet D x hy]
  by_cases h : i = y
  · rw [if_pos h, h, decide_eq_true hyr, decide_eq_true rfl, Bool.or_true, Bool.and_true]
  · rw [if_neg h, decide_eq_false h, Bool.or_false, lt_and_getLsbD x (Nat.le_refl _)]

theorem bitToggle_bits (i : Nat) :
    (bitToggle D x y).getLsbD i = if i = y then !x.getLsbD y else x.getLsbD i := by
  rw [getLsbD_bitToggle D x hy]
  by_cases h : i = y
  · rw [if_pos h, h, decide_eq_true hyr, decide_eq_true rfl, Bool.true_and, Bool.xor_true]
  · rw [if_neg h, decide_eq_false h, Bool.xor_false, lt_and_getLsbD x (Nat.le_refl _)]

omit hyr in
/-- Clearing is right on every bit that the mask reaches, and elsewhere where there is nothing to
clear. -/
theorem bitClear_bits_iff :
    (∀ i, (bitClear D x y).getLsbD i = if i = y then false else x.getLsbD i) ↔
      ∀ i, D.bits .long ≤ i → x.getLsbD i = false := by
  have hlt := hy.lt_bits
  constructor
  · intro h i hi
    have hne : i ≠ y := by omega
    have hbit := h i
    rw [getLsbD_bitClear D x hy, if_neg hne, decide_eq_false (Nat.not_lt.2 hi), Bool.false_and,
      Bool.and_false] at hbit
    exact hbit.symm
  · intro h i
    rw [getLsbD_bitClear D x hy]
    by_cases hi : i < D.bits .long
    · rw [decide_eq_true hi, Bool.true_and]
      by_cases hiy : i = y
      · rw [if_pos hiy, decide_eq_true hiy, Bool.not_true, Bool.and_false]
      · rw [if_neg hiy, decide_eq_false hiy, Bool.not_false, Bool.and_true]
    · have hne : i ≠ y := by omega
      rw [if_neg hne, h i (Nat.le_of_not_lt hi), Bool.false_and]

theorem bitToggle_toggle : bitToggle D (bitToggle D x y) y = x := by
  apply BitVec.eq_of_getLsbD_eq
  intro i _
  rw [bitToggle_bits D _ hy hyr, bitToggle_bits D x hy hyr y, bitToggle_bits D x hy hyr i]
  by_cases h : i = y
  · rw [if_pos h, if_pos rfl, Bool.not_not, h]
  · rw [if_neg h, if_neg h]

/-- The laws hold of a variable whose bits the mask all reaches. -/
theorem bitLaws_of_high_zero (hx : ∀ i, D.bits .long ≤ i → x.getLsbD i = false) :
    BitLaws D x y where
  set_bits := bitSet_bits D x hy hyr
  clear_bits := (bitClear_bits_iff D x hy).2 hx
  toggle_bits := bitToggle_bits D x hy hyr
  isSet_set := by rw [bitIsSet_eq D _ hy, bitSet_bits D x hy hyr, if_pos rfl]
  isSet_clear := by rw [bitIsSet_eq D _ hy, (bitClear_bits_iff D x hy).2 hx, if_pos rfl]
  isSet_toggle := by rw [bitIsSet_eq D _ hy, bitToggle_bits D x hy hyr, if_pos rfl]
  toggle_toggle := bitToggle_toggle D x hy hyr

/-- The laws hold of a variable that is no wider than an `unsigned long`. -/
theorem bitLaws_of_bits_le (hr : D.bits r ≤ D.bits .long) : BitLaws D x y :=
  bitLaws_of_high_zero D x hy hyr fun i hi => BitVec.getLsbD_of_ge x i (Nat.le_trans hr hi)

end Laws

/-! ## The two data models -/

/-- The data models the library is built for: the 32-bit targets and the 64-bit hosts. -/
inductive DataModel where
  | ilp32 | lp64
  deriving DecidableEq, Repr

/-- The width of an `unsigned long`. -/
def DataModel.longBits : DataModel → Nat
  | .ilp32 => 32
  | .lp64 => 64

/-- The widths of a data model. -/
def DataModel.widths (m : DataModel) : Widths where
  bits
    | .char => 8
    | .short => 16
    | .int => 32
    | .long => m.longBits
    | .longLong => 64
  mono {r r'} h := by
    revert h
    cases m <;> cases r <;> cases r' <;> decide

theorem DataModel.maskIndex (m : DataModel) {y : Nat} (hy : y < m.widths.bits .long) :
    MaskIndex m.widths y := by
  refine ⟨hy, Nat.lt_trans hy ?_⟩
  cases m <;> decide

/-- The bit macros do what they are for on a variable exactly when no bit is set in it above the
width of an `unsigned long`. -/
theorem bitLaws_iff (m : DataModel) (r : Rank) (x : m.widths.Unsigned r)
    (y : Fin (min (m.widths.bits .long) (m.widths.bits r))) :
    BitLaws m.widths x y ↔ ∀ i, m.widths.bits .long ≤ i → x.getLsbD i = false := by
  have hy := m.maskIndex (Nat.lt_of_lt_of_le y.isLt (Nat.min_le_left _ _))
  have hyr : (y : Nat) < m.widths.bits r := Nat.lt_of_lt_of_le y.isLt (Nat.min_le_right _ _)
  constructor
  · intro h
    exact (bitClear_bits_iff m.widths x hy).1 h.clear_bits
  · exact bitLaws_of_high_zero m.widths x hy hyr

/-- On a 32-bit target, clearing bit 0 of a 64-bit variable clears bit 32 too. -/
theorem not_bitLaws_unsigned_long_long :
    ¬ BitLaws DataModel.ilp32.widths (r := .longLong) (0x100000001 : BitVec 64) 0 := by
  intro h
  have hbit := h.clear_bits 32
  revert hbit
  decide

end CaffeineHal
