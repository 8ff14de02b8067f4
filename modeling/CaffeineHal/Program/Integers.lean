import Mathlib.Logic.Basic

/-!
# Integer types and their conversions

The standard integer types of C, by conversion rank, at the widths an implementation gives them. A value
is the bits that represent it. Before an operation its operands are promoted and converted to a common
type (`common`), and a compound assignment converts the result back to the type of the variable
(`assign`).

`getLsbD_assign` says what a bitwise assignment to an unsigned variable does bit by bit: the common type
is at least as wide as both sides, so no bit is lost before the truncation, and bits that the right side
does not have count as zeros.
-/

set_option autoImplicit false

namespace CaffeineHal.Program

/-- The conversion ranks of the standard integer types. -/
inductive Rank where
  | char | short | int | long | longLong
  deriving DecidableEq, Repr

namespace Rank

/-- The place of a rank in their order. -/
def level : Rank → Nat
  | char => 0
  | short => 1
  | int => 2
  | long => 3
  | longLong => 4

instance : LE Rank := ⟨fun r r' => r.level ≤ r'.level⟩

instance (r r' : Rank) : Decidable (r ≤ r') := inferInstanceAs (Decidable (r.level ≤ r'.level))

theorem int_le_long : int ≤ long := by decide

theorem le_of_not_le {r r' : Rank} (h : ¬ r ≤ r') : r' ≤ r := Nat.le_of_not_le h

end Rank

/-- The widths that an implementation gives the ranks: a higher rank is at least as wide. -/
structure Widths where
  bits : Rank → Nat
  mono : ∀ {r r' : Rank}, r ≤ r' → bits r ≤ bits r'

/-- A standard integer type. -/
structure IntType where
  rank : Rank
  isSigned : Bool
  deriving DecidableEq, Repr

/-- The unsigned type of a rank. -/
abbrev IntType.unsigned (r : Rank) : IntType := ⟨r, false⟩

/-- A bit that is set is within the width. -/
theorem lt_and_getLsbD {w n : Nat} (x : BitVec w) (h : w ≤ n) (i : Nat) :
    (decide (i < n) && x.getLsbD i) = x.getLsbD i := by
  rw [Bool.and_eq_right_iff_imp]
  intro hbit
  have hlt := BitVec.lt_of_getLsbD hbit
  exact decide_eq_true (by omega)

/-- A value of an integer type: its bits. -/
abbrev Widths.Value (D : Widths) (t : IntType) : Type := BitVec (D.bits t.rank)

/-- A value of the unsigned type of a rank. -/
abbrev Widths.Unsigned (D : Widths) (r : Rank) : Type := D.Value (.unsigned r)

/-- A binary operation that works bit by bit and does not make ones of zeros. -/
structure BitwiseOp where
  apply : ∀ {w : Nat}, BitVec w → BitVec w → BitVec w
  bit : Bool → Bool → Bool
  getLsbD_apply : ∀ {w : Nat} (x y : BitVec w) (i : Nat),
    (apply x y).getLsbD i = bit (x.getLsbD i) (y.getLsbD i)

namespace BitwiseOp

/-- `|` -/
def or : BitwiseOp where
  apply x y := x ||| y
  bit := Bool.or
  getLsbD_apply _ _ _ := BitVec.getLsbD_or

/-- `&` -/
def and : BitwiseOp where
  apply x y := x &&& y
  bit := Bool.and
  getLsbD_apply _ _ _ := BitVec.getLsbD_and

/-- `^` -/
def xor : BitwiseOp where
  apply x y := x ^^^ y
  bit := Bool.xor
  getLsbD_apply _ _ _ := BitVec.getLsbD_xor

end BitwiseOp

namespace Widths

variable (D : Widths)

/-- The integer promotions: what is narrower than `int` becomes an `int`, if an `int` has all its
values. -/
def promoted (t : IntType) : IntType :=
  if Rank.int ≤ t.rank then t
  else if t.isSigned ∨ D.bits t.rank < D.bits .int then ⟨.int, true⟩
  else ⟨.int, false⟩

/-- The type that two promoted operands are converted to. -/
def commonOf (t t' : IntType) : IntType :=
  if t.isSigned = t'.isSigned then
    if t.rank ≤ t'.rank then t' else t
  else
    let u := if t.isSigned then t' else t
    let s := if t.isSigned then t else t'
    if s.rank ≤ u.rank then u
    else if D.bits u.rank < D.bits s.rank then s
    else ⟨s.rank, false⟩

/-- The usual arithmetic conversions: the common type of two operands. -/
def common (t t' : IntType) : IntType := D.commonOf (D.promoted t) (D.promoted t')

/-- The conversion of a value to another type: sign or zero extension, or truncation. -/
def convert (t t' : IntType) (x : D.Value t) : D.Value t' :=
  if t.isSigned then x.signExtend _ else x.setWidth _

/-- An operand, promoted and converted to the common type `c`. -/
def operand {t : IntType} (c : IntType) (x : D.Value t) : D.Value c :=
  D.convert (D.promoted t) c (D.convert t (D.promoted t) x)

/-- `x op v` -/
def binary (op : BitwiseOp) {t t' : IntType} (x : D.Value t) (v : D.Value t') :
    D.Value (D.common t t') :=
  op.apply (D.operand _ x) (D.operand _ v)

/-- `x op= v` -/
def assign (op : BitwiseOp) {t t' : IntType} (x : D.Value t) (v : D.Value t') : D.Value t :=
  D.convert (D.common t t') t (D.binary op x v)

/-! ## Unsigned operands -/

/-- A promotion keeps every value: the promoted type is wider, or as wide and unsigned as well. -/
theorem bits_promoted (r : Rank) :
    D.bits r < D.bits (D.promoted (.unsigned r)).rank ∨
      (D.promoted (.unsigned r)).isSigned = false ∧
        D.bits r ≤ D.bits (D.promoted (.unsigned r)).rank := by
  unfold promoted
  by_cases hr : Rank.int ≤ r
  · rw [if_pos (show Rank.int ≤ (IntType.unsigned r).rank from hr)]
    exact .inr ⟨rfl, Nat.le_refl _⟩
  · rw [if_neg (show ¬ Rank.int ≤ (IntType.unsigned r).rank from hr)]
    by_cases hlt : D.bits r < D.bits .int
    · rw [if_pos (.inr hlt)]
      exact .inl hlt
    · rw [if_neg]
      · exact .inr ⟨rfl, D.mono (Rank.le_of_not_le hr)⟩
      · rintro (hsigned | hlt')
        · cases hsigned
        · exact hlt hlt'

/-- An unsigned type of at least `int`'s rank is not promoted. -/
theorem promoted_unsigned {r : Rank} (hr : Rank.int ≤ r) :
    D.promoted (.unsigned r) = .unsigned r := if_pos hr

/-- Of two unsigned types the one of the higher rank. -/
theorem commonOf_unsigned (r r' : Rank) :
    D.commonOf (.unsigned r) (.unsigned r') = .unsigned (if r ≤ r' then r' else r) := by
  have heq : (IntType.unsigned r).isSigned = (IntType.unsigned r').isSigned := rfl
  rw [commonOf, if_pos heq, apply_ite IntType.unsigned]

/-- An `int` is converted to an unsigned type that it does not outrank. -/
theorem commonOf_int {r' : Rank} (hr' : Rank.int ≤ r') :
    D.commonOf ⟨.int, true⟩ (.unsigned r') = .unsigned r' :=
  if_pos hr'

/-- The common type of two unsigned operands, the second of which is not promoted, is the one of the
higher rank. -/
theorem common_unsigned (r : Rank) {r' : Rank} (hr' : Rank.int ≤ r') :
    D.common (.unsigned r) (.unsigned r') = .unsigned (if r ≤ r' then r' else r) := by
  rw [common, promoted_unsigned D hr']
  by_cases hr : Rank.int ≤ r
  · rw [promoted_unsigned D hr]
    exact D.commonOf_unsigned r r'
  · -- A promoted operand is an `int`, signed or not, and the other one ranks as high.
    have hle : r ≤ r' := Nat.le_trans (Rank.le_of_not_le hr) hr'
    rw [if_pos hle, promoted, if_neg (show ¬ Rank.int ≤ (IntType.unsigned r).rank from hr)]
    split
    · exact D.commonOf_int hr'
    · have h := D.commonOf_unsigned .int r'
      rw [if_pos hr'] at h
      exact h

theorem bits_common_unsigned (r : Rank) {r' : Rank} (hr' : Rank.int ≤ r') :
    D.bits r ≤ D.bits (D.common (.unsigned r) (.unsigned r')).rank ∧
      D.bits r' ≤ D.bits (D.common (.unsigned r) (.unsigned r')).rank := by
  rw [common_unsigned D r hr']
  by_cases h : r ≤ r'
  · rw [if_pos h]
    exact ⟨D.mono h, Nat.le_refl _⟩
  · rw [if_neg h]
    exact ⟨Nat.le_refl _, D.mono (Rank.le_of_not_le h)⟩

theorem getLsbD_convert {t : IntType} (ht : t.isSigned = false) (t' : IntType) (x : D.Value t)
    (i : Nat) :
    (D.convert t t' x).getLsbD i = (decide (i < D.bits t'.rank) && x.getLsbD i) := by
  rw [convert, if_neg (by rw [ht]; exact Bool.false_ne_true), BitVec.getLsbD_setWidth]

/-- Converting an unsigned value through a wider type is converting it at once: the sign bit of the wider
value is not set. -/
theorem getLsbD_convert_convert (r : Rank) {p : IntType}
    (hp : D.bits r < D.bits p.rank ∨ p.isSigned = false ∧ D.bits r ≤ D.bits p.rank) (c : IntType)
    (x : D.Unsigned r) (i : Nat) :
    (D.convert p c (D.convert (.unsigned r) p x)).getLsbD i =
      (decide (i < D.bits c.rank) && x.getLsbD i) := by
  have hwide : D.bits r ≤ D.bits p.rank := by omega
  cases hsigned : p.isSigned with
  | false => rw [getLsbD_convert D hsigned, getLsbD_convert D rfl, lt_and_getLsbD x hwide]
  | true =>
      have hlt : D.bits r < D.bits p.rank := by
        rcases hp with h | h
        · exact h
        · rw [h.1] at hsigned
          cases hsigned
      have hmsb : (D.convert (.unsigned r) p x).msb = false := by
        rw [BitVec.msb_eq_getLsbD_last, getLsbD_convert D rfl,
          BitVec.getLsbD_of_ge x _ (by show D.bits r ≤ D.bits p.rank - 1; omega), Bool.and_false]
      rw [convert, if_pos hsigned, BitVec.signExtend_eq_setWidth_of_msb_false hmsb,
        BitVec.getLsbD_setWidth, getLsbD_convert D rfl, lt_and_getLsbD x hwide]

/-- An unsigned operand keeps its bits and is extended with zeros. -/
theorem getLsbD_operand (r : Rank) (c : IntType) (x : D.Unsigned r) (i : Nat) :
    (D.operand c x).getLsbD i = (decide (i < D.bits c.rank) && x.getLsbD i) :=
  D.getLsbD_convert_convert r (D.bits_promoted r) c x i

/-- An operand has the bits it had when the type it is converted to is as wide. -/
theorem getLsbD_operand_of_le {r : Rank} {c : IntType} (h : D.bits r ≤ D.bits c.rank)
    (x : D.Unsigned r) (i : Nat) : (D.operand c x).getLsbD i = x.getLsbD i := by
  rw [getLsbD_operand, lt_and_getLsbD x h]

section Bitwise

variable (op : BitwiseOp) {r r' : Rank} (hr' : Rank.int ≤ r') (x : D.Unsigned r) (v : D.Unsigned r')
include hr'

theorem getLsbD_binary (i : Nat) :
    (D.binary op x v).getLsbD i = op.bit (x.getLsbD i) (v.getLsbD i) := by
  obtain ⟨hx, hv⟩ := D.bits_common_unsigned r hr'
  rw [binary, op.getLsbD_apply, getLsbD_operand_of_le D hx, getLsbD_operand_of_le D hv]

/-- A bitwise assignment works bit by bit, with zeros where the right side has no bits. -/
theorem getLsbD_assign (i : Nat) :
    (D.assign op x v).getLsbD i = (decide (i < D.bits r) && op.bit (x.getLsbD i) (v.getLsbD i)) := by
  have hsigned : (D.common (.unsigned r) (.unsigned r')).isSigned = false := by
    rw [common_unsigned D r hr']
  rw [assign, getLsbD_convert D hsigned, getLsbD_binary D op hr']

end Bitwise

end Widths

end CaffeineHal.Program
