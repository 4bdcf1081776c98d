import CgroupLimits.Proofs.Binary64.Rounding
import Mathlib.Algebra.Field.Rat
import Mathlib.Algebra.Order.Field.Rat
import Mathlib.Data.Rat.Floor

/-!
# The number that a bit pattern stands for

Sign, exponent and fraction of a finite pattern give an exact rational number.
Counted in units of 2^-1074 it is a whole number, which is how arithmetic
decodes it.
-/

set_option autoImplicit false

namespace CgroupLimits.Binary64
open CgroupLimits

/-- The number of a finite pattern. The least exponent has no leading digit. -/
def value? (x : Binary64) : Option ℚ :=
  let sign : ℚ := if x.bits.toNat < 2^63 then 1 else -1
  let exponent : ℕ := x.bits.toNat / 2^52 % 2^11
  let fraction : ℕ := x.bits.toNat % 2^52
  if exponent = 2047 then none
  else if exponent = 0 then some (sign * (fraction * 2^(-1074 : ℤ)))
  else some (sign * ((2^52+fraction) * 2^((exponent : ℤ)-1075)))

theorem cast_two_to (n : ℕ) : (twoTo n : ℚ) = 2^(n : ℤ) := by
  rw [twoTo, Nat.pow_eq, Nat.cast_pow, zpow_natCast]
  rfl

theorem cast_two_to_mul (n : ℕ) : (twoTo n : ℚ) * 2^(-1074 : ℤ) = 2^((n : ℤ)-1074) := by
  rw [cast_two_to, ← zpow_add₀ two_ne_zero, sub_eq_add_neg]

theorem mul_unit_eq_div (units : ℕ) : (units : ℚ) * 2^(-1074 : ℤ) = units / unitsPerOne := by
  rw [units_per_one_eq, cast_two_to, zpow_neg, div_eq_mul_inv]
  rfl

theorem sign_eq (bits : ℕ) :
    (if bits < 2^63 then 1 else -1 : ℚ) = if decide (2^63 ≤ bits) then -1 else 1 := by
  by_cases h : bits < 2^63
  · rw [if_pos h, decide_eq_false (Nat.not_le_of_lt h)]
    rfl
  · rw [if_neg h, decide_eq_true (Nat.le_of_not_lt h)]
    rfl

theorem value?_of_decode {x : Binary64} {negative : Bool} {units : ℕ}
    (h : x.decode = .finite negative units) :
    x.value? = some ((if negative then -1 else 1) * ((units : ℚ) * 2^(-1074 : ℤ))) := by
  have h11 : twoTo 11 = 2^11 := rfl
  have h52 : twoTo 52 = 2^52 := rfl
  have h63 : twoTo 63 = 2^63 := rfl
  simp only [decode, h11, h52, h63, exponentLimit] at h
  simp only [value?, sign_eq]
  generalize x.bits.toNat / 2^52 % 2^11 = exponent at h ⊢
  generalize x.bits.toNat % 2^52 = fraction at h ⊢
  generalize decide (2^63 ≤ x.bits.toNat) = sign at h ⊢
  by_cases hl : exponent = 2047
  · rw [if_pos hl] at h
    split at h <;> cases h
  rw [if_neg hl] at h ⊢
  by_cases hz : exponent = 0
  · rw [if_pos hz] at h ⊢
    cases h
    rfl
  · rw [if_neg hz] at h ⊢
    cases h
    have he : ((exponent-1 : ℕ) : ℤ) - 1074 = (exponent : ℤ)-1075 := by omega
    rw [Nat.cast_mul, mul_assoc, cast_two_to_mul, he, Nat.cast_add, Nat.cast_pow, Nat.cast_ofNat]

theorem exists_decode_finite {x : Binary64} (h : x.bits.toNat / 2^52 % 2^11 ≠ 2047) :
    ∃ negative units, x.decode = .finite negative units := by
  have h11 : twoTo 11 = 2^11 := rfl
  have h52 : twoTo 52 = 2^52 := rfl
  simp only [decode, h11, h52, exponentLimit, if_neg h]
  split
  · exact ⟨_, _, rfl⟩
  · exact ⟨_, _, rfl⟩

theorem decode_of_exponent_eq {x : Binary64} (h : x.bits.toNat / 2^52 % 2^11 = 2047) :
    x.decode =
      if x.bits.toNat % 2^52 = 0 then .infinite (decide (2^63 ≤ x.bits.toNat)) else .nan := by
  have h11 : twoTo 11 = 2^11 := rfl
  have h52 : twoTo 52 = 2^52 := rfl
  have h63 : twoTo 63 = 2^63 := rfl
  simp only [decode, h11, h52, h63, exponentLimit, if_pos h]

theorem exponent_ne_of_value? {x : Binary64} {value : ℚ} (h : x.value? = some value) :
    x.bits.toNat / 2^52 % 2^11 ≠ 2047 := by
  intro he
  simp only [value?, if_pos he] at h
  cases h

end CgroupLimits.Binary64
