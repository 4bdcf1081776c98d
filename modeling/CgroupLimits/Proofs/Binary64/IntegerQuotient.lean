import CgroupLimits.Proofs.Binary64.Order

/-!
# Quotients of integers up to 2^53

Such integers are held exactly. Their quotient is not, but it stays on its own
side of every integer: it is at least one part in the denominator away from an
integer that it does not equal, and rounding moves it by less.
-/

set_option autoImplicit false

namespace CgroupLimits.Binary64
open CgroupLimits

theorem two_to_scale : twoTo 53 * unitsPerOne = twoTo 52 * twoTo (1+1074) := by
  rw [units_per_one_eq, two_to_add 1 1074, ← Nat.mul_assoc, ← two_to_add 52 1]

theorem excess_units_le {n : Nat} (h : n ≤ twoTo 53) : excess (n*unitsPerOne) ≤ 1+1074 := by
  apply excess_le
  have hm := Nat.mul_le_mul_right unitsPerOne h
  have hl : twoTo 52 * twoTo (1+1074) < twoTo 53 * twoTo (1+1074) :=
    Nat.mul_lt_mul_of_pos_right (by decide) (two_to_pos _)
  rw [two_to_add]
  rw [two_to_scale] at hm
  exact Nat.lt_of_le_of_lt hm hl

theorem two_to_le_units {n : Nat} (h : 0 < n) : twoTo 105 ≤ n*unitsPerOne := by
  have hm : twoTo 105 ≤ unitsPerOne := by
    rw [units_per_one_eq]
    exact two_to_le (by decide)
  exact Nat.le_trans hm (Nat.le_mul_of_pos_left unitsPerOne h)

theorem excess_dvd {n : Nat} (h : n ≤ twoTo 53) :
    twoTo (excess (n*unitsPerOne)) ∣ n*unitsPerOne := by
  by_cases hn : n = 0
  · rw [hn, Nat.zero_mul]
    exact Nat.dvd_zero _
  have hu : twoTo 52 ≤ n*unitsPerOne :=
    Nat.le_trans (two_to_le (by decide)) (two_to_le_units (Nat.pos_of_ne_zero hn))
  by_cases he : excess (n*unitsPerOne) ≤ 1074
  · exact Nat.dvd_trans (two_to_dvd he) (Nat.dvd_mul_left _ n)
  -- Only 2^53 itself reaches one place further.
  · have hx : excess (n*unitsPerOne) = 1+1074 :=
      Nat.le_antisymm (excess_units_le h) (by omega)
    have hb := two_to_excess_le hu
    rw [hx, ← two_to_scale] at hb
    have hn := Nat.le_antisymm h (Nat.le_of_mul_le_mul_right hb units_per_one_pos)
    rw [hx, hn, two_to_scale]
    exact Nat.dvd_mul_left _ _

theorem le_two_to_of_exact {n : Nat} (h : n ≤ twoTo 53) : n ≤ twoTo 63 :=
  Nat.le_trans h (two_to_le (by decide))

theorem rounded_exact {n : Nat} (h : n ≤ twoTo 53) : rounded n 1 = n*unitsPerOne :=
  rounded_eq Nat.one_pos (Nat.one_mul _).symm (excess_dvd h)

section Quotient
variable {num den : Nat}

theorem decode_div (hq : 0 < num) (hn : num ≤ twoTo 53) (hp : 0 < den) (hd : den ≤ twoTo 53) :
    ((ofInt num).div (ofInt den)).decode = .finite false (rounded num den) := by
  have hn' := le_two_to_of_exact hn
  have hd' := le_two_to_of_exact hd
  rw [decode_div_of_is_moderate (is_moderate_rounded hq hn') (is_moderate_rounded hp hd')
    (decode_of_int_of_le hn') (decode_of_int_of_le hd'), rounded_exact hn, rounded_exact hd,
    rounded_mul_mul num den units_per_one_pos]

theorem rounded_near (hq : 0 < num) (hn : num ≤ twoTo 53) (hp : 0 < den) (hd : den ≤ twoTo 53) :
    rounded num den * den < (num+1)*unitsPerOne ∧
      num*unitsPerOne < rounded num den * den + unitsPerOne := by
  have hv : twoTo 52 ≤ num*unitsPerOne / den := by
    rw [Nat.le_div_iff_mul_le hp]
    have hl := Nat.mul_le_mul_left (twoTo 52) hd
    rw [← two_to_add] at hl
    exact Nat.le_trans hl (two_to_le_units hq)
  have he := rounded_error hp hv
  have hm : (num*unitsPerOne : ℕ) ≤ twoTo 53 * unitsPerOne := Nat.mul_le_mul_right unitsPerOne hn
  rw [Nat.add_mul, Nat.one_mul]
  have h53 : (0 : ℤ) < twoTo 53 := by decide
  generalize rounded num den * den = product at he ⊢
  generalize num*unitsPerOne = exact at he hm ⊢
  generalize unitsPerOne = u at hm ⊢
  have hx : (exact : ℤ) ≤ twoTo 53 * u := by exact_mod_cast hm
  have ha := abs_lt.mp (lt_of_mul_lt_mul_left (lt_of_lt_of_le he hx) (le_of_lt h53))
  omega

theorem rounded_mul (k : Nat) (hn : k*den ≤ twoTo 53) (hp : 0 < den) :
    rounded (k*den) den = k*unitsPerOne := by
  apply rounded_eq hp
  · ring
  · exact excess_dvd (Nat.le_trans (Nat.le_mul_of_pos_right k hp) hn)

variable (hq : 0 < num) (hn : num ≤ twoTo 53) (hp : 0 < den) (hd : den ≤ twoTo 53)
include hq hn hp hd

theorem lt_rounded {k : Nat} (h : k*den < num) : k*unitsPerOne < rounded num den := by
  have hr := (rounded_near hq hn hp hd).2
  have hm := Nat.mul_le_mul_right unitsPerOne (Nat.succ_le_of_lt h)
  rw [Nat.succ_mul] at hm
  have hl : k*den*unitsPerOne < rounded num den * den := by omega
  rw [Nat.mul_right_comm] at hl
  exact Nat.lt_of_mul_lt_mul_right hl

theorem rounded_lt {k : Nat} (h : num < k*den) : rounded num den < k*unitsPerOne := by
  have hr := (rounded_near hq hn hp hd).1
  have hm := Nat.mul_le_mul_right unitsPerOne (Nat.succ_le_of_lt h)
  have hl : rounded num den * den < k*den*unitsPerOne := Nat.lt_of_lt_of_le hr hm
  rw [Nat.mul_right_comm] at hl
  exact Nat.lt_of_mul_lt_mul_right hl

/-- The rounded quotient is on the same side of every integer as the exact one. -/
theorem le_rounded_iff (k : Nat) : k*unitsPerOne ≤ rounded num den ↔ k*den ≤ num := by
  constructor
  · intro h
    by_contra hc
    exact absurd h (Nat.not_le_of_lt (rounded_lt hq hn hp hd (Nat.lt_of_not_le hc)))
  · intro h
    rcases Nat.eq_or_lt_of_le h with he | hl
    · rw [← he, rounded_mul k (he ▸ hn) hp]
    · exact Nat.le_of_lt (lt_rounded hq hn hp hd hl)

theorem rounded_le_iff (k : Nat) : rounded num den ≤ k*unitsPerOne ↔ num ≤ k*den := by
  constructor
  · intro h
    by_contra hc
    exact absurd h (Nat.not_le_of_lt (lt_rounded hq hn hp hd (Nat.lt_of_not_le hc)))
  · intro h
    rcases Nat.eq_or_lt_of_le h with he | hl
    · rw [he, rounded_mul k (he ▸ hn) hp]
    · exact Nat.le_of_lt (rounded_lt hq hn hp hd hl)

end Quotient

end CgroupLimits.Binary64
