import CgroupLimits.Binary64
import Mathlib.Tactic.Linarith
import Mathlib.Tactic.Ring

/-!
# Rounding to binary64

The bits of a rounded quotient are read back as a significand times a power of
two, the significand being the nearest integer at that scale. So a quotient
that fits is kept exactly, and any other one is moved by less than one part in
2^53.
-/

set_option autoImplicit false

namespace CgroupLimits.Binary64
open CgroupLimits

theorem two_to_pos (n : Nat) : 0 < twoTo n := Nat.two_pow_pos n

theorem two_to_add (m n : Nat) : twoTo (m+n) = twoTo m * twoTo n := Nat.pow_add 2 m n

theorem two_to_dvd {m n : Nat} (h : m ≤ n) : twoTo m ∣ twoTo n := Nat.pow_dvd_pow 2 h

theorem two_to_le {m n : Nat} (h : m ≤ n) : twoTo m ≤ twoTo n := Nat.pow_le_pow_right (by decide) h

theorem two_to_lt {m n : Nat} (h : m < n) : twoTo m < twoTo n :=
  Nat.pow_lt_pow_right (by decide) h

theorem units_per_one_eq : unitsPerOne = twoTo 1074 := rfl

theorem units_per_one_pos : 0 < unitsPerOne := two_to_pos 1074

theorem nearest_cases (num den : Nat) :
    nearest num den = num / den ∧ 2 * (num % den) ≤ den ∨
      nearest num den = num / den + 1 ∧ den ≤ 2 * (num % den) := by
  have hp := Nat.mod_two_eq_zero_or_one (num / den)
  rw [nearest]
  split
  · exact Or.inl ⟨rfl, by omega⟩
  · split
    · exact Or.inr ⟨rfl, by omega⟩
    -- Halfway, the parity decides.
    · rcases hp with hp | hp <;> rw [hp]
      · exact Or.inl ⟨rfl, by omega⟩
      · exact Or.inr ⟨rfl, by omega⟩

theorem nearest_le (num den : Nat) : 2 * (den * nearest num den) ≤ 2*num + den := by
  have hd := Nat.div_add_mod num den
  rcases nearest_cases num den with ⟨he, hr⟩ | ⟨he, hr⟩
  · rw [he]
    omega
  · rw [he, Nat.mul_add]
    omega

section Nearest
variable (num : Nat) {den : Nat}

theorem le_nearest (h : 0 < den) : 2*num ≤ 2 * (den * nearest num den) + den := by
  have hd := Nat.div_add_mod num den
  have hl := Nat.mod_lt num h
  rcases nearest_cases num den with ⟨he, hr⟩ | ⟨he, hr⟩
  · rw [he]
    omega
  · rw [he, Nat.mul_add]
    omega

theorem nearest_le_of_le {k : Nat} (hd : 0 < den) (h : num ≤ den*k) : nearest num den ≤ k := by
  have hn := nearest_le num den
  by_contra hc
  have hm := Nat.mul_le_mul_left den (Nat.lt_of_not_le hc)
  rw [Nat.mul_succ] at hm
  omega

theorem le_nearest_of_le {k : Nat} (hd : 0 < den) (h : den*k ≤ num) : k ≤ nearest num den := by
  have hn := le_nearest num hd
  by_contra hc
  have hm := Nat.mul_le_mul_left den (Nat.lt_of_not_le hc)
  rw [Nat.mul_succ] at hm
  omega

theorem nearest_mul (h : 0 < den) : nearest (den*num) den = num := by
  rw [nearest, Nat.mul_mod_right, if_pos (by omega), Nat.mul_div_cancel_left num h]

theorem nearest_mul_mul (den : Nat) {c : Nat} (h : 0 < c) :
    nearest (num*c) (den*c) = nearest num den := by
  have hl : 2*(num % den * c) < den*c ↔ 2*(num % den) < den := by
    rw [← Nat.mul_assoc, Nat.mul_lt_mul_right h]
  have hg : den*c < 2*(num % den * c) ↔ den < 2*(num % den) := by
    rw [← Nat.mul_assoc, Nat.mul_lt_mul_right h]
  simp only [nearest, Nat.mul_mod_mul_right, Nat.mul_div_mul_right _ _ h, hl, hg]

end Nearest

theorem lt_two_to_excess (units : Nat) : units < twoTo 53 * twoTo (excess units) := by
  have hl := Nat.lt_log2_self (n := units)
  have hp : 2 ^ (units.log2+1) ≤ 2 ^ (53+excess units) := by
    apply Nat.pow_le_pow_right (by decide)
    rw [excess]
    omega
  rw [← two_to_add]
  exact Nat.lt_of_lt_of_le hl hp

theorem two_to_excess_le {units : Nat} (h : twoTo 52 ≤ units) :
    twoTo 52 * twoTo (excess units) ≤ units := by
  have hn : units ≠ 0 := Nat.pos_iff_ne_zero.mp (Nat.lt_of_lt_of_le (two_to_pos 52) h)
  have hl := (Nat.le_log2 hn).mpr h
  have he : 52+excess units = units.log2 := by
    rw [excess]
    omega
  rw [← two_to_add, he]
  exact Nat.log2_self_le hn

theorem excess_le {units k : Nat} (h : units < twoTo (53+k)) : excess units ≤ k := by
  by_cases hn : units = 0
  · subst units
    exact Nat.zero_le k
  · have hl := (Nat.log2_lt hn).mpr h
    rw [excess]
    omega

/-- The magnitude nearest to a quotient, in units. -/
def rounded (num den : Nat) : Nat :=
  let shift := excess (num*unitsPerOne / den)
  nearest (num*unitsPerOne) (den * twoTo shift) * twoTo shift

theorem decode_with_sign (negative : Bool) {magnitude : Nat}
    (h : magnitude < exponentLimit * twoTo 52) :
    (withSign negative magnitude).decode =
      if magnitude / twoTo 52 = 0 then .finite negative (magnitude % twoTo 52)
      else .finite negative ((twoTo 52+magnitude % twoTo 52) * twoTo (magnitude / twoTo 52-1)) := by
  have h52 : twoTo 52 = 4503599627370496 := rfl
  have h63 : twoTo 63 = 9223372036854775808 := rfl
  have h11 : twoTo 11 = 2048 := rfl
  rw [exponentLimit, h52] at h
  have hb : (withSign negative magnitude).bits.toNat =
      (if negative then 9223372036854775808 else 0) + magnitude := by
    rw [withSign, UInt64.toNat_ofNat', h63, Nat.mod_eq_of_lt]
    split <;> omega
  have hs : decide (9223372036854775808 ≤
      (if negative then 9223372036854775808 else 0) + magnitude) = negative := by
    cases negative <;> simp
    omega
  have he : ((if negative then 9223372036854775808 else 0) + magnitude) / 4503599627370496 % 2048 =
      magnitude / 4503599627370496 := by
    split <;> omega
  have hf : ((if negative then 9223372036854775808 else 0) + magnitude) % 4503599627370496 =
      magnitude % 4503599627370496 := by
    split <;> omega
  have hl : magnitude / 4503599627370496 ≠ exponentLimit := by
    rw [exponentLimit]
    omega
  simp only [decode, hb, h52, h63, h11, hs, he, hf, if_neg hl]

theorem decode_significand (negative : Bool) {significand shift : Nat}
    (hs : significand ≤ twoTo 53) (hl : shift = 0 ∨ twoTo 52 ≤ significand) (hf : shift < 2045) :
    (withSign negative (shift * twoTo 52 + significand)).decode =
      .finite negative (significand * twoTo shift) := by
  have h52 : twoTo 52 = 4503599627370496 := rfl
  have h53 : twoTo 53 = 9007199254740992 := rfl
  rw [h53] at hs
  rw [h52] at hl
  rw [decode_with_sign negative (by rw [exponentLimit, h52]; omega), h52]
  by_cases hc : significand = 9007199254740992
  -- Rounding carried the significand to the next power of two.
  · have hq : (shift * 4503599627370496 + significand) / 4503599627370496 = shift+2 := by omega
    have hr : (shift * 4503599627370496 + significand) % 4503599627370496 = 0 := by omega
    have ht : twoTo (shift+1) = twoTo shift * 2 := two_to_add shift 1
    rw [hq, hr, if_neg (by omega), show shift+2-1 = shift+1 by omega, ht, hc]
    congr 1
    ring
  by_cases hn : significand < 4503599627370496
  · have hz : shift = 0 := by omega
    subst shift
    rw [Nat.zero_mul, Nat.zero_add, if_pos (Nat.div_eq_of_lt hn), Nat.mod_eq_of_lt hn]
    exact congrArg _ (Nat.mul_one significand).symm
  · have hq : (shift * 4503599627370496 + significand) / 4503599627370496 = shift+1 := by omega
    have hr : 4503599627370496 +
        (shift * 4503599627370496 + significand) % 4503599627370496 = significand := by omega
    rw [hq, hr, if_neg (by omega), Nat.add_sub_cancel]

section Quotient
variable {num den : Nat}

theorem lt_mul_step (num : Nat) (h : 0 < den) :
    num < den * twoTo (excess (num/den)) * twoTo 53 := by
  have hv := (Nat.div_lt_iff_lt_mul h).mp (lt_two_to_excess (num/den))
  rwa [Nat.mul_comm, Nat.mul_comm (twoTo 53), ← Nat.mul_assoc] at hv

theorem mul_step_le (h : twoTo 52 ≤ num/den) :
    den * twoTo (excess (num/den)) * twoTo 52 ≤ num := by
  have hv := Nat.mul_le_mul_left den (two_to_excess_le h)
  rw [Nat.mul_comm (twoTo 52), ← Nat.mul_assoc] at hv
  exact Nat.le_trans hv (Nat.mul_div_le num den)

theorem significand_le (num : Nat) (h : 0 < den) :
    nearest num (den * twoTo (excess (num/den))) ≤ twoTo 53 := by
  have hp : 0 < den * twoTo (excess (num/den)) := Nat.mul_pos h (two_to_pos _)
  exact nearest_le_of_le _ hp (Nat.le_of_lt (lt_mul_step num h))

theorem excess_eq_zero_or_le_significand (num : Nat) (h : 0 < den) :
    excess (num/den) = 0 ∨ twoTo 52 ≤ nearest num (den * twoTo (excess (num/den))) := by
  have hp : 0 < den * twoTo (excess (num/den)) := Nat.mul_pos h (two_to_pos _)
  by_cases hv : twoTo 52 ≤ num/den
  · exact Or.inr (le_nearest_of_le _ hp (mul_step_le hv))
  · have h53 := Nat.lt_of_lt_of_le (Nat.lt_of_not_le hv) (two_to_le (by decide : 52 ≤ 53+0))
    exact Or.inl (Nat.le_zero.mp (excess_le h53))

/-- The rounded quotient, written as bits and read again. -/
theorem decode_magnitude_bits (negative : Bool) (h : 0 < den)
    (hf : excess (num*unitsPerOne / den) < 2045) :
    (withSign negative (magnitudeBits num den)).decode = .finite negative (rounded num den) := by
  have hs := significand_le (num*unitsPerOne) h
  have hl := excess_eq_zero_or_le_significand (num*unitsPerOne) h
  have hd := decode_significand negative hs hl hf
  have h52 : twoTo 52 = 4503599627370496 := rfl
  have h53 : twoTo 53 = 9007199254740992 := rfl
  rw [magnitudeBits, Nat.min_eq_left]
  · exact hd
  · rw [h53] at hs
    rw [exponentLimit, h52]
    omega

theorem rounded_eq {units : Nat} (h : 0 < den) (hm : num*unitsPerOne = den*units)
    (hd : twoTo (excess units) ∣ units) : rounded num den = units := by
  obtain ⟨significand, hs⟩ := hd
  have hv : num*unitsPerOne / den = units := by
    rw [hm, Nat.mul_div_cancel_left _ h]
  have hq : num*unitsPerOne = den * twoTo (excess units) * significand := by
    rw [hm, Nat.mul_assoc, ← hs]
  rw [rounded, hv, hq, nearest_mul _ (Nat.mul_pos h (two_to_pos _)), Nat.mul_comm, ← hs]

/-- Rounding moves a quotient by less than one part in 2^53. -/
theorem rounded_error (h : 0 < den) (hv : twoTo 52 ≤ num*unitsPerOne / den) :
    (twoTo 53 : ℤ) * |((rounded num den * den : ℕ) : ℤ) - (num*unitsPerOne : ℕ)| <
      (num*unitsPerOne : ℕ) := by
  have hp : 0 < den * twoTo (excess (num*unitsPerOne / den)) := Nat.mul_pos h (two_to_pos _)
  have hs := mul_step_le hv
  have hr : rounded num den * den = den * twoTo (excess (num*unitsPerOne / den)) *
      nearest (num*unitsPerOne) (den * twoTo (excess (num*unitsPerOne / den))) := by
    rw [rounded]
    ring
  rw [hr]
  generalize den * twoTo (excess (num*unitsPerOne / den)) = step at hp hs ⊢
  generalize num*unitsPerOne = total at hs ⊢
  by_cases he : step * twoTo 52 = total
  -- At a power of two the step below is smaller, but there nothing is moved.
  · rw [← he, nearest_mul _ hp, sub_self, abs_zero, mul_zero]
    exact_mod_cast Nat.mul_pos hp (two_to_pos 52)
  · have hu := nearest_le total step
    have hl := le_nearest total hp
    generalize step * nearest total step = product at hu hl ⊢
    have ha : 2 * |(product : ℤ) - total| ≤ step := by
      rcases abs_cases ((product : ℤ) - total) with ⟨hc, -⟩ | ⟨hc, -⟩ <;> rw [hc] <;> omega
    have ht : (step : ℤ) * twoTo 52 < total := by
      exact_mod_cast Nat.lt_of_le_of_ne hs he
    calc (twoTo 53 : ℤ) * |(product : ℤ) - total|
        = twoTo 52 * (2 * |(product : ℤ) - total|) := by
          rw [← mul_assoc]
          rfl
      _ ≤ twoTo 52 * step := mul_le_mul_of_nonneg_left ha (Int.natCast_nonneg _)
      _ < total := by rwa [mul_comm]

theorem rounded_mul_mul (num den : Nat) {c : Nat} (h : 0 < c) :
    rounded (num*c) (den*c) = rounded num den := by
  rw [rounded, rounded, Nat.mul_right_comm num, Nat.mul_div_mul_right _ _ h,
    Nat.mul_right_comm den, nearest_mul_mul _ _ h]

end Quotient

end CgroupLimits.Binary64
