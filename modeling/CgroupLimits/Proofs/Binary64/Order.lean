import CgroupLimits.Proofs.Binary64.Rounding

/-!
# Rounding keeps the order

The nearest integer to a quotient grows with the quotient, and the scale at
which a quotient is rounded grows with it too. A power of two is a bound on
both sides of rounding, as it is kept itself. So integers of 64 bits stay
between one and 2^63 when they are rounded, and their quotients between 2^-63
and 2^63.
-/

set_option autoImplicit false

namespace CgroupLimits.Binary64
open CgroupLimits

theorem excess_mono {m n : Nat} (h : m ≤ n) : excess m ≤ excess n := by
  apply excess_le
  rw [two_to_add]
  exact Nat.lt_of_le_of_lt h (lt_two_to_excess n)

section Nearest
variable {num den : Nat}

theorem nearest_le_iff (h : 0 < den) (k : Nat) :
    nearest num den ≤ k ↔
      2*num < den*(2*k+1) ∨ 2*num = den*(2*k+1) ∧ k % 2 = 0 := by
  have hd := Nat.div_add_mod num den
  have hm := Nat.mod_lt num h
  have hk : den*(2*k+1) = 2*(den*k) + den := by ring
  rw [hk]
  rcases Nat.lt_trichotomy (num / den) k with hl | he | hg
  · have hs := Nat.mul_le_mul_left den (Nat.succ_le_of_lt hl)
    rw [Nat.mul_succ] at hs
    have hn : nearest num den ≤ k := by
      apply nearest_le_of_le num h
      omega
    constructor
    · intro _
      left
      omega
    · intro _
      exact hn
  · rw [nearest, he]
    rw [he] at hd
    split
    · constructor
      · intro _
        left
        omega
      · intro _
        exact Nat.le_refl k
    split
    · omega
    · omega
  · have hs := Nat.mul_le_mul_left den (Nat.succ_le_of_lt hg)
    rw [Nat.mul_succ] at hs
    have hn : k+1 ≤ nearest num den := by
      apply le_nearest_of_le num h
      rw [Nat.mul_succ]
      omega
    omega

theorem nearest_mono {num' den' : Nat} (h : 0 < den) (h' : 0 < den')
    (hle : num*den' ≤ num'*den) : nearest num den ≤ nearest num' den' := by
  rw [nearest_le_iff h]
  have hk := (nearest_le_iff h' _).mp (Nat.le_refl (nearest num' den'))
  generalize nearest num' den' = k at hk ⊢
  have hs : 2*num*den' ≤ 2*num'*den := by
    rw [Nat.mul_assoc, Nat.mul_assoc]
    exact Nat.mul_le_mul_left 2 hle
  have hc : den'*(2*k+1)*den = den*(2*k+1)*den' := by ring
  rcases hk with hl | ⟨he, hk⟩
  · left
    have hm := Nat.mul_lt_mul_of_pos_right hl h
    rw [hc] at hm
    exact Nat.lt_of_mul_lt_mul_right (Nat.lt_of_le_of_lt hs hm)
  · rw [he, hc] at hs
    rcases Nat.lt_or_eq_of_le (Nat.le_of_mul_le_mul_right hs h') with hl | he
    · exact Or.inl hl
    · exact Or.inr ⟨he, hk⟩

end Nearest

section Quotient
variable {num den : Nat}

variable {num' den' : Nat} (h : 0 < den) (h' : 0 < den') (hle : num*den' ≤ num'*den)
include h h' hle

theorem div_le_div_of_cross : num/den ≤ num'/den' := by
  rw [Nat.le_div_iff_mul_le h']
  apply Nat.le_of_mul_le_mul_right _ h
  calc num/den*den'*den = num/den*den*den' := Nat.mul_right_comm _ _ _
    _ ≤ num*den' := Nat.mul_le_mul_right den' (Nat.div_mul_le_self num den)
    _ ≤ num'*den := hle

/-- Rounding a larger quotient gives no smaller number, within one scale and
from each scale to the next. -/
theorem rounded_mono : rounded num den ≤ rounded num' den' := by
  have hu : num*unitsPerOne*den' ≤ num'*unitsPerOne*den := by
    rw [Nat.mul_right_comm, Nat.mul_right_comm num']
    exact Nat.mul_le_mul_right unitsPerOne hle
  have hs := excess_mono (div_le_div_of_cross h h' hu)
  have hl := significand_le (num*unitsPerOne) h
  have hr := excess_eq_zero_or_le_significand (num'*unitsPerOne) h'
  rw [rounded, rounded]
  generalize num*unitsPerOne = total at hu hs hl ⊢
  generalize num'*unitsPerOne = total' at hu hs hr ⊢
  -- On one scale the significands are compared; between two scales lies a power of two.
  rcases Nat.eq_or_lt_of_le hs with he | hlt
  · rw [← he]
    apply Nat.mul_le_mul_right
    apply nearest_mono (Nat.mul_pos h (two_to_pos _)) (Nat.mul_pos h' (two_to_pos _))
    rw [← Nat.mul_assoc, ← Nat.mul_assoc]
    exact Nat.mul_le_mul_right _ hu
  · have hn := hr.resolve_left (by omega)
    calc nearest total (den * twoTo (excess (total/den))) * twoTo (excess (total/den))
        ≤ twoTo 53 * twoTo (excess (total/den)) := Nat.mul_le_mul_right _ hl
      _ = twoTo 52 * twoTo (excess (total/den) + 1) := by
          rw [← two_to_add, ← two_to_add]
          congr 1
          omega
      _ ≤ twoTo 52 * twoTo (excess (total'/den')) := Nat.mul_le_mul_left _ (two_to_le hlt)
      _ ≤ nearest total' (den' * twoTo (excess (total'/den'))) * twoTo (excess (total'/den')) :=
          Nat.mul_le_mul_right _ hn

end Quotient

section PowersOfTwo
variable {num den k : Nat}

theorem rounded_two_to (k : Nat) : rounded (twoTo k) unitsPerOne = twoTo k := by
  apply rounded_eq units_per_one_pos (Nat.mul_comm _ _)
  apply two_to_dvd
  apply excess_le
  exact two_to_lt (by omega)

theorem two_to_le_rounded (h : 0 < den) (hle : twoTo k * den ≤ num*unitsPerOne) :
    twoTo k ≤ rounded num den := by
  have hm := rounded_mono units_per_one_pos h hle
  rwa [rounded_two_to] at hm

theorem rounded_le_two_to (h : 0 < den) (hle : num*unitsPerOne ≤ twoTo k * den) :
    rounded num den ≤ twoTo k := by
  have hm := rounded_mono h units_per_one_pos hle
  rwa [rounded_two_to] at hm

end PowersOfTwo

def IsModerate (units : Nat) : Prop := twoTo 1074 ≤ units ∧ units ≤ twoTo 1137

theorem IsModerate.pos {units : Nat} (h : IsModerate units) : 0 < units :=
  Nat.lt_of_lt_of_le (two_to_pos _) h.1

section Integers
variable {n : Nat}

theorem is_moderate_rounded (h0 : 0 < n) (h : n ≤ twoTo 63) : IsModerate (rounded n 1) := by
  constructor
  · apply two_to_le_rounded Nat.one_pos
    rw [Nat.mul_one, units_per_one_eq]
    exact Nat.le_mul_of_pos_left _ h0
  · apply rounded_le_two_to Nat.one_pos
    rw [Nat.mul_one, units_per_one_eq, show 1137 = 63+1074 from rfl, two_to_add]
    exact Nat.mul_le_mul_right _ h

theorem excess_lt_of_le_two_to {units : Nat} (h : units ≤ twoTo 1137) : excess units < 2045 := by
  have hl : twoTo 1137 < twoTo (53+1085) := two_to_lt (by decide)
  exact Nat.lt_of_le_of_lt (excess_le (Nat.lt_of_le_of_lt h hl)) (by decide)

theorem decode_of_int_of_le (h : n ≤ twoTo 63) :
    (ofInt n).decode = .finite false (rounded n 1) := by
  have hs : decide ((n : ℤ) < 0) = false := by simp
  rw [ofInt, hs, Int.natAbs_natCast]
  apply decode_magnitude_bits false Nat.one_pos
  apply excess_lt_of_le_two_to
  rw [Nat.div_one, units_per_one_eq, show 1137 = 63+1074 from rfl, two_to_add]
  exact Nat.mul_le_mul_right _ h

end Integers

section Quotients
variable {x y : Binary64} {m n : Nat} (hm : IsModerate m) (hn : IsModerate n)
include hm hn

theorem decode_div_of_is_moderate (hx : x.decode = .finite false m)
    (hy : y.decode = .finite false n) : (x.div y).decode = .finite false (rounded m n) := by
  have hz : n ≠ 0 := Nat.ne_of_gt hn.pos
  rw [div, hx, hy]
  simp only [hz, if_false]
  rw [bne_self_eq_false]
  apply decode_magnitude_bits false hn.pos
  apply excess_lt_of_le_two_to
  calc m*unitsPerOne / n ≤ m*n / n := Nat.div_le_div_right (Nat.mul_le_mul_left m hn.1)
    _ = m := Nat.mul_div_cancel m hn.pos
    _ ≤ twoTo 1137 := hm.2

theorem rounded_bounds : twoTo 1011 ≤ rounded m n ∧ rounded m n ≤ twoTo 1137 := by
  constructor
  · apply two_to_le_rounded hn.pos
    calc twoTo 1011 * n ≤ twoTo 1011 * twoTo 1137 := Nat.mul_le_mul_left _ hn.2
      _ = twoTo 1074 * unitsPerOne := by rw [units_per_one_eq, ← two_to_add, ← two_to_add]
      _ ≤ m*unitsPerOne := Nat.mul_le_mul_right _ hm.1
  · apply rounded_le_two_to hn.pos
    exact Nat.mul_le_mul hm.2 hn.1

end Quotients
end CgroupLimits.Binary64
