import CgroupLimits.Proofs.Binary64.Order
import CgroupLimits.Proofs.Limit.CpuCount

/-!
# More quota, no fewer CPUs

A larger quota, a shorter period and a higher minimum can only raise the count.
Each of the three roundings before the count keeps the order, and so do the
limit of the count and the minimum. This holds for all 64-bit integers, past
2^53 as well, where neighbouring quotas are rounded to one number.
-/

set_option autoImplicit false

namespace CgroupLimits

namespace Binary64

/-- The quotient of two integers, each rounded before it is divided, in units. -/
def quotientUnits (num den : ℕ) : ℕ := rounded (rounded num 1) (rounded den 1)

theorem to_nat_le_two_to (n : Int64) : n.toInt.toNat ≤ twoTo 63 := by
  have h63 : twoTo 63 = 9223372036854775808 := rfl
  have hn := n.toInt_lt
  omega

theorem of_int_decode {n : Int64} (h : 0 < n.toInt) :
    (ofInt n.toInt).decode = .finite false (rounded n.toInt.toNat 1) ∧
      IsModerate (rounded n.toInt.toNat 1) := by
  have hn : ((n.toInt.toNat : ℕ) : ℤ) = n.toInt := Int.toNat_of_nonneg (Int.le_of_lt h)
  have hd := decode_of_int_of_le (to_nat_le_two_to n)
  rw [hn] at hd
  exact ⟨hd, is_moderate_rounded (by omega) (to_nat_le_two_to n)⟩

theorem decode_cpus_of {quota period : Int64} (hq : 0 < quota.toInt) (hp : 0 < period.toInt) :
    (cpusOf quota period).decode =
        .finite false (quotientUnits quota.toInt.toNat period.toInt.toNat) ∧
      twoTo 1011 ≤ quotientUnits quota.toInt.toNat period.toInt.toNat ∧
      quotientUnits quota.toInt.toNat period.toInt.toNat ≤ twoTo 1137 := by
  obtain ⟨hdq, hmq⟩ := of_int_decode hq
  obtain ⟨hdp, hmp⟩ := of_int_decode hp
  exact ⟨decode_div_of_is_moderate hmq hmp hdq hdp, rounded_bounds hmq hmp⟩

theorem rounded_integer_mono {m n : ℕ} (h : m ≤ n) : rounded m 1 ≤ rounded n 1 :=
  rounded_mono Nat.one_pos Nat.one_pos (Nat.mul_le_mul_right 1 h)

theorem quotient_units_mono {num den num' den' : ℕ} (hn : num ≤ num') (hd : den' ≤ den)
    (h0 : 0 < den') (h : den ≤ twoTo 63) : quotientUnits num den ≤ quotientUnits num' den' := by
  have hp := is_moderate_rounded (Nat.lt_of_lt_of_le h0 hd) h
  have hp' := is_moderate_rounded h0 (Nat.le_trans hd h)
  apply rounded_mono hp.pos hp'.pos
  exact Nat.mul_le_mul (rounded_integer_mono hn) (rounded_integer_mono hd)

end Binary64

namespace Rounding

theorem whole_cpus_mono (rounding : Rounding) {units more : ℕ} (h : units ≤ more) :
    rounding.wholeCpus units ≤ rounding.wholeCpus more := by
  cases rounding with
  | floor => exact Nat.div_le_div_right h
  | ceil => exact Nat.div_le_div_right (Nat.add_le_add_right h _)

theorem whole_cpus_le_ceil (rounding : Rounding) (units : ℕ) :
    rounding.wholeCpus units ≤ wholeCpus .ceil units := by
  cases rounding with
  | floor => exact Nat.div_le_div_right (Nat.le_add_right units _)
  | ceil => exact Nat.le_refl _

end Rounding

theorem procs_from_quota_eq_max (cpus : Binary64) (hostProcs minProcs : UInt64)
    (rounding : Rounding) :
    (procsFromQuota (some cpus) hostProcs minProcs rounding).1.toNat =
      max (rounding.count cpus).toNat minProcs.toNat := by
  rw [procsFromQuota]
  split
  · rename_i h
    rw [UInt64.lt_iff_toNat_lt] at h
    exact (Nat.max_eq_right (Nat.le_of_lt h)).symm
  · rename_i h
    rw [UInt64.lt_iff_toNat_lt] at h
    exact (Nat.max_eq_left (Nat.le_of_not_lt h)).symm

theorem procs_from_quota_le {cpus more : Binary64} {minProcs higher : UInt64}
    {rounding rounding' : Rounding} (hc : rounding.count cpus ≤ rounding'.count more)
    (hm : minProcs ≤ higher) (hostProcs : UInt64) :
    (procsFromQuota (some cpus) hostProcs minProcs rounding).1 ≤
      (procsFromQuota (some more) hostProcs higher rounding').1 := by
  rw [UInt64.le_iff_toNat_le] at hc hm ⊢
  rw [procs_from_quota_eq_max, procs_from_quota_eq_max]
  exact max_le_max hc hm

section Ordered
variable {quota larger period shorter : Int64}

theorem count_mono (hq : 0 < quota.toInt) (hl : quota.toInt ≤ larger.toInt)
    (hs : 0 < shorter.toInt) (hp : shorter.toInt ≤ period.toInt) (rounding : Rounding) :
    rounding.count (cpusOf quota period) ≤ rounding.count (cpusOf larger shorter) := by
  have hd := (Binary64.decode_cpus_of hq (Int.lt_of_lt_of_le hs hp)).1
  have hd' := (Binary64.decode_cpus_of (Int.lt_of_lt_of_le hq hl) hs).1
  rw [UInt64.le_iff_toNat_le, Rounding.to_nat_count hd, Rounding.to_nat_count hd']
  have hu : Binary64.quotientUnits quota.toInt.toNat period.toInt.toNat ≤
      Binary64.quotientUnits larger.toInt.toNat shorter.toInt.toNat :=
    Binary64.quotient_units_mono (Int.toNat_le_toNat hl) (Int.toNat_le_toNat hp) (by omega)
      (Binary64.to_nat_le_two_to period)
  exact min_le_min_right _ (rounding.whole_cpus_mono hu)

theorem count_floor_le_ceil (hq : 0 < quota.toInt) (hp : 0 < period.toInt) :
    Rounding.floor.count (cpusOf quota period) ≤ Rounding.ceil.count (cpusOf quota period) := by
  have hd := (Binary64.decode_cpus_of hq hp).1
  rw [UInt64.le_iff_toNat_le, Rounding.to_nat_count hd, Rounding.to_nat_count hd]
  exact min_le_min_right _ (Rounding.floor.whole_cpus_le_ceil _)

/-- No step up in the quota and no step down in the period lowers the count,
and rounding up does not give less than rounding down. -/
theorem procs_from_quota_ordered (hq : 0 < quota ∧ quota ≤ larger)
    (hp : 0 < shorter ∧ shorter ≤ period) {minProcs higher : UInt64} (hm : minProcs ≤ higher)
    (hostProcs : UInt64) :
    (∀ rounding,
      (procsFromQuota (some ((Binary64.ofInt quota.toInt).div (Binary64.ofInt period.toInt)))
          hostProcs minProcs rounding).1 ≤
        (procsFromQuota (some ((Binary64.ofInt larger.toInt).div (Binary64.ofInt shorter.toInt)))
          hostProcs higher rounding).1) ∧
      (procsFromQuota (some ((Binary64.ofInt quota.toInt).div (Binary64.ofInt period.toInt)))
          hostProcs minProcs .floor).1 ≤
        (procsFromQuota (some ((Binary64.ofInt quota.toInt).div (Binary64.ofInt period.toInt)))
          hostProcs minProcs .ceil).1 := by
  simp only [Int64.lt_iff_toInt_lt, Int64.le_iff_toInt_le, Int64.toInt_zero] at hq hp
  constructor
  · intro rounding
    exact procs_from_quota_le (count_mono hq.1 hq.2 hp.1 hp.2 rounding) hm hostProcs
  · have hc := count_floor_le_ceil hq.1 (Int.lt_of_lt_of_le hp.1 hp.2)
    exact procs_from_quota_le hc (UInt64.le_refl minProcs) hostProcs

end Ordered

theorem procs_from_quota_ordered_past_digits :
    ((0 : Int64) < 9007199254740993 ∧ (9007199254740993 : Int64) ≤ 9007199254740995) ∧
      ((0 : Int64) < 3 ∧ (3 : Int64) ≤ 9223372036854775807) ∧ (0 : UInt64) ≤ 1 ∧
      (∀ rounding,
        (procsFromQuota (some (cpusOf 9007199254740993 9223372036854775807)) 8 0 rounding).1 ≤
          (procsFromQuota (some (cpusOf 9007199254740995 3)) 8 1 rounding).1) ∧
      (procsFromQuota (some (cpusOf 9007199254740993 3)) 8 0 .floor).1 = 3002399751580330 ∧
      (procsFromQuota (some (cpusOf 9007199254740993 3)) 8 0 .ceil).1 = 3002399751580331 ∧
      (procsFromQuota (some (cpusOf 9007199254740995 3)) 8 0 .floor).1 = 3002399751580332 := by
  have hq : (0 : Int64) < 9007199254740993 ∧ (9007199254740993 : Int64) ≤ 9007199254740995 := by
    decide
  have hp : (0 : Int64) < 3 ∧ (3 : Int64) ≤ 9223372036854775807 := by decide
  have hm : (0 : UInt64) ≤ 1 := by decide
  refine ⟨hq, hp, hm, (procs_from_quota_ordered hq hp hm 8).1, ?_, ?_, ?_⟩
  · decide +kernel
  · decide +kernel
  · decide +kernel

end CgroupLimits
