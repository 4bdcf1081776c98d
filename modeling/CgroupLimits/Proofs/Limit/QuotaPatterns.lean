import CgroupLimits.Proofs.Limit.UsableQuota

/-!
# Every quota as a bit pattern

A quota may be any pattern of 64 bits. One that stands for a number counts as
the floor or the ceiling of this number, as far as there is room for it; for
the infinities there is room up to the ends, and what is no number counts zero.
Only a count below the minimum gives way to it.
-/

set_option autoImplicit false

namespace CgroupLimits

namespace Rounding
variable {rounding : Rounding} {x : Binary64}

def ofRational (rounding : Rounding) (value : ℚ) : ℤ :=
  match rounding with
  | .floor => ⌊value⌋
  | .ceil => ⌈value⌉

/-- What each pattern counts. With the largest exponent there are two infinities,
and all else is no number. -/
inductive Counts (rounding : Rounding) (x : Binary64) : ℤ → Prop
  | number {value : ℚ} (isValue : x.value? = some value) :
      Counts rounding x (max 0 (min (rounding.ofRational value) (2^64-1)))
  | infinite (bits : x.bits = 0x7FF0000000000000) : Counts rounding x (2^64-1)
  | negativeInfinite (bits : x.bits = 0xFFF0000000000000) : Counts rounding x 0
  | noNumber (exponent : x.bits.toNat / 2^52 % 2^11 = 2047) (fraction : x.bits.toNat % 2^52 ≠ 0) :
      Counts rounding x 0

theorem of_rational_nonpos {value : ℚ} (h : value ≤ 0) (rounding : Rounding) :
    rounding.ofRational value ≤ 0 := by
  cases rounding with
  | floor => exact Int.floor_nonpos h
  | ceil => exact Int.ceil_nonpos.mpr h

theorem of_rational_units (units : ℕ) (rounding : Rounding) :
    rounding.ofRational ((units : ℚ) * 2^(-1074 : ℤ)) = rounding.wholeCpus units := by
  have hn : (0 : ℚ) ≤ (units : ℚ) * 2^(-1074 : ℤ) :=
    mul_nonneg (Nat.cast_nonneg units) (zpow_nonneg (by decide) _)
  cases rounding with
  | floor => rw [whole_cpus_floor_eq, Int.natCast_floor_eq_floor hn, ofRational]
  | ceil => rw [whole_cpus_ceil_eq, Int.natCast_ceil_eq_ceil hn, ofRational]

theorem count_of_finite {negative : Bool} {units : ℕ} (h : x.decode = .finite negative units)
    (rounding : Rounding) :
    ((rounding.count x).toNat : ℤ) =
      max 0 (min (rounding.ofRational
        ((if negative then -1 else 1) * ((units : ℚ) * 2^(-1074 : ℤ)))) (2^64-1)) := by
  cases negative with
  | false =>
    rw [to_nat_count h, if_neg Bool.false_ne_true, one_mul, of_rational_units, largestCount]
    omega
  | true =>
    have hn : (0 : ℚ) ≤ (units : ℚ) * 2^(-1074 : ℤ) :=
      mul_nonneg (Nat.cast_nonneg units) (zpow_nonneg (by decide) _)
    have hv := of_rational_nonpos (Left.neg_nonpos_iff.mpr hn) rounding
    rw [count, h, if_pos rfl, neg_one_mul]
    dsimp only
    rw [UInt64.toNat_zero]
    omega

theorem Counts.eq_count {n : ℤ} (h : Counts rounding x n) : n = (rounding.count x).toNat := by
  cases h with
  | number isValue =>
    obtain ⟨negative, units, hd⟩ :=
      Binary64.exists_decode_finite (Binary64.exponent_ne_of_value? isValue)
    rw [Binary64.value?_of_decode hd] at isValue
    rw [count_of_finite hd, Option.some.inj isValue]
  | infinite bits =>
    have hd : x.decode = .infinite false := by
      rw [Binary64.decode, bits]
      rfl
    rw [count, hd]
    rfl
  | negativeInfinite bits =>
    have hd : x.decode = .infinite true := by
      rw [Binary64.decode, bits]
      rfl
    rw [count, hd]
    rfl
  | noNumber exponent fraction =>
    rw [count, Binary64.decode_of_exponent_eq exponent, if_neg fraction]
    rfl

theorem counts_count (rounding : Rounding) (x : Binary64) :
    Counts rounding x (rounding.count x).toNat := by
  have hx := x.bits.toNat_lt
  obtain ⟨n, h⟩ : ∃ n, Counts rounding x n := by
    by_cases he : x.bits.toNat / 2^52 % 2^11 = 2047
    · by_cases hf : x.bits.toNat % 2^52 = 0
      · by_cases hs : x.bits.toNat < 2^63
        · have bits : x.bits.toNat = (0x7FF0000000000000 : UInt64).toNat := by
            change x.bits.toNat = 9218868437227405312
            omega
          exact ⟨_, .infinite (UInt64.toNat_inj.mp bits)⟩
        · have bits : x.bits.toNat = (0xFFF0000000000000 : UInt64).toNat := by
            change x.bits.toNat = 18442240474082181120
            omega
          exact ⟨_, .negativeInfinite (UInt64.toNat_inj.mp bits)⟩
      · exact ⟨_, .noNumber he hf⟩
    · obtain ⟨negative, units, hd⟩ := Binary64.exists_decode_finite he
      exact ⟨_, .number (Binary64.value?_of_decode hd)⟩
  exact h.eq_count ▸ h

end Rounding

/-- The count of every pattern is that of exact arithmetic. The CPUs of the host
do not matter where there is a quota, and the minimum not where there is none. -/
theorem procs_from_quota_of_pattern (rounding : Rounding) :
    (∀ x : Binary64, ∃ count : UInt64, (∀ n : ℤ, rounding.Counts x n ↔ n = count.toNat) ∧
      ∀ hostProcs minProcs : UInt64,
        procsFromQuota (some x) hostProcs minProcs rounding =
          (if minProcs ≤ count then (count, .used) else (minProcs, .minimumUsed)) ∧
        minProcs ≤ (procsFromQuota (some x) hostProcs minProcs rounding).1) ∧
    ∀ hostProcs minProcs : UInt64,
      procsFromQuota none hostProcs minProcs rounding = (hostProcs, .undefined) := by
  constructor
  · intro x
    refine ⟨rounding.count x, ?_, ?_⟩
    · intro n
      constructor
      · exact Rounding.Counts.eq_count
      · rintro rfl
        exact rounding.counts_count x
    · intro hostProcs minProcs
      constructor
      · exact procs_from_quota_some x hostProcs minProcs rounding
      · rw [UInt64.le_iff_toNat_le, procs_from_quota_eq_max]
        exact Nat.le_max_right _ _
  · intro hostProcs minProcs
    rfl

example : procsFromQuota (some ⟨0x3FFFFFFFFFFFFFFF⟩) 8 1 .floor = (1, .used) ∧
    procsFromQuota (some ⟨0x3FFFFFFFFFFFFFFF⟩) 8 1 .ceil = (2, .used) ∧
    procsFromQuota (some ⟨0xFFF0000000000001⟩) 8 1 .ceil = (1, .minimumUsed) := by
  decide +kernel

end CgroupLimits
