import CgroupLimits.Proofs.Binary64.Value
import CgroupLimits.Proofs.Limit.CountOrder
import CgroupLimits.Proofs.Limit.CpuMaxFile
import CgroupLimits.Proofs.Limit.QuotaBranches
import CgroupLimits.Proofs.Stages
import Mathlib.Algebra.Order.Floor.Semifield

/-!
# A reported quota is a usable number

Whichever file a quota comes from, a reported one is the quotient of two
positive integers. So it is finite and above zero, and its whole number of CPUs
is a count.
-/

set_option autoImplicit false

namespace CgroupLimits

namespace CpuMax

theorem Limited.positive_both {fields : List Text} {quota period : Int64}
    (h : Limited fields quota period) : 0 < quota.toInt ∧ 0 < period.toInt := by
  cases h with
  | pair denotesQuota positive denotesPeriod positivePeriod => exact ⟨positive, positivePeriod⟩
  | single denotesQuota positive => exact ⟨positive, by decide⟩

end CpuMax

namespace Groups
variable {files : Files} {cpus : Binary64}

theorem exists_cpus_of_v1 {directories : Directories}
    (h : (Groups.v1 directories).cpuQuota files = .ok (some cpus)) :
    ∃ quota period : Int64, 0 < quota.toInt ∧ 0 < period.toInt ∧ cpus = cpusOf quota period := by
  obtain ⟨read, result, branch⟩ := QuotaBranch.exists_branch files directories
  rw [branch.cpu_quota_eq] at h
  subst result
  cases branch with
  | limited found reads positive readsPeriod positivePeriod =>
    exact ⟨_, _, positive, positivePeriod, rfl⟩

theorem exists_cpus_of_v2 {directory : Text}
    (h : (Groups.v2 directory).cpuQuota files = .ok (some cpus)) :
    ∃ quota period : Int64, 0 < quota.toInt ∧ 0 < period.toInt ∧ cpus = cpusOf quota period := by
  have hv : ControlFile.cpuQuotaV2 files directory = .ok (some cpus) := h
  obtain ⟨line, -, hl⟩ := bind_eq_ok.mp hv
  cases hm : ControlFile.cpuMaxOf? line with
  | none => simp [hm] at hl
  | some result =>
    simp only [hm, pure, Except.pure, Except.ok.injEq] at hl
    rcases ControlFile.cpu_max_of?_cases rfl hm with ⟨-, rfl⟩ | ⟨quota, period, stated, rfl⟩
    · cases hl
    · obtain ⟨hq, hp⟩ := stated.positive_both
      exact ⟨quota, period, hq, hp, (Option.some.inj hl).symm⟩

theorem exists_cpus_of {groups : Groups} (h : groups.cpuQuota files = .ok (some cpus)) :
    ∃ quota period : Int64, 0 < quota.toInt ∧ 0 < period.toInt ∧ cpus = cpusOf quota period := by
  cases groups with
  | v1 directories => exact exists_cpus_of_v1 h
  | v2 directory => exact exists_cpus_of_v2 h

end Groups

namespace Rounding

theorem whole_cpus_floor_eq (units : ℕ) :
    wholeCpus .floor units = ⌊(units : ℚ) * 2^(-1074 : ℤ)⌋₊ := by
  rw [Binary64.mul_unit_eq_div]
  exact (Nat.floor_div_eq_div units Binary64.unitsPerOne).symm

theorem whole_cpus_ceil_eq (units : ℕ) :
    wholeCpus .ceil units = ⌈(units : ℚ) * 2^(-1074 : ℤ)⌉₊ := by
  have hu : (0 : ℚ) < Binary64.unitsPerOne := by exact_mod_cast Binary64.units_per_one_pos
  rw [Binary64.mul_unit_eq_div]
  apply eq_of_forall_ge_iff
  intro k
  rw [whole_cpus_ceil_le_iff, Nat.ceil_le, div_le_iff₀ hu]
  exact_mod_cast Iff.rfl

end Rounding

theorem to_nat_procs_from_quota_of_room {cpus : Binary64} {units : ℕ}
    (hd : cpus.decode = .finite false units)
    (room : Rounding.wholeCpus .ceil units ≤ Rounding.largestCount) (hostProcs : UInt64)
    (rounding : Rounding) :
    (procsFromQuota (some cpus) hostProcs 0 rounding).1.toNat = rounding.wholeCpus units := by
  have hl := (rounding.whole_cpus_le_ceil units).trans room
  rw [procs_from_quota_eq_max, Rounding.to_nat_count hd, Nat.min_eq_left hl]
  exact Nat.max_zero _

section Positive
variable {quota period : Int64} (hq : 0 < quota.toInt) (hp : 0 < period.toInt)
include hq hp

theorem exists_value_cpus_of :
    ∃ units, (cpusOf quota period).decode = .finite false units ∧
      (cpusOf quota period).value? = some ((units : ℚ) * 2^(-1074 : ℤ)) ∧
      2^(-63 : ℤ) ≤ (units : ℚ) * 2^(-1074 : ℤ) ∧ (units : ℚ) * 2^(-1074 : ℤ) ≤ 2^(63 : ℤ) := by
  obtain ⟨hd, hl, hu⟩ := Binary64.decode_cpus_of hq hp
  generalize Binary64.quotientUnits quota.toInt.toNat period.toInt.toNat = units at hd hl hu
  have h0 : (0 : ℚ) ≤ 2^(-1074 : ℤ) := zpow_nonneg (by decide) _
  refine ⟨units, hd, ?_, ?_, ?_⟩
  · rw [Binary64.value?_of_decode hd]
    simp
  · calc (2 : ℚ)^(-63 : ℤ) = (Binary64.twoTo 1011 : ℚ) * 2^(-1074 : ℤ) :=
          (Binary64.cast_two_to_mul 1011).symm
      _ ≤ (units : ℚ) * 2^(-1074 : ℤ) := mul_le_mul_of_nonneg_right (by exact_mod_cast hl) h0
  · calc (units : ℚ) * 2^(-1074 : ℤ) ≤ (Binary64.twoTo 1137 : ℚ) * 2^(-1074 : ℤ) :=
          mul_le_mul_of_nonneg_right (by exact_mod_cast hu) h0
      _ = 2^(63 : ℤ) := Binary64.cast_two_to_mul 1137

end Positive

namespace Groups

/-- Whatever the files hold, what is reported is a finite number above zero, and
its count is the whole number of CPUs itself, as there is room for all of them. -/
theorem cpu_quota_usable {files : Files} {groups : Groups} {cpus : Binary64}
    (h : groups.cpuQuota files = .ok (some cpus)) (hostProcs : UInt64) :
    ∃ value : ℚ, cpus.value? = some value ∧ 2^(-63 : ℤ) ≤ value ∧ value ≤ 2^(63 : ℤ) ∧
      (procsFromQuota (some cpus) hostProcs 0 .floor).1.toNat = ⌊value⌋₊ ∧
      (procsFromQuota (some cpus) hostProcs 0 .ceil).1.toNat = ⌈value⌉₊ ∧
      1 ≤ (procsFromQuota (some cpus) hostProcs 0 .ceil).1.toNat ∧
      (procsFromQuota (some cpus) hostProcs 0 .ceil).1.toNat ≤
        (procsFromQuota (some cpus) hostProcs 0 .floor).1.toNat + 1 := by
  obtain ⟨quota, period, hq, hp, rfl⟩ := exists_cpus_of h
  obtain ⟨units, hd, hv, hl, hu⟩ := exists_value_cpus_of hq hp
  have room : Rounding.wholeCpus .ceil units ≤ Rounding.largestCount := by
    rw [Rounding.whole_cpus_ceil_eq, Nat.ceil_le]
    exact hu.trans (by norm_num [Rounding.largestCount])
  have count := to_nat_procs_from_quota_of_room hd room hostProcs
  have positive : (0 : ℚ) < (units : ℚ) * 2^(-1074 : ℤ) := (zpow_pos two_pos (-63)).trans_le hl
  refine ⟨_, hv, hl, hu, ?_⟩
  rw [count, count, Rounding.whole_cpus_floor_eq, Rounding.whole_cpus_ceil_eq]
  exact ⟨rfl, rfl, Nat.ceil_pos.mpr positive, Nat.ceil_le_floor_add_one _⟩

theorem cpu_quota_usable_ends :
    (Groups.v2 "/unified".toList).cpuQuota (cpuMaxFiles "1 9223372036854775807\n".toList) =
        .ok (some (cpusOf 1 9223372036854775807)) ∧
      (∃ value : ℚ, (cpusOf 1 9223372036854775807).value? = some value ∧
        2^(-63 : ℤ) ≤ value ∧ ⌊value⌋₊ = 0 ∧ ⌈value⌉₊ = 1) ∧
      (Groups.v1 statedDirectories).cpuQuota
          (statedFiles "9223372036854775807".toList (some "1\n".toList) []) =
        .ok (some (cpusOf 9223372036854775807 1)) ∧
      ∃ value : ℚ, (cpusOf 9223372036854775807 1).value? = some value ∧
        value ≤ 2^(63 : ℤ) ∧ ⌊value⌋₊ = 9223372036854775808 := by
  have least : (Groups.v2 "/unified".toList).cpuQuota
      (cpuMaxFiles "1 9223372036854775807\n".toList) =
        .ok (some (cpusOf 1 9223372036854775807)) := by decide +kernel
  have largest : (Groups.v1 statedDirectories).cpuQuota
      (statedFiles "9223372036854775807".toList (some "1\n".toList) []) =
        .ok (some (cpusOf 9223372036854775807 1)) := by decide +kernel
  obtain ⟨value, isValue, lower, -, floor, ceil, -, -⟩ := cpu_quota_usable least 8
  obtain ⟨value', isValue', -, upper, floor', -, -, -⟩ := cpu_quota_usable largest 8
  refine ⟨least, ⟨value, isValue, lower, ?_, ?_⟩, largest, value', isValue', upper, ?_⟩
  · rw [← floor]
    decide +kernel
  · rw [← ceil]
    decide +kernel
  · rw [← floor']
    decide +kernel

end Groups
end CgroupLimits
