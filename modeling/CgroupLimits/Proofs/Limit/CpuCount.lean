import CgroupLimits.Limit.Effective
import CgroupLimits.Limit.Quota
import CgroupLimits.Proofs.Binary64.IntegerQuotient
import CgroupLimits.Proofs.Limit.QuotaFiles
import Mathlib.Data.Rat.Floor

/-!
# The CPU count of a quota

A quota and its period are rounded to binary64, divided and rounded again, and
then rounded to a whole number of CPUs. For numbers up to 2^53 the count is
nevertheless that of the exact quotient, in both versions.
-/

set_option autoImplicit false

namespace CgroupLimits

namespace Rounding
variable {quota period : ℕ}

def ofQuotient (rounding : Rounding) (quota period : ℕ) : ℕ :=
  match rounding with
  | .floor => quota / period
  | .ceil => ⌈(quota : ℚ) / period⌉₊

theorem le_whole_cpus_floor_iff (units k : ℕ) :
    k ≤ wholeCpus .floor units ↔ k * Binary64.unitsPerOne ≤ units :=
  Nat.le_div_iff_mul_le Binary64.units_per_one_pos

theorem whole_cpus_ceil_le_iff (units k : ℕ) :
    wholeCpus .ceil units ≤ k ↔ units ≤ k * Binary64.unitsPerOne := by
  have hu := Binary64.units_per_one_pos
  rw [wholeCpus]
  generalize Binary64.unitsPerOne = u at hu ⊢
  rw [Nat.div_le_iff_le_mul_add_pred hu, Nat.mul_comm u k]
  omega

theorem of_quotient_ceil_le_iff (hp : 0 < period) (k : ℕ) :
    ofQuotient .ceil quota period ≤ k ↔ quota ≤ k*period := by
  have hp' : (0 : ℚ) < period := by exact_mod_cast hp
  rw [ofQuotient, Nat.ceil_le, div_le_iff₀ hp']
  exact_mod_cast Iff.rfl

/-- Rounding twice gives what rounding the exact quotient once gives. -/
theorem whole_cpus_rounded (hq : 0 < quota) (hn : quota ≤ Binary64.twoTo 53) (hp : 0 < period)
    (hd : period ≤ Binary64.twoTo 53) (rounding : Rounding) :
    rounding.wholeCpus (Binary64.rounded quota period) = rounding.ofQuotient quota period := by
  cases rounding with
  | floor =>
    apply eq_of_forall_le_iff
    intro k
    rw [le_whole_cpus_floor_iff, Binary64.le_rounded_iff hq hn hp hd]
    exact (Nat.le_div_iff_mul_le hp).symm
  | ceil =>
    apply eq_of_forall_ge_iff
    intro k
    rw [whole_cpus_ceil_le_iff, Binary64.rounded_le_iff hq hn hp hd, of_quotient_ceil_le_iff hp]

theorem of_quotient_le (hp : 0 < period) (rounding : Rounding) :
    rounding.ofQuotient quota period ≤ quota := by
  cases rounding with
  | floor => exact Nat.div_le_self quota period
  | ceil => exact (of_quotient_ceil_le_iff hp quota).mpr (Nat.le_mul_of_pos_right quota hp)

theorem to_nat_count {x : Binary64} {units : ℕ} (h : x.decode = .finite false units)
    (rounding : Rounding) :
    (rounding.count x).toNat = min (rounding.wholeCpus units) largestCount := by
  rw [count, h]
  dsimp only
  rw [UInt64.toNat_ofNat', Nat.mod_eq_of_lt]
  exact Nat.lt_of_le_of_lt (Nat.min_le_right _ _) (by decide)

theorem to_nat_count_cpus_of {q p : Int64} (hq : q.toInt = quota) (hp : p.toInt = period)
    (hq0 : 0 < quota) (hn : quota ≤ Binary64.twoTo 53) (hp0 : 0 < period)
    (hd : period ≤ Binary64.twoTo 53) (rounding : Rounding) :
    (rounding.count (cpusOf q p)).toNat = rounding.ofQuotient quota period := by
  have h53 : Binary64.twoTo 53 = 9007199254740992 := rfl
  have hl : rounding.ofQuotient quota period ≤ quota := of_quotient_le hp0 rounding
  have hd' : (cpusOf q p).decode = .finite false (Binary64.rounded quota period) := by
    rw [cpusOf, hq, hp]
    exact Binary64.decode_div hq0 hn hp0 hd
  rw [to_nat_count hd', whole_cpus_rounded hq0 hn hp0 hd, largestCount, Nat.min_eq_left (by omega)]

end Rounding

theorem procs_from_quota_some (cpus : Binary64) (hostProcs minProcs : UInt64)
    (rounding : Rounding) :
    procsFromQuota (some cpus) hostProcs minProcs rounding =
      if minProcs ≤ rounding.count cpus then (rounding.count cpus, .used)
      else (minProcs, .minimumUsed) := by
  by_cases hm : minProcs ≤ rounding.count cpus
  · simp only [procsFromQuota, if_pos hm, if_neg (UInt64.not_lt.mpr hm)]
  · simp only [procsFromQuota, if_neg hm, if_pos (UInt64.not_le.mp hm)]

namespace Groups

inductive States (files : Files) (quota period : ℕ) : Groups → Prop
  | v1 {directories : Directories} {directory : Text}
      (found : directories.find? "cpu".toList = some directory)
      (quotaFile : ControlFile.Says files directory "cpu.cfs_quota_us".toList
        (Numeral.ofNat quota))
      (periodFile : ControlFile.Says files directory "cpu.cfs_period_us".toList
        (Numeral.ofNat period)) :
      States files quota period (.v1 directories)
  | v2 {directory : Text}
      (maxFile : ControlFile.Says files directory "cpu.max".toList
        (Numeral.ofNat quota ++ ' ' :: Numeral.ofNat period)) :
      States files quota period (.v2 directory)

theorem exists_int64 {n : ℕ} (h : n ≤ 2^53) :
    ∃ m : Int64, m.toInt = n ∧ Numeral.ofInt m.toInt = Numeral.ofNat n := by
  have hm : (Int64.ofNat n).toInt = n := Int64.toInt_ofNat_of_lt (by omega)
  refine ⟨Int64.ofNat n, hm, ?_⟩
  rw [hm]
  exact Numeral.of_int_nat_cast n

theorem cpu_quota_of_states {files : Files} {quota period : ℕ} {groups : Groups}
    (hq : 0 < quota ∧ quota ≤ 2^53) (hp : 0 < period ∧ period ≤ 2^53)
    (h : States files quota period groups) :
    ∃ q p : Int64, q.toInt = quota ∧ p.toInt = period ∧
      groups.cpuQuota files = .ok (some (cpusOf q p)) := by
  obtain ⟨q, hqi, hqt⟩ := exists_int64 hq.2
  obtain ⟨p, hpi, hpt⟩ := exists_int64 hp.2
  have hq0 : 0 < q.toInt := by omega
  have hp0 : 0 < p.toInt := by omega
  refine ⟨q, p, hqi, hpi, ?_⟩
  have hqd := Numeral.denotes_of_int q.toInt
  have hpd := Numeral.denotes_of_int p.toInt
  rw [hqt] at hqd
  rw [hpt] at hpd
  cases h with
  | v1 found hs ht =>
    rw [cpu_quota_of_found found, ControlFile.cpu_quota_v1_limited hs hqd ht hpd hq0,
      if_neg (Int.not_le.mpr hp0)]
  | v2 hs =>
    have hg : Text.IsGap [' '] := by decide
    exact (ControlFile.cpu_quota_v2_limited hs hqd hg hpd hq0).trans (if_neg (Int.not_le.mpr hp0))

/-- The count of a process with a quota is that of the exact quotient. -/
theorem procs_from_quota_exact {files : Files} {quota period : ℕ} {groups : Groups}
    (hq : 0 < quota ∧ quota ≤ 2^53) (hp : 0 < period ∧ period ≤ 2^53)
    (h : States files quota period groups) (hostProcs minProcs : UInt64) (rounding : Rounding) :
    ∃ count : UInt64, count.toNat = rounding.ofQuotient quota period ∧
      (groups.cpuQuota files).map (procsFromQuota · hostProcs minProcs rounding) =
        .ok (if minProcs ≤ count then (count, .used) else (minProcs, .minimumUsed)) := by
  obtain ⟨q, p, hqi, hpi, hc⟩ := cpu_quota_of_states hq hp h
  refine ⟨rounding.count (cpusOf q p),
    Rounding.to_nat_count_cpus_of hqi hpi hq.1 hq.2 hp.1 hp.2 rounding, ?_⟩
  rw [hc, Except.map, procs_from_quota_some]

def thirdsFiles : Files := fun path =>
  if path = "/cpu/cpu.cfs_quota_us".toList then
    .ok { content := Utf8.encode "9007199254740991\n".toList }
  else if path = "/cpu/cpu.cfs_period_us".toList then
    .ok { content := Utf8.encode " 3\t\r\n100000\n".toList }
  else if path = "/cpu/cpu.max".toList then
    .ok { content := Utf8.encode "9007199254740991 3".toList }
  else .error .noSuchFile

def thirdsDirectories : Directories where
  entries := [("cpu".toList, "/cpu".toList)]
  distinct := by simp

theorem procs_from_quota_exact_thirds :
    (0 < 9007199254740991 ∧ 9007199254740991 ≤ 2^53) ∧ (0 < 3 ∧ 3 ≤ 2^53) ∧
      States thirdsFiles 9007199254740991 3 (.v1 thirdsDirectories) ∧
      States thirdsFiles 9007199254740991 3 (.v2 "/cpu".toList) ∧
      ((Groups.v1 thirdsDirectories).cpuQuota thirdsFiles).map (procsFromQuota · 8 1 .floor) =
        .ok (3002399751580330, .used) ∧
      ((Groups.v2 "/cpu".toList).cpuQuota thirdsFiles).map (procsFromQuota · 8 1 .ceil) =
        .ok (3002399751580331, .used) := by
  have hq : 0 < 9007199254740991 ∧ 9007199254740991 ≤ 2^53 := by decide
  have hp : 0 < 3 ∧ 3 ≤ 2^53 := by decide
  have h1 : States thirdsFiles 9007199254740991 3 (.v1 thirdsDirectories) := by
    refine .v1 rfl ⟨[], [], ['\n'], by simp, Or.inr ⟨[], rfl⟩, ?_⟩
      ⟨[' '], ['\t', '\r'], "\n100000\n".toList, ?_, Or.inr ⟨"100000\n".toList, rfl⟩, ?_⟩
    · decide +kernel
    · simp [Text.isBlank, Text.blankRanges]
    · decide +kernel
  have h2 : States thirdsFiles 9007199254740991 3 (.v2 "/cpu".toList) := by
    refine .v2 ⟨[], [], [], by simp, Or.inl rfl, ?_⟩
    decide +kernel
  have hf : Rounding.ofQuotient .floor 9007199254740991 3 = 3002399751580330 := rfl
  have hc : Rounding.ofQuotient .ceil 9007199254740991 3 = 3002399751580331 := by
    rw [Rounding.ofQuotient, Nat.ceil_eq_iff (by decide)]
    norm_num
  refine ⟨hq, hp, h1, h2, ?_, ?_⟩
  · obtain ⟨count, hn, hr⟩ := procs_from_quota_exact hq hp h1 8 1 .floor
    have he : count = 3002399751580330 := UInt64.toNat_inj.mp (hn.trans hf)
    rw [hr, he]
    rfl
  · obtain ⟨count, hn, hr⟩ := procs_from_quota_exact hq hp h2 8 1 .ceil
    have he : count = 3002399751580331 := UInt64.toNat_inj.mp (hn.trans hc)
    rw [hr, he]
    rfl

end Groups
end CgroupLimits
