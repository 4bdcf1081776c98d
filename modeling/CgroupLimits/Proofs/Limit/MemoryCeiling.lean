import CgroupLimits.Limit.Quota
import CgroupLimits.Proofs.Limit.FirstLine
import Mathlib.Algebra.Order.Ring.Int
import Mathlib.Order.Bounds.Basic

/-!
# The ceiling of a memory limit

The first version has no word for a group without a limit. Its limit is then
the largest whole number of pages that a signed count of bytes can hold, and
every number from there on stands for no limit, as long as it is such a count
itself. A number beyond is refused like a text that is no number.
-/

set_option autoImplicit false

namespace CgroupLimits

theorem is_greatest_unlimited_bytes (page : ℕ) :
    IsGreatest {bytes | page ∣ bytes ∧ bytes ≤ 2^63-1} (unlimitedBytes page) := by
  refine ⟨⟨Nat.dvd_sub_mod _, Nat.sub_le _ _⟩, ?_⟩
  intro bytes hb
  obtain ⟨hp, hm⟩ := hb
  calc bytes = bytes/page*page := (Nat.div_mul_cancel hp).symm
    _ ≤ (2^63-1)/page*page := Nat.mul_le_mul_right page (Nat.div_le_div_right hm)
    _ = unlimitedBytes page := Nat.div_mul_self_eq_mod_sub_self

theorem page_size_bounds {answer : PageSizeAnswer} {page : ℕ} (h : pageSize answer = .ok page) :
    0 < page ∧ page ≤ 2^63-1 := by
  match answer, h with
  | .ok none, rfl => exact ⟨by decide, by decide⟩
  | .ok (some size), h =>
    obtain rfl := Except.ok.inj h
    have hm := size.toInt_lt
    split
    · rename_i hs
      rw [Int64.lt_iff_toInt_lt, Int64.toInt_zero] at hs
      omega
    · exact ⟨by decide, by decide⟩

theorem unlimited_bytes_pos {answer : PageSizeAnswer} {page : ℕ} (h : pageSize answer = .ok page) :
    0 < unlimitedBytes page := by
  obtain ⟨hp, hm⟩ := page_size_bounds h
  exact hp.trans_le ((is_greatest_unlimited_bytes page).2 ⟨dvd_refl page, hm⟩)

namespace ControlFile
variable {files : Files} {answer : PageSizeAnswer} {directory line : Text} {page : ℕ}

theorem memory_limit_v1_of_number {n : ℤ} (hs : Says files directory memoryLimitFile line)
    (hd : Numeral.Denotes line n) (hp : pageSize answer = .ok page) :
    memoryLimitV1 files answer directory =
      if ¬ (-2^63 ≤ n ∧ n < 2^63) then
        .error (.invalidValue (Path.join directory memoryLimitFile) line)
      else if n < 0 then
        .error (.invalidValue (Path.join directory memoryLimitFile) (Numeral.ofInt n))
      else if n.toNat < unlimitedBytes page then .ok (some (UInt64.ofNat n.toNat))
      else .ok none := by
  by_cases hr : -2^63 ≤ n ∧ n < 2^63
  · have hi : (Int64.ofInt n).toInt = n := Int64.toInt_ofInt_of_le hr.1 hr.2
    have hd' : Numeral.Denotes line (Int64.ofInt n).toInt := hi.symm ▸ hd
    have hz : Int64.ofInt n < 0 ↔ n < 0 := by
      rw [Int64.lt_iff_toInt_lt, hi, Int64.toInt_zero]
    rw [if_neg (not_not_intro hr), memoryLimitV1]
    simp only [bind, Except.bind, read_int_of_says hs hd', hz, hi, hp]
    rfl
  · rw [if_pos hr, memoryLimitV1]
    have ho : ∀ m : Int64, m.toInt ≠ n := fun m he => hr ⟨he ▸ m.le_toInt, he ▸ m.toInt_lt⟩
    simp only [read_int_of_says_outside hs hd ho, bind, Except.bind]

end ControlFile

namespace Groups

/-- A number of bytes below the ceiling is a limit, and one from there on is
none, up to the end of the signed range. -/
theorem memory_limit_ceiling {files : Files} {answer : PageSizeAnswer} {directories : Directories}
    {directory line : Text} {bytes page ceiling : ℕ}
    (found : directories.find? "memory".toList = some directory)
    (hs : ControlFile.Says files directory "memory.limit_in_bytes".toList line)
    (hd : Numeral.Denotes line bytes) (hp : pageSize answer = .ok page)
    (hc : IsGreatest {m | page ∣ m ∧ m ≤ 2^63-1} ceiling) :
    (Groups.v1 directories).memoryLimit files answer =
      if bytes < ceiling then .ok (some (UInt64.ofNat bytes))
      else if bytes < 2^63 then .ok none
      else .error (.invalidValue (Path.join directory "memory.limit_in_bytes".toList) line) := by
  have hu : ceiling = unlimitedBytes page := hc.unique (is_greatest_unlimited_bytes page)
  have hm : ceiling ≤ 2^63-1 := hc.1.2
  rw [memory_limit_of_found found, ControlFile.memory_limit_v1_of_number hs hd hp,
    Int.toNat_natCast, ← hu]
  by_cases hb : bytes < 2^63
  · rw [if_neg (by omega), if_neg (by omega), if_pos hb]
  · rw [if_pos (by omega), if_neg (by omega), if_neg hb]
    rfl

def limitFiles (content : Text) : Files := fun path =>
  if path = "/memory/memory.limit_in_bytes".toList then .ok { content := Utf8.encode content }
  else .error .noSuchFile

def memoryDirectories : Directories where
  entries := [("memory".toList, "/memory".toList)]
  distinct := List.pairwise_singleton _ _

theorem says_limit_files {content line : Text} (h : ControlFile.firstLineOf content = line)
    {n : ℤ} (hd : Numeral.Denotes line n) :
    ControlFile.Says (limitFiles content) "/memory".toList "memory.limit_in_bytes".toList line := by
  have hn : '\n' ∉ line := hd.not_mem_of_is_blank (by decide)
  have hp : Path.join "/memory".toList "memory.limit_in_bytes".toList =
      "/memory/memory.limit_in_bytes".toList := by decide +kernel
  exact (ControlFile.says_iff hd.is_trimmed hn).mpr ⟨content, if_pos hp, h⟩

theorem is_greatest_whole_pages :
    IsGreatest {m : ℕ | 4096 ∣ m ∧ m ≤ 2^63-1} 9223372036854771712 :=
  is_greatest_unlimited_bytes 4096

theorem memory_limit_ceiling_around :
    memoryDirectories.find? "memory".toList = some "/memory".toList ∧
      pageSize (.ok none) = .ok 4096 ∧ pageSize (.ok (some 65536)) = .ok 65536 ∧
      IsGreatest {m : ℕ | 4096 ∣ m ∧ m ≤ 2^63-1} 9223372036854771712 ∧
      IsGreatest {m : ℕ | 65536 ∣ m ∧ m ≤ 2^63-1} 9223372036854710272 ∧
      (Groups.v1 memoryDirectories).memoryLimit
          (limitFiles "\t +009223372036854771711\r\nmax".toList) (.ok none) =
        .ok (some 9223372036854771711) ∧
      (Groups.v1 memoryDirectories).memoryLimit (limitFiles "9223372036854771712\n".toList)
          (.ok none) = .ok none ∧
      (Groups.v1 memoryDirectories).memoryLimit (limitFiles "9223372036854775808\n".toList)
          (.ok none) =
        .error (.invalidValue "/memory/memory.limit_in_bytes".toList
          "9223372036854775808".toList) ∧
      (Groups.v1 memoryDirectories).memoryLimit
          (limitFiles "\t +009223372036854771711\r\nmax".toList) (.ok (some 65536)) =
        .ok none := by
  have found : memoryDirectories.find? "memory".toList = some "/memory".toList := rfl
  have below : Numeral.Denotes "+009223372036854771711".toList (9223372036854771711 : ℕ) :=
    (Numeral.int64_eq_ok_iff _ 9223372036854771711).mp (by decide +kernel)
  have reached : Numeral.Denotes "9223372036854771712".toList (9223372036854771712 : ℕ) :=
    (Numeral.int64_eq_ok_iff _ 9223372036854771712).mp (by decide +kernel)
  have beyond : Numeral.Denotes "9223372036854775808".toList (9223372036854775808 : ℕ) :=
    Numeral.denotes_of_int 9223372036854775808
  have stated : ControlFile.Says (limitFiles "\t +009223372036854771711\r\nmax".toList)
      "/memory".toList "memory.limit_in_bytes".toList "+009223372036854771711".toList :=
    says_limit_files (by decide +kernel) below
  have hp : pageSize (.ok none) = .ok 4096 := rfl
  have hp' : pageSize (.ok (some 65536)) = .ok 65536 := rfl
  have hc := is_greatest_whole_pages
  have hc' : IsGreatest {m : ℕ | 65536 ∣ m ∧ m ≤ 2^63-1} 9223372036854710272 :=
    is_greatest_unlimited_bytes 65536
  refine ⟨found, hp, hp', hc, hc', ?_, ?_, ?_, ?_⟩
  · exact memory_limit_ceiling found stated below hp hc
  · exact memory_limit_ceiling found (says_limit_files (by decide +kernel) reached) reached hp hc
  · exact memory_limit_ceiling found (says_limit_files (by decide +kernel) beyond) beyond hp hc
  · exact memory_limit_ceiling found stated below hp' hc'

/-- The largest number of 64 bits is at the ceiling by far and not taken for no
limit. -/
theorem memory_limit_largest_refused :
    memoryDirectories.find? "memory".toList = some "/memory".toList ∧
      ControlFile.Says (limitFiles "18446744073709551615\n".toList) "/memory".toList
        "memory.limit_in_bytes".toList "18446744073709551615".toList ∧
      Numeral.Denotes "18446744073709551615".toList (18446744073709551615 : ℕ) ∧
      pageSize (.ok (some 4096)) = .ok 4096 ∧
      IsGreatest {m : ℕ | 4096 ∣ m ∧ m ≤ 2^63-1} 9223372036854771712 ∧
      9223372036854771712 ≤ 18446744073709551615 ∧ 18446744073709551615 < 2^64 ∧
      (Groups.v1 memoryDirectories).memoryLimit (limitFiles "18446744073709551615\n".toList)
          (.ok (some 4096)) ≠ .ok none := by
  have hd : Numeral.Denotes "18446744073709551615".toList (18446744073709551615 : ℕ) :=
    Numeral.denotes_of_int 18446744073709551615
  refine ⟨rfl, says_limit_files (by decide +kernel) hd, hd, rfl, is_greatest_whole_pages, by decide,
    by decide, ?_⟩
  decide +kernel

end Groups
end CgroupLimits
