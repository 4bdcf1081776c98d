import CgroupLimits.Proofs.Group.Containment
import CgroupLimits.Proofs.Group.OrderIndependence
import CgroupLimits.Proofs.Report.Stages
import Mathlib.Data.List.Nodup

/-!
# The controllers that are listed

Directories of the first version are held in no particular order. Their listing
has one row for each controller, by the bytes of the names, and what is written
before the CPU count is nothing else. No two names are equal. So it makes no
difference in which order the rows are taken or how they are sorted. Discovery
puts a controller into the listing if and only if a mount exposes its group.
-/

set_option autoImplicit false

namespace CgroupLimits.Report

structure IsListing (directories : Directories) (rows : List (Text × Text)) : Prop where
  complete : ∀ controller directory, (controller, directory) ∈ rows ↔
    directories.find? controller = some directory
  distinct : (rows.map Prod.fst).Nodup
  ascending : Ascending rows

def listing (rows : List (Text × Text)) : List Text :=
  "cgroup: v1".toList :: rows.map fun row => "  ".toList ++ row.1 ++ ": ".toList ++ row.2

/-- What a run writes before the line of the CPU count. -/
def beforeCpus (output : List Text) : List Text :=
  output.takeWhile fun line => !"cpus: ".toList.isPrefixOf line

section Rows
variable {directories : Directories} {rows : List (Text × Text)}

theorem Ascending.distinct (h : Ascending rows) : (rows.map Prod.fst).Nodup := by
  refine List.pairwise_map.mpr (h.imp ?_)
  intro x y hlt he
  rw [he] at hlt
  exact List.lt_irrefl _ hlt

theorem is_listing_iff_perm :
    IsListing directories rows ↔ rows.Perm directories.entries ∧ Ascending rows := by
  constructor
  · intro h
    refine ⟨?_, h.ascending⟩
    rw [List.perm_ext_iff_of_nodup (List.Nodup.of_map Prod.fst h.distinct)
      (List.Nodup.of_map Prod.fst directories.distinct)]
    rintro ⟨controller, directory⟩
    rw [h.complete, Directories.find?_eq_some_iff]
  · rintro ⟨hp, ha⟩
    refine ⟨?_, ha.distinct, ha⟩
    intro controller directory
    rw [hp.mem_iff, Directories.find?_eq_some_iff]

theorem IsListing.group_lines_eq (h : IsListing directories rows) :
    groupLines (.v1 directories) = listing rows := by
  obtain ⟨hp, ha⟩ := is_listing_iff_perm.mp h
  exact (lists_group_lines _).unique (.v1 hp ha)

theorem exists_is_listing (directories : Directories) : ∃ rows, IsListing directories rows :=
  ⟨_, is_listing_iff_perm.mpr ⟨List.mergeSort_perm _ nameLe, ascending_merge_sort directories⟩⟩

theorem IsListing.of_same_directories {other : Directories}
    (hs : Groups.SameDirectories other directories) (h : IsListing other rows) :
    IsListing directories rows := by
  refine ⟨?_, h.distinct, h.ascending⟩
  intro controller directory
  rw [h.complete, hs]

theorem IsListing.mem_names_iff (h : IsListing directories rows) (controller : Text) :
    controller ∈ rows.map Prod.fst ↔ (directories.find? controller).isSome := by
  simp only [List.mem_map, Prod.exists, exists_and_right, exists_eq_right, h.complete,
    Option.isSome_iff_exists]

theorem cpu_stage_of_same_directories {other : Directories}
    (hs : Groups.SameDirectories other directories) (files : Files) (host : Host)
    (options : Options) :
    cpuStage files host options (.v1 other) = cpuStage files host options (.v1 directories) := by
  have hd : ∀ controller, (Groups.v1 other).directory? controller =
      (Groups.v1 directories).directory? controller := hs
  have hq : (Groups.v1 other).cpuQuota files = (Groups.v1 directories).cpuQuota files := by
    simp only [Groups.cpuQuota, hd]
    cases (Groups.v1 directories).directory? cpuController <;> rfl
  have hm : (Groups.v1 other).memoryLimit files host.pageSize =
      (Groups.v1 directories).memoryLimit files host.pageSize := by
    simp only [Groups.memoryLimit, hd]
    cases (Groups.v1 directories).directory? memoryController <;> rfl
  simp only [cpuStage, memoryStage, hq, hm]

end Rows

theorem before_cpus_listing (rows : List (Text × Text)) (rest : List Text) :
    beforeCpus (listing rows ++ rest) = listing rows ++ beforeCpus rest := by
  refine List.takeWhile_append_of_pos ?_
  intro line hl
  rcases List.mem_cons.mp hl with rfl | hl
  · rfl
  · obtain ⟨row, -, rfl⟩ := List.mem_map.mp hl
    rfl

theorem before_cpus_cpu_stage (files : Files) (host : Host) (options : Options) (groups : Groups) :
    beforeCpus (cpuStage files host options groups).lines = [] := by
  rw [cpuStage]
  cases groups.cpuQuota files <;> rfl

theorem output_of_arguments {arguments : List Text} {options : Options} {groups : Groups}
    {files : Files} (hp : CommandLine.parse arguments = .ok (.report options))
    (hd : Groups.ofFiles files options.mountTable options.membership = .ok groups) (host : Host) :
    (Outcome.ofArguments files host arguments).output =
      groupLines groups ++ (cpuStage files host options groups).lines := by
  have hr : ofFiles files host options =
      after (groupLines groups) (cpuStage files host options groups) := by
    rw [ofFiles, hd]
  rw [Outcome.ofArguments, hp]
  simp only [Outcome.ofReport, hr]
  cases (after (groupLines groups) (cpuStage files host options groups)).failure <;> rfl

/-- However the directories are held and sorted, they have one listing, and a run
writes nothing else before the CPU count. The names in it are those of the
controllers whose group a mount exposes. -/
theorem group_lines_canonical (directories : Directories) :
    (∀ lines, groupLines (.v1 directories) = lines ↔
      ∃ rows, IsListing directories rows ∧ lines = listing rows) ∧
    (∀ rows, rows.Perm directories.entries → (rows.Pairwise fun x y => nameLe x y) →
      groupLines (.v1 directories) = listing rows) ∧
    (∀ other, Groups.SameDirectories other directories →
      groupLines (.v1 other) = groupLines (.v1 directories) ∧
      ∀ files host options, cpuStage files host options (.v1 other) =
        cpuStage files host options (.v1 directories)) ∧
    (∀ files host arguments options, CommandLine.parse arguments = .ok (.report options) →
      Groups.ofFiles files options.mountTable options.membership = .ok (.v1 directories) →
      beforeCpus (Outcome.ofArguments files host arguments).output =
        groupLines (.v1 directories)) ∧
    ∀ mounts entries, Groups.ofTables mounts entries = .ok (.v1 directories) →
      ∀ rows, IsListing directories rows → ∀ controller, controller ∈ rows.map Prod.fst ↔
        ∃ entry, IsLast (controller ∈ ·.controllers) entries entry ∧
          ∃ mount ∈ mounts, Groups.Exposes controller entry.group mount := by
  refine ⟨?_, ?_, ?_, ?_, ?_⟩
  · intro lines
    constructor
    · rintro rfl
      obtain ⟨rows, h⟩ := exists_is_listing directories
      exact ⟨rows, h, h.group_lines_eq⟩
    · rintro ⟨rows, h, rfl⟩
      exact h.group_lines_eq
  · intro rows hp hs
    exact (is_listing_iff_perm.mpr ⟨hp, ascending_of_sorted hp hs⟩).group_lines_eq
  · intro other hs
    obtain ⟨rows, h⟩ := exists_is_listing other
    rw [h.group_lines_eq, (h.of_same_directories hs).group_lines_eq]
    exact ⟨rfl, cpu_stage_of_same_directories hs⟩
  · intro files host arguments options hp hd
    obtain ⟨rows, h⟩ := exists_is_listing directories
    rw [output_of_arguments hp hd, h.group_lines_eq, before_cpus_listing, before_cpus_cpu_stage,
      List.append_nil]
  · intro mounts entries ht rows h controller
    rcases Groups.of_tables_eq_ok ht with hv | ⟨-, hu⟩
    · cases hv
      rw [h.mem_names_iff, Groups.is_some_find?_per_controller_iff]
    · -- The unified hierarchy has no directories by controller.
      obtain ⟨_, _, _, _, _, _, _, hv⟩ := Groups.unified_eq_ok hu
      cases hv

example : groupLines (.v1 ⟨[("é".toList, "/c".toList), ("cpuacct".toList, "/b".toList),
    ("cpu".toList, "/a".toList), ("z".toList, "/d".toList)], by decide⟩) =
    ["cgroup: v1".toList, "  cpu: /a".toList, "  cpuacct: /b".toList, "  z: /d".toList,
      "  é: /c".toList] := by
  cbv

open Groups (cpuEntry cpuMount)
open Outcome (sampleArguments sampleOptions sampleHost separateFiles separateDirectories
  separateListing)

def separateMounts : List MountPoint :=
  [{ cpuMount "/".toList "/mem".toList with superOptions := ["rw".toList, "memory".toList] },
    cpuMount "/".toList "/cpu".toList]

def separateEntries : List Membership :=
  [{ cpuEntry with hierarchyId := 3, controllers := ["memory".toList], group := "/a".toList },
    { cpuEntry with group := "/a".toList }]

def separateRows : List (Text × Text) :=
  [("cpu".toList, "/cpu/a".toList), ("memory".toList, "/mem/a".toList)]

def exchangedDirectories : Directories where
  entries := separateRows
  distinct := by decide

theorem is_listing_separate_rows : IsListing separateDirectories separateRows :=
  is_listing_iff_perm.mpr ⟨.swap _ _ [], List.pairwise_pair.mpr (by decide +kernel)⟩

theorem group_lines_canonical_separate :
    IsListing separateDirectories separateRows ∧
      groupLines (.v1 separateDirectories) = separateListing ∧
      separateRows.Perm separateDirectories.entries ∧
      (separateRows.Pairwise fun x y => nameLe x y) ∧
      Groups.SameDirectories exchangedDirectories separateDirectories ∧
      groupLines (.v1 exchangedDirectories) = separateListing ∧
      CommandLine.parse sampleArguments = .ok (.report sampleOptions) ∧
      Groups.ofFiles separateFiles "m".toList "c".toList = .ok (.v1 separateDirectories) ∧
      beforeCpus (Outcome.ofArguments separateFiles sampleHost sampleArguments).output =
        separateListing ∧
      Groups.ofTables separateMounts separateEntries = .ok (.v1 separateDirectories) ∧
      ∃ entry, IsLast ("memory".toList ∈ ·.controllers) separateEntries entry ∧
        ∃ mount ∈ separateMounts, Groups.Exposes "memory".toList entry.group mount := by
  obtain ⟨canonical, sorted, unordered, before, names⟩ := group_lines_canonical separateDirectories
  have listed : groupLines (.v1 separateDirectories) = separateListing :=
    (canonical _).mpr ⟨separateRows, is_listing_separate_rows, rfl⟩
  have same : Groups.SameDirectories exchangedDirectories separateDirectories := by
    intro controller
    apply Option.ext
    intro directory
    rw [← is_listing_separate_rows.complete, Directories.find?_eq_some_iff]
    rfl
  have parsed : CommandLine.parse sampleArguments = .ok (.report sampleOptions) := by
    decide +kernel
  have discovered : Groups.ofFiles separateFiles "m".toList "c".toList =
      .ok (.v1 separateDirectories) := by decide +kernel
  have tables : Groups.ofTables separateMounts separateEntries =
      .ok (.v1 separateDirectories) := by decide +kernel
  have sortedRows : separateRows.Pairwise fun x y => nameLe x y :=
    List.pairwise_pair.mpr (by decide +kernel)
  refine ⟨is_listing_separate_rows, listed, .swap _ _ [], sortedRows, same, ?_, parsed, discovered,
    ?_, tables, ?_⟩
  · exact (unordered _ same).1.trans listed
  · exact (before _ _ _ _ parsed discovered).trans listed
  · exact (names _ _ tables _ is_listing_separate_rows _).mp (by decide)

end CgroupLimits.Report
