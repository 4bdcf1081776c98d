import CgroupLimits.Report

/-!
# The listing of the groups

A report names the version and then the directories. Those of the first version
are listed in the order of their controllers' names, by bytes. No name occurs
twice, so this order leaves no choice: however the directories are held, they
have one listing.
-/

set_option autoImplicit false

namespace CgroupLimits

theorem Utf8.encode_injective {s t : Text} (h : encode s = encode t) : s = t := by
  have hd := decode?_encode s
  rw [h, decode?_encode] at hd
  exact (Option.some.inj hd).symm

namespace Report

/-- By the bytes of the names, none of which is repeated. -/
def Ascending (rows : List (Text × Text)) : Prop :=
  rows.Pairwise fun x y => Utf8.encode x.1 < Utf8.encode y.1

inductive Lists : Groups → List Text → Prop
  | v1 {directories : Directories} {rows : List (Text × Text)}
      (complete : rows.Perm directories.entries) (ascending : Ascending rows) :
      Lists (.v1 directories)
        ("cgroup: v1".toList :: rows.map fun row => "  ".toList ++ row.1 ++ ": ".toList ++ row.2)
  | v2 {directory : Text} :
      Lists (.v2 directory) ["cgroup: v2".toList, "  unified: ".toList ++ directory]

theorem name_le_trans (x y z : Text × Text) (hxy : nameLe x y) (hyz : nameLe y z) :
    nameLe x z := by
  rw [nameLe, decide_eq_true_eq] at *
  exact List.le_trans hxy hyz

theorem name_le_total (x y : Text × Text) : (nameLe x y || nameLe y x) = true := by
  rw [Bool.or_eq_true, nameLe, nameLe, decide_eq_true_eq, decide_eq_true_eq]
  exact List.le_total _ _

theorem ascending_of_sorted {directories : Directories} {rows : List (Text × Text)}
    (hp : rows.Perm directories.entries) (hs : rows.Pairwise fun x y => nameLe x y) :
    Ascending rows := by
  have hn := (hp.map Prod.fst).nodup_iff.mpr directories.distinct
  refine (hs.and (List.pairwise_map.mp hn)).imp ?_
  intro x y h
  have hle : Utf8.encode x.1 ≤ Utf8.encode y.1 := of_decide_eq_true h.1
  exact Std.lt_of_le_of_ne hle fun he => h.2 (Utf8.encode_injective he)

theorem ascending_merge_sort (directories : Directories) :
    Ascending (directories.entries.mergeSort nameLe) :=
  ascending_of_sorted (List.mergeSort_perm _ nameLe)
    (List.pairwise_mergeSort name_le_trans name_le_total directories.entries)

theorem lists_group_lines (groups : Groups) : Lists groups (groupLines groups) := by
  cases groups with
  | v1 directories => exact .v1 (List.mergeSort_perm _ nameLe) (ascending_merge_sort directories)
  | v2 directory => exact .v2

theorem Ascending.eq_of_perm {rows others : List (Text × Text)} (hr : Ascending rows)
    (ho : Ascending others) (h : rows.Perm others) : rows = others := by
  refine h.eq_of_pairwise ?_ hr ho
  intro x y _ _ hxy hyx
  exact absurd (List.lt_trans hxy hyx) (List.lt_irrefl _)

theorem Lists.unique {groups : Groups} {lines others : List Text} (hl : Lists groups lines)
    (ho : Lists groups others) : lines = others := by
  cases hl with
  | v1 hp ha =>
    cases ho with
    | v1 hp' ha' => rw [ha.eq_of_perm ha' (hp.trans hp'.symm)]
  | v2 =>
    cases ho
    rfl

end Report
end CgroupLimits
