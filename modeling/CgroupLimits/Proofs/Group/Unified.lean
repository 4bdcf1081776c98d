import CgroupLimits.Group.Discovery

/-!
# The unified hierarchy alone

A process whose entries are all unified has one directory, decided by its
first entry and the first unified mount. Nothing else is ever read as unified:
one entry with a controller or with an id other than zero is enough.
-/

set_option autoImplicit false

namespace CgroupLimits

def IsFirst {α : Type} (p : α → Prop) (xs : List α) (x : α) : Prop :=
  ∃ before after, xs = before ++ x :: after ∧ p x ∧ ∀ y ∈ before, ¬ p y

theorem find?_eq_some_iff_is_first {α : Type} (p : α → Bool) (xs : List α) (x : α) :
    xs.find? p = some x ↔ IsFirst (fun y => p y) xs x := by
  rw [List.find?_eq_some_iff_append]
  constructor
  · rintro ⟨hx, before, after, hs, hb⟩
    exact ⟨before, after, hs, hx, fun y hy => by simpa using hb y hy⟩
  · rintro ⟨before, after, hs, hx, hb⟩
    exact ⟨hx, before, after, hs, fun y hy => by simpa using hb y hy⟩

namespace Membership

theorem is_unified_iff (entry : Membership) :
    entry.isUnified ↔ entry.hierarchyId = 0 ∧ entry.controllers = [] := by
  simp [isUnified]

end Membership

namespace Groups

/-- Id zero and no controllers, in every entry. -/
def OnlyUnified (entries : List Membership) : Prop :=
  ∀ entry ∈ entries, entry.hierarchyId = 0 ∧ entry.controllers = []

/-- The entry and the mount that decide where the unified group is. -/
structure Decides (mounts : List MountPoint) (entries : List Membership) (entry : Membership)
    (mount : MountPoint) : Prop where
  onlyUnified : OnlyUnified entries
  entry : ∃ others, entries = entry :: others
  mount : IsFirst (·.fsType = "cgroup2".toList) mounts mount

def ofTranslation : Except TranslateError Text → Except GroupError Groups
  | .ok directory => .ok (.v2 directory)
  | .error error => .error (.translate error)

theorem only_unified_iff (entries : List Membership) :
    OnlyUnified entries ↔ entries.all Membership.isUnified := by
  simp [OnlyUnified, Membership.is_unified_iff]

theorem is_unified_mount_iff (mount : MountPoint) :
    (mount.fsType == unifiedFsType) = true ↔ mount.fsType = "cgroup2".toList := beq_iff_eq

theorem is_first_unified_mount_iff (mounts : List MountPoint) (mount : MountPoint) :
    IsFirst (·.fsType = "cgroup2".toList) mounts mount ↔
      mounts.find? (·.fsType == unifiedFsType) = some mount := by
  simp only [find?_eq_some_iff_is_first, is_unified_mount_iff]

theorem find?_unified_mount_eq_none_iff (mounts : List MountPoint) :
    mounts.find? (·.fsType == unifiedFsType) = none ↔
      ∀ mount ∈ mounts, mount.fsType ≠ "cgroup2".toList := by
  simp only [List.find?_eq_none, is_unified_mount_iff, ne_eq]

theorem of_tables_of_only_unified (mounts : List MountPoint) {entries : List Membership}
    (h : OnlyUnified entries) : ofTables mounts entries = unified mounts entries := by
  rw [ofTables, if_pos ((only_unified_iff entries).mp h)]

theorem of_tables_of_decides {mounts : List MountPoint} {entries : List Membership}
    {entry : Membership} {mount : MountPoint} (h : Decides mounts entries entry mount) :
    ofTables mounts entries = ofTranslation (mount.translate entry.group) := by
  rw [of_tables_of_only_unified mounts h.onlyUnified]
  obtain ⟨others, rfl⟩ := h.entry
  rw [unified, List.head?_cons, (is_first_unified_mount_iff mounts mount).mp h.mount]
  cases ht : mount.translate entry.group <;> simp [ht, ofTranslation]

theorem of_tables_of_missing {mounts : List MountPoint} {entries : List Membership}
    (hu : OnlyUnified entries)
    (h : entries = [] ∨ ∀ mount ∈ mounts, mount.fsType ≠ "cgroup2".toList) :
    ofTables mounts entries = .error .notMounted := by
  rw [of_tables_of_only_unified mounts hu]
  rcases h with rfl | hn
  · rfl
  · rw [unified, (find?_unified_mount_eq_none_iff mounts).mpr hn]
    cases entries.head? <;> rfl

theorem decides_or_missing (mounts : List MountPoint) {entries : List Membership}
    (h : OnlyUnified entries) :
    (∃ entry mount, Decides mounts entries entry mount) ∨
      entries = [] ∨ ∀ mount ∈ mounts, mount.fsType ≠ "cgroup2".toList := by
  cases entries with
  | nil => exact Or.inr (Or.inl rfl)
  | cons entry others =>
    cases hm : mounts.find? (·.fsType == unifiedFsType) with
    | none => exact Or.inr (Or.inr ((find?_unified_mount_eq_none_iff mounts).mp hm))
    | some mount =>
      have hf := (is_first_unified_mount_iff mounts mount).mpr hm
      exact Or.inl ⟨entry, mount, h, ⟨others, rfl⟩, hf⟩

theorem of_tables_cases (mounts : List MountPoint) (entries : List Membership) :
    (∃ entry mount, Decides mounts entries entry mount ∧
      ofTables mounts entries = ofTranslation (mount.translate entry.group)) ∨
    (¬ OnlyUnified entries ∧ ∃ directories, ofTables mounts entries = .ok (.v1 directories)) ∨
    ofTables mounts entries = .error .notMounted := by
  by_cases hu : OnlyUnified entries
  · rcases decides_or_missing mounts hu with ⟨entry, mount, hd⟩ | hn
    · exact Or.inl ⟨entry, mount, hd, of_tables_of_decides hd⟩
    · exact Or.inr (Or.inr (of_tables_of_missing hu hn))
  · have ht : ofTables mounts entries = _ := if_neg (mt (only_unified_iff entries).mpr hu)
    by_cases hf : (perController mounts entries).isEmpty
    · exact Or.inr (Or.inr (ht.trans (if_pos hf)))
    · exact Or.inr (Or.inl ⟨hu, _, ht.trans (if_neg hf)⟩)

theorem only_unified_of_eq_of_translation {mounts : List MountPoint} {entries : List Membership}
    (outcome : Except TranslateError Text)
    (h : ofTables mounts entries = ofTranslation outcome) :
    OnlyUnified entries ∧ entries ≠ [] := by
  rcases of_tables_cases mounts entries with ⟨entry, mount, hd, -⟩ | ⟨-, _, hn⟩ | hn
  · obtain ⟨others, rfl⟩ := hd.entry
    exact ⟨hd.onlyUnified, List.cons_ne_nil _ _⟩
  · rw [hn] at h
    cases outcome <;> cases h
  · rw [hn] at h
    cases outcome <;> cases h

theorem ne_v1_of_only_unified (mounts : List MountPoint) {entries : List Membership}
    (hu : OnlyUnified entries) (directories : Directories) :
    ofTables mounts entries ≠ .ok (.v1 directories) := by
  intro h
  rcases of_tables_cases mounts entries with ⟨entry, mount, -, ht⟩ | ⟨hn, -⟩ | hn
  · rw [ht] at h
    cases hm : mount.translate entry.group <;> rw [hm] at h <;> cases h
  · exact hn hu
  · rw [hn] at h
    cases h

/-- Discovery in the unified hierarchy: which outcome there is, and that no
other process is taken for one of this kind. -/
theorem of_tables_unified (mounts : List MountPoint) (entries : List Membership) :
    (OnlyUnified entries →
      (∀ directories, ofTables mounts entries ≠ .ok (.v1 directories)) ∧
      (entries = [] ∨ (∀ mount ∈ mounts, mount.fsType ≠ "cgroup2".toList) →
        ofTables mounts entries = .error .notMounted) ∧
      ∀ entry others mount, entries = entry :: others →
        IsFirst (·.fsType = "cgroup2".toList) mounts mount →
        ofTables mounts entries = ofTranslation (mount.translate entry.group)) ∧
    ((∃ directory, ofTables mounts entries = .ok (.v2 directory)) ∨
        (∃ error, ofTables mounts entries = .error (.translate error)) →
      OnlyUnified entries ∧ entries ≠ []) ∧
    ∀ stray ∈ entries, stray.hierarchyId ≠ 0 ∨ stray.controllers ≠ [] →
      ∀ directory, ofTables mounts entries ≠ .ok (.v2 directory) := by
  refine ⟨?_, ?_, ?_⟩
  · intro hu
    refine ⟨ne_v1_of_only_unified mounts hu, of_tables_of_missing hu, ?_⟩
    intro entry others mount he hm
    exact of_tables_of_decides ⟨hu, ⟨others, he⟩, hm⟩
  · rintro (⟨directory, h⟩ | ⟨error, h⟩)
    · exact only_unified_of_eq_of_translation (.ok directory) h
    · exact only_unified_of_eq_of_translation (.error error) h
  · intro stray hs hk directory h
    have hu := (only_unified_of_eq_of_translation (.ok directory) h).1 stray hs
    rcases hk with hi | hc
    · exact hi hu.1
    · exact hc hu.2

def containerEntry : Membership where
  hierarchyId := 0
  controllers := []
  group := "/kubepods/pod1/ctr/app".toList

def strayEntry : Membership := { containerEntry with hierarchyId := 1 }

def containerMount : MountPoint where
  mountId := 30
  parentId := 1
  deviceId := "0:26".toList
  root := "/kubepods/pod1/ctr".toList
  mountPoint := "/sys/fs/cgroup".toList
  options := ["ro".toList]
  optionalFields := []
  fsType := "cgroup2".toList
  mountSource := "cgroup2".toList
  superOptions := ["rw".toList]

def laterMount : MountPoint := { containerMount with root := "/kubepods/pod2".toList }

theorem of_tables_unified_container :
    OnlyUnified [containerEntry] ∧
      ofTables [containerMount, laterMount] [containerEntry] =
        .ok (.v2 "/sys/fs/cgroup/app".toList) ∧
      (∃ error, ofTables [laterMount, containerMount] [containerEntry] =
        .error (.translate error)) ∧
      ∀ directory, ofTables [containerMount] [containerEntry, strayEntry] ≠
        .ok (.v2 directory) := by
  have hu : OnlyUnified [containerEntry] := by simp [OnlyUnified, containerEntry]
  have hf : IsFirst (·.fsType = "cgroup2".toList) [containerMount, laterMount] containerMount :=
    ⟨[], [laterMount], rfl, rfl, by simp⟩
  have hl : IsFirst (·.fsType = "cgroup2".toList) [laterMount, containerMount] laterMount :=
    ⟨[], [containerMount], rfl, rfl, by simp⟩
  have ht : containerMount.translate containerEntry.group = .ok "/sys/fs/cgroup/app".toList :=
    rfl
  refine ⟨hu, ?_, ?_, ?_⟩
  · rw [((of_tables_unified _ _).1 hu).2.2 containerEntry [] containerMount rfl hf, ht]
    rfl
  · rw [((of_tables_unified _ _).1 hu).2.2 containerEntry [] laterMount rfl hl]
    exact ⟨_, rfl⟩
  · exact (of_tables_unified _ _).2.2 strayEntry (by simp) (Or.inl (by decide))

end Groups
end CgroupLimits
