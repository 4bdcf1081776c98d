import CgroupLimits.Proofs.Group.PerController

/-!
# When the order of the tables does not matter

The last mount and the last entry win, so in general the order of the two
tables decides. It does not decide which controllers there are, and it decides
nothing where no two rows compete: where each group is shown by one mount, and
where the entries that list a controller name one group.
-/

set_option autoImplicit false

namespace CgroupLimits

theorem IsLast.exists_iff {α : Type} (p : α → Prop) (xs : List α) :
    (∃ x, IsLast p xs x) ↔ ∃ x ∈ xs, p x := by
  constructor
  · rintro ⟨x, h⟩
    exact ⟨x, h.mem, h.holds⟩
  · intro h
    induction xs with
    | nil => simp at h
    | cons x xs ih =>
      by_cases hx : ∃ y ∈ xs, p y
      · obtain ⟨y, before, after, hs, hy, ha⟩ := ih hx
        exact ⟨y, x :: before, after, congrArg _ hs, hy, ha⟩
      · have hp : p x := by
          obtain ⟨y, hy, hp⟩ := h
          rcases List.mem_cons.mp hy with rfl | hy
          · exact hp
          · exact absurd ⟨y, hy, hp⟩ hx
        exact ⟨x, [], xs, rfl, hp, fun y hy hp => hx ⟨y, hy, hp⟩⟩

namespace Groups

inductive Alike (alike : Directories → Directories → Prop) :
    Except GroupError Groups → Except GroupError Groups → Prop
  | found {first second : Directories} (h : alike first second) :
      Alike alike (.ok (.v1 first)) (.ok (.v1 second))
  | notMounted : Alike alike (.error .notMounted) (.error .notMounted)

def SameControllers (first second : Directories) : Prop :=
  ∀ controller, (first.find? controller).isSome ↔ (second.find? controller).isSome

def SameDirectories (first second : Directories) : Prop :=
  ∀ controller, first.find? controller = second.find? controller

def ExposedOnce (mounts : List MountPoint) (entries : List Membership) : Prop :=
  ∀ controller entry, IsLast (controller ∈ ·.controllers) entries entry →
    ∀ mount ∈ mounts, ∀ other ∈ mounts, Exposes controller entry.group mount →
      Exposes controller entry.group other → mount = other

/-- No controller is listed with two groups. -/
def ListedOnce (entries : List Membership) : Prop :=
  ∀ entry ∈ entries, ∀ other ∈ entries, ∀ controller ∈ entry.controllers,
    controller ∈ other.controllers → entry.group = other.group

section Mounts
variable {mounts others : List MountPoint}

theorem is_some_find?_per_controller_iff (mounts : List MountPoint) (entries : List Membership)
    (controller : Text) :
    ((perController mounts entries).find? controller).isSome ↔
      ∃ entry, IsLast (controller ∈ ·.controllers) entries entry ∧
        ∃ mount ∈ mounts, Exposes controller entry.group mount := by
  simp only [Option.isSome_iff_exists, find?_per_controller_eq_some_iff]
  constructor
  · rintro ⟨directory, entry, mount, hl, hm, -⟩
    exact ⟨entry, hl, mount, hm.mem, hm.holds⟩
  · rintro ⟨entry, hl, hm⟩
    obtain ⟨mount, hx⟩ := (IsLast.exists_iff _ _).mpr hm
    obtain ⟨directory, hd⟩ := hx.holds.2.2
    exact ⟨directory, entry, mount, hl, hx, hd⟩

theorem same_controllers_of_perm (h : mounts.Perm others) (entries : List Membership) :
    SameControllers (perController mounts entries) (perController others entries) := by
  intro controller
  simp only [is_some_find?_per_controller_iff, h.mem_iff]

theorem locates_of_perm (h : mounts.Perm others) {entries : List Membership}
    (ho : ExposedOnce mounts entries) {controller directory : Text}
    (hl : Locates mounts entries controller directory) :
    Locates others entries controller directory := by
  obtain ⟨entry, mount, he, hm, hd⟩ := hl
  obtain ⟨other, hx⟩ := (IsLast.exists_iff (Exposes controller entry.group) others).mpr
    ⟨mount, h.mem_iff.mp hm.mem, hm.holds⟩
  have hs := ho controller entry he mount hm.mem other (h.mem_iff.mpr hx.mem) hm.holds hx.holds
  exact ⟨entry, mount, he, hs ▸ hx, hd⟩

theorem same_directories_of_perm (h : mounts.Perm others) {entries : List Membership}
    (ho : ExposedOnce mounts entries) :
    SameDirectories (perController mounts entries) (perController others entries) := by
  have hp : ExposedOnce others entries := by
    intro controller entry he mount hm other hn
    exact ho controller entry he mount (h.mem_iff.mpr hm) other (h.mem_iff.mpr hn)
  intro controller
  apply Option.ext
  intro directory
  rw [find?_per_controller_eq_some_iff, find?_per_controller_eq_some_iff]
  exact ⟨locates_of_perm h ho, locates_of_perm h.symm hp⟩

theorem alike_of_tables {entries : List Membership} (h : ∃ entry ∈ entries, entry.isUnified = false)
    {alike : Directories → Directories → Prop}
    (hs : SameControllers (perController mounts entries) (perController others entries))
    (ha : alike (perController mounts entries) (perController others entries)) :
    Alike alike (ofTables mounts entries) (ofTables others entries) := by
  have he : (perController mounts entries).isEmpty ↔ (perController others entries).isEmpty := by
    simp only [Directories.is_empty_iff, ← Option.not_isSome_iff_eq_none, hs _]
  rw [of_tables_eq_per_controller mounts h, of_tables_eq_per_controller others h]
  by_cases hm : (perController mounts entries).isEmpty
  · rw [if_pos hm, if_pos (he.mp hm)]
    exact .notMounted
  · rw [if_neg hm, if_neg (mt he.mpr hm)]
    exact .found ha

end Mounts

section Entries
variable {entries others : List Membership}

theorem per_controller_congr (mounts : List MountPoint)
    (h : ∀ controller, (entryFor? entries controller).map (·.group) =
      (entryFor? others controller).map (·.group)) :
    perController mounts entries = perController mounts others := by
  have ha : addController entries = addController others := by
    funext mount found controller
    have hc := h controller
    rw [addController, addController]
    cases he : entryFor? entries controller <;> cases ho : entryFor? others controller <;>
      simp_all
  have hm : addMount entries = addMount others := by
    funext found mount
    rw [addMount, addMount, ha]
  rw [perController, perController, hm]

theorem entry_for?_group_eq_some_iff (hl : ListedOnce entries) (controller group : Text) :
    (entryFor? entries controller).map (·.group) = some group ↔
      ∃ entry ∈ entries, controller ∈ entry.controllers ∧ entry.group = group := by
  simp only [Option.map_eq_some_iff, entry_for?_eq_some_iff]
  constructor
  · rintro ⟨entry, he, hg⟩
    exact ⟨entry, he.mem, he.holds, hg⟩
  · rintro ⟨entry, hm, hc, hg⟩
    obtain ⟨last, he⟩ :=
      (IsLast.exists_iff (controller ∈ ·.controllers) entries).mpr ⟨entry, hm, hc⟩
    exact ⟨last, he, (hl last he.mem entry hm controller he.holds hc).trans hg⟩

theorem entry_for?_group_of_perm (h : entries.Perm others) (hl : ListedOnce entries)
    (controller : Text) :
    (entryFor? entries controller).map (·.group) = (entryFor? others controller).map (·.group) := by
  have ho : ListedOnce others := by
    intro entry he other hm
    exact hl entry (h.mem_iff.mpr he) other (h.mem_iff.mpr hm)
  apply Option.ext
  intro group
  rw [entry_for?_group_eq_some_iff hl, entry_for?_group_eq_some_iff ho]
  simp only [h.mem_iff]

theorem entry_for?_filter (entries : List Membership) (controller : Text) :
    entryFor? (entries.filter fun entry => !entry.isUnified) controller =
      entryFor? entries controller := by
  have hc : ∀ entry : Membership,
      decide ((!entry.isUnified) = true ∧ entry.controllers.contains controller = true) =
        entry.controllers.contains controller := by
    intro entry
    by_cases he : entry.controllers = [] <;> simp [Membership.isUnified, he]
  rw [entryFor?, entryFor?, ← List.filter_reverse, List.find?_filter]
  simp only [hc]

end Entries

theorem per_controller_filter (mounts : List MountPoint) (entries : List Membership) :
    perController (mounts.filter fun mount => decide (mount.fsType = "cgroup".toList)) entries =
      perController mounts entries := by
  have hm : ∀ found mount,
      (if decide (mount.fsType = "cgroup".toList) = true then addMount entries found mount
        else found) = addMount entries found mount := by
    intro found mount
    rw [addMount]
    by_cases ht : mount.fsType = "cgroup".toList
    · rw [if_pos (decide_eq_true ht)]
    · rw [if_neg (by simpa using ht)]
      exact (if_neg ht).symm
  rw [perController, perController, List.foldl_filter]
  simp only [hm]

/-- What of the order and of the rows does not count. -/
theorem of_tables_order_independent (mounts : List MountPoint) (entries : List Membership)
    (h : ∃ entry ∈ entries, entry.isUnified = false) :
    (∀ others, mounts.Perm others →
      Alike SameControllers (ofTables mounts entries) (ofTables others entries) ∧
      (ExposedOnce mounts entries →
        Alike SameDirectories (ofTables mounts entries) (ofTables others entries))) ∧
    (∀ others, entries.Perm others → ListedOnce entries →
      ofTables mounts others = ofTables mounts entries) ∧
    ofTables (mounts.filter fun mount => decide (mount.fsType = "cgroup".toList))
      (entries.filter fun entry => !entry.isUnified) = ofTables mounts entries := by
  refine ⟨?_, ?_, ?_⟩
  · intro others hp
    have hs := same_controllers_of_perm hp entries
    exact ⟨alike_of_tables h hs hs, fun ho => alike_of_tables h hs (same_directories_of_perm hp ho)⟩
  · intro others hp hl
    have ho : ∃ entry ∈ others, entry.isUnified = false := by
      simpa only [hp.mem_iff] using h
    rw [of_tables_eq_per_controller mounts h, of_tables_eq_per_controller mounts ho,
      per_controller_congr mounts (entry_for?_group_of_perm hp hl)]
  · have hf : ∃ entry ∈ entries.filter fun entry => !entry.isUnified, entry.isUnified = false := by
      obtain ⟨entry, hm, hu⟩ := h
      exact ⟨entry, List.mem_filter.mpr ⟨hm, by simp [hu]⟩, hu⟩
    have hg : ∀ controller,
        (entryFor? (entries.filter fun entry => !entry.isUnified) controller).map (·.group) =
          (entryFor? entries controller).map (·.group) := by
      intro controller
      rw [entry_for?_filter]
    rw [of_tables_eq_per_controller mounts h, of_tables_eq_per_controller _ hf,
      per_controller_filter, per_controller_congr mounts hg]

def unifiedEntry : Membership where
  hierarchyId := 0
  controllers := []
  group := "/".toList

def repeatedEntry : Membership := { cpuEntry with hierarchyId := 3 }

def diskMount : MountPoint := { exposingMount with fsType := "ext4".toList }

def rivalMounts : List MountPoint := [siblingMount, diskMount, exposingMount]

def rivalEntries : List Membership := [cpuEntry, unifiedEntry, repeatedEntry]

def rivalDirectories : Directories where
  entries := [("cpu".toList, "/sys/fs/cgroup/cpu/large".toList)]
  distinct := by simp

theorem eq_cpu_entry_group {entry : Membership} {controller : Text} (hm : entry ∈ rivalEntries)
    (hc : controller ∈ entry.controllers) : entry.group = cpuEntry.group := by
  simp only [rivalEntries, List.mem_cons, List.not_mem_nil, or_false] at hm
  rcases hm with rfl | rfl | rfl
  · rfl
  · cases hc
  · rfl

theorem exposed_once_rivals : ExposedOnce rivalMounts rivalEntries := by
  have hx : ∀ controller, ∀ mount ∈ rivalMounts, Exposes controller cpuEntry.group mount →
      mount = exposingMount := by
    intro controller mount hm he
    simp only [rivalMounts, List.mem_cons, List.not_mem_nil, or_false] at hm
    rcases hm with rfl | rfl | rfl
    · obtain ⟨-, -, directory, hd⟩ := he
      cases hd
    · exact absurd he.1 (by decide)
    · rfl
  intro controller entry he mount hm other ho hxm hxo
  rw [eq_cpu_entry_group he.mem he.holds] at hxm hxo
  exact (hx controller mount hm hxm).trans (hx controller other ho hxo).symm

theorem of_tables_order_independent_rivals :
    (∃ entry ∈ rivalEntries, entry.isUnified = false) ∧
      rivalMounts.Perm rivalMounts.reverse ∧ ExposedOnce rivalMounts rivalEntries ∧
      rivalEntries.Perm rivalEntries.reverse ∧ ListedOnce rivalEntries ∧
      Alike SameDirectories (.ok (.v1 rivalDirectories))
        (ofTables rivalMounts.reverse rivalEntries) ∧
      ofTables rivalMounts rivalEntries.reverse = .ok (.v1 rivalDirectories) ∧
      ofTables [siblingMount, exposingMount] [cpuEntry, repeatedEntry] =
        .ok (.v1 rivalDirectories) := by
  have h : ∃ entry ∈ rivalEntries, entry.isUnified = false := by decide
  have hm : rivalMounts.Perm rivalMounts.reverse := (List.reverse_perm _).symm
  have he : rivalEntries.Perm rivalEntries.reverse := (List.reverse_perm _).symm
  have hl : ListedOnce rivalEntries := by
    intro entry hx other hy controller hc hd
    exact (eq_cpu_entry_group hx hc).trans (eq_cpu_entry_group hy hd).symm
  have ho : ofTables rivalMounts rivalEntries = .ok (.v1 rivalDirectories) := by decide +kernel
  have hi := of_tables_order_independent rivalMounts rivalEntries h
  rw [ho] at hi
  refine ⟨h, hm, exposed_once_rivals, he, hl, ?_, ?_, ?_⟩
  · exact (hi.1 _ hm).2 exposed_once_rivals
  · exact hi.2.1 _ he hl
  · exact hi.2.2

end Groups
end CgroupLimits
