import CgroupLimits.Group.Discovery
import CgroupLimits.Proofs.Mount.Translation

/-!
# One directory a controller

The loops over mounts and options overwrite what they found before, and so
does the table of entries. What is left for a controller is named here without
them: the last entry that lists the controller, and the last mount that
exposes the group of that entry. A mount that does not expose it counts for
nothing, wherever it stands.
-/

set_option autoImplicit false

namespace CgroupLimits

namespace Directories

theorem find?_eq_some_iff (directories : Directories) (controller directory : Text) :
    directories.find? controller = some directory ↔
      (controller, directory) ∈ directories.entries := by
  obtain ⟨entries, hd⟩ := directories
  change entries.lookup controller = some directory ↔ (controller, directory) ∈ entries
  rw [List.lookup_eq_some_iff]
  constructor
  · rintro ⟨before, after, rfl, -⟩
    simp
  · intro hm
    obtain ⟨before, after, rfl⟩ := List.append_of_mem hm
    refine ⟨before, after, rfl, ?_⟩
    intro entry he
    rw [List.map_append, List.nodup_append] at hd
    have hn := hd.2.2 entry.1 (List.mem_map_of_mem he) controller (by simp)
    simpa using fun h => hn h.symm

theorem is_empty_iff (directories : Directories) :
    directories.isEmpty ↔ ∀ controller, directories.find? controller = none := by
  simp only [isEmpty, List.isEmpty_iff, Option.eq_none_iff_forall_ne_some, ne_eq,
    find?_eq_some_iff, List.eq_nil_iff_forall_not_mem, Prod.forall]

end Directories

def IsLast {α : Type} (p : α → Prop) (xs : List α) (x : α) : Prop :=
  ∃ before after, xs = before ++ x :: after ∧ p x ∧ ∀ y ∈ after, ¬ p y

namespace IsLast
variable {α : Type}

theorem mem {p : α → Prop} {xs : List α} {x : α} (h : IsLast p xs x) : x ∈ xs := by
  obtain ⟨before, after, rfl, -⟩ := h
  simp

theorem holds {p : α → Prop} {xs : List α} {x : α} (h : IsLast p xs x) : p x := by
  obtain ⟨_, _, _, hp, _⟩ := h
  exact hp

theorem congr {p q : α → Prop} (h : ∀ x, p x ↔ q x) (xs : List α) (x : α) :
    IsLast p xs x ↔ IsLast q xs x := by
  simp [IsLast, h]

end IsLast

theorem find_some?_reverse_eq_some_iff {α β : Type} (f : α → Option β) (xs : List α) (b : β) :
    xs.reverse.findSome? f = some b ↔
      ∃ x, IsLast (fun y => (f y).isSome) xs x ∧ f x = some b := by
  rw [List.findSome?_eq_some_iff]
  constructor
  · rintro ⟨after, x, before, hs, hx, ha⟩
    refine ⟨x, ⟨before.reverse, after.reverse, ?_, by simp [hx], ?_⟩, hx⟩
    · simpa using congrArg List.reverse hs
    · intro y hy
      simp [ha y (List.mem_reverse.mp hy)]
  · rintro ⟨x, ⟨before, after, rfl, -, ha⟩, hx⟩
    refine ⟨after.reverse, x, before.reverse, by simp, hx, ?_⟩
    intro y hy
    simpa using ha y (List.mem_reverse.mp hy)

namespace Groups

def Exposes (controller group : Text) (mount : MountPoint) : Prop :=
  mount.fsType = "cgroup".toList ∧ controller ∈ mount.superOptions ∧
    ∃ directory, mount.translate group = .ok directory

/-- The directory of a controller, by the last entry that lists it and the
last mount that exposes the group of this entry. -/
def Locates (mounts : List MountPoint) (entries : List Membership) (controller directory : Text) :
    Prop :=
  ∃ entry mount, IsLast (controller ∈ ·.controllers) entries entry ∧
    IsLast (Exposes controller entry.group) mounts mount ∧
    mount.translate entry.group = .ok directory

def place? (entries : List Membership) (controller : Text) (mount : MountPoint) : Option Text :=
  (entryFor? entries controller).bind fun entry => (mount.translate entry.group).toOption

def shown? (entries : List Membership) (controller : Text) (mount : MountPoint) : Option Text :=
  if mount.fsType = controllerFsType ∧ controller ∈ mount.superOptions then
    place? entries controller mount
  else none

theorem entry_for?_eq_some_iff (entries : List Membership) (controller : Text)
    (entry : Membership) :
    entryFor? entries controller = some entry ↔
      IsLast (controller ∈ ·.controllers) entries entry := by
  rw [entryFor?, List.find?_eq_findSome?_guard, find_some?_reverse_eq_some_iff]
  simp only [Option.isSome_guard, List.contains_iff_mem]
  constructor
  · rintro ⟨last, hl, hg⟩
    rw [Option.guard_eq_some_iff] at hg
    exact hg.1 ▸ hl
  · intro hl
    refine ⟨entry, hl, ?_⟩
    rw [Option.guard_eq_some_iff]
    exact ⟨rfl, by simpa using hl.holds⟩

theorem find?_add_controller (entries : List Membership) (mount : MountPoint)
    (found : Directories) (option controller : Text) :
    (addController entries mount found option).find? controller =
      if controller = option then (place? entries controller mount).or (found.find? controller)
      else found.find? controller := by
  by_cases hc : controller = option
  · subst option
    rw [addController, place?, if_pos rfl]
    cases entryFor? entries controller with
    | none => rfl
    | some entry =>
      cases ht : mount.translate entry.group with
      | error error => simp [ht, Except.toOption]
      | ok directory => simp [ht, Except.toOption, Directories.find?_insert]
  · rw [addController, if_neg hc]
    cases entryFor? entries option with
    | none => rfl
    | some entry =>
      cases ht : mount.translate entry.group with
      | error error => simp [ht]
      | ok directory => simp [ht, Directories.find?_insert, hc]

theorem find?_add_options (entries : List Membership) (mount : MountPoint) (found : Directories)
    (options : List Text) (controller : Text) :
    (options.foldl (addController entries mount) found).find? controller =
      if controller ∈ options then (place? entries controller mount).or (found.find? controller)
      else found.find? controller := by
  induction options generalizing found with
  | nil => rfl
  | cons option options ih =>
    rw [List.foldl_cons, ih, find?_add_controller]
    by_cases hc : controller = option
    · subst option
      -- A repeated option is placed again, in the same directory.
      by_cases hm : controller ∈ options <;> simp [hm, ← Option.or_assoc]
    · simp [hc]

theorem find?_add_mount (entries : List Membership) (found : Directories) (mount : MountPoint)
    (controller : Text) :
    (addMount entries found mount).find? controller =
      (shown? entries controller mount).or (found.find? controller) := by
  rw [addMount, shown?]
  by_cases ht : mount.fsType = controllerFsType
  · rw [if_pos ht, find?_add_options]
    by_cases hm : controller ∈ mount.superOptions <;> simp [ht, hm]
  · simp [ht]

theorem find?_add_mounts (mounts : List MountPoint) (entries : List Membership)
    (found : Directories) (controller : Text) :
    (mounts.foldl (addMount entries) found).find? controller =
      (mounts.reverse.findSome? (shown? entries controller)).or (found.find? controller) := by
  induction mounts generalizing found with
  | nil => rfl
  | cons mount mounts ih =>
    rw [List.foldl_cons, ih, find?_add_mount, List.reverse_cons, List.findSome?_append,
      List.findSome?_singleton, Option.or_assoc]

theorem find?_per_controller (mounts : List MountPoint) (entries : List Membership)
    (controller : Text) :
    (perController mounts entries).find? controller =
      mounts.reverse.findSome? (shown? entries controller) := by
  have he : Directories.empty.find? controller = none := rfl
  rw [perController, find?_add_mounts, he, Option.or_none]

theorem shown?_eq_some_iff {entries : List Membership} {controller : Text} {entry : Membership}
    (h : entryFor? entries controller = some entry) (mount : MountPoint) (directory : Text) :
    shown? entries controller mount = some directory ↔
      mount.fsType = controllerFsType ∧ controller ∈ mount.superOptions ∧
        mount.translate entry.group = .ok directory := by
  rw [shown?, place?, h, Option.bind_some]
  cases mount.translate entry.group <;> simp [Except.toOption, and_assoc]

theorem is_some_shown?_iff {entries : List Membership} {controller : Text} {entry : Membership}
    (h : entryFor? entries controller = some entry) (mount : MountPoint) :
    (shown? entries controller mount).isSome ↔ Exposes controller entry.group mount := by
  simp only [Option.isSome_iff_exists, shown?_eq_some_iff h, exists_and_left]
  rfl

/-- The table built by the loops holds exactly what the last entry and the last
exposing mount say. -/
theorem find?_per_controller_eq_some_iff (mounts : List MountPoint) (entries : List Membership)
    (controller directory : Text) :
    (perController mounts entries).find? controller = some directory ↔
      Locates mounts entries controller directory := by
  rw [find?_per_controller, find_some?_reverse_eq_some_iff]
  constructor
  · rintro ⟨mount, hl, hs⟩
    cases hf : entryFor? entries controller with
    | none => simp [shown?, place?, hf] at hs
    | some entry =>
      refine ⟨entry, mount, (entry_for?_eq_some_iff _ _ _).mp hf, ?_, ?_⟩
      · exact (IsLast.congr (is_some_shown?_iff hf) mounts mount).mp hl
      · exact ((shown?_eq_some_iff hf mount directory).mp hs).2.2
  · rintro ⟨entry, mount, hf, hl, ht⟩
    rw [← entry_for?_eq_some_iff] at hf
    refine ⟨mount, (IsLast.congr (is_some_shown?_iff hf) mounts mount).mpr hl, ?_⟩
    exact (shown?_eq_some_iff hf mount directory).mpr ⟨hl.holds.1, hl.holds.2.1, ht⟩

theorem of_tables_eq_per_controller (mounts : List MountPoint) {entries : List Membership}
    (h : ∃ entry ∈ entries, entry.isUnified = false) :
    ofTables mounts entries =
      if (perController mounts entries).isEmpty then .error .notMounted
      else .ok (.v1 (perController mounts entries)) := by
  have ha : ¬ entries.all Membership.isUnified = true := by
    rw [Bool.not_eq_true, List.all_eq_false]
    obtain ⟨entry, hm, hu⟩ := h
    exact ⟨entry, hm, by simp [hu]⟩
  rw [ofTables, if_neg ha]

theorem per_controller_is_empty_iff (mounts : List MountPoint) (entries : List Membership) :
    (perController mounts entries).isEmpty ↔
      ¬ ∃ controller directory, Locates mounts entries controller directory := by
  simp only [Directories.is_empty_iff, Option.eq_none_iff_forall_ne_some, ne_eq,
    find?_per_controller_eq_some_iff, not_exists]

def Finds (mounts : List MountPoint) (entries : List Membership) (controller directory : Text) :
    Prop :=
  ∃ directories, ofTables mounts entries = .ok (.v1 directories) ∧
    directories.find? controller = some directory

theorem finds_iff {mounts : List MountPoint} {entries : List Membership}
    (h : ∃ entry ∈ entries, entry.isUnified = false) (controller directory : Text) :
    Finds mounts entries controller directory ↔
      (perController mounts entries).find? controller = some directory := by
  rw [Finds, of_tables_eq_per_controller mounts h]
  constructor
  · rintro ⟨directories, hd, hf⟩
    split at hd
    · cases hd
    · cases hd
      exact hf
  · intro hf
    have hn : ¬ (perController mounts entries).isEmpty = true := by
      rw [Directories.is_empty_iff]
      intro hn
      rw [hn controller] at hf
      cases hf
    exact ⟨perController mounts entries, if_neg hn, hf⟩

theorem find?_per_controller_unexposed (before after : List MountPoint) (mount : MountPoint)
    (entries : List Membership) (controller : Text)
    (h : ∀ entry, IsLast (controller ∈ ·.controllers) entries entry →
      ∀ directory, mount.translate entry.group ≠ .ok directory) :
    (perController (before ++ mount :: after) entries).find? controller =
      (perController (before++after) entries).find? controller := by
  have hs : shown? entries controller mount = none := by
    rw [Option.eq_none_iff_forall_ne_some]
    intro directory hd
    cases he : entryFor? entries controller with
    | none => simp [shown?, place?, he] at hd
    | some entry =>
      have ht := ((shown?_eq_some_iff he mount directory).mp hd).2.2
      exact h entry ((entry_for?_eq_some_iff _ _ _).mp he) directory ht
  simp [find?_per_controller, List.findSome?_append, hs]

/-- Discovery with an entry outside the unified hierarchy: the controllers that
are located, and an error only where none is. -/
theorem of_tables_eq_located (mounts : List MountPoint) (entries : List Membership)
    (h : ∃ entry ∈ entries, entry.isUnified = false) :
    ((∃ controller directory, Locates mounts entries controller directory) →
      ∃ directories, ofTables mounts entries = .ok (.v1 directories) ∧
        ∀ controller directory, directories.find? controller = some directory ↔
          Locates mounts entries controller directory) ∧
    ((¬ ∃ controller directory, Locates mounts entries controller directory) →
      ofTables mounts entries = .error .notMounted) ∧
    (∀ error, ofTables mounts entries ≠ .error (.translate error)) ∧
    ∀ before mount after controller directory, mounts = before ++ mount :: after →
      (∀ entry, IsLast (controller ∈ ·.controllers) entries entry →
        ∀ place, mount.translate entry.group ≠ .ok place) →
      (Finds mounts entries controller directory ↔
        Finds (before++after) entries controller directory) := by
  have ht := of_tables_eq_per_controller mounts h
  refine ⟨?_, ?_, ?_, ?_⟩
  · intro hl
    rw [if_neg (by rw [per_controller_is_empty_iff]; exact not_not_intro hl)] at ht
    exact ⟨_, ht, find?_per_controller_eq_some_iff mounts entries⟩
  · intro hl
    rw [ht, if_pos ((per_controller_is_empty_iff mounts entries).mpr hl)]
  · intro error
    rw [ht]
    split <;> simp
  · rintro before mount after controller directory rfl hu
    rw [finds_iff h, finds_iff h, find?_per_controller_unexposed before after mount entries _ hu]

def cpuEntry : Membership where
  hierarchyId := 2
  controllers := ["cpu".toList]
  group := "/docker/abc/large".toList

def cpuMount (root mountPoint : Text) : MountPoint where
  mountId := 31
  parentId := 23
  deviceId := "0:24".toList
  root := root
  mountPoint := mountPoint
  options := ["rw".toList]
  optionalFields := []
  fsType := "cgroup".toList
  mountSource := "cgroup".toList
  superOptions := ["rw".toList, "cpu".toList]

def exposingMount : MountPoint := cpuMount "/docker/abc".toList "/sys/fs/cgroup/cpu".toList

def siblingMount : MountPoint := cpuMount "/docker/abc-x".toList "/mnt".toList

theorem of_tables_eq_located_before_sibling :
    (∃ entry ∈ [cpuEntry], entry.isUnified = false) ∧
      ∃ directories, ofTables [exposingMount, siblingMount] [cpuEntry] = .ok (.v1 directories) ∧
        directories.find? "cpu".toList = some "/sys/fs/cgroup/cpu/large".toList := by
  have hu : ∃ entry ∈ [cpuEntry], entry.isUnified = false := by decide
  have ht : exposingMount.translate cpuEntry.group = .ok "/sys/fs/cgroup/cpu/large".toList := by
    decide
  have hs : ∀ directory, siblingMount.translate cpuEntry.group ≠ .ok directory := by
    intro directory hd
    cases hd
  have hl : Locates [exposingMount, siblingMount] [cpuEntry] "cpu".toList
      "/sys/fs/cgroup/cpu/large".toList := by
    refine ⟨cpuEntry, exposingMount, ⟨[], [], rfl, by decide, by simp⟩, ?_, ht⟩
    refine ⟨[], [siblingMount], rfl, ⟨rfl, by decide, _, ht⟩, ?_⟩
    intro mount hm hx
    obtain ⟨directory, hd⟩ := hx.2.2
    exact hs directory (List.mem_singleton.mp hm ▸ hd)
  obtain ⟨directories, hd, hf⟩ := (of_tables_eq_located _ _ hu).1 ⟨_, _, hl⟩
  exact ⟨hu, directories, hd, (hf _ _).mpr hl⟩

end Groups
end CgroupLimits
