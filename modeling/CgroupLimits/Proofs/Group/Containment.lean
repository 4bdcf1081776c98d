import CgroupLimits.Proofs.Group.PerController
import CgroupLimits.Proofs.Stages

/-!
# Groups stay within their mounts

Whatever bytes the two files hold, a directory that discovery returns is
written with plain names only and lies at or below the mount point of an entry
of the mount table, as far below as the group lies below the root of that
mount. So no spelling of a path leads out of the mount.
-/

set_option autoImplicit false

namespace CgroupLimits.Groups
open CgroupLimits

/-- The directory lies below the mount point as the group lies below the root. -/
structure ShownAt (mount : MountPoint) (group directory : Text) : Prop where
  absolute : ['/'] <+: directory
  plain : ∀ name ∈ Path.names directory, name ≠ [] ∧ name ≠ ['.'] ∧ name ≠ ['.', '.']
  below : ∃ rest, Path.names directory = Path.normalize mount.mountPoint ++ rest ∧
    Path.normalize group = Path.normalize mount.root ++ rest

def Contained (mounts : List MountPoint) (entries : List Membership) : Groups → Prop
  | .v1 directories => ∀ controller directory, (controller, directory) ∈ directories.entries →
      ∃ mount ∈ mounts, ∃ entry ∈ entries, mount.fsType = "cgroup".toList ∧
        controller ∈ mount.superOptions ∧ controller ∈ entry.controllers ∧
        ShownAt mount entry.group directory
  | .v2 directory => ∃ mount ∈ mounts, ∃ entry ∈ entries, mount.fsType = "cgroup2".toList ∧
      entry.isUnified ∧ ShownAt mount entry.group directory

theorem shown_at_of_translate {mount : MountPoint} {group directory : Text}
    (h : mount.translate group = .ok directory) : ShownAt mount group directory := by
  obtain ⟨-, rest, hr, rfl⟩ := (MountPoint.translate_eq_ok_iff mount group directory).mp h
  have hn := MountPoint.is_name_of_below hr
  have ha := Path.names_absolute hn
  constructor
  · show ['/'] <+: '/' :: _
    exact List.prefix_append ['/'] _
  · intro name hm
    have hi := hn name (ha ▸ hm)
    exact ⟨hi.1, hi.2.1, hi.2.2.1⟩
  · exact ⟨rest, ha, hr⟩

theorem unified_eq_ok {mounts : List MountPoint} {entries : List Membership} {groups : Groups}
    (h : unified mounts entries = .ok groups) :
    ∃ entry mount directory, entry ∈ entries ∧ mount ∈ mounts ∧
      mount.fsType = "cgroup2".toList ∧ mount.translate entry.group = .ok directory ∧
      groups = .v2 directory := by
  rw [unified] at h
  split at h
  · rename_i entry mount he hm
    have ht := List.find?_some hm
    split at h
    · rename_i directory hd
      exact ⟨entry, mount, directory, List.mem_of_head? he, List.mem_of_find?_eq_some hm,
        eq_of_beq ht, hd, (Except.ok.inj h).symm⟩
    · cases h
  · cases h

theorem of_tables_eq_ok {mounts : List MountPoint} {entries : List Membership} {groups : Groups}
    (h : ofTables mounts entries = .ok groups) :
    groups = .v1 (perController mounts entries) ∨
      entries.all Membership.isUnified ∧ unified mounts entries = .ok groups := by
  rw [ofTables] at h
  split at h
  · rename_i hu
    exact Or.inr ⟨hu, h⟩
  · dsimp only at h
    split at h
    · cases h
    · exact Or.inl (Except.ok.inj h).symm

theorem of_tables_contained {mounts : List MountPoint} {entries : List Membership}
    {groups : Groups} (h : ofTables mounts entries = .ok groups) :
    Contained mounts entries groups := by
  rcases of_tables_eq_ok h with rfl | ⟨hu, hg⟩
  · intro controller directory hc
    rw [← Directories.find?_eq_some_iff, find?_per_controller_eq_some_iff] at hc
    obtain ⟨entry, mount, hl, hx, hd⟩ := hc
    exact ⟨mount, hx.mem, entry, hl.mem, hx.holds.1, hx.holds.2.1, hl.holds,
      shown_at_of_translate hd⟩
  · obtain ⟨entry, mount, directory, he, hm, hs, hd, rfl⟩ := unified_eq_ok hg
    exact ⟨mount, hm, entry, he, hs, List.all_eq_true.mp hu entry he, shown_at_of_translate hd⟩

theorem of_sources_eq_ok {mountTable membership : Source} {groups : Groups}
    (h : ofSources mountTable membership = .ok groups) :
    ∃ mounts entries, MountTable.read mountTable = .ok mounts ∧
      MembershipTable.read membership = .ok entries ∧ ofTables mounts entries = .ok groups := by
  obtain ⟨mounts, hm, h⟩ := bind_eq_ok.mp h
  obtain ⟨entries, he, h⟩ := bind_eq_ok.mp h
  exact ⟨mounts, entries, map_error_eq_ok.mp hm, he, h⟩

/-- No bytes of the two files lead out of the mounts. -/
theorem of_sources_contained (mountTable membership : Source) (groups : Groups)
    (h : ofSources mountTable membership = .ok groups) :
    ∃ mounts entries, MountTable.read mountTable = .ok mounts ∧
      MembershipTable.read membership = .ok entries ∧ Contained mounts entries groups := by
  obtain ⟨mounts, entries, hm, he, ht⟩ := of_sources_eq_ok h
  exact ⟨mounts, entries, hm, he, of_tables_contained ht⟩

def windingTable : Source where
  content := Utf8.encode ("31 23 0:24 /docker/. /sys//cpu\\040x/../../cgroup\\134/ rw - " ++
    "cgroup cgroup rw,cpu\n").toList

def windingMembership : Source where
  content := Utf8.encode "2:cpu:/a/../docker/b//../c/\n".toList

def windingDirectories : Directories where
  entries := [("cpu".toList, "/cgroup\\/c".toList)]
  distinct := by simp

theorem of_sources_contained_winding :
    ofSources windingTable windingMembership = .ok (.v1 windingDirectories) ∧
      ∃ mounts entries, MountTable.read windingTable = .ok mounts ∧
        MembershipTable.read windingMembership = .ok entries ∧
        Contained mounts entries (.v1 windingDirectories) :=
  have h : ofSources windingTable windingMembership = .ok (.v1 windingDirectories) := by
    decide +kernel
  ⟨h, of_sources_contained _ _ _ h⟩

end CgroupLimits.Groups
