import CgroupLimits.Group.Discovery
import CgroupLimits.Proofs.Files.LineIsolation

/-!
# Lines that discovery passes over

A blank line of the mount table, or the line of a mount that holds no groups,
may be put in or taken out behind any line feed: the groups of the process
stay the same, and so does the error if there is one. What else such a line
says does not matter.
-/

set_option autoImplicit false

namespace CgroupLimits

structure MountPoint.IsUnrelated (mount : MountPoint) : Prop where
  notController : mount.fsType ≠ "cgroup".toList
  notUnified : mount.fsType ≠ "cgroup2".toList

namespace Groups
variable {before after : List MountPoint} {mount : MountPoint}

theorem per_controller_unrelated (h : mount.IsUnrelated) (entries : List Membership) :
    perController (before ++ mount :: after) entries = perController (before++after) entries := by
  have hn : ∀ found, addMount entries found mount = found := fun _ => if_neg h.notController
  simp only [perController, List.foldl_append, List.foldl_cons, hn]

theorem unified_unrelated (h : mount.IsUnrelated) (entries : List Membership) :
    unified (before ++ mount :: after) entries = unified (before++after) entries := by
  have hn : (mount.fsType == unifiedFsType) = false := beq_eq_false_iff_ne.mpr h.notUnified
  have hf : (before ++ mount :: after).find? (·.fsType == unifiedFsType) =
      (before++after).find? (·.fsType == unifiedFsType) := by
    rw [List.find?_append, List.find?_cons, hn, List.find?_append]
  simp only [unified, hf]

theorem of_tables_unrelated (h : mount.IsUnrelated) (entries : List Membership) :
    ofTables (before ++ mount :: after) entries = ofTables (before++after) entries := by
  simp only [ofTables, per_controller_unrelated h, unified_unrelated h]

end Groups

namespace MountTable

inductive IsSilent (line : Bytes) : Prop
  | blank (isBlank : (Utf8.decodeLossy line).isAllBlank)
  | unrelated (mount : MountPoint) (reads : readBytes line = .ok [mount])
      (isUnrelated : mount.IsUnrelated)

variable (first rest : Bytes) (fault : Option IoFault)

/-- The first part ends in front of a line feed, so it arrives in whole, even
if the reading breaks off later. -/
theorem read_append :
    read { content := first ++ lineFeed :: rest, fault } =
      followedBy (readBytes first) (read { content := rest, fault }) := by
  cases fault with
  | none => exact read_bytes_append first rest
  | some fault =>
    rw [read_broken, read_broken, Source.finished_lines_append, of_lines_append,
      map_error_followed_by, ← read_bytes_eq, followed_by_assoc]

theorem read_of_ended {first : Bytes} (h : first = [] ∨ first.getLast? = some lineFeed) :
    read { content := first ++ rest, fault } =
      followedBy (readBytes first) (read { content := rest, fault }) := by
  rcases h with rfl | h
  · exact (nil_followed_by _).symm
  · obtain ⟨front, rfl⟩ := List.getLast?_eq_some_iff.mp h
    have hf : readBytes (front ++ [lineFeed]) = readBytes front :=
      (read_bytes_append front []).trans (followed_by_nil _)
    rw [hf, List.append_assoc, List.singleton_append, read_append]

end MountTable

namespace Groups

/-- Putting a silent line behind a line feed changes neither the groups nor the
error, also where the reading of the table breaks off. -/
theorem of_sources_silent_line {first line : Bytes}
    (hf : first = [] ∨ first.getLast? = some lineFeed) (hl : lineFeed ∉ line)
    (hs : MountTable.IsSilent line) (rest : Bytes) (fault : Option IoFault)
    (membership : Source) :
    ofSources { content := first ++ line ++ lineFeed :: rest, fault } membership =
      ofSources { content := first ++ rest, fault } membership := by
  rw [ofSources, ofSources, List.append_assoc, MountTable.read_of_ended _ _ hf,
    MountTable.read_of_ended _ _ hf, MountTable.read_append]
  cases hs with
  | blank hb => rw [MountTable.read_bytes_blank_line hl hb, nil_followed_by]
  | unrelated mount hr hu =>
    rw [hr]
    cases MountTable.readBytes first with
    | error error => rfl
    | ok before =>
      cases MountTable.read { content := rest, fault } with
      | error error => rfl
      | ok after =>
        show (do
          let entries ← MembershipTable.read membership
          ofTables (before ++ mount :: after) entries) = _
        simp only [of_tables_unrelated hu]
        rfl

def hierarchyLine : Bytes :=
  Utf8.encode "31 23 0:24 /docker /sys/fs/cgroup/cpu rw - cgroup cgroup rw,cpu\n".toList

def lookalikeLine : Bytes :=
  Utf8.encode "50 1 8:17 /docker /caf".toList ++ [0xE2, 0x82] ++
    Utf8.encode " rw - vfat cpu rw,cpu\r".toList

def lookalikeMount : MountPoint where
  mountId := 50
  parentId := 1
  deviceId := "8:17".toList
  root := "/docker".toList
  mountPoint := "/caf\ufffd".toList
  options := ["rw".toList]
  optionalFields := []
  fsType := "vfat".toList
  mountSource := "cpu".toList
  superOptions := ["rw".toList, "cpu".toList]

def wideBlank : Bytes := Utf8.encode "\u3000\t\r".toList

def dockerMembership : Source where
  content := Utf8.encode "2:cpu:/docker/a\n".toList

def dockerDirectories : Directories where
  entries := [("cpu".toList, "/sys/fs/cgroup/cpu/a".toList)]
  distinct := by simp

theorem of_sources_silent_line_lookalike :
    hierarchyLine.getLast? = some lineFeed ∧
      lineFeed ∉ lookalikeLine ∧ MountTable.IsSilent lookalikeLine ∧
      lineFeed ∉ wideBlank ∧ MountTable.IsSilent wideBlank ∧
      ofSources { content := hierarchyLine ++ lookalikeLine ++ lineFeed :: [] } dockerMembership =
        .ok (.v1 dockerDirectories) ∧
      ofSources { content := [] ++ wideBlank ++ lineFeed :: [0x78] } dockerMembership =
        .error (.mountTable (.line (.malformed ['x']))) := by
  have hf : hierarchyLine.getLast? = some lineFeed := by decide +kernel
  have hs : lineFeed ∉ lookalikeLine := by decide +kernel
  have hi : MountTable.IsSilent lookalikeLine :=
    .unrelated lookalikeMount (by decide +kernel) ⟨by decide, by decide⟩
  have hw : lineFeed ∉ wideBlank := by decide
  have hb : MountTable.IsSilent wideBlank := .blank (by decide +kernel)
  refine ⟨hf, hs, hi, hw, hb, ?_, ?_⟩
  · rw [of_sources_silent_line (Or.inr hf) hs hi]
    decide +kernel
  · rw [of_sources_silent_line (Or.inl rfl) hw hb]
    decide +kernel

end Groups
end CgroupLimits
