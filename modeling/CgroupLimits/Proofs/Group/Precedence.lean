import CgroupLimits.Group.Discovery
import CgroupLimits.Proofs.Files.TableFaults
import CgroupLimits.Proofs.Stages

/-!
# Which fault of a discovery is reported

Both files are opened before either is read, so a membership file that is
missing is reported even where the mount table is malformed. Then the mount
table is read, then the membership file, and only what both hold is matched.
A fault counts if nothing before it fails, whatever is wrong behind it.
-/

set_option autoImplicit false

namespace CgroupLimits.Groups
open CgroupLimits

/-- The stage that ends a discovery, with what it reports. -/
inductive FirstFailure (files : Files) (mountTable membership : Text) : GroupError → Prop
  | mountTableUnopened {fault : IoFault} (unopened : files mountTable = .error fault) :
      FirstFailure files mountTable membership (.io fault)
  | membershipUnopened {mountSource : Source} {fault : IoFault}
      (opened : files mountTable = .ok mountSource) (unopened : files membership = .error fault) :
      FirstFailure files mountTable membership (.io fault)
  | mountTableUnread {mountSource membershipSource : Source} {error : TableError}
      (opened : files mountTable = .ok mountSource)
      (bothOpened : files membership = .ok membershipSource)
      (unread : MountTable.Fails mountSource error) :
      FirstFailure files mountTable membership (.mountTable error)
  | membershipUnread {mountSource membershipSource : Source} {mounts : List MountPoint}
      {error : GroupError} (opened : files mountTable = .ok mountSource)
      (bothOpened : files membership = .ok membershipSource)
      (read : MountTable.read mountSource = .ok mounts)
      (unread : MembershipTable.Fails membershipSource error) :
      FirstFailure files mountTable membership error
  | unmatched {mountSource membershipSource : Source} {mounts : List MountPoint}
      {entries : List Membership} {error : GroupError}
      (opened : files mountTable = .ok mountSource)
      (bothOpened : files membership = .ok membershipSource)
      (read : MountTable.read mountSource = .ok mounts)
      (bothRead : MembershipTable.read membershipSource = .ok entries)
      (unmatched : ofTables mounts entries = .error error) :
      FirstFailure files mountTable membership error

theorem of_sources_eq_error_iff (mountSource membershipSource : Source) (error : GroupError) :
    ofSources mountSource membershipSource = .error error ↔
      (∃ fault, MountTable.Fails mountSource fault ∧ error = .mountTable fault) ∨
      ∃ mounts, MountTable.read mountSource = .ok mounts ∧
        (MembershipTable.Fails membershipSource error ∨
          ∃ entries, MembershipTable.read membershipSource = .ok entries ∧
            ofTables mounts entries = .error error) := by
  simp only [ofSources, bind_eq_error_iff, map_error_eq_error_iff, map_error_eq_ok,
    MountTable.read_eq_error_iff, MembershipTable.read_eq_error_iff]

section Opened
variable {files : Files} {mountTable membership : Text} {mountSource membershipSource : Source}

theorem of_files_of_opened (hm : files mountTable = .ok mountSource)
    (hs : files membership = .ok membershipSource) :
    ofFiles files mountTable membership = ofSources mountSource membershipSource := by
  rw [ofFiles, hm, hs]
  rfl

theorem of_sources_of_read {mounts : List MountPoint} {entries : List Membership}
    (hm : MountTable.read mountSource = .ok mounts)
    (hs : MembershipTable.read membershipSource = .ok entries) :
    ofSources mountSource membershipSource = ofTables mounts entries := by
  rw [ofSources, hm, hs]
  rfl

end Opened

theorem FirstFailure.of_files_eq {files : Files} {mountTable membership : Text} {error : GroupError}
    (h : FirstFailure files mountTable membership error) :
    ofFiles files mountTable membership = .error error := by
  cases h with
  | mountTableUnopened unopened =>
    rw [ofFiles, unopened]
    rfl
  | membershipUnopened opened unopened =>
    rw [ofFiles, opened, unopened]
    rfl
  | mountTableUnread opened bothOpened unread =>
    rw [of_files_of_opened opened bothOpened, of_sources_eq_error_iff]
    exact Or.inl ⟨_, unread, rfl⟩
  | membershipUnread opened bothOpened read unread =>
    rw [of_files_of_opened opened bothOpened, of_sources_eq_error_iff]
    exact Or.inr ⟨_, read, Or.inl unread⟩
  | unmatched opened bothOpened read bothRead unmatched =>
    rw [of_files_of_opened opened bothOpened, of_sources_of_read read bothRead, unmatched]

theorem first_failure_of_failed {files : Files} {mountTable membership : Text} {error : GroupError}
    (h : ofFiles files mountTable membership = .error error) :
    FirstFailure files mountTable membership error := by
  rw [ofFiles, bind_eq_error_iff, map_error_eq_error_iff] at h
  obtain ⟨fault, hm, rfl⟩ | ⟨mountSource, hm, h⟩ := h
  · exact .mountTableUnopened hm
  rw [map_error_eq_ok] at hm
  rw [bind_eq_error_iff, map_error_eq_error_iff] at h
  obtain ⟨fault, hs, rfl⟩ | ⟨membershipSource, hs, h⟩ := h
  · exact .membershipUnopened hm hs
  rw [map_error_eq_ok] at hs
  obtain ⟨fault, hf, rfl⟩ | ⟨mounts, hr, hf | ⟨entries, he, ht⟩⟩ :=
    (of_sources_eq_error_iff mountSource membershipSource error).mp h
  · exact .mountTableUnread hm hs hf
  · exact .membershipUnread hm hs hr hf
  · exact .unmatched hm hs hr he ht

/-- The first stage that fails decides the error, and without a failure only
the two tables count. -/
theorem of_files_first_failure (files : Files) (mountTable membership : Text) :
    (∀ error, ofFiles files mountTable membership = .error error ↔
      FirstFailure files mountTable membership error) ∧
    ∀ mountSource membershipSource, files mountTable = .ok mountSource →
      files membership = .ok membershipSource →
      ofFiles files mountTable membership = ofSources mountSource membershipSource ∧
      ∀ mounts entries, MountTable.read mountSource = .ok mounts →
        MembershipTable.read membershipSource = .ok entries →
        ofSources mountSource membershipSource = ofTables mounts entries := by
  constructor
  · intro error
    exact ⟨first_failure_of_failed, FirstFailure.of_files_eq⟩
  · intro mountSource membershipSource hm hs
    refine ⟨of_files_of_opened hm hs, ?_⟩
    intro mounts entries hr he
    exact of_sources_of_read hr he

def failingTable : Source where
  content := Utf8.encode ("31 23 0:24 /docker /sys/fs/cgroup/cpu rw - cgroup cgroup rw,cpu\n" ++
    "32 23 0:25 /\n").toList
  fault := some (.ofSystem "Input/output error".toList 5)

def wholeTable : Source where
  content := Utf8.encode
    "31 23 0:24 /docker /sys/fs/cgroup/cpu rw - cgroup cgroup rw,cpu\n".toList

def wholeMount : MountPoint where
  mountId := 31
  parentId := 23
  deviceId := "0:24".toList
  root := "/docker".toList
  mountPoint := "/sys/fs/cgroup/cpu".toList
  options := ["rw".toList]
  optionalFields := []
  fsType := "cgroup".toList
  mountSource := "cgroup".toList
  superOptions := ["rw".toList, "cpu".toList]

def brokenMembership : Source where
  content := Utf8.encode "2:cpu:/docker/a\r\n".toList ++ [0x33, 0x3A, 0xE9, lineFeed] ++
    Utf8.encode "x\n".toList

def wholeMembership : Source where
  content := Utf8.encode "2:cpu:/docker/a\r\n".toList

def wholeEntry : Membership := ⟨2, ["cpu".toList], "/docker/a".toList⟩

def stagedFiles : Files := fun path =>
  if path = "failing".toList then .ok failingTable
  else if path = "whole".toList then .ok wholeTable
  else if path = "broken".toList then .ok brokenMembership
  else if path = "member".toList then .ok wholeMembership
  else if path = "directory".toList then .ok { content := [], fault := some .isADirectory }
  else if path = "sealed".toList then .error .permissionDenied
  else .error .noSuchFile

def stagedDirectories : Directories where
  entries := [("cpu".toList, "/sys/fs/cgroup/cpu/a".toList)]
  distinct := List.pairwise_singleton _ _

theorem of_files_first_failure_staged :
    ofFiles stagedFiles "missing".toList "sealed".toList = .error (.io .noSuchFile) ∧
      ofFiles stagedFiles "failing".toList "sealed".toList = .error (.io .permissionDenied) ∧
      ofFiles stagedFiles "failing".toList "broken".toList =
        .error (.mountTable (.line (.malformed "32 23 0:25 /".toList))) ∧
      ofFiles stagedFiles "directory".toList "broken".toList =
        .error (.mountTable (.io .isADirectory)) ∧
      ofFiles stagedFiles "whole".toList "broken".toList = .error (.io .notUtf8) ∧
      ofFiles stagedFiles "whole".toList "directory".toList = .error (.io .isADirectory) ∧
      ofFiles stagedFiles "whole".toList "member".toList = .ok (.v1 stagedDirectories) := by
  have failing : MountTable.Fails failingTable (.line (.malformed "32 23 0:25 /".toList)) :=
    (MountTable.read_eq_error_iff _ _).mp (by decide +kernel)
  have unreadable : MountTable.Fails { content := [], fault := some .isADirectory }
      (.io .isADirectory) := (MountTable.read_eq_error_iff _ _).mp rfl
  have broken : MembershipTable.Fails brokenMembership (.io .notUtf8) :=
    (MembershipTable.read_eq_error_iff _ _).mp (by decide +kernel)
  have unreadable' : MembershipTable.Fails { content := [], fault := some .isADirectory }
      (.io .isADirectory) := (MembershipTable.read_eq_error_iff _ _).mp rfl
  have hm : MountTable.read wholeTable = .ok [wholeMount] := by decide +kernel
  have he : MembershipTable.read wholeMembership = .ok [wholeEntry] := by decide +kernel
  refine ⟨?_, ?_, ?_, ?_, ?_, ?_, ?_⟩
  · exact ((of_files_first_failure _ _ _).1 _).mpr (.mountTableUnopened rfl)
  · exact ((of_files_first_failure _ _ _).1 _).mpr (.membershipUnopened rfl rfl)
  · exact ((of_files_first_failure _ _ _).1 _).mpr (.mountTableUnread rfl rfl failing)
  · exact ((of_files_first_failure _ _ _).1 _).mpr (.mountTableUnread rfl rfl unreadable)
  · exact ((of_files_first_failure _ _ _).1 _).mpr (.membershipUnread rfl rfl hm broken)
  · exact ((of_files_first_failure _ _ _).1 _).mpr (.membershipUnread rfl rfl hm unreadable')
  · obtain ⟨hs, ht⟩ := (of_files_first_failure stagedFiles "whole".toList "member".toList).2
      wholeTable wholeMembership rfl rfl
    rw [hs, ht _ _ hm he]
    decide +kernel

end CgroupLimits.Groups
