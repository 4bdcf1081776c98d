import CgroupLimits.Limit.Quota
import CgroupLimits.Proofs.Group.Messages
import CgroupLimits.Proofs.Group.Precedence
import CgroupLimits.Proofs.Group.Unified
import CgroupLimits.Proofs.Limit.FileStates

/-!
# Whose words a message holds

What a message takes over as it is has been said by the system: of a file that
did not open, of a reading that broke off, or instead of a page size. All other
texts are quoted. So every error that discovery or a limit ends with is reported
on a single line, as long as the system speaks on one.
-/

set_option autoImplicit false

namespace CgroupLimits

/-- What the system says of its own faults. -/
inductive Said (files : Files) (answer : PageSizeAnswer) : Text → Prop
  | unopened {path : Text} {fault : IoFault} (unopened : files path = .error fault) :
      Said files answer fault.message
  | broken {path : Text} {source : Source} {fault : IoFault} (opened : files path = .ok source)
      (breaks : source.fault = some fault) : Said files answer fault.message
  | unanswered {errno : Text} (unanswered : answer = .error errno) : Said files answer errno

/-- The errors that tables, discovery, control files, quotas and limits end with. -/
inductive Raised (files : Files) (answer : PageSizeAnswer) : GroupError → Prop
  | mountTable {path : Text} {source : Source} {error : TableError}
      (opened : files path = .ok source) (failed : MountTable.read source = .error error) :
      Raised files answer (.mountTable error)
  | membership {path : Text} {source : Source} {error : GroupError}
      (opened : files path = .ok source) (failed : MembershipTable.read source = .error error) :
      Raised files answer error
  | tables {mounts : List MountPoint} {entries : List Membership} {error : GroupError}
      (failed : Groups.ofTables mounts entries = .error error) : Raised files answer error
  | sources {mountPath membershipPath : Text} {mountTable membership : Source}
      {error : GroupError} (opened : files mountPath = .ok mountTable)
      (bothOpened : files membershipPath = .ok membership)
      (failed : Groups.ofSources mountTable membership = .error error) : Raised files answer error
  | discovery {mountTable membership : Text} {error : GroupError}
      (failed : Groups.ofFiles files mountTable membership = .error error) :
      Raised files answer error
  | firstLine {directory parameter : Text} {error : GroupError}
      (failed : ControlFile.readFirstLine files directory parameter = .error error) :
      Raised files answer error
  | integer {directory parameter : Text} {error : GroupError}
      (failed : ControlFile.readInt files directory parameter = .error error) :
      Raised files answer error
  | quota {groups : Groups} {error : GroupError} (failed : groups.cpuQuota files = .error error) :
      Raised files answer error
  | limit {groups : Groups} {error : GroupError}
      (failed : groups.memoryLimit files answer = .error error) : Raised files answer error

/-- Everything taken over is the system's, but for the note on broken UTF-8. -/
def Sourced (files : Files) (answer : PageSizeAnswer) (error : GroupError) : Prop :=
  ∀ text ∈ error.takenOver, Said files answer text ∨ text = IoFault.notUtf8.message

variable {files : Files} {answer : PageSizeAnswer} {error : GroupError}

theorem sourced_of_quoted (h : error.takenOver = []) : Sourced files answer error := by
  rw [Sourced, h]
  exact fun _ hm => absurd hm List.not_mem_nil

theorem sourced_io {fault : IoFault} (h : Said files answer fault.message) :
    Sourced files answer (.io fault) := by
  intro text hm
  rw [List.mem_singleton.mp hm]
  exact Or.inl h

theorem sourced_not_utf8 : Sourced files answer (.io .notUtf8) := by
  intro text hm
  exact Or.inr (List.mem_singleton.mp hm)

theorem sourced_mount_table {path : Text} {source : Source} {error : TableError}
    (opened : files path = .ok source) (h : MountTable.Fails source error) :
    Sourced files answer (.mountTable error) := by
  cases h with
  | line first refused =>
    obtain ⟨-, fault, -, rfl⟩ := refused
    exact sourced_of_quoted rfl
  | fault accepted breaks => exact sourced_io (.broken opened breaks)

theorem sourced_membership {path : Text} {source : Source} (opened : files path = .ok source)
    (h : MembershipTable.Fails source error) : Sourced files answer error := by
  cases h with
  | line first refused =>
    cases refused with
    | notText => exact sourced_not_utf8
    | malformed notBlank noEntry => exact sourced_of_quoted rfl
  | fault accepted breaks => exact sourced_io (.broken opened breaks)

theorem sourced_tables {mounts : List MountPoint} {entries : List Membership}
    (h : Groups.ofTables mounts entries = .error error) : Sourced files answer error := by
  rcases Groups.of_tables_cases mounts entries with ⟨entry, mount, -, ht⟩ | ⟨-, _, ht⟩ | ht
  · rw [ht] at h
    cases hm : mount.translate entry.group with
    | ok directory =>
      rw [hm] at h
      cases h
    | error refused =>
      rw [hm] at h
      cases h
      exact sourced_of_quoted rfl
  · cases ht.symm.trans h
  · cases ht.symm.trans h
    exact sourced_of_quoted rfl

theorem sourced_sources {mountPath membershipPath : Text} {mountTable membership : Source}
    (opened : files mountPath = .ok mountTable) (bothOpened : files membershipPath = .ok membership)
    (h : Groups.ofSources mountTable membership = .error error) : Sourced files answer error := by
  obtain ⟨fault, hf, rfl⟩ | ⟨mounts, -, hf | ⟨entries, -, ht⟩⟩ :=
    (Groups.of_sources_eq_error_iff mountTable membership error).mp h
  · exact sourced_mount_table opened hf
  · exact sourced_membership bothOpened hf
  · exact sourced_tables ht

theorem sourced_discovery {mountTable membership : Text}
    (h : Groups.FirstFailure files mountTable membership error) : Sourced files answer error := by
  cases h with
  | mountTableUnopened unopened => exact sourced_io (.unopened unopened)
  | membershipUnopened opened unopened => exact sourced_io (.unopened unopened)
  | mountTableUnread opened bothOpened unread => exact sourced_mount_table opened unread
  | membershipUnread opened bothOpened read unread => exact sourced_membership bothOpened unread
  | unmatched opened bothOpened read bothRead unmatched => exact sourced_tables unmatched

namespace ControlFile
variable {directory parameter : Text}

theorem sourced_first_line (h : readFirstLine files directory parameter = .error error) :
    Sourced files answer error := by
  cases (read_first_line_eq_iff _).mp h with
  | unopened unopened => exact sourced_io (.unopened unopened)
  | broken opened breaks => exact sourced_io (.broken opened breaks)
  | noText opened unbroken noText => exact sourced_not_utf8
  | blank holds first => exact sourced_of_quoted rfl

theorem sourced_integer (h : readInt files directory parameter = .error error) :
    Sourced files answer error := by
  rw [readInt, bind_eq_error_iff] at h
  obtain h | ⟨line, -, h⟩ := h
  · exact sourced_first_line h
  · split at h
    · cases h
    · cases h
      exact sourced_of_quoted rfl

theorem sourced_quota_v1 (h : cpuQuotaV1 files directory = .error error) :
    Sourced files answer error := by
  rw [cpuQuotaV1, bind_eq_error_iff] at h
  obtain h | ⟨quota, -, h⟩ := h
  · exact sourced_integer h
  split at h
  · cases h
  rw [bind_eq_error_iff] at h
  obtain h | ⟨period, -, h⟩ := h
  · exact sourced_integer h
  split at h
  · cases h
    exact sourced_of_quoted rfl
  · cases h

theorem sourced_quota_v2 (h : cpuQuotaV2 files directory = .error error) :
    Sourced files answer error := by
  rw [cpuQuotaV2, bind_eq_error_iff] at h
  obtain h | ⟨line, -, h⟩ := h
  · exact sourced_first_line h
  split at h
  · cases h
  · cases h
    exact sourced_of_quoted rfl

theorem sourced_page_size (h : pageSize answer = .error error) : Sourced files answer error := by
  match answer, h with
  | .error errno, rfl =>
    intro text hm
    rw [List.mem_singleton.mp hm]
    exact Or.inl (.unanswered rfl)

theorem sourced_limit_v1 (h : memoryLimitV1 files answer directory = .error error) :
    Sourced files answer error := by
  rw [memoryLimitV1, bind_eq_error_iff] at h
  obtain h | ⟨limit, -, h⟩ := h
  · exact sourced_integer h
  split at h
  · cases h
    exact sourced_of_quoted rfl
  rw [bind_eq_error_iff] at h
  obtain h | ⟨page, -, h⟩ := h
  · exact sourced_page_size h
  split at h <;> cases h

theorem sourced_limit_v2 (h : memoryLimitV2 files directory = .error error) :
    Sourced files answer error := by
  rw [memoryLimitV2, bind_eq_error_iff] at h
  obtain h | ⟨line, -, h⟩ := h
  · exact sourced_first_line h
  split at h
  · cases h
  split at h
  · cases h
  · cases h
    exact sourced_of_quoted rfl

end ControlFile

theorem sourced_quota {groups : Groups} (h : groups.cpuQuota files = .error error) :
    Sourced files answer error := by
  unfold Groups.cpuQuota at h
  split at h
  · cases h
  · exact ControlFile.sourced_quota_v1 h
  · exact ControlFile.sourced_quota_v2 h

theorem sourced_limit {groups : Groups} (h : groups.memoryLimit files answer = .error error) :
    Sourced files answer error := by
  unfold Groups.memoryLimit at h
  split at h
  · cases h
  · exact ControlFile.sourced_limit_v1 h
  · exact ControlFile.sourced_limit_v2 h

theorem sourced_of_raised (h : Raised files answer error) : Sourced files answer error := by
  cases h with
  | mountTable opened failed =>
    exact sourced_mount_table opened ((MountTable.read_eq_error_iff _ _).mp failed)
  | membership opened failed =>
    exact sourced_membership opened ((MembershipTable.read_eq_error_iff _ _).mp failed)
  | tables failed => exact sourced_tables failed
  | sources opened bothOpened failed => exact sourced_sources opened bothOpened failed
  | discovery failed => exact sourced_discovery (Groups.first_failure_of_failed failed)
  | firstLine failed => exact ControlFile.sourced_first_line failed
  | integer failed => exact ControlFile.sourced_integer failed
  | quota failed => exact sourced_quota failed
  | limit failed => exact sourced_limit failed

theorem has_no_control_of_raised (plain : ∀ text, Said files answer text → HasNoControl text)
    (h : Raised files answer error) : HasNoControl error.message := by
  apply error.has_no_control_message
  intro text hm
  rcases sourced_of_raised h text hm with hs | rfl
  · exact plain text hs
  · decide

/-- No two errors of a type share a message, so a message tells the kind of an
error and each text that it carries. It is a single line as far as the words of
the system are, and so is whatever discovery and the limits are answered with. -/
theorem messages_unmistakable :
    Unmistakable LineError.message (fun _ => []) ∧
    Unmistakable TranslateError.message (fun _ => []) ∧
    Unmistakable TableError.message TableError.takenOver ∧
    Unmistakable GroupError.message GroupError.takenOver ∧
    ∀ files answer, (∀ text, Said files answer text → HasNoControl text) →
      ∀ error, Raised files answer error → HasNoControl error.message := by
  refine ⟨⟨?_, LineError.message_injective⟩, ⟨?_, TranslateError.message_injective⟩,
    ⟨TableError.has_no_control_message, TableError.message_injective⟩,
    ⟨GroupError.has_no_control_message, GroupError.message_injective⟩, ?_⟩
  · exact fun error _ => error.has_no_control_message
  · exact fun error _ => error.has_no_control_message
  · exact fun files answer plain error h => has_no_control_of_raised plain h

def forgedMountPoint : GroupError :=
  .translate (.notExposed "/a\" of \"/b".toList "/c".toList "/p".toList)

def forgedRoot : GroupError :=
  .translate (.notExposed "/a".toList "/b\" of \"/c".toList "/p".toList)

def clearingEntry : GroupError := .malformedEntry "0:/x\n\x1b[2J".toList

def spelledOutEntry : GroupError := .malformedEntry "0:/x\\n\\u\x7b1b\x7d[2J".toList

def circularFiles : Files := fun path =>
  if path = "/memory/memory.limit_in_bytes".toList then .ok { content := Utf8.encode ['1'] }
  else .error (.ofSystem "Too many levels of symbolic links".toList 40)

def mutedAnswer : PageSizeAnswer := .error "EINVAL: Invalid argument".toList

theorem messages_unmistakable_forged :
    "/a\" of \"/b".toList ++ "\" of \"".toList ++ "/c".toList =
        "/a".toList ++ "\" of \"".toList ++ "/b\" of \"/c".toList ∧
      forgedMountPoint ≠ forgedRoot ∧ forgedMountPoint.message ≠ forgedRoot.message ∧
      HasNoControl clearingEntry.message ∧
      clearingEntry ≠ spelledOutEntry ∧ clearingEntry.message ≠ spelledOutEntry.message ∧
      (∀ text, Said circularFiles mutedAnswer text → HasNoControl text) ∧
      Groups.ofFiles circularFiles "m".toList "c".toList =
        .error (.io (.ofSystem "Too many levels of symbolic links".toList 40)) ∧
      HasNoControl "I/O error: Too many levels of symbolic links (os error 40)".toList ∧
      (Groups.v1 ⟨[("memory".toList, "/memory".toList)], List.pairwise_singleton _ _⟩).memoryLimit
          circularFiles mutedAnswer = .error (.internal "EINVAL: Invalid argument".toList) ∧
      HasNoControl "system call failed: EINVAL: Invalid argument".toList := by
  obtain ⟨-, -, -, h, raised⟩ := messages_unmistakable
  have hf : forgedMountPoint ≠ forgedRoot := by decide
  have he : clearingEntry ≠ spelledOutEntry := by decide
  have plain : ∀ text, Said circularFiles mutedAnswer text → HasNoControl text := by
    intro text hs
    cases hs with
    | @unopened path fault unopened =>
      rw [circularFiles] at unopened
      split at unopened
      · cases unopened
      · cases unopened
        decide
    | @broken path source fault opened breaks =>
      rw [circularFiles] at opened
      split at opened
      · cases opened
        cases breaks
      · cases opened
    | unanswered unanswered =>
      cases unanswered
      decide
  have undiscovered : Groups.ofFiles circularFiles "m".toList "c".toList =
      .error (.io (.ofSystem "Too many levels of symbolic links".toList 40)) := rfl
  have unlimited : (Groups.v1 ⟨[("memory".toList, "/memory".toList)],
      List.pairwise_singleton _ _⟩).memoryLimit circularFiles mutedAnswer =
        .error (.internal "EINVAL: Invalid argument".toList) := rfl
  refine ⟨by decide, hf, h.distinct.ne hf, h.oneLine clearingEntry ?_, he, h.distinct.ne he, plain,
    undiscovered, ?_, unlimited, ?_⟩
  · exact fun _ hm => absurd hm List.not_mem_nil
  · exact raised _ _ plain _ (.discovery undiscovered)
  · exact raised _ _ plain _ (.limit unlimited)

end CgroupLimits
