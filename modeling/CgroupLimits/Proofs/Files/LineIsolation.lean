import CgroupLimits.Group.Membership
import CgroupLimits.Proofs.Files.Readings
import CgroupLimits.Proofs.Text.Blanks
import Mathlib.Data.List.Basic

/-!
# Lines are read on their own

Neither table carries anything from one line to the next, so a file may be
read in parts and the parts put together. The mount table can be cut at any
line feed. The membership file has to be cut behind one, for there a carriage
return belongs to the line ending only if a line feed follows.
-/

set_option autoImplicit false

namespace CgroupLimits

/-- The whole is read as its parts are: all their entries in order, or the
error of the first bad part. -/
def ReadsAs {ε α : Type} (read : Bytes → Except ε (List α)) (whole : Bytes)
    (parts : List Bytes) : Prop :=
  (∀ entries, read whole = .ok entries ↔
    ∃ readings : List (List α), parts.map read = readings.map .ok ∧ entries = readings.flatten) ∧
  ∀ error, read whole = .error error ↔ ∃ before part after, parts = before ++ part :: after ∧
    read part = .error error ∧ ∀ earlier ∈ before, ∃ entries, read earlier = .ok entries

theorem reads_as_of_gather {ε α : Type} {read : Bytes → Except ε (List α)} {whole : Bytes}
    {parts : List Bytes} (h : read whole = gather (parts.map read)) : ReadsAs read whole parts := by
  constructor
  · intro entries
    rw [h, gather_eq_ok_iff]
  · intro error
    rw [h, gather_map_eq_error_iff]

namespace MountTable

def readBytes (content : Bytes) : Except TableError (List MountPoint) := read { content }

theorem of_lines_cons (line : Bytes) (lines : List Bytes) :
    ofLines (line :: lines) = followedBy (ofLines [line]) (ofLines lines) := by
  rw [ofLines, ofLines]
  split
  · exact (nil_followed_by _).symm
  · cases MountPoint.ofLine (lineText line) <;> cases ofLines lines <;> rfl

theorem of_lines_append (first second : List Bytes) :
    ofLines (first ++ second) = followedBy (ofLines first) (ofLines second) := by
  induction first with
  | nil => exact (nil_followed_by _).symm
  | cons line lines ih =>
    rw [List.cons_append, of_lines_cons, ih, ← followed_by_assoc, ← of_lines_cons]

theorem read_bytes_eq (content : Bytes) :
    readBytes content = (ofLines (splitOn lineFeed content)).mapError .line := by
  rw [Source.lines_eq, of_lines_append, map_error_followed_by, ← bind_eq_followed_by]
  rfl

theorem read_broken (content : Bytes) (fault : IoFault) :
    read { content, fault := some fault } =
      followedBy ((ofLines ({ content } : Source).finishedLines).mapError .line)
        (.error (.io fault)) := by
  show ((ofLines ({ content } : Source).finishedLines).mapError TableError.line >>= fun _ =>
    throw (TableError.io fault)) = _
  cases ofLines ({ content } : Source).finishedLines <;> rfl

theorem read_bytes_append (first second : Bytes) :
    readBytes (first ++ lineFeed :: second) =
      followedBy (readBytes first) (readBytes second) := by
  simp only [read_bytes_eq, split_on_append_cons, of_lines_append, map_error_followed_by]

theorem read_bytes_line {line : Bytes} (h : lineFeed ∉ line) :
    readBytes line = (ofLines [line]).mapError .line := by
  rw [read_bytes_eq, split_on_of_not_mem h]

theorem read_bytes_blank_line {line : Bytes} (hl : lineFeed ∉ line)
    (hb : (Utf8.decodeLossy line).isAllBlank) : readBytes line = .ok [] := by
  have ht : (lineText line).isAllBlank = true := by
    rw [Text.isAllBlank, List.all_eq_true]
    intro c hc
    exact List.all_eq_true.mp hb c (Text.mem_of_mem_trim_end_when hc)
  rw [read_bytes_line hl, ofLines, if_pos ht]
  rfl

theorem read_bytes_line_cases {line : Bytes} (h : lineFeed ∉ line) :
    readBytes line = .ok [] ∨
      (∃ mount, readBytes line = .ok [mount] ∧ MountPoint.ofLine (lineText line) = .ok mount) ∨
      ∃ error, readBytes line = .error error := by
  rw [read_bytes_line h, ofLines]
  split
  · exact Or.inl rfl
  · cases MountPoint.ofLine (lineText line) with
    | error error => exact Or.inr (Or.inr ⟨_, rfl⟩)
    | ok mount => exact Or.inr (Or.inl ⟨mount, rfl, rfl⟩)

theorem read_bytes_join_with (lines : List Bytes) :
    readBytes (joinWith lineFeed lines) = gather (lines.map readBytes) := by
  induction lines with
  | nil => rfl
  | cons line lines ih =>
    rw [List.map_cons, gather, ← ih]
    cases lines with
    | nil => exact (followed_by_nil _).symm
    | cons next lines => rw [joinWith, read_bytes_append]

end MountTable

namespace MembershipTable

def readBytes (content : Bytes) : Except GroupError (List Membership) := read { content }

def ofFinished (line : Bytes) : Except GroupError (List Membership) := do
  let text ← decodeLine line
  ofText (withoutReturn text)

/-- What stands behind the last line feed keeps its carriage return. -/
def ofUnfinished (line : Bytes) : Except GroupError (List Membership) := do
  let text ← decodeLine line
  ofText text

theorem of_lines_cons (line : Bytes) (lines : List Bytes) :
    ofLines (line :: lines) = followedBy (ofFinished line) (ofLines lines) := by
  rw [ofLines, ofFinished]
  cases decodeLine line with
  | error error => rfl
  | ok text =>
    show (do
      let entry ← ofText (withoutReturn text)
      let entries ← ofLines lines
      return entry ++ entries) = followedBy (ofText (withoutReturn text)) (ofLines lines)
    exact bind_eq_followed_by _ _

theorem of_lines_append (first second : List Bytes) :
    ofLines (first ++ second) = followedBy (ofLines first) (ofLines second) := by
  induction first with
  | nil => exact (nil_followed_by _).symm
  | cons line lines ih =>
    rw [List.cons_append, of_lines_cons, of_lines_cons, ih, followed_by_assoc]

theorem read_bytes_eq (content : Bytes) :
    readBytes content = followedBy (ofLines ({ content } : Source).finishedLines)
      (ofUnfinished ({ content } : Source).unfinishedLine) := by
  rw [← bind_eq_followed_by, readBytes, read]
  cases ofLines ({ content } : Source).finishedLines with
  | error error => rfl
  | ok entries =>
    show (do
      let text ← decodeLine ({ content } : Source).unfinishedLine
      let last ← ofText text
      return entries ++ last) = _
    rw [ofUnfinished]
    cases decodeLine ({ content } : Source).unfinishedLine <;> rfl

theorem read_broken (content : Bytes) (fault : IoFault) :
    read { content, fault := some fault } =
      followedBy (ofLines ({ content } : Source).finishedLines) (.error (.io fault)) := by
  show (ofLines ({ content } : Source).finishedLines >>= fun _ =>
    throw (GroupError.io fault)) = _
  cases ofLines ({ content } : Source).finishedLines <;> rfl

theorem read_bytes_line_feed (first second : Bytes) :
    readBytes (first ++ lineFeed :: second) =
      followedBy (readBytes (first ++ [lineFeed])) (readBytes second) := by
  have hu : ofUnfinished ({ content := [] } : Source).unfinishedLine = .ok [] := rfl
  have hf : ({ content := [] } : Source).finishedLines = [] := rfl
  simp only [read_bytes_eq, Source.finished_lines_append, Source.unfinished_line_append, hu, hf,
    of_lines_append, followed_by_assoc, List.append_nil, followed_by_nil]

theorem read_bytes_unfinished {line : Bytes} (h : lineFeed ∉ line) :
    readBytes line = ofUnfinished line := by
  rw [read_bytes_eq, Source.finished_lines_of_not_mem h, Source.unfinished_line_of_not_mem h]
  exact nil_followed_by _

theorem read_bytes_finished {line : Bytes} (h : lineFeed ∉ line) :
    readBytes (line ++ [lineFeed]) = ofFinished line := by
  have hu : ofUnfinished ({ content := [] } : Source).unfinishedLine = .ok [] := rfl
  rw [read_bytes_eq, Source.finished_lines_append, Source.unfinished_line_append, hu,
    followed_by_nil, split_on_of_not_mem h]
  exact (of_lines_cons line []).trans (followed_by_nil _)

theorem read_bytes_append (first second : Bytes)
    (h : first = [] ∨ first.getLast? = some lineFeed) :
    readBytes (first ++ second) = followedBy (readBytes first) (readBytes second) := by
  rcases h with rfl | h
  · exact (nil_followed_by _).symm
  · obtain ⟨front, rfl⟩ := List.getLast?_eq_some_iff.mp h
    rw [List.append_assoc, List.singleton_append]
    exact read_bytes_line_feed front second

theorem read_bytes_flatten (lines : List Bytes) (last : Bytes)
    (h : ∀ line ∈ lines, line.getLast? = some lineFeed) :
    readBytes (lines.flatten ++ last) = gather ((lines++[last]).map readBytes) := by
  induction lines with
  | nil => exact (followed_by_nil _).symm
  | cons line lines ih =>
    rw [List.flatten_cons, List.append_assoc,
      read_bytes_append _ _ (Or.inr (h line List.mem_cons_self)),
      ih fun other ho => h other (List.mem_cons_of_mem _ ho)]
    rfl

end MembershipTable

/-- Both tables are read line by line: cut in two, or in all their lines. -/
theorem read_bytes_by_lines :
    (∀ first second, MountTable.readBytes (first ++ lineFeed :: second) =
      followedBy (MountTable.readBytes first) (MountTable.readBytes second)) ∧
    (∀ first second, first = [] ∨ first.getLast? = some lineFeed →
      MembershipTable.readBytes (first ++ second) =
        followedBy (MembershipTable.readBytes first) (MembershipTable.readBytes second)) ∧
    (∀ lines, ReadsAs MountTable.readBytes (joinWith lineFeed lines) lines) ∧
    (∀ lines last, (∀ line ∈ lines, line.getLast? = some lineFeed) →
      ReadsAs MembershipTable.readBytes (lines.flatten ++ last) (lines++[last])) ∧
    ∀ line, Utf8.decode? line = none → lineFeed ∉ line →
      MembershipTable.readBytes line = .error (.io .notUtf8) ∧
      MembershipTable.readBytes (line ++ [lineFeed]) = .error (.io .notUtf8) := by
  refine ⟨MountTable.read_bytes_append, MembershipTable.read_bytes_append, ?_, ?_, ?_⟩
  · intro lines
    exact reads_as_of_gather (MountTable.read_bytes_join_with lines)
  · intro lines last h
    exact reads_as_of_gather (MembershipTable.read_bytes_flatten lines last h)
  · intro line hd hl
    have he : MembershipTable.decodeLine line = .error (.io .notUtf8) := by
      rw [MembershipTable.decodeLine, hd]
    constructor
    · rw [MembershipTable.read_bytes_unfinished hl, MembershipTable.ofUnfinished, he]
      rfl
    · rw [MembershipTable.read_bytes_finished hl, MembershipTable.ofFinished, he]
      rfl

def brokenPathLine : Bytes :=
  Utf8.encode "50 1 8:17 / /caf".toList ++ [0xE2, 0x82] ++
    Utf8.encode " rw - vfat /dev/sdb1 rw\r".toList

def brokenPathMount : MountPoint where
  mountId := 50
  parentId := 1
  deviceId := "8:17".toList
  root := "/".toList
  mountPoint := "/caf\ufffd".toList
  options := ["rw".toList]
  optionalFields := []
  fsType := "vfat".toList
  mountSource := "/dev/sdb1".toList
  superOptions := ["rw".toList]

def finishedEntry : Bytes := Utf8.encode "0::/a\r\n".toList

def unfinishedEntry : Bytes := Utf8.encode "2:cpu,cpuacct:/b".toList

def brokenEntry : Bytes := [0x30, 0x3A, 0x3A, 0xE2, 0x82]

theorem read_bytes_by_lines_broken :
    MountTable.readBytes (brokenPathLine ++ lineFeed :: brokenPathLine) =
        .ok [brokenPathMount, brokenPathMount] ∧
      finishedEntry.getLast? = some lineFeed ∧
      MembershipTable.readBytes (finishedEntry ++ unfinishedEntry) =
        .ok [⟨0, [], "/a".toList⟩, ⟨2, ["cpu".toList, "cpuacct".toList], "/b".toList⟩] ∧
      MembershipTable.readBytes (finishedEntry ++ brokenEntry) = .error (.io .notUtf8) ∧
      Utf8.decode? brokenEntry = none ∧ lineFeed ∉ brokenEntry ∧
      MembershipTable.readBytes ([finishedEntry, finishedEntry].flatten ++ brokenEntry) =
        .error (.io .notUtf8) := by
  have hm : MountTable.readBytes brokenPathLine = .ok [brokenPathMount] := by decide +kernel
  have he : MembershipTable.readBytes finishedEntry = .ok [⟨0, [], "/a".toList⟩] := by
    decide +kernel
  have hu : MembershipTable.readBytes unfinishedEntry =
      .ok [⟨2, ["cpu".toList, "cpuacct".toList], "/b".toList⟩] := by decide +kernel
  have hf : finishedEntry.getLast? = some lineFeed := by decide
  have hd : Utf8.decode? brokenEntry = none := by decide
  have hn : lineFeed ∉ brokenEntry := by decide
  have hb := (read_bytes_by_lines.2.2.2.2 brokenEntry hd hn).1
  refine ⟨?_, hf, ?_, ?_, hd, hn, ?_⟩
  · rw [read_bytes_by_lines.1, hm]
    rfl
  · rw [read_bytes_by_lines.2.1 _ _ (Or.inr hf), he, hu]
    rfl
  · rw [read_bytes_by_lines.2.1 _ _ (Or.inr hf), he, hb]
    rfl
  · have hr := read_bytes_by_lines.2.2.2.1 [finishedEntry, finishedEntry] brokenEntry
      (by simp [hf])
    refine (hr.2 _).mpr ⟨[finishedEntry, finishedEntry], brokenEntry, [], rfl, hb, ?_⟩
    intro earlier hm
    exact ⟨_, (show earlier = finishedEntry by simpa using hm) ▸ he⟩

end CgroupLimits
