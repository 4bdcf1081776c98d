import CgroupLimits.Proofs.Files.LineIsolation
import CgroupLimits.Proofs.Mount.LineGrammar
import CgroupLimits.Proofs.Text.Blanks

/-!
# Writing a mount table and reading it back

A table is written line by line, each mount as its fields with one space
between any two. Reading finds the same mounts in the same order, however the
lines end and whatever blank lines stand among them. What a mount must be like
is what a line can hold: of its texts only the paths and the source are
escaped, so the others have no space and no line feed.
-/

set_option autoImplicit false

namespace CgroupLimits

namespace MountPoint

def IsWord (field : Text) : Prop := field ≠ [] ∧ ' ' ∉ field ∧ '\n' ∉ field

instance (field : Text) : Decidable (IsWord field) :=
  inferInstanceAs (Decidable (field ≠ [] ∧ ' ' ∉ field ∧ '\n' ∉ field))

structure IsWritable (mount : MountPoint) : Prop where
  deviceId : IsWord mount.deviceId
  root : ['/'] <+: mount.root
  mountPoint : ['/'] <+: mount.mountPoint
  options : IsWord (joinWith ',' mount.options) ∧ ∀ option ∈ mount.options, ',' ∉ option
  optionalFields : ∀ field ∈ mount.optionalFields, IsWord field ∧ field ≠ ['-']
  fsType : IsWord mount.fsType ∧ mount.fsType ≠ ['-']
  mountSource : mount.mountSource ≠ [] ∧ mount.mountSource ≠ ['-']
  superOptions : joinWith ',' mount.superOptions ≠ [] ∧ '\n' ∉ joinWith ',' mount.superOptions ∧
    (joinWith ',' mount.superOptions).getLast? ≠ some '\r' ∧
    ∀ option ∈ mount.superOptions, ',' ∉ option

def toFields (mount : MountPoint) : LineFields where
  mountId := Numeral.ofInt mount.mountId.toInt
  parentId := Numeral.ofInt mount.parentId.toInt
  deviceId := mount.deviceId
  root := Octal.encode mount.root
  mountPoint := Octal.encode mount.mountPoint
  options := joinWith ',' mount.options
  optionalFields := mount.optionalFields
  fsType := mount.fsType
  mountSource := Octal.encode mount.mountSource
  superOptions := joinWith ',' mount.superOptions

theorem to_line_eq (mount : MountPoint) : mount.toLine = mount.toFields.toLine := rfl

theorem is_word_of_int (id : Int32) : IsWord (Numeral.ofInt id.toInt) := by
  have h := Numeral.denotes_of_int id.toInt
  refine ⟨h.ne_nil, ?_, ?_⟩
  · exact h.not_mem_of_is_blank (by decide)
  · exact h.not_mem_of_is_blank (by decide)

theorem is_word_escaped {s : Text} (h : s ≠ []) : IsWord (Octal.encode s) := by
  refine ⟨fun he => h (Octal.encode_injective he), ?_, ?_⟩
  · exact Octal.not_mem_encode (by decide) (by decide) s
  · exact Octal.not_mem_encode (by decide) (by decide) s

theorem ne_nil_of_rooted {s : Text} (h : ['/'] <+: s) : s ≠ [] := by
  rintro rfl
  simp at h

theorem split_on_options {options : List Text} (hn : joinWith ',' options ≠ [])
    (h : ∀ option ∈ options, ',' ∉ option) : splitOn ',' (joinWith ',' options) = options := by
  refine split_on_join_with ',' ?_ h
  rintro rfl
  exact hn rfl

namespace IsWritable
variable {mount : MountPoint}

theorem is_word_of_mem (h : mount.IsWritable) :
    ∀ field ∈ mount.toFields.beforeSeparator, IsWord field := by
  intro field hm
  simp only [LineFields.beforeSeparator, toFields, List.mem_cons] at hm
  rcases hm with rfl | rfl | rfl | rfl | rfl | rfl | hm
  · exact is_word_of_int mount.mountId
  · exact is_word_of_int mount.parentId
  · exact h.deviceId
  · exact is_word_escaped (ne_nil_of_rooted h.root)
  · exact is_word_escaped (ne_nil_of_rooted h.mountPoint)
  · exact h.options.1
  · exact (h.optionalFields field hm).1

theorem is_well_formed (h : mount.IsWritable) : mount.toFields.IsWellFormed := by
  have hw := h.is_word_of_mem
  constructor
  · intro field hm
    have hf := hw field (List.mem_append_left mount.optionalFields hm)
    exact ⟨hf.1, hf.2.1⟩
  · intro field hm
    have hf := h.optionalFields field hm
    exact ⟨hf.1.1, hf.1.2.1, hf.2⟩
  · exact ⟨h.fsType.1.1, h.fsType.1.2.1, h.fsType.2⟩
  · have hs := is_word_escaped h.mountSource.1
    refine ⟨hs.1, hs.2.1, ?_⟩
    intro he
    have hd : Octal.encode mount.mountSource = Octal.encode ['-'] := he
    exact h.mountSource.2 (Octal.encode_injective hd)
  · exact h.superOptions.1

theorem starts_at_top (h : mount.IsWritable) : mount.toFields.StartsAtTop := by
  constructor
  · exact (Octal.decode_encode mount.root).symm ▸ h.root
  · exact (Octal.decode_encode mount.mountPoint).symm ▸ h.mountPoint

theorem describes (h : mount.IsWritable) : mount.toFields.Describes mount where
  mountId := Numeral.denotes_of_int mount.mountId.toInt
  parentId := Numeral.denotes_of_int mount.parentId.toInt
  deviceId := rfl
  root := (Octal.decode_encode mount.root).symm
  mountPoint := (Octal.decode_encode mount.mountPoint).symm
  options := (split_on_options h.options.1.1 h.options.2).symm
  optionalFields := rfl
  fsType := rfl
  mountSource := (Octal.decode_encode mount.mountSource).symm
  superOptions := (split_on_options h.superOptions.1 h.superOptions.2.2.2).symm

theorem of_line_to_line (h : mount.IsWritable) : ofLine mount.toLine = .ok mount := by
  rw [to_line_eq]
  exact MountPoint.of_line_to_line h.is_well_formed h.starts_at_top h.describes

theorem line_feed_not_mem_to_line (h : mount.IsWritable) : '\n' ∉ mount.toLine := by
  intro hm
  rw [to_line_eq, LineFields.to_line_eq] at hm
  rcases mem_of_mem_join_with hm with hs | ⟨field, hf, hx⟩
  · cases hs
  rcases List.mem_append.mp hf with hf | hf
  · exact (h.is_word_of_mem field hf).2.2 hx
  simp only [List.mem_cons, List.not_mem_nil, or_false] at hf
  rcases hf with rfl | rfl | rfl | rfl
  · exact absurd hx (by decide)
  · exact h.fsType.1.2.2 hx
  · exact (is_word_escaped h.mountSource.1).2.2 hx
  · exact h.superOptions.2.1 hx

theorem get_last?_to_line (h : mount.IsWritable) :
    mount.toLine.getLast? = (joinWith ',' mount.superOptions).getLast? := by
  have hs : mount.toFields.superOptions ≠ [] := h.superOptions.1
  rw [to_line_eq, LineFields.get_last?_to_line hs]
  rfl

end IsWritable
end MountPoint

namespace MountTable

inductive LineEnd where
  | lineFeed
  | returnLineFeed
  deriving DecidableEq, Repr

def LineEnd.mark : LineEnd → Text
  | .lineFeed => []
  | .returnLineFeed => ['\r']

def writeLine (line : Text) (lineEnd : LineEnd) : Bytes :=
  Utf8.encode (line ++ lineEnd.mark ++ ['\n'])

/-- The bytes are the lines of these mounts in order, with blank lines anywhere
among them. Behind the last line end there may be one more mount, or blanks. -/
inductive Writes : List MountPoint → Bytes → Prop
  | blankRest (blanks : Text) (isBlank : blanks.isAllBlank) (oneLine : '\n' ∉ blanks) :
      Writes [] (Utf8.encode blanks)
  | mountRest (mount : MountPoint) : Writes [mount] (Utf8.encode mount.toLine)
  | mountLine (mount : MountPoint) (lineEnd : LineEnd) {mounts : List MountPoint}
      {content : Bytes} (rest : Writes mounts content) :
      Writes (mount :: mounts) (writeLine mount.toLine lineEnd ++ content)
  | blankLine (blanks : Text) (lineEnd : LineEnd) (isBlank : blanks.isAllBlank)
      (oneLine : '\n' ∉ blanks) {mounts : List MountPoint} {content : Bytes}
      (rest : Writes mounts content) : Writes mounts (writeLine blanks lineEnd ++ content)

theorem write_line_eq (line : Text) (lineEnd : LineEnd) :
    writeLine line lineEnd = Utf8.encode (line ++ lineEnd.mark) ++ [lineFeed] := by
  rw [writeLine, Utf8.encode_append]
  rfl

theorem read_bytes_write_line (line : Text) (lineEnd : LineEnd) (content : Bytes) :
    readBytes (writeLine line lineEnd ++ content) =
      followedBy (readBytes (Utf8.encode (line ++ lineEnd.mark))) (readBytes content) := by
  rw [write_line_eq, List.append_assoc]
  exact read_bytes_append _ content

theorem eq_of_mem_mark {lineEnd : LineEnd} {c : Char} (h : c ∈ lineEnd.mark) : c = '\r' := by
  cases lineEnd with
  | lineFeed => cases h
  | returnLineFeed => exact List.mem_singleton.mp h

theorem line_feed_not_mem_encode {line mark : Text} (hl : '\n' ∉ line) (hm : ∀ c ∈ mark, c = '\r') :
    lineFeed ∉ Utf8.encode (line ++ mark) := by
  have hn : '\n' ∉ line ++ mark := by
    intro h
    rcases List.mem_append.mp h with h | h
    · exact hl h
    · exact absurd (hm _ h) (by decide)
  exact Utf8.not_mem_encode hn (by decide) (by decide)

theorem line_text_encode (text : Text) :
    lineText (Utf8.encode text) = Text.trimEndWhen endsLine text := by
  rw [lineText, Utf8.decode_lossy_encode]

theorem is_all_blank_append_mark {blanks mark : Text} (hb : blanks.isAllBlank)
    (hm : ∀ c ∈ mark, c = '\r') : (blanks ++ mark).isAllBlank := by
  rw [Text.isAllBlank, List.all_eq_true]
  intro c hc
  rcases List.mem_append.mp hc with hc | hc
  · exact List.all_eq_true.mp hb c hc
  · rw [hm c hc]
    rfl

theorem read_bytes_blank {blanks : Text} (hb : blanks.isAllBlank) (hl : '\n' ∉ blanks)
    (mark : Text) (hm : ∀ c ∈ mark, c = '\r') :
    readBytes (Utf8.encode (blanks ++ mark)) = .ok [] := by
  apply read_bytes_blank_line (line_feed_not_mem_encode hl hm)
  rw [Utf8.decode_lossy_encode]
  exact is_all_blank_append_mark hb hm

theorem read_bytes_mount {mount : MountPoint} (h : mount.IsWritable) (mark : Text)
    (hm : ∀ c ∈ mark, c = '\r') : readBytes (Utf8.encode (mount.toLine ++ mark)) = .ok [mount] := by
  have hl := h.line_feed_not_mem_to_line
  have ht : lineText (Utf8.encode (mount.toLine ++ mark)) = mount.toLine := by
    rw [line_text_encode]
    apply Text.trim_end_when_append
    · intro c hc he
      rcases (Bool.or_eq_true _ _).mp he with he | he
      · exact hl (eq_of_beq he ▸ List.mem_of_getLast? hc)
      · rw [h.get_last?_to_line, eq_of_beq he] at hc
        exact h.superOptions.2.2.1 hc
    · intro c hc
      rw [hm c hc]
      rfl
  have hb := MountPoint.not_is_all_blank_of_line_read h.of_line_to_line
  rw [read_bytes_line (line_feed_not_mem_encode hl hm), ofLines, ht, if_neg hb, h.of_line_to_line]
  rfl

/-- Reading a written table gives the mounts that it was written from. -/
theorem read_bytes_of_writes {mounts : List MountPoint} {content : Bytes}
    (hm : ∀ mount ∈ mounts, mount.IsWritable) (hw : Writes mounts content) :
    readBytes content = .ok mounts := by
  induction hw with
  | blankRest blanks hb hl =>
    have hr := read_bytes_blank hb hl [] (by simp)
    rwa [List.append_nil] at hr
  | mountRest mount =>
    have hr := read_bytes_mount (hm mount List.mem_cons_self) [] (by simp)
    rwa [List.append_nil] at hr
  | mountLine mount lineEnd rest ih =>
    rw [read_bytes_write_line,
      read_bytes_mount (hm mount List.mem_cons_self) _ fun _ => eq_of_mem_mark,
      ih fun other ho => hm other (List.mem_cons_of_mem _ ho)]
    rfl
  | blankLine blanks lineEnd hb hl rest ih =>
    rw [read_bytes_write_line, read_bytes_blank hb hl _ fun _ => eq_of_mem_mark, ih hm]
    exact nil_followed_by _

def escapedMount : MountPoint where
  mountId := -560
  parentId := 77
  deviceId := "-".toList
  root := "/caf\u00e9 \\134\t".toList
  mountPoint := "/mnt\n1 - 2".toList
  options := ["rw".toList, [], "noatime".toList]
  optionalFields := ["shared:1".toList, "--".toList]
  fsType := "9p".toList
  mountSource := " ".toList
  superOptions := ["rw".toList, "path=C:\\Program Files - x\r ".toList]

theorem escaped_mount_is_writable : escapedMount.IsWritable where
  deviceId := by decide
  root := by decide
  mountPoint := by decide
  options := by decide
  optionalFields := by decide
  fsType := by decide
  mountSource := by decide
  superOptions := by decide

def escapedTable : Bytes :=
  writeLine escapedMount.toLine .returnLineFeed ++
    (writeLine "\t\u3000\r".toList .lineFeed ++ Utf8.encode escapedMount.toLine)

theorem read_bytes_of_writes_escaped :
    (∀ mount ∈ [escapedMount, escapedMount], mount.IsWritable) ∧
      Writes [escapedMount, escapedMount] escapedTable ∧
      readBytes escapedTable = .ok [escapedMount, escapedMount] := by
  have hm : ∀ mount ∈ [escapedMount, escapedMount], mount.IsWritable := by
    simpa using escaped_mount_is_writable
  have hw : Writes [escapedMount, escapedMount] escapedTable :=
    .mountLine escapedMount .returnLineFeed
      (.blankLine _ .lineFeed (by decide) (by decide) (.mountRest escapedMount))
  exact ⟨hm, hw, read_bytes_of_writes hm hw⟩

end MountTable
end CgroupLimits
