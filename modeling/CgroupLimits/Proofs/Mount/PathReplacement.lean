import CgroupLimits.Proofs.Files.LineIsolation
import CgroupLimits.Proofs.Mount.LineGrammar
import CgroupLimits.Proofs.Text.Lossy

/-!
# A path costs no more than itself

Whatever bytes stand where the root or the mount point of an entry is written,
the table is still read, and only this field of this entry depends on them.
The line is decoded before it is cut, so this rests on broken bytes never
reaching past the space behind the field.
-/

set_option autoImplicit false

namespace CgroupLimits

namespace LineFields

theorem to_line_eq_pieces (fields : LineFields) :
    fields.toLine = joinWith ' ' (fields.beforeSeparator ++
      separator :: fields.fsType :: fields.mountSource :: splitOn ' ' fields.superOptions) := by
  have hj := join_with_append_split_on ' '
    (fields.beforeSeparator ++ [separator, fields.fsType, fields.mountSource]) fields.superOptions
  rw [List.append_assoc, List.append_assoc] at hj
  exact hj.symm

theorem to_line_append (fields : LineFields) (tail : Text) :
    fields.toLine ++ tail =
      toLine { fields with superOptions := fields.superOptions ++ tail } := by
  have hj := join_with_concat_append ' '
    (fields.beforeSeparator ++ [separator, fields.fsType, fields.mountSource])
    fields.superOptions tail
  rw [List.append_assoc, List.append_assoc] at hj
  exact hj.symm

end LineFields

inductive PathField where
  | root
  | mountPoint
  deriving DecidableEq, Repr

namespace PathField

def position : PathField → Nat
  | .root => 3
  | .mountPoint => 4

def put (field : PathField) (path : Text) (mount : MountPoint) : MountPoint :=
  match field with
  | .root => { mount with root := path }
  | .mountPoint => { mount with mountPoint := path }

def write (field : PathField) (written : Text) (fields : LineFields) : LineFields :=
  match field with
  | .root => { fields with root := written }
  | .mountPoint => { fields with mountPoint := written }

variable (field : PathField) (written : Text) {fields : LineFields}

theorem write_before_separator (rest : List Text) :
    (field.write written fields).beforeSeparator ++ rest =
      (fields.beforeSeparator ++ rest).set field.position written := by
  cases field <;> rfl

theorem write_super_options :
    (field.write written fields).superOptions = fields.superOptions := by
  cases field <;> rfl

theorem write_is_well_formed (h : fields.IsWellFormed) (hw : written ≠ [] ∧ ' ' ∉ written) :
    (field.write written fields).IsWellFormed := by
  have hf := h.fixedFields
  simp only [List.forall_mem_cons] at hf
  obtain ⟨hm, hp, hd, hr, hx, ho, hn⟩ := hf
  cases field with
  | root =>
    refine ⟨?_, h.optionalFields, h.fsType, h.mountSource, h.superOptions⟩
    simp only [write, List.forall_mem_cons]
    exact ⟨hm, hp, hd, hw, hx, ho, hn⟩
  | mountPoint =>
    refine ⟨?_, h.optionalFields, h.fsType, h.mountSource, h.superOptions⟩
    simp only [write, List.forall_mem_cons]
    exact ⟨hm, hp, hd, hr, hw, ho, hn⟩

theorem write_starts_at_top (h : fields.StartsAtTop) (hw : ['/'] <+: Octal.decode written) :
    (field.write written fields).StartsAtTop := by
  cases field with
  | root => exact ⟨hw, h.mountPoint⟩
  | mountPoint => exact ⟨h.root, hw⟩

theorem write_describes {mount : MountPoint} (h : fields.Describes mount) :
    (field.write written fields).Describes (field.put (Octal.decode written) mount) := by
  obtain ⟨hm, hp, hd, hr, hx, ho, hf, ht, hs, hu⟩ := h
  cases field with
  | root => exact ⟨hm, hp, hd, rfl, hx, ho, hf, ht, hs, hu⟩
  | mountPoint => exact ⟨hm, hp, hd, hr, rfl, ho, hf, ht, hs, hu⟩

theorem write_to_line (h : fields.IsCut) :
    (field.write written fields).toLine =
      joinWith ' ' ((splitOn ' ' fields.toLine).set field.position written) := by
  rw [LineFields.split_on_to_line h, ← write_before_separator, LineFields.to_line_eq_pieces]
  cases field <;> rfl

theorem write_to_line_append (h : fields.IsCut) (tail : Text) :
    (field.write written fields).toLine ++ tail =
      joinWith ' ' ((splitOn ' ' (fields.toLine ++ tail)).set field.position written) := by
  have hc : LineFields.IsCut { fields with superOptions := fields.superOptions ++ tail } :=
    ⟨h.before, h.optionalFields, h.fsType, h.mountSource⟩
  rw [LineFields.to_line_append, LineFields.to_line_append, ← write_to_line field written hc]
  cases field <;> rfl

end PathField

namespace MountTable

def space : UInt8 := 0x20

def slash : UInt8 := 0x2F

def replaceField (field : PathField) (written line : Bytes) : Bytes :=
  joinWith space ((splitOn space line).set field.position written)

theorem decode_lossy_replace_field (field : PathField) (written line : Bytes) :
    Utf8.decodeLossy (replaceField field written line) =
      joinWith ' ' ((splitOn ' ' (Utf8.decodeLossy line)).set field.position
        (Utf8.decodeLossy written)) := by
  have hs : space.toNat = ' '.toNat := rfl
  rw [replaceField, Utf8.decode_lossy_join_with _ hs (by decide), List.map_set,
    Utf8.split_on_decode_lossy line hs (by decide) (by decide)]

theorem decode_lossy_slash (path : Bytes) :
    Utf8.decodeLossy (slash :: path) = '/' :: Utf8.decodeLossy path :=
  Utf8.decode_lossy_ascii [] path slash (by decide)

theorem slash_prefix_decode (path : Text) : ['/'] <+: Octal.decode ('/' :: path) := by
  have he : Utf8.encode ('/' :: path) = slash :: Utf8.encode path := rfl
  rw [Octal.decode, he, Octal.decode_bytes_cons _ _ (by decide), decode_lossy_slash]
  exact List.prefix_append ['/'] _

theorem of_line_replace_field {line : Bytes} {mount : MountPoint}
    (h : MountPoint.ofLine (lineText line) = .ok mount) (field : PathField) {path : Bytes}
    (hp : space ∉ path) :
    MountPoint.ofLine (lineText (replaceField field (slash :: path) line)) =
      .ok (field.put (Octal.decode (Utf8.decodeLossy (slash :: path))) mount) := by
  obtain ⟨fields, hf, hw, hs, hd⟩ := MountPoint.exists_fields_of_line_read h
  have hc := ((LineFields.is_well_formed_iff fields).mp hw).1
  obtain ⟨tail, hl, ht, hx⟩ := Text.exists_trimmed endsLine (Utf8.decodeLossy line)
  rw [← lineText, ← hf] at hl hx
  have hn : ' ' ∉ Utf8.decodeLossy path := Utf8.not_mem_decode_lossy hp rfl (by decide) (by decide)
  have he : lineText (replaceField field (slash :: path) line) =
      (field.write ('/' :: Utf8.decodeLossy path) fields).toLine := by
    rw [lineText, decode_lossy_replace_field, hl, decode_lossy_slash,
      ← field.write_to_line_append _ hc]
    refine Text.trim_end_when_append ?_ ht
    have hu := field.write_super_options ('/' :: Utf8.decodeLossy path) ▸ hw.superOptions
    rwa [LineFields.get_last?_to_line hu, PathField.write_super_options,
      ← LineFields.get_last?_to_line hw.superOptions]
  rw [he, decode_lossy_slash]
  apply MountPoint.of_line_to_line
  · exact field.write_is_well_formed _ hw ⟨List.cons_ne_nil _ _, by simpa using hn⟩
  · exact field.write_starts_at_top _ hs (slash_prefix_decode _)
  · exact field.write_describes _ hd

theorem line_feed_not_mem_replace_field (field : PathField) {written line : Bytes}
    (hw : lineFeed ∉ written) (hl : lineFeed ∉ line) :
    lineFeed ∉ replaceField field written line := by
  intro h
  rcases mem_of_mem_join_with h with h | ⟨piece, hp, hm⟩
  · cases h
  · rcases List.mem_or_eq_of_mem_set hp with hp | rfl
    · exact hl (mem_of_mem_split_on hp hm)
    · exact hw hm

theorem read_bytes_eq_singleton_iff {line : Bytes} (hl : lineFeed ∉ line) (mount : MountPoint) :
    readBytes line = .ok [mount] ↔ MountPoint.ofLine (lineText line) = .ok mount := by
  constructor
  · intro h
    rcases read_bytes_line_cases hl with hr | ⟨other, hr, ho⟩ | ⟨error, hr⟩
    · rw [hr] at h
      cases h
    · rw [hr] at h
      cases h
      exact ho
    · rw [hr] at h
      cases h
  · intro h
    have hb := MountPoint.not_is_all_blank_of_line_read h
    rw [read_bytes_line hl, ofLines, if_neg hb, h]
    rfl

/-- The line of one entry of a table, between the lines of the entries before
and behind it. Blank lines may stand anywhere. -/
structure EntryLine (content : Bytes) (before : List MountPoint) (mount : MountPoint)
    (after : List MountPoint) where
  earlier : List Bytes
  line : Bytes
  later : List Bytes
  lines : splitOn lineFeed content = earlier ++ line :: later
  readsBefore : readBytes (joinWith lineFeed earlier) = .ok before
  reads : readBytes line = .ok [mount]
  readsAfter : readBytes (joinWith lineFeed later) = .ok after

def EntryLine.replace {content : Bytes} {before after : List MountPoint} {mount : MountPoint}
    (entry : EntryLine content before mount after) (field : PathField) (written : Bytes) : Bytes :=
  joinWith lineFeed (entry.earlier ++ replaceField field written entry.line :: entry.later)

theorem exists_entry_line {lines : List Bytes} {before after : List MountPoint}
    {mount : MountPoint} (hl : ∀ line ∈ lines, lineFeed ∉ line)
    (h : gather (lines.map readBytes) = .ok (before ++ mount :: after)) :
    ∃ earlier line later, lines = earlier ++ line :: later ∧
      gather (earlier.map readBytes) = .ok before ∧ readBytes line = .ok [mount] ∧
      gather (later.map readBytes) = .ok after := by
  induction lines generalizing before with
  | nil => cases before <;> cases h
  | cons line lines ih =>
    have hn := hl line List.mem_cons_self
    have hs : ∀ other ∈ lines, lineFeed ∉ other :=
      fun other ho => hl other (List.mem_cons_of_mem _ ho)
    obtain ⟨first, rest, hf, hr, he⟩ := followed_by_eq_ok_iff.mp h
    -- Unless the entry is that of this line, it is one of the lines behind it.
    have behind : ∀ others, before = first ++ others → rest = others ++ mount :: after →
        ∃ earlier entry later, line :: lines = earlier ++ entry :: later ∧
          gather (earlier.map readBytes) = .ok before ∧ readBytes entry = .ok [mount] ∧
          gather (later.map readBytes) = .ok after := by
      intro others hb ho
      obtain ⟨earlier, entry, later, rfl, hx, hm, hy⟩ := ih hs (hr.trans (congrArg _ ho))
      refine ⟨line :: earlier, entry, later, rfl, ?_, hm, hy⟩
      rw [List.map_cons, gather, hf, hx, hb]
      rfl
    rcases read_bytes_line_cases hn with hb | ⟨other, hb, -⟩ | ⟨error, hb⟩
    · obtain rfl := Except.ok.inj (hb.symm.trans hf)
      exact behind before rfl he.symm
    · obtain rfl := Except.ok.inj (hb.symm.trans hf)
      cases before with
      | nil =>
        obtain ⟨rfl, rfl⟩ := List.cons.inj he
        exact ⟨[], line, lines, rfl, rfl, hb, hr⟩
      | cons head others =>
        obtain ⟨rfl, ht⟩ := List.cons.inj he
        exact behind others rfl ht.symm
    · cases hb.symm.trans hf

/-- Every entry has its line, and whatever bytes the path in this line is
replaced by, the table is read with another path in this entry and no other
change. -/
theorem read_bytes_replaced_path {content : Bytes} {before after : List MountPoint}
    {mount : MountPoint} (h : readBytes content = .ok (before ++ mount :: after)) :
    Nonempty (EntryLine content before mount after) ∧
    ∀ (entry : EntryLine content before mount after) (field : PathField) (path : Bytes),
      space ∉ path → lineFeed ∉ path →
      readBytes (entry.replace field (slash :: path)) =
        .ok (before ++
          field.put (Octal.decode (Utf8.decodeLossy (slash :: path))) mount :: after) := by
  constructor
  · have hg := read_bytes_join_with (splitOn lineFeed content)
    rw [join_with_split_on, h] at hg
    obtain ⟨earlier, line, later, hs, hx, hm, hy⟩ :=
      exists_entry_line (fun line => not_mem_of_mem_split_on) hg.symm
    rw [← read_bytes_join_with] at hx hy
    exact ⟨⟨earlier, line, later, hs, hx, hm, hy⟩⟩
  · intro entry field path hs hl
    have he : entry.line ∈ splitOn lineFeed content := by
      rw [entry.lines]
      simp
    have hn := not_mem_of_mem_split_on he
    have hm := (read_bytes_eq_singleton_iff hn mount).mp entry.reads
    have hw : lineFeed ∉ slash :: path := by
      rw [List.mem_cons]
      exact fun hc => hc.elim (by decide) hl
    have hr := (read_bytes_eq_singleton_iff (line_feed_not_mem_replace_field field hw hn) _).mpr
      (of_line_replace_field hm field hs)
    rw [EntryLine.replace, read_bytes_join_with, List.map_append, gather_append, List.map_cons,
      gather, hr, ← read_bytes_join_with, ← read_bytes_join_with, entry.readsBefore,
      entry.readsAfter]
    rfl

def stickMount : MountPoint where
  mountId := 50
  parentId := 1
  deviceId := "8:17".toList
  root := "/".toList
  mountPoint := "/media/stick".toList
  options := ["rw".toList]
  optionalFields := ["shared:1".toList]
  fsType := "vfat".toList
  mountSource := "/dev/sdb1".toList
  superOptions := ["rw".toList, "x=a - b".toList]

def stickLine : Bytes :=
  Utf8.encode "50 1 8:17 / /media/stick rw shared:1 - vfat /dev/sdb1 rw,x=a - b\r".toList

def stickTable : Bytes := joinWith lineFeed [stickLine, [0x0D], stickLine, []]

def secondStick : EntryLine stickTable [stickMount] stickMount [] where
  earlier := [stickLine, [0x0D]]
  line := stickLine
  later := [[]]
  lines := by decide +kernel
  readsBefore := by decide +kernel
  reads := by decide +kernel
  readsAfter := by decide +kernel

def brokenPath : Bytes := [0xE2, 0x82] ++ Utf8.encode "\\351".toList ++ [0xF0]

theorem read_bytes_replaced_path_broken :
    readBytes stickTable = .ok ([stickMount] ++ stickMount :: []) ∧
      space ∉ brokenPath ∧ lineFeed ∉ brokenPath ∧
      readBytes (secondStick.replace .mountPoint (slash :: brokenPath)) =
        .ok [stickMount, { stickMount with mountPoint := "/\ufffd\ufffd\ufffd".toList }] ∧
      readBytes (secondStick.replace .root (slash :: brokenPath)) =
        .ok [stickMount, { stickMount with root := "/\ufffd\ufffd\ufffd".toList }] := by
  have h : readBytes stickTable = .ok ([stickMount] ++ stickMount :: []) := by decide +kernel
  have hs : space ∉ brokenPath := by decide
  have hl : lineFeed ∉ brokenPath := by decide
  have hp : Octal.decode (Utf8.decodeLossy (slash :: brokenPath)) =
      "/\ufffd\ufffd\ufffd".toList := by decide +kernel
  have hr := (read_bytes_replaced_path h).2 secondStick
  refine ⟨h, hs, hl, ?_, ?_⟩
  · rw [hr .mountPoint brokenPath hs hl, hp]
    rfl
  · rw [hr .root brokenPath hs hl, hp]
    rfl

end MountTable
end CgroupLimits
