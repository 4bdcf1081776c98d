import CgroupLimits.Proofs.Files.TableFaults
import CgroupLimits.Proofs.Mount.TableRoundTrip

/-!
# Writing membership entries and reading them back

An entry is its id, its controllers and its group, with two colons between
them. Only the group may hold colons, so a line is cut in one way, and the
parts of a line that is read give the line back. A file of such lines is read
as the entries it was written from, however the lines end and whatever blank
lines stand among them.
-/

set_option autoImplicit false

namespace CgroupLimits

namespace Membership
open Numeral

def idText (line : Text) : Text := line.takeWhile (· != ':')

def IsEntry (line : Text) : Prop :=
  2 ≤ line.count ':' ∧ ∃ n < 4294967296, DenotesUnsigned (idText line) n

/-- An entry that a line can hold. The one empty controller would be written as
no controller is. -/
structure IsWritable (entry : Membership) : Prop where
  controllers : ∀ controller ∈ entry.controllers,
    ',' ∉ controller ∧ ':' ∉ controller ∧ '\n' ∉ controller
  notOneEmpty : entry.controllers ≠ [[]]
  group : '\n' ∉ entry.group ∧ entry.group.getLast? ≠ some '\r'

theorem id_text_append {id : Text} (h : ':' ∉ id) (rest : Text) :
    idText (id ++ ':' :: rest) = id := by
  have hp : ∀ c ∈ id, (c != ':') = true := by
    intro c hc
    exact bne_iff_ne.mpr fun he => h (he ▸ hc)
  rw [idText, List.takeWhile_append_of_pos hp]
  simp

theorem join_with_read_controllers (field : Text) :
    joinWith ',' (readControllers field) = field := by
  rw [readControllers]
  split
  · rename_i h
    exact h.symm
  · exact join_with_split_on ',' field

theorem read_controllers_join_with {controllers : List Text}
    (h : ∀ controller ∈ controllers, ',' ∉ controller) (hn : controllers ≠ [[]]) :
    readControllers (joinWith ',' controllers) = controllers := by
  by_cases hc : controllers = []
  · subst controllers
    rfl
  · have hs := split_on_join_with ',' hc h
    have hj : joinWith ',' controllers ≠ [] := by
      intro he
      rw [he] at hs
      exact hn hs.symm
    rw [readControllers, if_neg hj, hs]

theorem mem_of_mem_read_controllers {field controller : Text}
    (h : controller ∈ readControllers field) :
    ',' ∉ controller ∧ ∀ c ∈ controller, c ∈ field := by
  rw [readControllers] at h
  split at h
  · cases h
  · exact ⟨not_mem_of_mem_split_on h, fun c hc => mem_of_mem_split_on h hc⟩

theorem of_line_reads_iff (line : Text) (entry : Membership) :
    ofLine line = .ok entry ↔ ∃ id controllers, (':' ∉ id ∧ ':' ∉ controllers) ∧
      line = id ++ ':' :: (controllers ++ ':' :: entry.group) ∧
      DenotesUnsigned id entry.hierarchyId.toNat ∧
      entry.controllers = readControllers controllers := by
  constructor
  · intro h
    rw [ofLine] at h
    split at h
    · rename_i id controllers group hl
      obtain ⟨hn, hl⟩ := (split_at_most_three_iff id controllers group).mp hl
      split at h
      · rename_i hierarchyId hid
        cases h
        exact ⟨id, controllers, hn, hl, (uint32_eq_ok_iff id hierarchyId).mp hid, rfl⟩
      · cases h
    · cases h
  · rintro ⟨id, controllers, hn, hl, hid, hc⟩
    rw [ofLine, (split_at_most_three_iff id controllers entry.group).mpr ⟨hn, hl⟩]
    simp only [(uint32_eq_ok_iff id entry.hierarchyId).mpr hid, ← hc]

theorem exists_of_line_iff (line : Text) : (∃ entry, ofLine line = .ok entry) ↔ IsEntry line := by
  rw [IsEntry, two_le_count_iff]
  constructor
  · rintro ⟨entry, h⟩
    obtain ⟨id, controllers, hn, rfl, hid, -⟩ := (of_line_reads_iff line entry).mp h
    refine ⟨⟨id, controllers, entry.group, hn, rfl⟩, entry.hierarchyId.toNat,
      entry.hierarchyId.toNat_lt, ?_⟩
    rwa [id_text_append hn.1]
  · rintro ⟨⟨id, controllers, group, hn, rfl⟩, n, hlt, hid⟩
    rw [id_text_append hn.1] at hid
    refine ⟨⟨UInt32.ofNat n, readControllers controllers, group⟩,
      (of_line_reads_iff _ _).mpr ⟨id, controllers, hn, rfl, ?_, rfl⟩⟩
    rwa [UInt32.toNat_ofNat', Nat.mod_eq_of_lt hlt]

theorem join_with_of_line_read {line : Text} {entry : Membership} (h : ofLine line = .ok entry) :
    joinWith ':' [idText line, joinWith ',' entry.controllers, entry.group] = line := by
  obtain ⟨id, controllers, hn, rfl, -, hc⟩ := (of_line_reads_iff line entry).mp h
  rw [id_text_append hn.1, hc, join_with_read_controllers]
  rfl

theorem denotes_unsigned_of_line_read {line : Text} {entry : Membership}
    (h : ofLine line = .ok entry) : DenotesUnsigned (idText line) entry.hierarchyId.toNat := by
  obtain ⟨id, controllers, hn, rfl, hid, -⟩ := (of_line_reads_iff line entry).mp h
  rwa [id_text_append hn.1]

theorem controllers_of_line_read {line : Text} {entry : Membership} (h : ofLine line = .ok entry) :
    ∀ controller ∈ entry.controllers, ',' ∉ controller ∧ ':' ∉ controller := by
  obtain ⟨id, controllers, hn, -, -, hc⟩ := (of_line_reads_iff line entry).mp h
  intro controller hm
  obtain ⟨hs, hf⟩ := mem_of_mem_read_controllers (hc ▸ hm)
  exact ⟨hs, fun hx => hn.2 (hf ':' hx)⟩

theorem controllers_ne_of_line_read {line : Text} {entry : Membership}
    (h : ofLine line = .ok entry) : entry.controllers ≠ [[]] := by
  obtain ⟨id, controllers, -, -, -, hc⟩ := (of_line_reads_iff line entry).mp h
  intro he
  have hj := join_with_read_controllers controllers
  rw [← hc, he] at hj
  rw [he, ← hj] at hc
  cases hc

theorem colon_mem_to_line (entry : Membership) : ':' ∈ entry.toLine := by
  simp [toLine, joinWith]

namespace IsWritable
variable {entry : Membership}

theorem not_mem_controllers {c : Char} (hc : c ≠ ',')
    (h : ∀ controller ∈ entry.controllers, c ∉ controller) :
    c ∉ joinWith ',' entry.controllers := by
  intro hm
  rcases mem_of_mem_join_with hm with he | ⟨controller, hp, hx⟩
  · exact hc he
  · exact h controller hp hx

theorem of_line_to_line (h : entry.IsWritable) : ofLine entry.toLine = .ok entry := by
  have hid := denotes_unsigned_of_nat entry.hierarchyId.toNat
  refine (of_line_reads_iff _ _).mpr ⟨ofNat entry.hierarchyId.toNat,
    joinWith ',' entry.controllers, ⟨?_, ?_⟩, rfl, hid, ?_⟩
  · exact hid.1.not_mem (by decide) (by decide) (by decide)
  · exact not_mem_controllers (by decide) fun controller hm => (h.controllers controller hm).2.1
  · exact (read_controllers_join_with (fun controller hm => (h.controllers controller hm).1)
      h.notOneEmpty).symm

theorem line_feed_not_mem_to_line (h : entry.IsWritable) : '\n' ∉ entry.toLine := by
  have hid := (denotes_unsigned_of_nat entry.hierarchyId.toNat).1
  have hi : '\n' ∉ ofNat entry.hierarchyId.toNat :=
    hid.not_mem (by decide) (by decide) (by decide)
  have hc : '\n' ∉ joinWith ',' entry.controllers :=
    not_mem_controllers (by decide) fun controller hm => (h.controllers controller hm).2.2
  simp [toLine, joinWith, hi, hc, h.group.1]

theorem get_last?_to_line (h : entry.IsWritable) : entry.toLine.getLast? ≠ some '\r' := by
  have hg := h.group.2
  simp only [toLine, joinWith, List.getLast?_append, List.getLast?_cons]
  cases hl : entry.group.getLast? with
  | none => simp
  | some c => simpa [hl] using hg

end IsWritable
end Membership

namespace MembershipTable
open MountTable (LineEnd writeLine write_line_eq line_feed_not_mem_encode eq_of_mem_mark
  is_all_blank_append_mark)

/-- The bytes are the lines of these entries in order, with blank lines anywhere
among them. Behind the last line end there may be one more entry, or blanks. -/
inductive Writes : List Membership → Bytes → Prop
  | blankRest (blanks : Text) (isBlank : blanks.isAllBlank) (oneLine : '\n' ∉ blanks) :
      Writes [] (Utf8.encode blanks)
  | entryRest (entry : Membership) : Writes [entry] (Utf8.encode entry.toLine)
  | entryLine (entry : Membership) (lineEnd : LineEnd) {entries : List Membership}
      {content : Bytes} (rest : Writes entries content) :
      Writes (entry :: entries) (writeLine entry.toLine lineEnd ++ content)
  | blankLine (blanks : Text) (lineEnd : LineEnd) (isBlank : blanks.isAllBlank)
      (oneLine : '\n' ∉ blanks) {entries : List Membership} {content : Bytes}
      (rest : Writes entries content) : Writes entries (writeLine blanks lineEnd ++ content)

theorem without_return_mark {line : Text} (h : line.getLast? ≠ some '\r') (lineEnd : LineEnd) :
    withoutReturn (line ++ lineEnd.mark) = line := by
  cases lineEnd with
  | lineFeed => rw [LineEnd.mark, List.append_nil, withoutReturn, if_neg h]
  | returnLineFeed => simp [LineEnd.mark, withoutReturn]

theorem is_all_blank_without_return {line : Text} (h : line.isAllBlank) :
    (withoutReturn line).isAllBlank := by
  rw [withoutReturn]
  split
  · rw [Text.isAllBlank, List.all_eq_true]
    intro c hc
    exact List.all_eq_true.mp h c (List.dropLast_subset _ hc)
  · exact h

theorem read_bytes_write_line {line : Text} (hl : '\n' ∉ line) (lineEnd : LineEnd)
    (content : Bytes) :
    readBytes (writeLine line lineEnd ++ content) =
      followedBy (ofText (withoutReturn (line ++ lineEnd.mark))) (readBytes content) := by
  have hm : ∀ c ∈ lineEnd.mark, c = '\r' := fun _ => eq_of_mem_mark
  rw [write_line_eq, List.append_assoc, List.singleton_append, read_bytes_line_feed,
    read_bytes_finished (line_feed_not_mem_encode hl hm), of_finished_eq, finishedText?,
    Utf8.decode?_encode]
  rfl

theorem read_bytes_unended {line : Text} (hl : '\n' ∉ line) :
    readBytes (Utf8.encode line) = ofText line := by
  rw [read_bytes_unfinished (Utf8.not_mem_encode hl (by decide) (by decide)), of_unfinished_eq,
    Utf8.decode?_encode]
  rfl

theorem of_text_to_line {entry : Membership} (h : entry.IsWritable) :
    ofText entry.toLine = .ok [entry] := by
  have hb : ¬ entry.toLine.isAllBlank := by
    intro hb
    exact absurd (List.all_eq_true.mp hb ':' entry.colon_mem_to_line) (by decide)
  rw [ofText, if_neg hb, h.of_line_to_line]
  rfl

theorem read_bytes_writes {entries : List Membership} {content : Bytes}
    (he : ∀ entry ∈ entries, entry.IsWritable) (hw : Writes entries content) :
    readBytes content = .ok entries := by
  induction hw with
  | blankRest blanks hb hl => rw [read_bytes_unended hl, ofText, if_pos hb]
  | entryRest entry =>
    have h := he entry List.mem_cons_self
    rw [read_bytes_unended h.line_feed_not_mem_to_line, of_text_to_line h]
  | entryLine entry lineEnd rest ih =>
    have h := he entry List.mem_cons_self
    rw [read_bytes_write_line h.line_feed_not_mem_to_line, without_return_mark h.get_last?_to_line,
      of_text_to_line h, ih fun other ho => he other (List.mem_cons_of_mem _ ho)]
    rfl
  | blankLine blanks lineEnd hb hl rest ih =>
    have hm : (blanks ++ lineEnd.mark).isAllBlank :=
      is_all_blank_append_mark hb fun _ => eq_of_mem_mark
    rw [read_bytes_write_line hl, ofText, if_pos (is_all_blank_without_return hm), ih he]
    exact nil_followed_by _

/-- Written entries are read again, and a line that is read holds its text. -/
theorem written_and_read :
    (∀ entries content, (∀ entry ∈ entries, Membership.IsWritable entry) →
      Writes entries content → readBytes content = .ok entries) ∧
    ∀ line, ((∃ entry, Membership.ofLine line = .ok entry) ↔ Membership.IsEntry line) ∧
      (¬ Membership.IsEntry line → Membership.ofLine line = .error (.malformedEntry line)) ∧
      ∀ entry, Membership.ofLine line = .ok entry →
        joinWith ':' [Membership.idText line, joinWith ',' entry.controllers, entry.group] =
            line ∧
          Numeral.DenotesUnsigned (Membership.idText line) entry.hierarchyId.toNat ∧
          entry.controllers ≠ [[]] ∧
          ∀ controller ∈ entry.controllers, ',' ∉ controller ∧ ':' ∉ controller := by
  refine ⟨fun _ _ => read_bytes_writes, ?_⟩
  intro line
  refine ⟨Membership.exists_of_line_iff line, ?_, ?_⟩
  · intro hn
    cases h : Membership.ofLine line with
    | ok entry => exact absurd ((Membership.exists_of_line_iff line).mp ⟨entry, h⟩) hn
    | error fault => rw [Membership.of_line_eq_error h]
  · intro entry h
    exact ⟨Membership.join_with_of_line_read h, Membership.denotes_unsigned_of_line_read h,
      Membership.controllers_ne_of_line_read h, Membership.controllers_of_line_read h⟩

def tangledEntries : List Membership :=
  [⟨0, [], "/a:b,c\r:/d".toList⟩, ⟨4294967295, [[], "cpu".toList, []], []⟩,
    ⟨1, ["name=systemd".toList], ":".toList⟩]

def tangledFile : Bytes :=
  writeLine " \r".toList .returnLineFeed ++
    (writeLine "0::/a:b,c\r:/d".toList .returnLineFeed ++
      (writeLine "4294967295:,cpu,:".toList .lineFeed ++
        (writeLine "\u3000".toList .lineFeed ++
          (writeLine "1:name=systemd::".toList .returnLineFeed ++ []))))

theorem written_and_read_tangled :
    (∀ entry ∈ tangledEntries, Membership.IsWritable entry) ∧
      Writes tangledEntries tangledFile ∧ readBytes tangledFile = .ok tangledEntries ∧
      ¬ Membership.IsEntry "-0:cpu:/a".toList ∧
      Membership.ofLine "-0:cpu:/a".toList = .error (.malformedEntry "-0:cpu:/a".toList) ∧
      Membership.ofLine "+007:a,:b:".toList = .ok ⟨7, ["a".toList, []], "b:".toList⟩ ∧
      Numeral.DenotesUnsigned "+007".toList 7 := by
  have he : ∀ entry ∈ tangledEntries, Membership.IsWritable entry := by
    intro entry hm
    simp only [tangledEntries, List.mem_cons, List.not_mem_nil, or_false] at hm
    rcases hm with rfl | rfl | rfl <;> exact ⟨by decide, by decide, by decide⟩
  have hw : Writes tangledEntries tangledFile :=
    .blankLine _ .returnLineFeed (by decide) (by decide)
      (.entryLine ⟨0, [], "/a:b,c\r:/d".toList⟩ .returnLineFeed
        (.entryLine ⟨4294967295, [[], "cpu".toList, []], []⟩ .lineFeed
          (.blankLine _ .lineFeed (by decide) (by decide)
            (.entryLine ⟨1, ["name=systemd".toList], ":".toList⟩ .returnLineFeed
              (.blankRest [] rfl (by decide))))))
  have hn : ¬ Membership.IsEntry "-0:cpu:/a".toList := by
    rintro ⟨-, n, -, hd⟩
    exact hd.2 rfl
  have hr : Membership.ofLine "+007:a,:b:".toList = .ok ⟨7, ["a".toList, []], "b:".toList⟩ := by
    decide
  exact ⟨he, hw, written_and_read.1 _ _ he hw, hn, (written_and_read.2 _).2.1 hn, hr,
    ((written_and_read.2 _).2.2 _ hr).2.1⟩

end MembershipTable
end CgroupLimits
