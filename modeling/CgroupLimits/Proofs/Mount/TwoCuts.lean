import CgroupLimits.Proofs.Mount.LineGrammar
import Mathlib.Order.Bounds.Basic

/-!
# Two cuts of one line

A line is cut twice, at every space to find the separator, and then into as
many pieces as the position of the separator allows. Fields are looked up in
the second cut at positions known from the first. The two fit together for
every line: no position is out of range, and each one holds what the first cut
has there, except that the last piece keeps its spaces.
-/

set_option autoImplicit false

namespace CgroupLimits

theorem count_join_with {α : Type} [BEq α] [LawfulBEq α] {separator : α} {pieces : List (List α)}
    (hn : pieces ≠ []) (h : ∀ piece ∈ pieces, separator ∉ piece) :
    (joinWith separator pieces).count separator+1 = pieces.length := by
  induction pieces with
  | nil => exact absurd rfl hn
  | cons piece pieces ih =>
    have hp := List.count_eq_zero.mpr (h piece List.mem_cons_self)
    by_cases hs : pieces = []
    · subst pieces
      exact congrArg (·+1) hp
    · have hl := ih hs fun other ho => h other (List.mem_cons_of_mem _ ho)
      rw [join_with_cons _ _ hs, List.count_append, List.count_cons_self, hp, List.length_cons]
      omega

namespace LineFields

def limitedCut (index : Nat) (line : Text) : List Text := splitAtMost (index+4) ' ' line

def upTo? (stop : Nat) (pieces : List Text) : Option (List Text) :=
  if stop ≤ pieces.length then some (pieces.take stop) else none

def startingAt? (start : Nat) (pieces : List Text) : Option (List Text) :=
  if start ≤ pieces.length then some (pieces.drop start) else none

def atPositions? (index : Nat) (pieces : List Text) : Option LineFields := do
  let before ← upTo? index pieces
  let behind ← startingAt? (index+1) pieces
  return {
    mountId := ← before[0]?
    parentId := ← before[1]?
    deviceId := ← before[2]?
    root := ← before[3]?
    mountPoint := ← before[4]?
    options := ← before[5]?
    optionalFields := ← startingAt? fixedFieldCount before
    fsType := ← behind[0]?
    mountSource := ← behind[1]?
    superOptions := ← behind[2]? }

/-- A line read by positions; no answer stands for a position out of range. -/
def readByPosition (line : Text) : Option (Except LineError MountPoint) :=
  match separatorIndex? line with
  | none => some (.error (.malformed line))
  | some index =>
    if (limitedCut index line).length = index+4 then
      (atPositions? index (limitedCut index line)).map fun fields =>
        if fields.isComplete && fields.isRooted then fields.toMountPoint
        else .error (.malformed line)
    else some (.error (.malformed line))

structure CutsAgree (line : Text) (index : Nat) (pieces : List Text) : Prop where
  first : IsLeast {i | 6 ≤ i ∧ (line.splitOn ' ')[i]? = some ['-']} index
  separator : pieces[index]? = some ['-']
  same : ∀ i < index+3, pieces[i]? = (line.splitOn ' ')[i]?
  remainder : ∃ start last, pieces[index+3]? = some last ∧ line = start ++ ' ' :: last ∧
    start.count ' ' = index+2
  joined : [' '].intercalate pieces = line
  before : 6 ≤ (pieces.take index).length
  behind : (pieces.drop (index+1)).length = 3

structure HasRoom (line : Text) (index : Nat) (first : List Text) (fsType mountSource : Text)
    (rest : List Text) : Prop where
  index_eq : first.length = index
  fixed : fixedFieldCount ≤ first.length
  optional : separator ∉ first.drop fixedFieldCount
  full : splitOn ' ' line = (first ++ [separator, fsType, mountSource]) ++ rest
  limited : limitedCut index line =
    (first ++ [separator, fsType, mountSource]) ++ [joinWith ' ' rest]

variable {line : Text} {index : Nat}

theorem short_or_has_room (h : separatorIndex? line = some index) :
    (∃ first after, first.length = index ∧ after.length ≤ 2 ∧
      limitedCut index line = first ++ separator :: after) ∨
    ∃ first fsType mountSource rest, HasRoom line index first fsType mountSource rest := by
  obtain ⟨first, after, hs, rfl, hf, ho⟩ := split_on_of_separator_index? h
  match after with
  | fsType :: mountSource :: next :: rest =>
    have hm := split_at_most_of_split_on hs (List.cons_ne_nil next rest)
    refine Or.inr ⟨first, fsType, mountSource, next :: rest, rfl, hf, ho, ?_, ?_⟩
    · rw [hs, List.append_assoc]
      rfl
    · rw [limitedCut, hm, List.append_assoc]
      rfl
  | [] | [_] | [_, _] =>
    exact Or.inl ⟨first, _, rfl, by simp, split_at_most_of_short hs (by simp)⟩

section Room
variable {first : List Text} {fsType mountSource : Text} {rest : List Text}

theorem HasRoom.length_front (h : HasRoom line index first fsType mountSource rest) :
    (first ++ [separator, fsType, mountSource]).length = index+3 := by
  rw [List.length_append, h.index_eq]
  rfl

theorem HasRoom.length_limited (h : HasRoom line index first fsType mountSource rest) :
    (limitedCut index line).length = index+4 := by
  rw [h.limited, List.length_append, h.length_front]
  rfl

theorem HasRoom.is_least (h : HasRoom line index first fsType mountSource rest) :
    IsLeast {i | 6 ≤ i ∧ (line.splitOn ' ')[i]? = some ['-']} index := by
  have hi := h.index_eq
  have hf := h.fixed
  have hfull : line.splitOn ' ' = first ++ separator :: fsType :: mountSource :: rest := by
    rw [← split_on_eq_split_on, h.full, List.append_assoc]
    rfl
  rw [fixedFieldCount] at hf
  rw [hfull]
  constructor
  · refine ⟨by omega, ?_⟩
    rw [← hi, List.getElem?_append_right (Nat.le_refl _), Nat.sub_self]
    rfl
  · rintro i ⟨hl, hs⟩
    by_contra hlt
    rw [List.getElem?_append_left (by omega)] at hs
    apply h.optional
    apply List.mem_of_getElem? (i := i-fixedFieldCount)
    rw [List.getElem?_drop, fixedFieldCount, Nat.add_sub_cancel' hl]
    exact hs

theorem HasRoom.agreement (h : HasRoom line index first fsType mountSource rest) :
    CutsAgree line index (limitedCut index line) := by
  have hi := h.index_eq
  have hl := h.length_front
  have hj : joinWith ' ' (limitedCut index line) = line := join_with_split_at_most _ ' ' line
  constructor
  · exact h.is_least
  · rw [h.limited, List.append_assoc, List.getElem?_append_right (by omega), hi, Nat.sub_self]
    rfl
  · intro i hlt
    have hi : i < (first ++ [separator, fsType, mountSource]).length := by omega
    rw [← split_on_eq_split_on, h.full, h.limited, List.getElem?_append_left hi,
      List.getElem?_append_left hi]
  · have hn : first ++ [separator, fsType, mountSource] ≠ [] := by simp
    have hp : ∀ piece ∈ first ++ [separator, fsType, mountSource], ' ' ∉ piece := by
      intro piece hm
      exact not_mem_of_mem_split_on (h.full ▸ List.mem_append_left rest hm)
    have hc := count_join_with hn hp
    refine ⟨joinWith ' ' (first ++ [separator, fsType, mountSource]), joinWith ' ' rest, ?_, ?_, ?_⟩
    · rw [h.limited, List.getElem?_append_right (by omega), hl, Nat.sub_self]
      rfl
    · rw [← join_with_concat ' ' _ hn, ← h.limited, hj]
    · omega
  · rw [← join_with_eq_intercalate, hj]
  · have hf := h.fixed
    rw [fixedFieldCount] at hf
    rw [List.length_take, h.length_limited]
    omega
  · rw [List.length_drop, h.length_limited]
    omega

theorem HasRoom.exists_fields (h : HasRoom line index first fsType mountSource rest)
    (hs : separatorIndex? line = some index) :
    ∃ fields, atPositions? index (limitedCut index line) = some fields ∧
      ofLine? line = some fields := by
  obtain ⟨mountId, parentId, deviceId, root, mountPoint, options, optionalFields, rfl⟩ :=
    exists_of_length h.fixed
  have hi := h.index_eq
  have hl : limitedCut index line = (mountId :: parentId :: deviceId :: root :: mountPoint ::
      options :: optionalFields) ++ separator :: [fsType, mountSource, joinWith ' ' rest] := by
    rw [h.limited, List.append_assoc]
    rfl
  have ht : (limitedCut index line).take index = mountId :: parentId :: deviceId :: root ::
      mountPoint :: options :: optionalFields := by
    rw [hl, ← hi, List.take_left]
  have hd : (limitedCut index line).drop (index+1) =
      [fsType, mountSource, joinWith ' ' rest] := by
    rw [hl, ← hi, drop_separator]
  refine ⟨{ mountId, parentId, deviceId, root, mountPoint, options, optionalFields, fsType,
            mountSource, superOptions := joinWith ' ' rest }, ?_, ?_⟩
  · have hn := h.length_limited
    rw [atPositions?, upTo?, if_pos (by omega), ht, startingAt?, if_pos (by omega), hd]
    rfl
  · rw [limitedCut] at ht hd
    simp only [ofLine?, hs, ht, hd]

end Room

theorem of_line?_of_short {first after : List Text} (hs : separatorIndex? line = some index)
    (hi : first.length = index) (ha : after.length ≤ 2)
    (hl : limitedCut index line = first ++ separator :: after) : ofLine? line = none := by
  have hd : (limitedCut index line).drop (index+1) = after := by
    rw [hl, ← hi, drop_separator]
  rw [limitedCut] at hd
  simp only [ofLine?, hs, hd]
  split
  · simp at ha
  · rfl

theorem read_by_position_eq (line : Text) :
    readByPosition line = some (MountPoint.ofLine line) := by
  rw [readByPosition, MountPoint.ofLine]
  cases hs : separatorIndex? line with
  | none => simp only [ofLine?, hs]
  | some index =>
    dsimp only
    rcases short_or_has_room hs with ⟨first, after, hi, ha, hl⟩ | ⟨_, _, _, _, h⟩
    · have hn : (limitedCut index line).length ≠ index+4 := by
        rw [hl, List.length_append, List.length_cons]
        omega
      rw [if_neg hn, of_line?_of_short hs hi ha hl]
    · obtain ⟨fields, hp, hf⟩ := h.exists_fields hs
      rw [if_pos h.length_limited, hp, hf]
      rfl

/-- With a separator and three fields behind it, the second cut has the pieces
of the first, and with or without them no look-up is out of range. -/
theorem cuts_agree (line : Text) :
    (∀ index, separatorIndex? line = some index → (limitedCut index line).length = index+4 →
      CutsAgree line index (limitedCut index line)) ∧
    readByPosition line = some (MountPoint.ofLine line) := by
  refine ⟨?_, read_by_position_eq line⟩
  intro index hs hl
  rcases short_or_has_room hs with ⟨first, after, hi, ha, hc⟩ | ⟨_, _, _, _, h⟩
  · rw [hc, List.length_append, List.length_cons] at hl
    omega
  · exact h.agreement

theorem cuts_agree_drive :
    separatorIndex? MountPoint.driveFields.toLine = some 7 ∧
      (limitedCut 7 MountPoint.driveFields.toLine).length = 11 ∧
      CutsAgree MountPoint.driveFields.toLine 7 (limitedCut 7 MountPoint.driveFields.toLine) ∧
      (limitedCut 7 MountPoint.driveFields.toLine)[10]? =
        some "rw,path=C:\\Program Files - x,mmap".toList := by
  have hs : separatorIndex? MountPoint.driveFields.toLine = some 7 := by decide
  have hl : (limitedCut 7 MountPoint.driveFields.toLine).length = 11 := by decide
  exact ⟨hs, hl, (cuts_agree _).1 7 hs hl, by decide⟩

end LineFields
end CgroupLimits
