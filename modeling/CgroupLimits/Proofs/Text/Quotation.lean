import CgroupLimits.Text.Quoted
import Mathlib.Data.List.Basic
import Mathlib.Tactic.SplitIfs

/-!
# Reading quoted text

A quoted text can be read back wherever it stands: its characters come back one
by one from how they are spelled, and the first quote that no backslash
precedes is the end of it, whatever follows. No control character is ever
written.
-/

set_option autoImplicit false

namespace CgroupLimits

def IsControl (c : Char) : Prop := c.toNat ≤ 0x1F ∨ (0x7F ≤ c.toNat ∧ c.toNat ≤ 0x9F)

instance (c : Char) : Decidable (IsControl c) :=
  inferInstanceAs (Decidable (c.toNat ≤ 0x1F ∨ (0x7F ≤ c.toNat ∧ c.toNat ≤ 0x9F)))

def HasNoControl (s : Text) : Prop := ∀ c ∈ s, ¬ IsControl c

-- By name, since other instances run through all characters there are.
instance (s : Text) : Decidable (HasNoControl s) :=
  List.decidableBAll (fun c => ¬ IsControl c) s

theorem has_no_control_append (s t : Text) :
    HasNoControl (s ++ t) ↔ HasNoControl s ∧ HasNoControl t := List.forall_mem_append

namespace Quoted

def shortForms : List (Char × Char) :=
  [('\"', '\"'), ('\\', '\\'), ('\x00', '0'), ('\t', 't'), ('\r', 'r'), ('\n', 'n')]

inductive Spelling : Char → Text → Prop
  | short {c letter : Char} (listed : (c, letter) ∈ shortForms) : Spelling c ['\\', letter]
  | itself {c : Char} (quote : c ≠ '\"') (backslash : c ≠ '\\') (plain : isPlain c) :
      Spelling c [c]
  | number {c : Char} : Spelling c (byNumber c)

theorem spelling_escape_char (c : Char) : Spelling c (escapeChar c) := by
  rw [escapeChar]
  split_ifs with hq hb hz ht hr hn hp
  · subst hq
    exact .short (by decide)
  · subst hb
    exact .short (by decide)
  · subst hz
    exact .short (by decide)
  · subst ht
    exact .short (by decide)
  · subst hr
    exact .short (by decide)
  · subst hn
    exact .short (by decide)
  · exact .itself hq hb hp
  · exact .number

theorem not_is_control_of_is_plain {c : Char} (h : isPlain c) : ¬ IsControl c := by
  -- Only the first two ranges matter here, so the others stay folded.
  obtain ⟨rest, hr⟩ : ∃ rest, unprintableRanges = (0x0, 0x1F) :: (0x7F, 0xA0) :: rest := ⟨_, rfl⟩
  intro hc
  have hu : inRanges c.toNat unprintableRanges = true := by
    rw [hr, inRanges, if_neg (Nat.not_lt_zero _), inRanges]
    rcases hc with hc | hc
    · rw [if_pos hc]
    · rw [if_neg (by omega), if_neg (by omega), if_pos (by omega)]
  rw [isPlain, hu, Bool.or_true, Bool.true_or] at h
  cases h

theorem exists_digits (n : Nat) :
    ∃ digits : List Nat, Nat.toDigits 16 n = digits.map Nat.digitChar ∧
      (∀ digit ∈ digits, digit < 16) ∧
      digits.foldl (fun value digit => value*16+digit) 0 = n := by
  induction n using Nat.strongRecOn with
  | ind n ih =>
    by_cases hs : n < 16
    · exact ⟨[n], Nat.toDigits_of_lt_base hs, by simpa using hs, by simp⟩
    · obtain ⟨digits, hd, hl, hv⟩ := ih (n/16) (by omega)
      have hm : n%16 < 16 := Nat.mod_lt n (by decide)
      refine ⟨digits ++ [n%16], ?_, ?_, ?_⟩
      · rw [Nat.toDigits_of_base_le (by decide) (by omega), hd, List.map_append]
        rfl
      · exact List.forall_mem_append.mpr ⟨hl, by simpa using hm⟩
      · rw [List.foldl_append, hv, List.foldl_cons, List.foldl_nil]
        omega

def digitValue (c : Char) : Nat := if c.isDigit then c.toNat-0x30 else c.toNat-0x57

def readNumber (digits : Text) : Nat :=
  digits.foldl (fun value c => value*16+digitValue c) 0

/-- The next character and what follows its spelling. A quote that stands for
itself is none of them. -/
def nextChar? : Text → Option (Char × Text)
  | [] => none
  | '\"' :: _ => none
  | '\\' :: 'u' :: '\x7b' :: rest =>
    some (Char.ofNat (readNumber (rest.takeWhile (· != '\x7d'))),
      (rest.dropWhile (· != '\x7d')).tail)
  | '\\' :: '0' :: rest => some ('\x00', rest)
  | '\\' :: 't' :: rest => some ('\t', rest)
  | '\\' :: 'r' :: rest => some ('\r', rest)
  | '\\' :: 'n' :: rest => some ('\n', rest)
  | '\\' :: c :: rest => some (c, rest)
  | c :: rest => some (c, rest)

theorem exists_digit_of_mem {n : Nat} {c : Char} (h : c ∈ Nat.toDigits 16 n) :
    ∃ digit < 16, c = Nat.digitChar digit := by
  obtain ⟨digits, hd, hl, -⟩ := exists_digits n
  rw [hd] at h
  obtain ⟨digit, hm, rfl⟩ := List.mem_map.mp h
  exact ⟨digit, hl digit hm, rfl⟩

theorem read_number_to_digits (n : Nat) : readNumber (Nat.toDigits 16 n) = n := by
  have hv : ∀ digit < 16, digitValue (Nat.digitChar digit) = digit := by decide
  obtain ⟨digits, hd, hl, hn⟩ := exists_digits n
  rw [readNumber, hd, List.foldl_map, ← hn]
  apply List.foldl_ext
  intro value digit hm
  rw [hv digit (hl digit hm)]

theorem next_char?_by_number (c : Char) (rest : Text) :
    nextChar? (byNumber c ++ rest) = some (c, rest) := by
  have hb : ∀ digit < 16, (Nat.digitChar digit != '\x7d') = true := by decide
  have hd : ∀ d ∈ Nat.toDigits 16 c.toNat, (d != '\x7d') = true := by
    intro d hm
    obtain ⟨digit, hl, rfl⟩ := exists_digit_of_mem hm
    exact hb digit hl
  have he : byNumber c ++ rest = '\\' :: 'u' :: '\x7b' ::
      (Nat.toDigits 16 c.toNat ++ '\x7d' :: rest) := by simp [byNumber]
  rw [he, nextChar?, List.takeWhile_append_of_pos hd, List.dropWhile_append_of_pos hd,
    List.takeWhile_cons_of_neg (by decide), List.dropWhile_cons_of_neg (by decide),
    List.append_nil, read_number_to_digits, Char.ofNat_toNat, List.tail_cons]

theorem next_char?_short {c letter : Char} (h : (c, letter) ∈ shortForms) (rest : Text) :
    nextChar? ('\\' :: letter :: rest) = some (c, rest) := by
  simp only [shortForms, List.mem_cons, Prod.mk.injEq, List.not_mem_nil, or_false] at h
  rcases h with ⟨rfl, rfl⟩ | ⟨rfl, rfl⟩ | ⟨rfl, rfl⟩ | ⟨rfl, rfl⟩ | ⟨rfl, rfl⟩ | ⟨rfl, rfl⟩ <;> rfl

theorem Spelling.next_char?_eq {c : Char} {spelling : Text} (h : Spelling c spelling)
    (rest : Text) : nextChar? (spelling ++ rest) = some (c, rest) := by
  cases h with
  | short listed => exact next_char?_short listed rest
  | itself quote backslash _ => simp [nextChar?, backslash]
  | number => exact next_char?_by_number c rest

theorem next_char?_escape_char (c : Char) (rest : Text) :
    nextChar? (escapeChar c ++ rest) = some (c, rest) :=
  (spelling_escape_char c).next_char?_eq rest

/-- Where one quoted text ends does not depend on what follows it. -/
theorem escaped_append_inj {s t x y : Text}
    (h : s.flatMap escapeChar ++ '\"' :: x = t.flatMap escapeChar ++ '\"' :: y) :
    s = t ∧ x = y := by
  induction s generalizing t with
  | nil =>
    cases t with
    | nil => exact ⟨rfl, (List.cons.inj h).2⟩
    | cons d t =>
      have hn := congrArg nextChar? h
      rw [List.flatMap_cons, List.append_assoc, next_char?_escape_char] at hn
      cases hn
  | cons c s ih =>
    have hn := congrArg nextChar? h
    rw [List.flatMap_cons, List.append_assoc, next_char?_escape_char] at hn
    cases t with
    | nil => cases hn
    | cons d t =>
      rw [List.flatMap_cons, List.append_assoc, next_char?_escape_char, Option.some.injEq,
        Prod.mk.injEq] at hn
      obtain ⟨rfl, hr⟩ := hn
      obtain ⟨rfl, rfl⟩ := ih hr
      exact ⟨rfl, rfl⟩

theorem Spelling.has_no_control {c : Char} {spelling : Text} (h : Spelling c spelling) :
    HasNoControl spelling := by
  cases h with
  | short listed =>
    have hs : ∀ form ∈ shortForms, HasNoControl ['\\', form.2] := by decide
    exact hs _ listed
  | itself _ _ plain =>
    intro d hd
    rw [List.mem_singleton.mp hd]
    exact not_is_control_of_is_plain plain
  | number =>
    have hd : ∀ digit < 16, ¬ IsControl (Nat.digitChar digit) := by decide
    have hn : HasNoControl (Nat.toDigits 16 c.toNat) := by
      intro d hm
      obtain ⟨digit, hl, rfl⟩ := exists_digit_of_mem hm
      exact hd digit hl
    have hf : HasNoControl ['\\', 'u', '\x7b'] := by decide
    have hl : HasNoControl ['\x7d'] := by decide
    exact (has_no_control_append _ _).mpr ⟨hf, (has_no_control_append _ _).mpr ⟨hn, hl⟩⟩

end Quoted

theorem quoted_append_eq_iff {s t x y : Text} :
    s.quoted ++ x = t.quoted ++ y ↔ s = t ∧ x = y := by
  constructor
  · intro h
    simp only [Text.quoted, List.cons_append, List.append_assoc, List.nil_append,
      List.cons.injEq, true_and] at h
    exact Quoted.escaped_append_inj h
  · rintro ⟨rfl, rfl⟩
    rfl

theorem quoted_eq_iff {s t : Text} : s.quoted = t.quoted ↔ s = t := by
  have h := @quoted_append_eq_iff s t [] []
  rwa [List.append_nil, List.append_nil, eq_self, and_true] at h

theorem has_no_control_quoted (s : Text) : HasNoControl s.quoted := by
  have hq : HasNoControl ['\"'] := by decide
  have hs : HasNoControl (s.flatMap Quoted.escapeChar) := by
    intro c hm
    obtain ⟨d, -, hd⟩ := List.mem_flatMap.mp hm
    exact (Quoted.spelling_escape_char d).has_no_control c hd
  exact (has_no_control_append _ _).mpr ⟨hq, (has_no_control_append _ _).mpr ⟨hs, hq⟩⟩

end CgroupLimits
