import CgroupLimits.Proofs.Text.Pieces
import CgroupLimits.Text.Blank
import Mathlib.Data.List.DropRight

/-!
# Blanks around a text and within it

Trimming finds a text again that has blanks around it and none at its own
ends. Words are found one by one, from the first blank on.
-/

set_option autoImplicit false

namespace CgroupLimits.Text
open CgroupLimits

section Trimming
variable {α : Type} {p : α → Bool}

theorem trim_end_when_append {xs ys : List α} (hx : ∀ x, xs.getLast? = some x → ¬ p x)
    (hy : ∀ y ∈ ys, p y) : trimEndWhen p (xs++ys) = xs := by
  rw [trimEndWhen, List.reverse_append, List.dropWhile_append_of_pos (by simpa using hy)]
  cases hr : xs.reverse with
  | nil => simpa using hr
  | cons x rest =>
    have hl : xs.getLast? = some x := by rw [← List.head?_reverse, hr, List.head?_cons]
    rw [List.dropWhile_cons_of_neg (hx x hl), ← hr, List.reverse_reverse]

theorem trim_end_when_eq_rdrop_while (p : α → Bool) (xs : List α) :
    trimEndWhen p xs = xs.rdropWhile p := rfl

theorem exists_trimmed (p : α → Bool) (xs : List α) :
    ∃ tail, xs = trimEndWhen p xs ++ tail ∧ (∀ y ∈ tail, p y) ∧
      ∀ x, (trimEndWhen p xs).getLast? = some x → ¬ p x := by
  rw [trim_end_when_eq_rdrop_while]
  refine ⟨xs.rtakeWhile p, List.rdropWhile_append_rtakeWhile.symm,
    fun y => List.mem_rtakeWhile_imp, ?_⟩
  intro x hx
  have hn : xs.rdropWhile p ≠ [] := by
    intro hn
    rw [hn] at hx
    cases hx
  rw [List.getLast?_eq_some_getLast hn] at hx
  exact Option.some.inj hx ▸ List.rdropWhile_last_not p xs hn

theorem mem_of_mem_trim_end_when {xs : List α} {x : α} (h : x ∈ trimEndWhen p xs) : x ∈ xs := by
  rw [trimEndWhen, List.mem_reverse] at h
  exact List.mem_reverse.mp ((List.dropWhile_sublist p).mem h)

end Trimming

theorem not_is_blank_of_is_digit {c : Char} (h : c.isDigit) : ¬ isBlank c := by
  have hd : 48 ≤ c.toNat ∧ c.toNat ≤ 57 := by
    simpa [Char.isDigit, UInt32.le_iff_toNat_le] using h
  simp only [isBlank, blankRanges, List.any_cons, List.any_nil, Bool.or_eq_true,
    Bool.and_eq_true, decide_eq_true_eq, Bool.false_eq_true, or_false]
  omega

/-- Something is there, and it neither starts nor ends with a blank. -/
structure IsTrimmed (s : Text) : Prop where
  ne_nil : s ≠ []
  first : ∀ c, s.head? = some c → ¬ isBlank c
  last : ∀ c, s.getLast? = some c → ¬ isBlank c

theorem is_trimmed_of_not_blank {s : Text} (hn : s ≠ []) (h : ∀ c ∈ s, ¬ isBlank c) :
    IsTrimmed s where
  ne_nil := hn
  first c hc := h c (List.mem_of_head? hc)
  last c hc := h c (List.mem_of_getLast? hc)

theorem IsTrimmed.append {s t : Text} (hs : IsTrimmed s) (ht : IsTrimmed t) (middle : Text) :
    IsTrimmed (s ++ (middle ++ t)) := by
  obtain ⟨x, rest, rfl⟩ := List.exists_cons_of_ne_nil hs.ne_nil
  constructor
  · exact List.cons_ne_nil _ _
  · intro c hc
    exact hs.first c hc
  · intro c hc
    rw [← List.append_assoc, List.getLast?_append, List.getLast?_eq_some_getLast ht.ne_nil,
      Option.some_or, ← List.getLast?_eq_some_getLast] at hc
    exact ht.last c hc

theorem trim_surrounded {before line after : Text} (hb : ∀ c ∈ before, isBlank c)
    (hl : IsTrimmed line) (ha : ∀ c ∈ after, isBlank c) :
    trim (before ++ line ++ after) = line := by
  obtain ⟨c, rest, rfl⟩ := List.exists_cons_of_ne_nil hl.ne_nil
  rw [trim, List.append_assoc, List.dropWhile_append_of_pos hb, List.cons_append,
    List.dropWhile_cons_of_neg (hl.first c rfl), ← List.cons_append]
  exact trim_end_when_append hl.last ha

theorem exists_surrounded (s : Text) :
    ∃ before after, s = before ++ s.trim ++ after ∧ ∀ c ∈ before ++ after, isBlank c := by
  obtain ⟨after, hs, ha, -⟩ := exists_trimmed isBlank (s.dropWhile isBlank)
  refine ⟨s.takeWhile isBlank, after, ?_, ?_⟩
  · rw [List.append_assoc, trim, ← hs, List.takeWhile_append_dropWhile]
  · intro c hc
    rcases List.mem_append.mp hc with hc | hc
    · exact List.mem_takeWhile_imp hc
    · exact ha c hc

theorem mem_of_mem_trim {s : Text} {c : Char} (h : c ∈ s.trim) : c ∈ s :=
  (List.dropWhile_sublist isBlank).mem (mem_of_mem_trim_end_when h)

theorem trim_of_blanks {s : Text} (h : ∀ c ∈ s, isBlank c) : s.trim = [] := by
  rw [trim, List.dropWhile_eq_nil_iff.mpr h]
  rfl

theorem trim_eq_nil_iff (s : Text) : s.trim = [] ↔ ∀ c ∈ s, isBlank c := by
  constructor
  · intro h
    obtain ⟨before, after, hs, hb⟩ := exists_surrounded s
    rw [h, List.append_nil] at hs
    exact hs ▸ hb
  · exact trim_of_blanks

theorem is_trimmed_trim {s : Text} (h : s.trim ≠ []) : IsTrimmed s.trim := by
  obtain ⟨tail, hs, -, hl⟩ := exists_trimmed isBlank (s.dropWhile isBlank)
  refine ⟨h, ?_, hl⟩
  intro c hc
  have hd : (s.dropWhile isBlank).head? = some c := by
    rw [trim] at hc
    rw [hs, List.head?_append, hc, Option.some_or]
  have hn := List.head?_dropWhile_not isBlank s
  rw [hd] at hn
  simpa using hn

theorem words_eq (s : Text) : s.words = (s.splitOnP isBlank).filter fun w => !w.isEmpty := by
  rw [words, split_when_eq_split_on_p]

theorem words_of_not_blank {s : Text} (hn : s ≠ []) (h : ∀ c ∈ s, ¬ isBlank c) :
    s.words = [s] := by
  rw [words_eq, List.splitOnP_eq_singleton (by simpa using h)]
  simp [hn]

theorem words_append_cons (s : Text) {c : Char} (hc : isBlank c) (t : Text) :
    words (s ++ c :: t) = s.words ++ t.words := by
  rw [words_eq, words_eq, words_eq, List.splitOnP_append_cons _ _ hc, List.filter_append]

theorem words_blanks_append {blanks : Text} (h : ∀ c ∈ blanks, isBlank c) (t : Text) :
    words (blanks ++ t) = t.words := by
  induction blanks with
  | nil => rfl
  | cons c blanks ih =>
    have hw := words_append_cons [] (h c List.mem_cons_self) (blanks ++ t)
    exact hw.trans (ih fun d hd => h d (List.mem_cons_of_mem _ hd))

theorem words_gap {gap : Text} (hn : gap ≠ []) (h : ∀ c ∈ gap, isBlank c) (s t : Text) :
    words (s ++ (gap ++ t)) = s.words ++ t.words := by
  obtain ⟨c, blanks, rfl⟩ := List.exists_cons_of_ne_nil hn
  rw [List.cons_append, words_append_cons _ (h c List.mem_cons_self),
    words_blanks_append fun d hd => h d (List.mem_cons_of_mem _ hd)]

end CgroupLimits.Text
