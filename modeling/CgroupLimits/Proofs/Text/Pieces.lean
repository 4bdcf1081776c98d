import CgroupLimits.Text.Basic

/-!
# Cutting undoes joining

Cutting and joining are the library's `List.splitOn` and `List.intercalate`,
so what is known of those carries over. A list of pieces comes back from its
joined text as long as no piece but the last holds a separator. The limited
cut takes the leading pieces of the full cut and joins the others again.
-/

set_option autoImplicit false

namespace CgroupLimits
variable {α : Type}

theorem split_when_eq_split_on_p (separates : α → Bool) (xs : List α) :
    splitWhen separates xs = xs.splitOnP separates := by
  induction xs with
  | nil => simp [splitWhen]
  | cons x xs ih =>
    obtain ⟨piece, pieces, h⟩ := List.exists_cons_of_ne_nil (split_when_ne_nil separates xs)
    rw [List.splitOnP_cons_eq_if_modifyHead, ← ih, splitWhen, h]
    rfl

theorem join_with_eq_intercalate (separator : α) (pieces : List (List α)) :
    joinWith separator pieces = [separator].intercalate pieces := by
  induction pieces with
  | nil => rfl
  | cons piece pieces ih =>
    cases pieces with
    | nil => simp [joinWith]
    | cons next pieces => simp [joinWith, ih]

theorem join_with_ne_nil (separator : α) {pieces : List (List α)} (hn : pieces ≠ [])
    (h : ∀ piece ∈ pieces, piece ≠ []) : joinWith separator pieces ≠ [] := by
  obtain ⟨piece, rest, rfl⟩ := List.exists_cons_of_ne_nil hn
  obtain ⟨x, xs, rfl⟩ := List.exists_cons_of_ne_nil (h piece List.mem_cons_self)
  rw [join_with_cons_cons]
  exact List.cons_ne_nil _ _

theorem join_with_concat (separator : α) {front : List (List α)} (last : List α)
    (h : front ≠ []) :
    joinWith separator (front++[last]) = joinWith separator front ++ separator :: last := by
  induction front with
  | nil => exact absurd rfl h
  | cons piece front ih =>
    cases front with
    | nil => rfl
    | cons next front =>
      have hn : next :: front ≠ [] := List.cons_ne_nil _ _
      rw [List.cons_append, join_with_cons _ _ (by simp), ih hn, join_with_cons _ _ hn,
        List.append_assoc, List.cons_append]

theorem get_last?_join_with_concat (separator : α) (front : List (List α)) {last : List α}
    (h : last ≠ []) : (joinWith separator (front++[last])).getLast? = last.getLast? := by
  by_cases hf : front = []
  · subst front
    rfl
  · rw [join_with_concat separator last hf, List.getLast?_append, List.getLast?_cons,
      List.getLast?_eq_some_getLast h]
    rfl

theorem mem_join_with (separator : α) {x : α} {piece : List α} {pieces : List (List α)}
    (hp : piece ∈ pieces) (hx : x ∈ piece) : x ∈ joinWith separator pieces := by
  obtain ⟨before, after, rfl⟩ := List.append_of_mem hp
  induction before with
  | nil =>
    cases after with
    | nil => exact hx
    | cons next after => exact List.mem_append_left _ hx
  | cons first before ih =>
    rw [List.cons_append, join_with_cons _ _ (by simp)]
    exact List.mem_append_right _ (List.mem_cons_of_mem _ (ih (by simp)))

theorem mem_of_mem_join_with {separator x : α} {pieces : List (List α)}
    (h : x ∈ joinWith separator pieces) : x = separator ∨ ∃ piece ∈ pieces, x ∈ piece := by
  induction pieces with
  | nil => cases h
  | cons piece pieces ih =>
    by_cases hp : pieces = []
    · subst pieces
      exact Or.inr ⟨piece, List.mem_cons_self, h⟩
    · rw [join_with_cons _ _ hp, List.mem_append, List.mem_cons] at h
      rcases h with h | h | h
      · exact Or.inr ⟨piece, List.mem_cons_self, h⟩
      · exact Or.inl h
      · rcases ih h with h | ⟨other, ho, hx⟩
        · exact Or.inl h
        · exact Or.inr ⟨other, List.mem_cons_of_mem _ ho, hx⟩

theorem join_with_concat_append (separator : α) (front : List (List α)) (last tail : List α) :
    joinWith separator (front++[last++tail]) = joinWith separator (front++[last]) ++ tail := by
  by_cases hf : front = []
  · subst front
    rfl
  · rw [join_with_concat _ _ hf, join_with_concat _ _ hf, List.append_assoc, List.cons_append]

variable [BEq α]

theorem split_on_eq_split_on (separator : α) (xs : List α) :
    splitOn separator xs = xs.splitOn separator := split_when_eq_split_on_p _ xs

theorem split_on_cons {separator : α} {xs piece : List α} {pieces : List (List α)}
    (h : splitOn separator xs = piece :: pieces) (x : α) :
    splitOn separator (x :: xs) =
      if x == separator then [] :: piece :: pieces else (x :: piece) :: pieces := by
  rw [split_on_eq_split_on, List.splitOn_cons_eq_if_modifyHead, ← split_on_eq_split_on, h]
  rfl

variable [LawfulBEq α]

theorem split_on_append_cons (separator : α) (xs ys : List α) :
    splitOn separator (xs ++ separator :: ys) = splitOn separator xs ++ splitOn separator ys := by
  simp only [split_on_eq_split_on]
  exact List.splitOn_append_cons_self xs ys

theorem mem_of_mem_split_on {separator x : α} {xs piece : List α}
    (hp : piece ∈ splitOn separator xs) (hx : x ∈ piece) : x ∈ xs := by
  rw [← join_with_split_on separator xs]
  exact mem_join_with separator hp hx

theorem join_with_append_split_on (separator : α) (front : List (List α)) (last : List α) :
    joinWith separator (front ++ splitOn separator last) = joinWith separator (front++[last]) := by
  induction front with
  | nil => exact join_with_split_on separator last
  | cons piece front ih =>
    have hn : front ++ splitOn separator last ≠ [] := by
      simpa using fun _ => split_on_ne_nil separator last
    rw [List.cons_append, List.cons_append, join_with_cons _ _ hn, ih, join_with_cons _ _ (by simp)]

theorem split_on_of_not_mem {separator : α} {piece : List α} (h : separator ∉ piece) :
    splitOn separator piece = [piece] := by
  rw [split_on_eq_split_on]
  exact List.splitOn_eq_singleton h

theorem not_mem_of_mem_split_on {separator : α} {xs piece : List α}
    (h : piece ∈ splitOn separator xs) : separator ∉ piece := by
  induction xs generalizing piece with
  | nil =>
    have hp : piece = [] := List.mem_singleton.mp h
    simp [hp]
  | cons x xs ih =>
    obtain ⟨first, pieces, hs⟩ := List.exists_cons_of_ne_nil (split_on_ne_nil separator xs)
    rw [hs] at ih
    rw [split_on_cons hs] at h
    split at h
    · rcases List.mem_cons.mp h with rfl | hp
      · simp
      · exact ih hp
    · rename_i hx
      rcases List.mem_cons.mp h with rfl | hp
      · have hn : separator ≠ x := fun he => hx (by simp [he])
        simpa [hn] using ih List.mem_cons_self
      · exact ih (List.mem_cons_of_mem _ hp)

theorem split_on_join_with_concat (separator : α) (front : List (List α)) (last : List α)
    (h : ∀ piece ∈ front, separator ∉ piece) :
    splitOn separator (joinWith separator (front++[last])) = front ++ splitOn separator last := by
  induction front with
  | nil => rfl
  | cons piece front ih =>
    rw [List.cons_append, join_with_cons _ _ (by simp), split_on_append_cons,
      split_on_of_not_mem (h piece (by simp)), ih (fun p hp => h p (by simp [hp]))]
    rfl

theorem split_on_join_with (separator : α) {pieces : List (List α)} (hn : pieces ≠ [])
    (h : ∀ piece ∈ pieces, separator ∉ piece) :
    splitOn separator (joinWith separator pieces) = pieces := by
  rw [split_on_eq_split_on, join_with_eq_intercalate]
  exact List.splitOn_intercalate separator h hn

/-- The limited cut keeps the leading pieces of the full one and leaves the
rest of the text whole. -/
theorem split_at_most_eq (count : Nat) (separator : α) (xs : List α) :
    splitAtMost (count+1) separator xs =
      if count < (splitOn separator xs).length then
        (splitOn separator xs).take count ++
          [joinWith separator ((splitOn separator xs).drop count)]
      else splitOn separator xs := by
  induction xs generalizing count with
  | nil => cases count <;> simp [splitAtMost, splitOn, splitWhen, joinWith]
  | cons x xs ih =>
    obtain ⟨piece, pieces, hs⟩ := List.exists_cons_of_ne_nil (split_on_ne_nil separator xs)
    cases count with
    | zero =>
      have hj := join_with_split_on separator (x :: xs)
      have hl := List.length_pos_iff.mpr (split_on_ne_nil separator (x :: xs))
      simp [splitAtMost, hj, hl]
    | succ count =>
      rw [splitAtMost, if_neg (by omega), if_neg (by omega), split_on_cons hs]
      by_cases hx : x == separator
      · rw [if_pos hx, if_pos hx, Nat.add_sub_cancel, ih, hs]
        by_cases hl : count < (piece :: pieces).length
        · rw [if_pos hl, if_pos (by simpa using hl)]
          rfl
        · rw [if_neg hl, if_neg (by simpa using hl)]
      · rw [if_neg hx, if_neg hx, ih, hs]
        by_cases hl : count+1 < (piece :: pieces).length
        · rw [if_pos hl, if_pos (by simpa using hl)]
          rfl
        · rw [if_neg hl, if_neg (by simpa using hl)]

theorem split_at_most_three_iff {separator : α} {xs : List α} (first second rest : List α) :
    splitAtMost 3 separator xs = [first, second, rest] ↔
      (separator ∉ first ∧ separator ∉ second) ∧
        xs = first ++ separator :: (second ++ separator :: rest) := by
  constructor
  · intro h
    have hj := join_with_split_at_most 2 separator xs
    rw [h] at hj
    rw [split_at_most_eq] at h
    split at h
    · have he : _ ++ [_] = [first, second] ++ [rest] := h
      obtain ⟨ht, -⟩ := List.append_inj' he rfl
      have hm : ∀ piece ∈ [first, second], separator ∉ piece := by
        intro piece hp
        exact not_mem_of_mem_split_on (List.mem_of_mem_take (ht ▸ hp))
      exact ⟨⟨hm first (by simp), hm second (by simp)⟩, hj.symm⟩
    · rename_i hl
      rw [h] at hl
      exact absurd (show 2 < [first, second, rest].length by simp) hl
  · rintro ⟨⟨hf, hs⟩, rfl⟩
    have hl := List.length_pos_iff.mpr (split_on_ne_nil separator rest)
    rw [split_at_most_eq, split_on_append_cons, split_on_append_cons, split_on_of_not_mem hf,
      split_on_of_not_mem hs, if_pos (by simp; omega)]
    simp [join_with_split_on]

theorem two_le_count_iff {separator : α} {xs : List α} :
    2 ≤ xs.count separator ↔ ∃ first second rest, (separator ∉ first ∧ separator ∉ second) ∧
      xs = first ++ separator :: (second ++ separator :: rest) := by
  constructor
  · intro h
    obtain ⟨first, later, rfl, hf⟩ :=
      List.eq_append_cons_of_mem (List.count_pos_iff.mp (show 0 < xs.count separator by omega))
    rw [List.count_append, List.count_cons_self, List.count_eq_zero.mpr hf] at h
    obtain ⟨second, rest, rfl, hs⟩ :=
      List.eq_append_cons_of_mem (List.count_pos_iff.mp (show 0 < later.count separator by omega))
    exact ⟨first, second, rest, ⟨hf, hs⟩, rfl⟩
  · rintro ⟨first, second, rest, -, rfl⟩
    simp only [List.count_append, List.count_cons_self]
    omega

end CgroupLimits
