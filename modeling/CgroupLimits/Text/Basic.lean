/-!
# Text, bytes and their pieces

Tables and control files are cut at separators again and again, so cutting and
joining are fixed here once. A text is the list of its characters. Cutting
never loses anything: joining the pieces gives the text back, and the limited
cut keeps every separator after its last cut inside the last piece.
-/

set_option autoImplicit false

namespace CgroupLimits

abbrev Text := List Char
abbrev Bytes := List UInt8

/-- All pieces between separators. There is one piece more than there are
separators, so the empty list has one empty piece. -/
def splitWhen {α : Type} (separates : α → Bool) : List α → List (List α)
  | [] => [[]]
  | x :: xs =>
    if separates x then [] :: splitWhen separates xs
    else match splitWhen separates xs with
      | [] => [[x]]
      | piece :: pieces => (x :: piece) :: pieces

def splitOn {α : Type} [BEq α] (separator : α) : List α → List (List α) :=
  splitWhen (· == separator)

/-- At most `count` pieces, cut from the left; the last one is the whole
remainder, with the separators that it holds. -/
def splitAtMost {α : Type} [BEq α] (count : Nat) (separator : α) : List α → List (List α)
  | [] => if count = 0 then [] else [[]]
  | x :: xs =>
    if count = 0 then []
    else if count = 1 then [x :: xs]
    else if x == separator then [] :: splitAtMost (count-1) separator xs
    else match splitAtMost count separator xs with
      | [] => [[x]]
      | piece :: pieces => (x :: piece) :: pieces

def joinWith {α : Type} (separator : α) : List (List α) → List α
  | [] => []
  | [piece] => piece
  | piece :: next :: pieces => piece ++ separator :: joinWith separator (next :: pieces)

theorem split_when_ne_nil {α : Type} (separates : α → Bool) (xs : List α) :
    splitWhen separates xs ≠ [] := by
  cases xs with
  | nil => simp [splitWhen]
  | cons x xs =>
    rw [splitWhen]
    split
    · simp
    · split <;> simp

theorem split_on_ne_nil {α : Type} [BEq α] (separator : α) (xs : List α) :
    splitOn separator xs ≠ [] := split_when_ne_nil _ xs

theorem join_with_cons {α : Type} (separator : α) (piece : List α) {pieces : List (List α)}
    (h : pieces ≠ []) :
    joinWith separator (piece :: pieces) = piece ++ separator :: joinWith separator pieces := by
  cases pieces with
  | nil => exact absurd rfl h
  | cons next pieces => rfl

theorem join_with_cons_cons {α : Type} (separator x : α) (piece : List α)
    (pieces : List (List α)) :
    joinWith separator ((x :: piece) :: pieces) = x :: joinWith separator (piece :: pieces) := by
  cases pieces <;> rfl

theorem join_with_split_on {α : Type} [BEq α] [LawfulBEq α] (separator : α) (xs : List α) :
    joinWith separator (splitOn separator xs) = xs := by
  induction xs with
  | nil => rfl
  | cons x xs ih =>
    rw [splitOn] at ih ⊢
    rw [splitWhen]
    split
    · rename_i h
      rw [join_with_cons _ _ (split_when_ne_nil _ xs), ih, eq_of_beq h]
      rfl
    · cases hs : splitWhen (· == separator) xs with
      | nil => exact absurd hs (split_when_ne_nil _ xs)
      | cons piece pieces =>
        rw [hs] at ih
        rw [join_with_cons_cons, ih]

theorem split_at_most_ne_nil {α : Type} [BEq α] (count : Nat) (separator : α) (xs : List α) :
    splitAtMost (count+1) separator xs ≠ [] := by
  cases xs with
  | nil => simp [splitAtMost]
  | cons x xs =>
    rw [splitAtMost, if_neg (Nat.succ_ne_zero count)]
    split
    · simp
    · split
      · simp
      · split <;> simp

theorem join_with_split_at_most {α : Type} [BEq α] [LawfulBEq α] (count : Nat) (separator : α)
    (xs : List α) : joinWith separator (splitAtMost (count+1) separator xs) = xs := by
  induction xs generalizing count with
  | nil => rfl
  | cons x xs ih =>
    rw [splitAtMost, if_neg (Nat.succ_ne_zero count), Nat.add_sub_cancel]
    split
    · rfl
    · rename_i hc
      obtain ⟨more, rfl⟩ : ∃ more, count = more+1 := ⟨count-1, by omega⟩
      split
      · rename_i h
        rw [join_with_cons _ _ (split_at_most_ne_nil _ _ xs), ih, eq_of_beq h]
        rfl
      · cases hs : splitAtMost (more+1+1) separator xs with
        | nil => exact absurd hs (split_at_most_ne_nil _ _ xs)
        | cons piece pieces => rw [join_with_cons_cons, ← hs, ih]

end CgroupLimits
