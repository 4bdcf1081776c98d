import CgroupLimits.Path
import CgroupLimits.Proofs.Text.Pieces

/-!
# Where a walk ends

The walk of a path works like a stack. Here its end is read off the components
by position instead: a name stays exactly if no stretch of what follows it
goes up more often than down. The two agree from any starting place, of which
a walk removes as many names as it rises above its start.
-/

set_option autoImplicit false

namespace CgroupLimits.Path
open CgroupLimits

def isUp (component : Text) : Bool := component == ['.', '.']

def isPlain (component : Text) : Bool :=
  component != [] && component != ['.'] && component != ['.', '.']

def stretch (components : List Text) (i j : Nat) : List Text :=
  (components.take (j+1)).drop (i+1)

/-- No `..` after position `i` takes back what stands there. -/
def Survives (components : List Text) (i : Nat) : Prop :=
  ∀ j < components.length,
    (stretch components i j).countP isUp ≤ (stretch components i j).countP isPlain

instance (components : List Text) (i : Nat) : Decidable (Survives components i) :=
  inferInstanceAs (Decidable (∀ j < components.length,
    (stretch components i j).countP isUp ≤ (stretch components i j).countP isPlain))

def survivors (components : List Text) : List Text :=
  let kept := components.zipIdx.filter fun entry =>
    isPlain entry.1 && decide (Survives components entry.2)
  kept.map Prod.fst

/-- How far above its start a walk rises. -/
def climb : List Text → Nat
  | [] => 0
  | component :: later =>
    if isUp component then climb later+1
    else if isPlain component then climb later-1
    else climb later

theorem not_is_plain_of_is_up {component : Text} (h : isUp component) :
    isPlain component = false := by
  rw [isUp, beq_iff_eq] at h
  simp [isPlain, h]

theorem descend_eq (place : List Text) (component : Text) :
    descend place component =
      if isUp component then place.dropLast
      else if isPlain component then place ++ [component] else place := by
  by_cases hu : component = ['.', '.']
  · simp [descend, isUp, hu]
  · by_cases hn : component = [] ∨ component = ['.']
    · rcases hn with rfl | rfl <;> rfl
    · rw [not_or] at hn
      simp [descend, isUp, isPlain, hu, hn.1, hn.2]

theorem descend_up (place : List Text) : descend place ['.', '.'] = place.dropLast := rfl

theorem descend_plain (place : List Text) {name : Text} (h : isPlain name) :
    descend place name = place ++ [name] := by
  have hu : isUp name = false := by
    rw [Bool.eq_false_iff]
    intro hu
    rw [not_is_plain_of_is_up hu] at h
    cases h
  rw [descend_eq, hu, h]
  rfl

theorem walk_cons (place : List Text) (component : Text) (later : List Text) :
    walk place (component :: later) = walk (descend place component) later := rfl

theorem walk_append (place first second : List Text) :
    walk place (first ++ second) = walk (walk place first) second :=
  List.foldl_append

theorem climb_le_iff (components : List Text) (n : Nat) :
    climb components ≤ n ↔ ∀ j ≤ components.length,
      (components.take j).countP isUp ≤ (components.take j).countP isPlain+n := by
  induction components generalizing n with
  | nil => simp [climb]
  | cons component later ih =>
    have hs : (∀ j ≤ (component :: later).length, ((component :: later).take j).countP isUp ≤
          ((component :: later).take j).countP isPlain+n) ↔
        ∀ j ≤ later.length, (component :: later.take j).countP isUp ≤
          (component :: later.take j).countP isPlain+n := by
      constructor
      · intro h j hj
        exact h (j+1) (by simpa using hj)
      · intro h j hj
        cases j with
        | zero => simp
        | succ j => exact h j (by simpa using hj)
    rw [hs, climb]
    by_cases hu : isUp component
    · simp only [hu, if_true, not_is_plain_of_is_up hu, List.countP_cons, Bool.false_eq_true,
        if_false]
      constructor
      · intro h j hj
        have hl := (ih (n-1)).mp (by omega) j hj
        omega
      · intro h
        have h0 := h 0 (Nat.zero_le _)
        simp only [List.take_zero, List.countP_nil] at h0
        have hl := (ih (n-1)).mpr (fun j hj => by have := h j hj; omega)
        omega
    · by_cases hp : isPlain component
      · simp only [hu, hp, if_true, List.countP_cons, Bool.false_eq_true, if_false]
        rw [Nat.sub_le_iff_le_add, ih]
        constructor <;> intro h j hj <;> have := h j hj <;> omega
      · simpa [hu, hp, List.countP_cons] using ih n

theorem survives_cons_zero (component : Text) (later : List Text) :
    Survives (component :: later) 0 ↔ climb later = 0 := by
  rw [← Nat.le_zero, climb_le_iff]
  constructor
  · intro h j hj
    exact h j (by simpa using Nat.lt_succ_of_le hj)
  · intro h j hj
    exact h j (by simpa using Nat.le_of_lt_succ hj)

theorem survives_cons_succ (component : Text) (later : List Text) (i : Nat) :
    Survives (component :: later) (i+1) ↔ Survives later i := by
  constructor
  · intro h j hj
    exact h (j+1) (by simpa using hj)
  · intro h j hj
    cases j with
    | zero => simp [stretch]
    | succ j => exact h j (by simpa using hj)

theorem survivors_cons (component : Text) (later : List Text) :
    survivors (component :: later) =
      if isPlain component ∧ climb later = 0 then component :: survivors later
      else survivors later := by
  have ht : ((later.zipIdx 1).filter fun entry =>
        isPlain entry.1 && decide (Survives (component :: later) entry.2)).map Prod.fst =
      survivors later := by
    rw [List.zipIdx_succ, List.filter_map, List.map_map]
    simp only [Function.comp_def, survives_cons_succ]
    rfl
  rw [survivors, List.zipIdx_cons, List.filter_cons]
  simp only [Nat.zero_add, survives_cons_zero]
  split <;> simp_all

theorem mem_survivors {component : Text} {components : List Text}
    (h : component ∈ survivors components) : component ∈ components ∧ isPlain component := by
  obtain ⟨entry, he, rfl⟩ := List.mem_map.mp h
  rw [List.mem_filter, Bool.and_eq_true] at he
  exact ⟨List.fst_mem_of_mem_zipIdx he.1, he.2.1⟩

/-- From any place, a walk removes the names it rises above and adds those that
survive. -/
theorem walk_eq (place components : List Text) :
    walk place components =
      place.take (place.length-climb components) ++ survivors components := by
  -- One component moves the place, so the induction is over all places at once.
  induction components generalizing place with
  | nil => simp [walk, climb, survivors]
  | cons component later ih =>
    rw [walk_cons, ih, descend_eq, climb, survivors_cons]
    by_cases hu : isUp component
    · have hd : place.dropLast.take (place.dropLast.length-climb later) =
          place.take (place.length-(climb later+1)) := by
        rw [List.length_dropLast, List.dropLast_eq_take, List.take_take]
        congr 1
        omega
      simp only [hu, if_true, not_is_plain_of_is_up hu, Bool.false_eq_true, false_and, if_false, hd]
    · by_cases hp : isPlain component
      · simp only [hu, hp, Bool.false_eq_true, true_and, if_true, if_false, List.length_append,
          List.length_singleton]
        by_cases hc : climb later = 0
        · simp [hc, List.take_of_length_le]
        · rw [if_neg hc, List.take_append_of_le_length (by omega)]
          congr 2
          omega
      · simp [hu, hp]

def remaining (path : Text) : List Text := survivors (path.splitOn '/')

theorem normalize_eq_remaining (path : Text) : normalize path = remaining path := by
  simp [normalize, walk_eq, remaining, split_on_eq_split_on]

example : remaining "/a/./b//../../../c/x/..".toList = ["c".toList] := by decide

end CgroupLimits.Path
