import CgroupLimits.Proofs.Path.Cancellation

/-!
# Walking on from a place

What follows a slash walks on from where the path before it ends. As long as
no part of this walk goes up more often than down, it takes back only names of
its own, and the place it started from keeps all of its names.
-/

set_option autoImplicit false

namespace CgroupLimits.Path
open CgroupLimits

/-- No start of the walk goes up more often than down. -/
def NeverClimbs (components : List Text) : Prop :=
  ∀ start, start <+: components → start.countP isUp ≤ start.countP isPlain

/-- Walks that end where they start: components that stay, and names that are
taken back once the walk from them has returned. -/
inductive Returns : List Text → Prop
  | nil : Returns []
  | stay {component : Text} {later : List Text} (stays : component = [] ∨ component = ['.'])
      (returns : Returns later) : Returns (component :: later)
  | detour {name : Text} {inner later : List Text} (plain : isPlain name)
      (inside : Returns inner) (returns : Returns later) :
      Returns (name :: inner ++ ['.', '.'] :: later)

theorem normalize_append_slash (path tail : Text) :
    normalize (path ++ '/' :: tail) = walk (normalize path) (tail.splitOn '/') := by
  rw [normalize, split_on_append_cons, walk_append, split_on_eq_split_on '/' tail, normalize]

theorem never_climbs_iff (components : List Text) :
    NeverClimbs components ↔ climb components = 0 := by
  rw [← Nat.le_zero, climb_le_iff]
  constructor
  · intro h j _
    exact h _ (List.take_prefix j components)
  · intro h start hs
    rw [List.prefix_iff_eq_take.mp hs]
    exact h _ hs.length_le

theorem walk_of_never_climbs (place : List Text) {components : List Text}
    (h : NeverClimbs components) : walk place components = place ++ survivors components := by
  rw [walk_eq, (never_climbs_iff components).mp h, Nat.sub_zero, List.take_length]

theorem walk_of_returns (place : List Text) {components : List Text} (h : Returns components) :
    walk place components = place := by
  -- What a detour walks inside starts from another place.
  induction h generalizing place with
  | nil => rfl
  | stay stays _ ih => rw [walk_cons, descend, if_pos stays, ih]
  | detour plain _ _ ihInside ihLater =>
    rw [List.cons_append, walk_cons, descend_plain place plain, walk_append, ihInside, walk_cons,
      descend_up, List.dropLast_concat, ihLater]

end CgroupLimits.Path
