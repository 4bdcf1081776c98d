import CgroupLimits.Proofs.Path.Descent
import CgroupLimits.Proofs.Path.NormalForm

/-!
# Composing paths

A path that goes on behind a slash is normalized by taking the components
behind the slash one after another from the place before it. How that place is
spelled makes no difference, so two spellings of it stay interchangeable
whatever follows them.
-/

set_option autoImplicit false

namespace CgroupLimits.Path
open CgroupLimits

/-- Taking the components in order leads from one place to another. At the top
there is nothing for `..` to take away. -/
inductive Leads : List Text → List Text → List Text → Prop
  | arrived {place : List Text} : Leads place [] place
  | stay {place later target : List Text} {component : Text}
      (stays : component = [] ∨ component = ['.']) (onward : Leads place later target) :
      Leads place (component :: later) target
  | up {place later target : List Text} {name : Text} (onward : Leads place later target) :
      Leads (place ++ [name]) (['.', '.'] :: later) target
  | top {later target : List Text} (onward : Leads [] later target) :
      Leads [] (['.', '.'] :: later) target
  | down {place later target : List Text} {name : Text} (plain : isPlain name)
      (onward : Leads (place ++ [name]) later target) : Leads place (name :: later) target

theorem Leads.eq_walk {place components target : List Text} (h : Leads place components target) :
    target = walk place components := by
  induction h with
  | arrived => rfl
  | stay stays _ ih => rw [walk_cons, descend, if_pos stays, ih]
  | up _ ih => rw [walk_cons, descend_up, List.dropLast_concat, ih]
  | top _ ih => rw [walk_cons, descend_up, List.dropLast_nil, ih]
  | down plain _ ih => rw [walk_cons, descend_plain _ plain, ih]

theorem leads_walk (place components : List Text) :
    Leads place components (walk place components) := by
  induction components generalizing place with
  | nil => exact .arrived
  | cons component later ih =>
    by_cases hs : component = [] ∨ component = ['.']
    · have hw := ih place
      rw [walk_cons, descend, if_pos hs]
      exact .stay hs hw
    · by_cases hu : component = ['.', '.']
      · subst component
        have hw := ih place.dropLast
        rw [walk_cons, descend_up]
        rcases List.eq_nil_or_concat place with rfl | ⟨front, name, rfl⟩
        · exact .top hw
        · rw [List.concat_eq_append, List.dropLast_concat] at hw ⊢
          exact .up hw
      · rw [not_or] at hs
        have hp : isPlain component := by simp [isPlain, hs.1, hs.2, hu]
        have hw := ih (place ++ [component])
        rw [walk_cons, descend_plain place hp]
        exact .down hp hw

theorem leads_iff (place components target : List Text) :
    Leads place components target ↔ target = walk place components := by
  constructor
  · exact Leads.eq_walk
  · rintro rfl
    exact leads_walk place components

theorem walk_replicate_up (place : List Text) (ups : Nat) :
    walk place (List.replicate ups ['.', '.']) = place.take (place.length-ups) := by
  induction ups generalizing place with
  | zero => exact (List.take_length).symm
  | succ ups ih =>
    rw [List.replicate_succ, walk_cons, descend_up, ih, List.length_dropLast,
      List.dropLast_eq_take, List.take_take]
    congr 1
    omega

/-- A normal form consists of names and is its own normal form. A path that
goes on is normalized from the normal form of its beginning, and each `..` that
it goes on with takes the last name away, as long as there is one. -/
theorem normalize_composes :
    (∀ path, (∀ name ∈ normalize path, IsName name) ∧
      normalize ('/' :: ['/'].intercalate (normalize path)) = normalize path) ∧
    (∀ path target, Leads [] (path.splitOn '/') target ↔ target = normalize path) ∧
    (∀ path tail target, Leads (normalize path) (tail.splitOn '/') target ↔
      target = normalize (path ++ '/' :: tail)) ∧
    (∀ path other tail, normalize path = normalize other →
      normalize (path ++ '/' :: tail) = normalize (other ++ '/' :: tail)) ∧
    ∀ path tail ups later, tail.splitOn '/' = List.replicate ups ['.', '.'] ++ later →
      ∃ kept taken, normalize path = kept ++ taken ∧
        taken.length = min ups (normalize path).length ∧
        Leads kept later (normalize (path ++ '/' :: tail)) := by
  refine ⟨?_, ?_, ?_, ?_, ?_⟩
  · intro path
    have hn : ∀ name ∈ normalize path, IsName name := fun name => is_name_of_mem_normalize
    have ha := normalize_absolute hn
    rw [absolute, join_with_eq_intercalate] at ha
    exact ⟨hn, ha⟩
  · intro path target
    rw [leads_iff, normalize, split_on_eq_split_on]
  · intro path tail target
    rw [leads_iff, normalize_append_slash]
  · intro path other tail h
    rw [normalize_append_slash, normalize_append_slash, h]
  · intro path tail ups later h
    refine ⟨_, _, (List.take_append_drop ((normalize path).length-ups) _).symm, ?_, ?_⟩
    · rw [List.length_drop]
      omega
    · rw [leads_iff, normalize_append_slash, h, walk_append, walk_replicate_up]

theorem normalize_composes_above_top :
    normalize "/docker/./x/../abc".toList = normalize "..//docker/abc/".toList ∧
      normalize "/docker/./x/../abc/../../../c//d".toList =
        normalize "..//docker/abc//../../../c//d".toList ∧
      "../../../c//d".toList.splitOn '/' =
        List.replicate 3 ['.', '.'] ++ "c//d".toList.splitOn '/' ∧
      ∃ kept taken, normalize "/docker/./x/../abc".toList = kept ++ taken ∧
        taken.length = 2 ∧ Leads kept ("c//d".toList.splitOn '/') ["c".toList, "d".toList] := by
  have hs : normalize "/docker/./x/../abc".toList = normalize "..//docker/abc/".toList := by decide
  have ht : "../../../c//d".toList.splitOn '/' =
      List.replicate 3 ['.', '.'] ++ "c//d".toList.splitOn '/' := by decide
  have hn : normalize "/docker/./x/../abc/../../../c//d".toList = ["c".toList, "d".toList] := by
    decide
  obtain ⟨-, -, -, hsame, hups⟩ := normalize_composes
  have hl := hups "/docker/./x/../abc".toList _ _ _ ht
  exact ⟨hs, hsame _ _ "../../../c//d".toList hs, ht, hn ▸ hl⟩

end CgroupLimits.Path
