import CgroupLimits.Proofs.Path.Cancellation

/-!
# Normal forms

A normal form consists of names: plain components without a slash. Its text
can be read back name by name, and a place is the normal form of its own text.
-/

set_option autoImplicit false

namespace CgroupLimits.Path
open CgroupLimits

def IsName (name : Text) : Prop :=
  name ≠ [] ∧ name ≠ ['.'] ∧ name ≠ ['.', '.'] ∧ '/' ∉ name

def names (path : Text) : List Text := if path.tail = [] then [] else splitOn '/' path.tail

theorem is_absolute_iff (path : Text) : isAbsolute path ↔ ['/'] <+: path := by
  cases path with
  | nil => simp [isAbsolute]
  | cons c path => simp [isAbsolute, @eq_comm _ c]

theorem is_name_of_mem_normalize {name path : Text} (h : name ∈ normalize path) : IsName name := by
  rw [normalize_eq_remaining, remaining, ← split_on_eq_split_on] at h
  obtain ⟨hm, hp⟩ := mem_survivors h
  have hs := not_mem_of_mem_split_on hm
  simp only [isPlain, Bool.and_eq_true, bne_iff_ne, ne_eq] at hp
  exact ⟨hp.1.1, hp.1.2, hp.2, hs⟩

theorem names_absolute {place : List Text} (h : ∀ name ∈ place, IsName name) :
    names (absolute place) = place := by
  by_cases hn : place = []
  · subst place
    rfl
  · have ht : (absolute place).tail ≠ [] := join_with_ne_nil '/' hn fun name hm => (h name hm).1
    rw [names, if_neg ht]
    exact split_on_join_with '/' hn fun name hm => (h name hm).2.2.2

theorem is_plain_of_is_name {name : Text} (h : IsName name) : isPlain name := by
  simp [isPlain, h.1, h.2.1, h.2.2.1]

theorem walk_names (place : List Text) {names : List Text} (h : ∀ name ∈ names, IsName name) :
    walk place names = place ++ names := by
  induction names generalizing place with
  | nil => exact (List.append_nil place).symm
  | cons name names ih =>
    have hn := is_plain_of_is_name (h name List.mem_cons_self)
    rw [walk_cons, descend_plain place hn, ih _ fun other ho => h other (List.mem_cons_of_mem _ ho),
      List.append_assoc]
    rfl

theorem normalize_absolute {place : List Text} (h : ∀ name ∈ place, IsName name) :
    normalize (absolute place) = place := by
  have hs : splitOn '/' (absolute place) = [] :: splitOn '/' (joinWith '/' place) :=
    split_on_append_cons '/' [] _
  by_cases hn : place = []
  · subst place
    rfl
  · have hj := split_on_join_with '/' hn fun name hm => (h name hm).2.2.2
    rw [normalize, hs, hj]
    exact walk_names [] h

end CgroupLimits.Path
