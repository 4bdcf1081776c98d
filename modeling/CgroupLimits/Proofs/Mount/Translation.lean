import CgroupLimits.Mount.Basic
import CgroupLimits.Proofs.Path.NormalForm
import Mathlib.Data.List.Infix

/-!
# What a mount shows

A path is visible through a mount exactly if the names of the root lead its
own names, and what follows them is found below the mount point. Which names a
path has is told by position, without the walk: those that no later `..` takes
back.
-/

set_option autoImplicit false

namespace CgroupLimits.MountPoint
open CgroupLimits

theorem is_prefix_of?_eq_none_iff (root place : List Text) :
    root.isPrefixOf? place = none ↔ ¬ root <+: place := by
  rw [Option.eq_none_iff_forall_ne_some]
  constructor
  · intro h hp
    obtain ⟨below, hb⟩ := hp
    exact h below (List.isPrefixOf?_eq_some_iff_append_eq.mpr hb)
  · intro h below hb
    exact h ⟨below, List.append_eq_of_isPrefixOf?_eq_some hb⟩

theorem translate_eq_ok_iff (mount : MountPoint) (path directory : Text) :
    mount.translate path = .ok directory ↔
      Path.isAbsolute path ∧ ∃ below,
        Path.normalize path = Path.normalize mount.root ++ below ∧
        directory = Path.absolute (Path.normalize mount.mountPoint ++ below) := by
  rw [translate]
  split
  · rename_i ha
    cases hb : (Path.normalize mount.root).isPrefixOf? (Path.normalize path) with
    | none =>
      rw [is_prefix_of?_eq_none_iff] at hb
      have hn : ∀ below, Path.normalize path ≠ Path.normalize mount.root ++ below :=
        fun below he => hb ⟨below, he.symm⟩
      simp [hn]
    | some below =>
      have he := List.append_eq_of_isPrefixOf?_eq_some hb
      constructor
      · intro h
        exact ⟨ha, below, he.symm, (Except.ok.inj h).symm⟩
      · rintro ⟨-, other, ho, rfl⟩
        rw [← he, List.append_cancel_left_eq] at ho
        rw [ho]
  · rename_i ha
    simp [ha]

theorem is_name_of_below {mount : MountPoint} {path : Text} {below : List Text}
    (h : Path.normalize path = Path.normalize mount.root ++ below) :
    ∀ name ∈ Path.normalize mount.mountPoint ++ below, Path.IsName name := by
  intro name hm
  rcases List.mem_append.mp hm with hm | hm
  · exact Path.is_name_of_mem_normalize hm
  · exact Path.is_name_of_mem_normalize (h ▸ List.mem_append_right _ hm)

/-- The three outcomes, with the names of each path found by cancellation. -/
theorem translate_eq_cancellation (mount : MountPoint) (path : Text) :
    mount.translate path =
      if ¬ ['/'] <+: path then .error (.notAbsolute path)
      else if Path.remaining mount.root <+: Path.remaining path then
        .ok ('/' :: ['/'].intercalate (Path.remaining mount.mountPoint ++
          (Path.remaining path).drop (Path.remaining mount.root).length))
      else .error (.notExposed mount.mountPoint mount.root path) := by
  by_cases ha : ['/'] <+: path
  · have hr := (Path.is_absolute_iff path).mpr ha
    rw [if_neg (not_not_intro ha)]
    by_cases hp : Path.remaining mount.root <+: Path.remaining path
    · obtain ⟨below, hb⟩ := hp
      rw [if_pos ⟨below, hb⟩, translate_eq_ok_iff]
      simp only [Path.normalize_eq_remaining, Path.absolute, join_with_eq_intercalate]
      exact ⟨hr, below, hb.symm, by rw [← hb, List.drop_left]⟩
    · have hn : (Path.normalize mount.root).isPrefixOf? (Path.normalize path) = none := by
        rw [is_prefix_of?_eq_none_iff, Path.normalize_eq_remaining, Path.normalize_eq_remaining]
        exact hp
      rw [if_neg hp, translate, if_pos hr, hn]
  · have hr := mt (Path.is_absolute_iff path).mp ha
    rw [if_pos ha, translate, if_neg hr]

end CgroupLimits.MountPoint
