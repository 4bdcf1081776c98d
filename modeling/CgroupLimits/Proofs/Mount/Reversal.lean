import CgroupLimits.Proofs.Mount.Translation

/-!
# Looking through a mount from both sides

A mount with its root and its mount point exchanged leads back: what it makes
of a translated path is the path that was translated, in its normal form. So
a mount shows two paths at one place only if they name the same group.
-/

set_option autoImplicit false

namespace CgroupLimits.MountPoint
open CgroupLimits

def reversed (mount : MountPoint) : MountPoint :=
  { mount with root := mount.mountPoint, mountPoint := mount.root }

variable {mount : MountPoint} {path directory : Text}

theorem normalize_of_translate (h : mount.translate path = .ok directory) :
    ∃ below, Path.normalize path = Path.normalize mount.root ++ below ∧
      Path.normalize directory = Path.normalize mount.mountPoint ++ below ∧
      directory = Path.absolute (Path.normalize directory) := by
  obtain ⟨-, below, hb, rfl⟩ := (translate_eq_ok_iff mount path directory).mp h
  have hd := Path.normalize_absolute (is_name_of_below hb)
  exact ⟨below, hb, hd, by rw [hd]⟩

theorem translate_reversed (h : mount.translate path = .ok directory) :
    mount.reversed.translate directory = .ok (Path.absolute (Path.normalize path)) := by
  obtain ⟨below, hp, hd, ha⟩ := normalize_of_translate h
  rw [translate_eq_ok_iff]
  have hr : Path.isAbsolute directory := ha ▸ rfl
  exact ⟨hr, below, hd, congrArg Path.absolute hp⟩

/-- Translating back gives the normal form of the path, so no two groups share
a directory. -/
theorem translate_leads_back (mount : MountPoint) :
    (∀ path directory, mount.translate path = .ok directory →
      mount.reversed.translate directory =
        .ok ('/' :: ['/'].intercalate (Path.remaining path))) ∧
    ∀ first second directory other, mount.translate first = .ok directory →
      mount.translate second = .ok other →
      (directory = other ↔ Path.remaining first = Path.remaining second) := by
  constructor
  · intro path directory h
    rw [translate_reversed h, Path.absolute, Path.normalize_eq_remaining, join_with_eq_intercalate]
  · intro first second directory other hf hs
    obtain ⟨below, hbf, hdf, haf⟩ := normalize_of_translate hf
    obtain ⟨rest, hbs, hds, has⟩ := normalize_of_translate hs
    rw [← Path.normalize_eq_remaining, ← Path.normalize_eq_remaining, hbf, hbs,
      List.append_cancel_left_eq]
    constructor
    · intro h
      rw [h, hds, List.append_cancel_left_eq] at hdf
      exact hdf.symm
    · intro h
      rw [haf, has, hdf, hds, h]

def crookedMount : MountPoint where
  mountId := 31
  parentId := 23
  deviceId := "0:24".toList
  root := "/../docker/./abc//".toList
  mountPoint := "sys/../cgroup//cpu/.".toList
  options := ["ro".toList]
  optionalFields := []
  fsType := "cgroup".toList
  mountSource := "cgroup".toList
  superOptions := ["rw".toList, "cpu".toList]

theorem translate_leads_back_crooked :
    crookedMount.translate "/docker/x/../abc/a//b/".toList = .ok "/cgroup/cpu/a/b".toList ∧
      crookedMount.reversed.translate "/cgroup/cpu/a/b".toList = .ok "/docker/abc/a/b".toList ∧
      Path.remaining "/docker/x/../abc/a//b/".toList =
        Path.remaining "/../docker/abc/a/c/../b".toList ∧
      crookedMount.translate "/docker/abc/a/b-x".toList = .ok "/cgroup/cpu/a/b-x".toList ∧
      Path.remaining "/docker/x/../abc/a//b/".toList ≠
        Path.remaining "/docker/abc/a/b-x".toList := by
  have hf : crookedMount.translate "/docker/x/../abc/a//b/".toList =
      .ok "/cgroup/cpu/a/b".toList := by decide +kernel
  have hs : crookedMount.translate "/../docker/abc/a/c/../b".toList =
      .ok "/cgroup/cpu/a/b".toList := by decide +kernel
  have hx : crookedMount.translate "/docker/abc/a/b-x".toList =
      .ok "/cgroup/cpu/a/b-x".toList := by decide +kernel
  obtain ⟨hback, hsame⟩ := translate_leads_back crookedMount
  refine ⟨hf, ?_, (hsame _ _ _ _ hf hs).mp rfl, hx, ?_⟩
  · rw [hback _ _ hf]
    decide +kernel
  · intro he
    exact absurd ((hsame _ _ _ _ hf hx).mpr he) (by decide +kernel)

end CgroupLimits.MountPoint
