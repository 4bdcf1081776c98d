import CgroupLimits.Proofs.Mount.Reversal
import CgroupLimits.Proofs.Path.Descent

/-!
# Below a path that a mount shows

If a path is exposed, so is every path that goes on below it, and what goes on
below the path goes on below its directory in the same way. Only the part that
is added counts: how the path before it is written makes no difference.
-/

set_option autoImplicit false

namespace CgroupLimits.MountPoint
open CgroupLimits

variable {mount : MountPoint} {path directory : Text}

theorem translate_append_slash (h : mount.translate path = .ok directory) {tail : Text}
    (ht : Path.NeverClimbs (tail.splitOn '/')) :
    mount.translate (path ++ '/' :: tail) =
      .ok (Path.absolute (Path.normalize directory ++ Path.remaining tail)) := by
  obtain ⟨below, hp, hd, -⟩ := normalize_of_translate h
  have ha := (Path.is_absolute_iff path).mp ((translate_eq_ok_iff mount path directory).mp h).1
  have hn : Path.normalize (path ++ '/' :: tail) =
      Path.normalize mount.root ++ (below ++ Path.remaining tail) := by
    rw [Path.normalize_append_slash, Path.walk_of_never_climbs _ ht, hp, List.append_assoc,
      Path.remaining]
  rw [translate_eq_ok_iff]
  refine ⟨(Path.is_absolute_iff _).mpr (ha.trans (List.prefix_append path _)), _, hn, ?_⟩
  rw [hd, List.append_assoc]

theorem translate_of_normalize_eq (h : mount.translate path = .ok directory) {other : Text}
    (ha : Path.isAbsolute other) (hn : Path.normalize other = Path.normalize path) :
    mount.translate other = .ok directory := by
  obtain ⟨-, below, hb, hd⟩ := (translate_eq_ok_iff mount path directory).mp h
  exact (translate_eq_ok_iff mount other directory).mpr ⟨ha, below, hn.trans hb, hd⟩

theorem names_of_translate (h : mount.translate path = .ok directory) :
    Path.names directory = Path.normalize directory := by
  obtain ⟨-, -, -, hd⟩ := normalize_of_translate h
  rw [hd, Path.names_absolute fun name => Path.is_name_of_mem_normalize, ← hd]

/-- What goes on below an exposed path goes on below its directory, and what
comes back to the path leaves its directory as it is. -/
theorem translate_descends (h : mount.translate path = .ok directory) :
    (∀ tail : Text, Path.NeverClimbs (tail.splitOn '/') → ∃ deeper,
      mount.translate (path ++ '/' :: tail) = .ok deeper ∧
      Path.names deeper = Path.names directory ++ Path.remaining tail ∧
      deeper = '/' :: ['/'].intercalate (Path.names deeper)) ∧
    ∀ tail : Text, Path.Returns (tail.splitOn '/') →
      mount.translate (path ++ '/' :: tail) = .ok directory := by
  have ha := (Path.is_absolute_iff path).mp ((translate_eq_ok_iff mount path directory).mp h).1
  constructor
  · intro tail ht
    have hd := translate_append_slash h ht
    have hn : ∀ name ∈ Path.normalize directory ++ Path.remaining tail, Path.IsName name := by
      intro name hm
      rcases List.mem_append.mp hm with hm | hm
      · exact Path.is_name_of_mem_normalize hm
      · exact Path.is_name_of_mem_normalize (Path.normalize_eq_remaining tail ▸ hm)
    refine ⟨_, hd, ?_, ?_⟩
    · rw [Path.names_absolute hn, names_of_translate h]
    · rw [Path.names_absolute hn, Path.absolute, join_with_eq_intercalate]
  · intro tail ht
    apply translate_of_normalize_eq h
    · exact (Path.is_absolute_iff _).mpr (ha.trans (List.prefix_append path _))
    · rw [Path.normalize_append_slash, Path.walk_of_returns _ ht]

theorem translate_descends_crooked :
    crookedMount.translate "/docker/x/../abc/a//b/".toList = .ok "/cgroup/cpu/a/b".toList ∧
      Path.NeverClimbs ("c/../d//./e".toList.splitOn '/') ∧
      (∃ deeper, crookedMount.translate "/docker/x/../abc/a//b//c/../d//./e".toList = .ok deeper ∧
        Path.names deeper = "/cgroup/cpu/a/b/d/e".toList.tail.splitOn '/') ∧
      Path.Returns ("./c/d/..//../".toList.splitOn '/') ∧
      crookedMount.translate "/docker/x/../abc/a//b//./c/d/..//../".toList =
        .ok "/cgroup/cpu/a/b".toList := by
  have h : crookedMount.translate "/docker/x/../abc/a//b/".toList =
      .ok "/cgroup/cpu/a/b".toList := by decide +kernel
  have hc : Path.NeverClimbs ("c/../d//./e".toList.splitOn '/') :=
    (Path.never_climbs_iff _).mpr (by decide)
  have hd : Path.Returns [['d'], ['.', '.'], []] :=
    @Path.Returns.detour ['d'] [] [[]] (by decide) .nil (.stay (by decide) .nil)
  have hr : Path.Returns ("./c/d/..//../".toList.splitOn '/') :=
    .stay (by decide) (@Path.Returns.detour ['c'] [['d'], ['.', '.'], []] [[]] (by decide) hd
      (.stay (by decide) .nil))
  obtain ⟨hdown, hback⟩ := translate_descends h
  obtain ⟨deeper, ht, hn, -⟩ := hdown _ hc
  refine ⟨h, hc, ⟨deeper, ht, hn.trans ?_⟩, hr, hback _ hr⟩
  decide

end CgroupLimits.MountPoint
