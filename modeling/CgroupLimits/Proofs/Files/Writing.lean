import CgroupLimits.Files.Tree
import CgroupLimits.Proofs.Stages
import CgroupLimits.Proofs.Text.Pieces
import Mathlib.Data.List.Basic

/-!
# What a tree holds after a change

A file that has been written is read back, one that has been removed is gone,
and every other file is as it was. The directories on the way are only ever
added, so this also holds of a change that stops halfway: no path leads
elsewhere, and no file is lost.
-/

set_option autoImplicit false

namespace CgroupLimits.Tree
open CgroupLimits

/-- Everything stays what it is, but for the content of files at these places. -/
structure Keeps (changed : List Text → Prop) (old new : Tree) : Prop where
  workingDirectory : new.workingDirectory = old.workingDirectory
  directory : ∀ place, old.node? place = some .directory → new.node? place = some .directory
  file : ∀ place content, old.node? place = some (.file content) →
    ∃ kept, new.node? place = some (.file kept) ∧ (¬ changed place → kept = content)

def Nowhere (_ : List Text) : Prop := False

section Nodes
variable {changed : List Text → Prop} {old mid new tree : Tree} {place : List Text}

theorem Keeps.refl (tree : Tree) : Keeps changed tree tree where
  workingDirectory := rfl
  directory _ h := h
  file _ content h := ⟨content, h, fun _ => rfl⟩

theorem Keeps.trans (first : Keeps Nowhere old mid) (second : Keeps changed mid new) :
    Keeps changed old new where
  workingDirectory := second.workingDirectory.trans first.workingDirectory
  directory place h := second.directory place (first.directory place h)
  file place content h := by
    obtain ⟨kept, hm, hk⟩ := first.file place content h
    obtain ⟨left, hn, hl⟩ := second.file place kept hm
    exact ⟨left, hn, fun hc => (hl hc).trans (hk not_false)⟩

theorem Keeps.present (h : Keeps changed old new) (hp : (old.node? place).isSome) :
    (new.node? place).isSome := by
  obtain ⟨node, hn⟩ := Option.isSome_iff_exists.mp hp
  cases node with
  | file content =>
    obtain ⟨kept, hk, -⟩ := h.file place content hn
    rw [hk, Option.isSome_some]
  | directory => rw [h.directory place hn, Option.isSome_some]

theorem lookup_filter_ne (nodes : List (List Text × Node)) {other : List Text}
    (h : other ≠ place) : (nodes.filter (·.1 != place)).lookup other = nodes.lookup other := by
  induction nodes with
  | nil => rfl
  | cons entry nodes ih =>
    obtain ⟨found, node⟩ := entry
    by_cases hf : found = place
    · subst found
      rw [List.filter_cons_of_neg (by simp), ih, List.lookup_cons, beq_false_of_ne h]
    · rw [List.filter_cons_of_pos (by simpa using hf), List.lookup_cons, List.lookup_cons, ih]

theorem node_put_same (hp : place ≠ []) (node : Node) :
    (tree.put place node).node? place = some node := by
  rw [node?, if_neg hp, put, List.lookup_cons_self]

theorem node_put_other {other : List Text} (h : other ≠ place) (node : Node) :
    (tree.put place node).node? other = tree.node? other := by
  rw [node?, node?, put, List.lookup_cons, beq_false_of_ne h]
  congr 1
  exact lookup_filter_ne tree.nodes h

theorem node_erase_same (hp : place ≠ []) : (tree.erase place).node? place = none := by
  rw [node?, if_neg hp, erase, List.lookup_eq_none_iff]
  intro entry he
  have hn := (List.mem_filter.mp he).2
  exact bne_iff_ne.mpr (bne_iff_ne.mp hn).symm

theorem node_erase_other {other : List Text} (h : other ≠ place) :
    (tree.erase place).node? other = tree.node? other := by
  rw [node?, node?]
  congr 1
  exact lookup_filter_ne tree.nodes h

theorem keeps_add_directory (h : tree.node? place = none) :
    Keeps changed tree (tree.put place .directory) where
  workingDirectory := rfl
  directory other hd := by
    have hn : other ≠ place := by
      rintro rfl
      cases h.symm.trans hd
    rw [node_put_other hn, hd]
  file other content hf := by
    have hn : other ≠ place := by
      rintro rfl
      cases h.symm.trans hf
    exact ⟨content, (node_put_other hn _).trans hf, fun _ => rfl⟩

theorem keeps_put_file (hp : place ≠ []) (h : tree.node? place ≠ some .directory)
    (content : Bytes) : Keeps (· = place) tree (tree.put place (.file content)) where
  workingDirectory := rfl
  directory other hd := by
    have hn : other ≠ place := by
      rintro rfl
      exact h hd
    rw [node_put_other hn, hd]
  file other found hf := by
    by_cases hn : other = place
    · subst other
      exact ⟨content, node_put_same hp _, fun hc => absurd rfl hc⟩
    · exact ⟨found, (node_put_other hn _).trans hf, fun _ => rfl⟩

theorem keeps_of_erase (hp : place ≠ []) : Keeps Nowhere (tree.erase place) tree where
  workingDirectory := rfl
  directory other hd := by
    have hn : other ≠ place := by
      rintro rfl
      cases (node_erase_same hp).symm.trans hd
    rw [← node_erase_other hn, hd]
  file other content hf := by
    have hn : other ≠ place := by
      rintro rfl
      cases (node_erase_same hp).symm.trans hf
    exact ⟨content, (node_erase_other hn).symm.trans hf, fun _ => rfl⟩

end Nodes

section Paths
variable {changed : List Text → Prop} {old new tree : Tree} {place target : List Text}
  {path : Text}

theorem enter_eq_ok_iff {component : Text} :
    tree.enter place component = .ok target ↔ tree.node? place = some .directory ∧
      (isStep component ∧ target = (if component = ['.', '.'] then place.dropLast else place) ∨
        ¬ isStep component ∧ ¬ isTooLong component ∧ (tree.node? target).isSome ∧
          target = place ++ [component]) := by
  rw [Tree.enter]
  by_cases hd : tree.node? place = some .directory
  · rw [if_neg (not_not_intro hd)]
    by_cases hs : isStep component
    · rw [if_pos hs, Except.ok.injEq]
      constructor
      · exact fun h => ⟨hd, Or.inl ⟨hs, h.symm⟩⟩
      · rintro ⟨-, ⟨-, h⟩ | ⟨hn, -⟩⟩
        · exact h.symm
        · exact absurd hs hn
    · rw [if_neg hs]
      constructor
      · intro h
        split at h
        · cases h
        rename_i hl
        split at h
        · cases h
        rename_i hn
        cases h
        rw [Option.isNone_iff_eq_none] at hn
        exact ⟨hd, Or.inr ⟨hs, hl, Option.isSome_iff_ne_none.mpr hn, rfl⟩⟩
      · rintro ⟨-, ⟨hn, -⟩ | ⟨-, hl, hp, rfl⟩⟩
        · exact absurd hn hs
        · rw [if_neg hl, if_neg (by simpa [Option.isSome_iff_ne_none] using hp)]
  · rw [if_pos hd]
    exact ⟨fun h => (nomatch h), fun h => absurd h.1 hd⟩

theorem Keeps.enter (h : Keeps changed old new) {component : Text}
    (he : old.enter place component = .ok target) : new.enter place component = .ok target := by
  obtain ⟨hd, hs | ⟨hs, hl, hp, ht⟩⟩ := enter_eq_ok_iff.mp he
  · exact enter_eq_ok_iff.mpr ⟨h.directory place hd, Or.inl hs⟩
  · exact enter_eq_ok_iff.mpr ⟨h.directory place hd, Or.inr ⟨hs, hl, h.present hp, ht⟩⟩

theorem Keeps.walk (h : Keeps changed old new) {components : List Text}
    (hw : components.foldlM old.enter place = .ok target) :
    components.foldlM new.enter place = .ok target := by
  induction components generalizing place with
  | nil => exact hw
  | cons component components ih =>
    rw [List.foldlM_cons, bind_eq_ok] at hw ⊢
    obtain ⟨next, he, hn⟩ := hw
    exact ⟨next, h.enter he, ih hn⟩

theorem erased_enter {erased : List Text} {component : Text} (hp : place ≠ erased)
    (ht : target ≠ erased) (he : tree.enter place component = .ok target) :
    (tree.erase erased).enter place component = .ok target := by
  rw [enter_eq_ok_iff] at he ⊢
  rw [node_erase_other hp, node_erase_other ht]
  exact he

theorem erased_walk {erased : List Text} (hd : tree.node? erased ≠ some .directory)
    {components : List Text} (hw : components.foldlM tree.enter place = .ok target)
    (ht : target ≠ erased) : components.foldlM (tree.erase erased).enter place = .ok target := by
  induction components generalizing place with
  | nil => exact hw
  | cons component components ih =>
    rw [List.foldlM_cons, bind_eq_ok] at hw ⊢
    obtain ⟨next, he, hn⟩ := hw
    have hp : place ≠ erased := by
      rintro rfl
      exact hd (enter_eq_ok_iff.mp he).1
    have hne : next ≠ erased := by
      rintro rfl
      cases components with
      | nil => exact ht (Except.ok.inj hn).symm
      | cons further components =>
        rw [List.foldlM_cons, bind_eq_ok] at hn
        obtain ⟨_, hf, -⟩ := hn
        exact hd (enter_eq_ok_iff.mp hf).1
    exact ⟨next, erased_enter hp hne he, ih hn⟩

theorem Keeps.start_eq (h : Keeps changed old new) (path : Text) :
    new.start path = old.start path := by
  rw [start, start, h.workingDirectory]

theorem locate_eq_ok_iff :
    tree.locate path = .ok place ↔ ∃ names, components path = .ok names ∧
      names.foldlM tree.enter (tree.start path) = .ok place := by
  rw [locate, bind_eq_ok]

theorem Keeps.locate (h : Keeps changed old new) (hl : old.locate path = .ok place) :
    new.locate path = .ok place := by
  rw [locate_eq_ok_iff] at hl ⊢
  obtain ⟨names, hc, hw⟩ := hl
  exact ⟨names, hc, h.start_eq path ▸ h.walk hw⟩

theorem erased_locate {erased : List Text} (hd : tree.node? erased ≠ some .directory)
    (hl : tree.locate path = .ok place) (hp : place ≠ erased) :
    (tree.erase erased).locate path = .ok place := by
  rw [locate_eq_ok_iff] at hl ⊢
  obtain ⟨names, hc, hw⟩ := hl
  exact ⟨names, hc, erased_walk hd hw hp⟩

theorem exists_located {source : Source} (h : tree.files path = .ok source) :
    ∃ place, tree.locate path = .ok place ∧ (tree.node? place).isSome := by
  rw [files] at h
  split at h
  · cases h
  rename_i place hl
  refine ⟨place, hl, ?_⟩
  split at h
  · rename_i hn
    rw [hn, Option.isSome_some]
  · rename_i hn
    rw [hn, Option.isSome_some]
  · cases h

theorem files_of_located {content : Bytes} (hl : tree.locate path = .ok place)
    (hn : tree.node? place = some (.file content)) : tree.files path = .ok { content } := by
  simp only [files, hl, hn]

theorem located_of_files {content : Bytes} (h : tree.files path = .ok { content }) :
    ∃ place, tree.locate path = .ok place ∧ tree.node? place = some (.file content) := by
  rw [files] at h
  split at h
  · cases h
  · rename_i place hl
    split at h
    · rename_i found hn
      cases h
      exact ⟨place, hl, hn⟩
    · cases h
    · cases h

end Paths

section Changes
variable {changed : List Text → Prop} {old new tree : Tree} {place : List Text} {path name : Text}

theorem entry_eq_ok_iff : tree.entry path = .ok (place, name) ↔
    ∃ names, components path = .ok names ∧
      name = (names.reverse.dropWhile (· == [])).headD [] ∧
      (names.reverse.dropWhile (· == [])).tail.reverse.foldlM tree.enter (tree.start path) =
        .ok place ∧
      tree.node? place = some .directory := by
  rw [entry, bind_eq_ok]
  constructor
  · rintro ⟨names, hc, h⟩
    rw [bind_eq_ok] at h
    obtain ⟨found, hw, h⟩ := h
    split at h
    · cases h
      exact ⟨names, hc, rfl, hw, ‹_›⟩
    · cases h
  · rintro ⟨names, hc, rfl, hw, hd⟩
    refine ⟨names, hc, ?_⟩
    rw [bind_eq_ok]
    exact ⟨place, hw, if_pos hd⟩

theorem add_directory_eq_ok (h : tree.addDirectory path = .ok new) :
    ∃ place name, tree.node? (place ++ [name]) = none ∧
      new = tree.put (place ++ [name]) .directory := by
  rw [addDirectory, bind_eq_ok] at h
  obtain ⟨⟨place, name⟩, -, h⟩ := h
  dsimp only at h
  split at h
  · cases h
  split at h
  · cases h
  split at h
  · cases h
  · rename_i hp
    cases h
    exact ⟨place, name, Option.not_isSome_iff_eq_none.mp hp, rfl⟩

theorem put_file_eq_ok {content : Bytes} (h : tree.putFile path content = .ok new) :
    ∃ place name, tree.entry path = .ok (place, name) ∧ ¬ isStep name ∧
      path.getLast? ≠ some '/' ∧ ¬ isTooLong name ∧
      tree.node? (place ++ [name]) ≠ some .directory ∧
      new = tree.put (place ++ [name]) (.file content) := by
  rw [putFile, bind_eq_ok] at h
  obtain ⟨⟨place, name⟩, he, h⟩ := h
  dsimp only at h
  split at h
  · cases h
  rename_i hs
  rw [not_or] at hs
  split at h
  · cases h
  rename_i hl
  split at h
  · cases h
  rename_i hd
  cases h
  exact ⟨place, name, he, hs.1, hs.2, hl, hd, rfl⟩

theorem exists_last_name {names : List Text} (hc : components path = .ok names)
    (hl : path.getLast? ≠ some '/') : ∃ front last, names = front ++ [last] ∧ last ≠ [] := by
  rw [components] at hc
  split at hc
  · cases hc
  split at hc
  · cases hc
  rename_i hn
  split at hc
  · cases hc
  obtain rfl := Except.ok.inj hc
  rcases List.eq_nil_or_concat (splitOn '/' path) with hs | ⟨front, last, hs⟩
  · exact absurd hs (split_on_ne_nil '/' path)
  rw [List.concat_eq_append] at hs
  refine ⟨front, last, hs, ?_⟩
  rintro rfl
  have hj := join_with_split_on '/' path
  rw [hs] at hj
  by_cases hf : front = []
  · subst front
    exact hn hj.symm
  · rw [join_with_concat _ _ hf] at hj
    rw [← hj] at hl
    exact hl List.getLast?_concat

theorem Keeps.locate_entry (h : Keeps changed old new) (he : old.entry path = .ok (place, name))
    (hs : ¬ isStep name) (hl : ¬ isTooLong name) (hf : path.getLast? ≠ some '/')
    (hp : (new.node? (place ++ [name])).isSome) : new.locate path = .ok (place ++ [name]) := by
  obtain ⟨names, hc, hn, hw, hd⟩ := entry_eq_ok_iff.mp he
  obtain ⟨front, last, rfl, hlast⟩ := exists_last_name hc hf
  rw [List.reverse_append, List.reverse_singleton, List.singleton_append,
    List.dropWhile_cons_of_neg (by simpa using hlast)] at hn hw
  rw [List.tail_cons, List.reverse_reverse] at hw
  obtain rfl : name = last := hn
  rw [locate_eq_ok_iff]
  refine ⟨_, hc, ?_⟩
  rw [List.foldlM_append, bind_eq_ok, h.start_eq]
  refine ⟨place, h.walk hw, ?_⟩
  rw [List.foldlM_cons, bind_eq_ok]
  exact ⟨_, enter_eq_ok_iff.mpr ⟨h.directory place hd, Or.inr ⟨hs, hl, hp, rfl⟩⟩, rfl⟩

theorem files_put_file {content : Bytes} (h : tree.putFile path content = .ok new) :
    ∃ place, Keeps (· = place) tree new ∧ new.locate path = .ok place ∧
      new.node? place = some (.file content) := by
  obtain ⟨place, name, he, hs, hf, hl, hd, rfl⟩ := put_file_eq_ok h
  have hp : place ++ [name] ≠ [] := List.concat_ne_nil name place
  have hk := keeps_put_file hp hd content
  have hn : (tree.put (place ++ [name]) (.file content)).node? (place ++ [name]) =
      some (.file content) := node_put_same hp _
  exact ⟨_, hk, hk.locate_entry he hs hl hf (by rw [hn, Option.isSome_some]), hn⟩

end Changes

namespace Change
variable {tree new : Tree} {path : Text} {content : Bytes} {result : Except IoFault Unit}

def Adds (change : Change Unit) : Prop := ∀ tree, Keeps Nowhere tree (change.run.run tree).2

theorem run_and_then (first second : Change Unit) (tree : Tree) :
    (first >>= fun _ => second).run.run tree =
      match first.run.run tree with
      | (.ok _, mid) => second.run.run mid
      | (.error fault, mid) => (.error fault, mid) := by
  rw [ExceptT.run_bind, StateT.run_bind]
  rcases first.run.run tree with ⟨_ | _, mid⟩ <;> rfl

theorem adds_and_then {first second : Change Unit} (hf : Adds first) (hs : Adds second) :
    Adds (first >>= fun _ => second) := by
  intro tree
  rw [run_and_then]
  have hm := hf tree
  rcases hr : first.run.run tree with ⟨_ | _, mid⟩
  · rw [hr] at hm
    exact hm
  · rw [hr] at hm
    exact hm.trans (hs mid)

theorem run_get (next : Tree → Change Unit) (tree : Tree) :
    (get >>= next).run.run tree = (next tree).run.run tree := rfl

theorem adds_ensure_directory (path : Text) : Adds (ensureDirectory path) := by
  intro tree
  rw [ensureDirectory, run_get]
  split
  · rename_i new h
    obtain ⟨place, name, hn, rfl⟩ := add_directory_eq_ok h
    exact keeps_add_directory hn
  · rw [run_get]
    split
    · exact .refl tree
    · exact .refl tree

theorem adds_ensure_within {above : Change Unit} (ha : Adds above) (path : Text) :
    Adds (ensureWithin above path) := by
  intro tree
  rw [ensureWithin, run_get]
  split
  · exact adds_and_then ha (adds_ensure_directory path) tree
  · exact adds_ensure_directory path tree

theorem adds_ensure_all (components : List Text) : Adds (ensureAll components) := by
  induction components with
  | nil => exact Keeps.refl
  | cons name above ih =>
    rw [ensureAll]
    split
    · exact ih
    · exact adds_ensure_within ih _

theorem adds_ensure_parent (path : Text) : Adds (ensureParent path) := adds_ensure_all _

theorem run_step {next : Tree → Except IoFault Tree}
    (h : (step next).run.run tree = (result, new)) :
    (∃ fault, result = .error fault ∧ new = tree) ∨ result = .ok () ∧ next tree = .ok new := by
  rw [step, run_get] at h
  split at h
  · rename_i changed hc
    cases h
    exact Or.inr ⟨rfl, hc⟩
  · rename_i fault hc
    cases h
    exact Or.inl ⟨fault, rfl, rfl⟩

theorem files_of_keeps {changed : List Text → Prop} {other : Text} {kept : Bytes}
    (hk : Keeps changed tree new) (h : tree.files other = .ok { content := kept })
    (hc : ∀ place, new.locate other = .ok place → ¬ changed place) :
    new.files other = .ok { content := kept } := by
  obtain ⟨place, hl, hn⟩ := located_of_files h
  have hl' := hk.locate hl
  obtain ⟨content, hf, he⟩ := hk.file place kept hn
  rw [he (hc place hl')] at hf
  exact files_of_located hl' hf

theorem write_eq (h : (write path content).run.run tree = (result, new)) :
    (∃ fault, result = .error fault ∧ Keeps Nowhere tree new) ∨
      result = .ok () ∧ ∃ place, Keeps (· = place) tree new ∧ new.locate path = .ok place ∧
        new.node? place = some (.file content) := by
  rw [write, run_and_then] at h
  have hk := adds_ensure_parent path tree
  rcases hm : (ensureParent path).run.run tree with ⟨fault | _, mid⟩
  · rw [hm] at h hk
    cases h
    exact Or.inl ⟨fault, rfl, hk⟩
  · rw [hm] at h hk
    rcases run_step h with ⟨fault, rfl, rfl⟩ | ⟨rfl, hw⟩
    · exact Or.inl ⟨fault, rfl, hk⟩
    · obtain ⟨place, hn, hl, hf⟩ := files_put_file hw
      exact Or.inr ⟨rfl, place, hk.trans hn, hl, hf⟩

/-- A file that is written is read back, and a file that another path leads to
is read as before. A write that fails leaves every file as it was. -/
theorem files_write (h : (write path content).run.run tree = (result, new)) :
    (result = .ok () ∧ new.files path = .ok { content } ∧
      ∀ other kept, tree.files other = .ok { content := kept } →
        new.locate other ≠ new.locate path → new.files other = .ok { content := kept }) ∨
    ∃ fault, result = .error fault ∧
      ∀ other kept, tree.files other = .ok { content := kept } →
        new.files other = .ok { content := kept } := by
  rcases write_eq h with ⟨fault, hr, hk⟩ | ⟨hr, place, hk, hl, hf⟩
  · refine Or.inr ⟨fault, hr, ?_⟩
    intro other kept ho
    exact files_of_keeps hk ho fun _ _ => not_false
  · refine Or.inl ⟨hr, files_of_located hl hf, ?_⟩
    intro other kept ho hn
    apply files_of_keeps hk ho
    rintro place' hl' rfl
    exact hn (hl'.trans hl.symm)

theorem files_make_directory (h : (makeDirectory path).run.run tree = (result, new)) {other : Text}
    {kept : Bytes} (ho : tree.files other = .ok { content := kept }) :
    new.files other = .ok { content := kept } := by
  have hk := adds_ensure_within (adds_ensure_parent path) path tree
  rw [← makeDirectory, h] at hk
  exact files_of_keeps hk ho fun _ _ => not_false

/-- Nothing can be read from a file that is removed, and a file that another
path leads to is read as before. -/
theorem files_remove (h : (remove path).run.run tree = (result, new)) :
    (result = .ok () ∧ (∀ source, new.files path ≠ .ok source) ∧
      ∀ other kept, tree.files other = .ok { content := kept } →
        tree.locate other ≠ tree.locate path → new.files other = .ok { content := kept }) ∨
    ∃ fault, result = .error fault ∧ new = tree := by
  rcases run_step h with hf | ⟨hr, hs⟩
  · exact Or.inr hf
  rw [Tree.remove, bind_eq_ok] at hs
  obtain ⟨place, hl, hs⟩ := hs
  split at hs
  · cases hs
  rename_i hd
  obtain rfl := Except.ok.inj hs
  have hp : place ≠ [] := by
    rintro rfl
    exact hd rfl
  refine Or.inl ⟨hr, ?_, ?_⟩
  · intro source hf
    obtain ⟨found, hf, hn⟩ := exists_located hf
    obtain rfl : found = place := Except.ok.inj (((keeps_of_erase hp).locate hf).symm.trans hl)
    rw [node_erase_same hp] at hn
    cases hn
  · intro other kept ho hne
    obtain ⟨found, hf, hn⟩ := located_of_files ho
    have hp' : found ≠ place := by
      rintro rfl
      exact hne (hf.trans hl.symm)
    exact files_of_located (erased_locate hd hf hp') ((node_erase_other hp').trans hn)

end Change

end CgroupLimits.Tree
