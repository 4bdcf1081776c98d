import CgroupLimits.Text.Basic

/-!
# Directories by controller

Each controller has at most one directory. A later directory for the same
controller replaces the earlier one.
-/

set_option autoImplicit false

namespace CgroupLimits

structure Directories where
  entries : List (Text × Text)
  distinct : (entries.map Prod.fst).Nodup
  deriving DecidableEq, Repr

namespace Directories

def empty : Directories := ⟨[], List.nodup_nil⟩

def put (controller directory : Text) : List (Text × Text) → List (Text × Text)
  | [] => [(controller, directory)]
  | entry :: rest =>
    if entry.1 = controller then (controller, directory) :: rest
    else entry :: put controller directory rest

theorem mem_keys_put (controller directory name : Text) (entries : List (Text × Text)) :
    name ∈ (put controller directory entries).map Prod.fst ↔
      name = controller ∨ name ∈ entries.map Prod.fst := by
  induction entries with
  | nil => simp [put]
  | cons entry rest ih =>
    rw [put]
    split
    · rename_i h
      simp [← h]
    · rw [List.map_cons, List.mem_cons, ih, List.map_cons, List.mem_cons]
      exact or_left_comm

theorem nodup_keys_put (controller directory : Text) (entries : List (Text × Text))
    (h : (entries.map Prod.fst).Nodup) :
    ((put controller directory entries).map Prod.fst).Nodup := by
  induction entries with
  | nil => simp [put]
  | cons entry rest ih =>
    rw [List.map_cons, List.nodup_cons] at h
    rw [put]
    split
    · rename_i he
      rw [List.map_cons, List.nodup_cons]
      exact ⟨he ▸ h.1, h.2⟩
    · rename_i he
      rw [List.map_cons, List.nodup_cons, mem_keys_put]
      exact ⟨fun hm => hm.elim he h.1, ih h.2⟩

def insert (directories : Directories) (controller directory : Text) : Directories :=
  ⟨put controller directory directories.entries,
    nodup_keys_put controller directory _ directories.distinct⟩

def find? (directories : Directories) (controller : Text) : Option Text :=
  directories.entries.lookup controller

def isEmpty (directories : Directories) : Bool := directories.entries.isEmpty

theorem lookup_put (controller directory name : Text) (entries : List (Text × Text)) :
    (put controller directory entries).lookup name =
      if name = controller then some directory else entries.lookup name := by
  induction entries with
  | nil => by_cases h : name = controller <;> simp [put, List.lookup_cons, h, beq_false_of_ne]
  | cons entry rest ih =>
    obtain ⟨other, place⟩ := entry
    rw [put]
    by_cases he : other = controller <;> by_cases h : name = controller <;>
      by_cases hn : name = other <;> simp_all [List.lookup_cons, beq_false_of_ne]

theorem find?_insert (directories : Directories) (controller directory name : Text) :
    (directories.insert controller directory).find? name =
      if name = controller then some directory else directories.find? name :=
  lookup_put controller directory name directories.entries

end Directories
end CgroupLimits
