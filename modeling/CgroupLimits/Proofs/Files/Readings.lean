import CgroupLimits.Files.Basic
import CgroupLimits.Proofs.Text.Pieces

/-!
# Readings one after another

Each reading gives some entries or an error. Together they give all entries in
order, or the error of the first one that fails, and it does not matter how
they are grouped.
-/

set_option autoImplicit false

namespace CgroupLimits
variable {ε δ α β : Type}

/-- Two readings together. The second one counts only if the first succeeds. -/
def followedBy : Except ε (List α) → Except ε (List α) → Except ε (List α)
  | .ok first, .ok second => .ok (first ++ second)
  | .ok _, .error error => .error error
  | .error error, _ => .error error

def gather : List (Except ε (List α)) → Except ε (List α)
  | [] => .ok []
  | reading :: readings => followedBy reading (gather readings)

@[simp]
theorem nil_followed_by (reading : Except ε (List α)) : followedBy (.ok []) reading = reading := by
  cases reading <;> rfl

@[simp]
theorem followed_by_nil (reading : Except ε (List α)) : followedBy reading (.ok []) = reading := by
  cases reading with
  | error error => rfl
  | ok entries => exact congrArg Except.ok (List.append_nil entries)

theorem followed_by_assoc (first second third : Except ε (List α)) :
    followedBy (followedBy first second) third = followedBy first (followedBy second third) := by
  cases first with
  | error error => rfl
  | ok x =>
    cases second with
    | error error => rfl
    | ok y =>
      cases third with
      | error error => rfl
      | ok z => exact congrArg Except.ok (List.append_assoc x y z)

theorem bind_eq_followed_by (first second : Except ε (List α)) :
    (do
      let before ← first
      let after ← second
      return before ++ after) = followedBy first second := by
  cases first <;> cases second <;> rfl

theorem followed_by_eq_ok_iff {first second : Except ε (List α)} {entries : List α} :
    followedBy first second = .ok entries ↔
      ∃ before after, first = .ok before ∧ second = .ok after ∧ entries = before ++ after := by
  cases first with
  | error error => simp [followedBy]
  | ok before => cases second <;> simp [followedBy, eq_comm]

theorem followed_by_eq_error_iff {first second : Except ε (List α)} {error : ε} :
    followedBy first second = .error error ↔
      first = .error error ∨ (∃ entries, first = .ok entries) ∧ second = .error error := by
  cases first with
  | error fault => simp [followedBy]
  | ok entries => cases second <;> simp [followedBy]

theorem map_error_followed_by (f : ε → δ) (first second : Except ε (List α)) :
    (followedBy first second).mapError f = followedBy (first.mapError f) (second.mapError f) := by
  cases first <;> cases second <;> rfl

theorem gather_append (first second : List (Except ε (List α))) :
    gather (first ++ second) = followedBy (gather first) (gather second) := by
  induction first with
  | nil => exact (nil_followed_by _).symm
  | cons reading readings ih => rw [List.cons_append, gather, gather, ih, followed_by_assoc]

theorem gather_eq_ok_iff (readings : List (Except ε (List α))) (entries : List α) :
    gather readings = .ok entries ↔
      ∃ parts : List (List α), readings = parts.map .ok ∧ entries = parts.flatten := by
  induction readings generalizing entries with
  | nil => simp [gather, eq_comm]
  | cons reading readings ih =>
    cases reading with
    | error error =>
      constructor
      · intro h
        cases h
      · rintro ⟨parts, hp, -⟩
        cases parts <;> cases hp
    | ok part =>
      constructor
      · intro h
        cases hg : gather readings with
        | error error => simp [gather, hg, followedBy] at h
        | ok rest =>
          obtain ⟨parts, rfl, rfl⟩ := (ih rest).mp hg
          rw [gather, hg] at h
          exact ⟨part :: parts, rfl, (Except.ok.inj h).symm⟩
      · rintro ⟨parts, hp, rfl⟩
        cases parts with
        | nil => cases hp
        | cons first rest =>
          obtain ⟨hf, hr⟩ := List.cons.inj hp
          rw [gather, hf, (ih rest.flatten).mpr ⟨rest, hr, rfl⟩]
          rfl

theorem gather_eq_error_iff (readings : List (Except ε (List α))) (error : ε) :
    gather readings = .error error ↔ ∃ before after, readings = before ++ .error error :: after ∧
      ∀ reading ∈ before, ∃ entries, reading = .ok entries := by
  induction readings with
  | nil => simp [gather]
  | cons reading readings ih =>
    cases reading with
    | error fault =>
      constructor
      · intro h
        cases h
        exact ⟨[], readings, rfl, by simp⟩
      · rintro ⟨before, after, hs, hb⟩
        cases before with
        | nil =>
          cases hs
          rfl
        | cons first before =>
          obtain ⟨entries, he⟩ := hb first List.mem_cons_self
          rw [he] at hs
          cases hs
    | ok entries =>
      have hg : gather (.ok entries :: readings) = .error error ↔
          gather readings = .error error := by
        rw [gather]
        cases gather readings <;> simp [followedBy]
      rw [hg, ih]
      constructor
      · rintro ⟨before, after, rfl, hb⟩
        exact ⟨.ok entries :: before, after, rfl, by simpa using hb⟩
      · rintro ⟨before, after, hs, hb⟩
        cases before with
        | nil => cases hs
        | cons first before =>
          exact ⟨before, after, (List.cons.inj hs).2, fun r hr => hb r (List.mem_cons_of_mem _ hr)⟩

theorem gather_map_eq_error_iff (f : β → Except ε (List α)) (xs : List β) (error : ε) :
    gather (xs.map f) = .error error ↔ ∃ before x after, xs = before ++ x :: after ∧
      f x = .error error ∧ ∀ y ∈ before, ∃ entries, f y = .ok entries := by
  rw [gather_eq_error_iff]
  constructor
  · rintro ⟨readings, others, hs, hb⟩
    obtain ⟨before, rest, rfl, rfl, hr⟩ := List.map_eq_append_iff.mp hs
    obtain ⟨x, after, rfl, hx, -⟩ := List.map_eq_cons_iff.mp hr
    exact ⟨before, x, after, rfl, hx, fun y hy => hb _ (List.mem_map_of_mem hy)⟩
  · rintro ⟨before, x, after, rfl, hx, hb⟩
    refine ⟨before.map f, after.map f, by simp [hx], ?_⟩
    intro reading hr
    obtain ⟨y, hy, rfl⟩ := List.mem_map.mp hr
    exact hb y hy

namespace Source

theorem lines_eq (content : Bytes) :
    splitOn lineFeed content =
      ({ content } : Source).finishedLines ++ [({ content } : Source).unfinishedLine] := by
  have hn := split_on_ne_nil lineFeed content
  rw [finishedLines, unfinishedLine, List.getLastD_eq_getLast?, List.getLast?_eq_some_getLast hn]
  exact (List.dropLast_concat_getLast hn).symm

theorem finished_lines_of_not_mem {content : Bytes} (h : lineFeed ∉ content) :
    ({ content } : Source).finishedLines = [] := by
  rw [finishedLines, split_on_of_not_mem h]
  rfl

theorem unfinished_line_of_not_mem {content : Bytes} (h : lineFeed ∉ content) :
    ({ content } : Source).unfinishedLine = content := by
  rw [unfinishedLine, split_on_of_not_mem h]
  rfl

theorem finished_lines_append (first second : Bytes) :
    ({ content := first ++ lineFeed :: second } : Source).finishedLines =
      splitOn lineFeed first ++ ({ content := second } : Source).finishedLines := by
  rw [finishedLines, finishedLines, split_on_append_cons]
  exact List.dropLast_append_of_ne_nil (split_on_ne_nil lineFeed second)

theorem unfinished_line_append (first second : Bytes) :
    ({ content := first ++ lineFeed :: second } : Source).unfinishedLine =
      ({ content := second } : Source).unfinishedLine := by
  rw [unfinishedLine, unfinishedLine, split_on_append_cons, lines_eq second]
  simp [List.getLastD_eq_getLast?]

end Source
end CgroupLimits
