import CgroupLimits.Proofs.Files.LineIsolation
import CgroupLimits.Proofs.Group.Unified
import CgroupLimits.Proofs.Stages

/-!
# What ends the reading of a table

Both tables are read line by line, so a reading fails with the error of the
first line that is refused. A fault of the file itself is reported only behind
lines that are all good, and what follows the last line feed does not arrive
then.
-/

set_option autoImplicit false

namespace CgroupLimits
variable {ε α β : Type}

theorem gather_map_eq_error_iff_is_first (f : β → Except ε (List α)) (xs : List β) (error : ε) :
    gather (xs.map f) = .error error ↔
      ∃ x, IsFirst (fun y => ∃ e, f y = .error e) xs x ∧ f x = .error error := by
  rw [gather_map_eq_error_iff]
  constructor
  · rintro ⟨before, x, after, rfl, hx, hb⟩
    refine ⟨x, ⟨before, after, rfl, ⟨error, hx⟩, ?_⟩, hx⟩
    rintro y hy ⟨e, he⟩
    obtain ⟨entries, hok⟩ := hb y hy
    cases he.symm.trans hok
  · rintro ⟨x, ⟨before, after, rfl, -, hb⟩, hx⟩
    refine ⟨before, x, after, rfl, hx, ?_⟩
    intro y hy
    cases he : f y with
    | ok entries => exact ⟨entries, rfl⟩
    | error e => exact absurd ⟨e, he⟩ (hb y hy)

theorem exists_gather_map_eq_ok_iff (f : β → Except ε (List α)) (xs : List β) :
    (∃ entries, gather (xs.map f) = .ok entries) ↔ ∀ x ∈ xs, ∀ e, f x ≠ .error e := by
  constructor
  · rintro ⟨entries, h⟩ x hx e he
    obtain ⟨parts, hp, -⟩ := (gather_eq_ok_iff _ _).mp h
    obtain ⟨part, -, hpart⟩ := List.mem_map.mp (hp ▸ List.mem_map_of_mem hx)
    cases hpart.trans he
  · intro h
    cases hg : gather (xs.map f) with
    | ok entries => exact ⟨entries, rfl⟩
    | error error =>
      obtain ⟨before, x, after, rfl, he, -⟩ := (gather_map_eq_error_iff f xs error).mp hg
      exact absurd he (h x (by simp) error)

namespace Source

/-- What arrives of a file, line by line. The last line has no line feed and
does not arrive if the reading breaks off. -/
def arrivals (source : Source) (finished unfinished : Bytes → β) : List β :=
  source.finishedLines.map finished ++
    match source.fault with
    | none => [unfinished source.unfinishedLine]
    | some _ => []

/-- How a reading fails: by the first line that is refused, or by the fault of
the file if none is. -/
inductive Fails (fault : Option IoFault) (lines : List β) (Refused : β → ε → Prop)
    (broken : IoFault → ε) : ε → Prop
  | line {line : β} {error : ε} (first : IsFirst (fun other => ∃ e, Refused other e) lines line)
      (refused : Refused line error) : Fails fault lines Refused broken error
  | fault {found : IoFault} (accepted : ∀ line ∈ lines, ∀ e, ¬ Refused line e)
      (breaks : fault = some found) : Fails fault lines Refused broken (broken found)

def ending (broken : IoFault → ε) : Option IoFault → Except ε (List α)
  | none => .ok []
  | some fault => .error (broken fault)

theorem fails_iff {fault : Option IoFault} {lines : List β} {f : β → Except ε (List α)}
    {broken : IoFault → ε} {Refused : β → ε → Prop}
    (hr : ∀ line e, f line = .error e ↔ Refused line e) (error : ε) :
    followedBy (gather (lines.map f)) (ending broken fault) = .error error ↔
      Fails fault lines Refused broken error := by
  rw [followed_by_eq_error_iff, gather_map_eq_error_iff_is_first, exists_gather_map_eq_ok_iff]
  simp only [ne_eq, hr]
  constructor
  · rintro (⟨line, first, refused⟩ | ⟨accepted, he⟩)
    · exact .line first refused
    · cases fault with
      | none => cases he
      | some found =>
        cases he
        exact .fault accepted rfl
  · rintro (⟨first, refused⟩ | ⟨accepted, rfl⟩)
    · exact Or.inl ⟨_, first, refused⟩
    · exact Or.inr ⟨accepted, rfl⟩

end Source

namespace MountTable

def Refused (line : Text) (error : TableError) : Prop :=
  ¬ line.isAllBlank ∧ ∃ fault, MountPoint.ofLine line = .error fault ∧ error = .line fault

def Fails (source : Source) : TableError → Prop :=
  Source.Fails source.fault (source.arrivals lineText lineText) Refused .io

def ofText (line : Text) : Except TableError (List MountPoint) :=
  if line.isAllBlank then .ok [] else ((MountPoint.ofLine line).map ([·])).mapError .line

theorem of_text_eq_error_iff (line : Text) (error : TableError) :
    ofText line = .error error ↔ Refused line error := by
  by_cases hb : line.isAllBlank
  · simp [ofText, Refused, hb]
  · rw [ofText, if_neg hb, Refused, map_error_eq_error_iff]
    cases MountPoint.ofLine line with
    | error fault => simp [Except.map, hb]
    | ok mount => simp [Except.map]

theorem of_lines_eq_gather (lines : List Bytes) :
    (ofLines lines).mapError .line = gather (lines.map fun line => ofText (lineText line)) := by
  induction lines with
  | nil => rfl
  | cons line lines ih =>
    have hl : (ofLines [line]).mapError .line = ofText (lineText line) := by
      rw [ofLines, ofText]
      split
      · rfl
      · cases MountPoint.ofLine (lineText line) <;> rfl
    rw [of_lines_cons, map_error_followed_by, ih, hl]
    rfl

theorem read_eq_gather (source : Source) :
    read source = followedBy (gather ((source.arrivals lineText lineText).map ofText))
      (Source.ending .io source.fault) := by
  obtain ⟨content, fault⟩ := source
  cases fault with
  | none =>
    refine (read_bytes_eq content).trans ?_
    rw [of_lines_eq_gather, Source.lines_eq, Source.arrivals, Source.ending, followed_by_nil]
    simp [Function.comp_def, Source.finishedLines, Source.unfinishedLine]
  | some fault =>
    rw [read_broken, Source.arrivals, Source.ending]
    simp only [List.append_nil, List.map_map, Function.comp_def, ← of_lines_eq_gather]
    rfl

theorem read_eq_error_iff (source : Source) (error : TableError) :
    read source = .error error ↔ Fails source error := by
  rw [read_eq_gather]
  exact Source.fails_iff of_text_eq_error_iff error

end MountTable

theorem Membership.of_line_eq_error {line : Text} {error : GroupError}
    (h : ofLine line = .error error) : error = .malformedEntry line := by
  rw [ofLine] at h
  split at h
  · split at h
    · cases h
    · exact (Except.error.inj h).symm
  · exact (Except.error.inj h).symm

namespace MembershipTable

def finishedText? (line : Bytes) : Option Text := (Utf8.decode? line).map withoutReturn

inductive Refused : Option Text → GroupError → Prop
  | notText : Refused none (.io .notUtf8)
  | malformed {line : Text} (notBlank : ¬ line.isAllBlank)
      (noEntry : ∀ entry, Membership.ofLine line ≠ .ok entry) :
      Refused (some line) (.malformedEntry line)

def Fails (source : Source) : GroupError → Prop :=
  Source.Fails source.fault (source.arrivals finishedText? Utf8.decode?) Refused .io

def ofText? : Option Text → Except GroupError (List Membership)
  | none => .error (.io .notUtf8)
  | some line => ofText line

theorem of_text?_eq_error_iff (line : Option Text) (error : GroupError) :
    ofText? line = .error error ↔ Refused line error := by
  cases line with
  | none =>
    constructor
    · rintro ⟨⟩
      exact .notText
    · rintro ⟨⟩
      rfl
  | some line =>
    rw [ofText?, ofText]
    constructor
    · intro h
      split at h
      · cases h
      · rename_i hb
        cases ho : Membership.ofLine line with
        | ok entry => simp [ho, Except.map] at h
        | error fault =>
          obtain rfl := Membership.of_line_eq_error ho
          simp only [ho, Except.map, Except.error.injEq] at h
          exact h ▸ .malformed hb (by simp [ho])
    · intro h
      cases h with
      | malformed hb hn =>
        rw [if_neg hb]
        cases ho : Membership.ofLine line with
        | ok entry => exact absurd ho (hn entry)
        | error fault =>
          rw [Membership.of_line_eq_error ho]
          rfl

theorem of_finished_eq (line : Bytes) : ofFinished line = ofText? (finishedText? line) := by
  rw [ofFinished, decodeLine, finishedText?]
  cases Utf8.decode? line <;> rfl

theorem of_unfinished_eq (line : Bytes) : ofUnfinished line = ofText? (Utf8.decode? line) := by
  rw [ofUnfinished, decodeLine]
  cases Utf8.decode? line <;> rfl

theorem of_lines_eq_gather (lines : List Bytes) :
    ofLines lines = gather (lines.map fun line => ofText? (finishedText? line)) := by
  induction lines with
  | nil => rfl
  | cons line lines ih =>
    rw [of_lines_cons, ih, of_finished_eq]
    rfl

theorem read_eq_gather (source : Source) :
    read source =
      followedBy (gather ((source.arrivals finishedText? Utf8.decode?).map ofText?))
        (Source.ending .io source.fault) := by
  obtain ⟨content, fault⟩ := source
  cases fault with
  | none =>
    refine (read_bytes_eq content).trans ?_
    rw [of_lines_eq_gather, of_unfinished_eq, Source.arrivals, Source.ending, followed_by_nil,
      List.map_append, gather_append]
    simp [Function.comp_def, gather, Source.finishedLines, Source.unfinishedLine]
  | some fault =>
    rw [read_broken, Source.arrivals, Source.ending]
    simp only [List.append_nil, List.map_map, Function.comp_def, ← of_lines_eq_gather]
    rfl

theorem read_eq_error_iff (source : Source) (error : GroupError) :
    read source = .error error ↔ Fails source error := by
  rw [read_eq_gather]
  exact Source.fails_iff of_text?_eq_error_iff error

end MembershipTable
end CgroupLimits
