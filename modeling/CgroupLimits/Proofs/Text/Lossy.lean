import CgroupLimits.Proofs.Text.Pieces
import CgroupLimits.Text.Utf8

/-!
# Cutting bytes and cutting what they are read as

A lossy reading finds an ASCII character only where its byte stands: broken
bytes become U+FFFD, whole ones characters past ASCII, and neither swallows
the byte behind it. So bytes may be cut at an ASCII separator before they are
read or after, whatever stands between the separators.
-/

set_option autoImplicit false

namespace CgroupLimits.Utf8
open CgroupLimits

/-- What is read of an unfinished character leads past ASCII: the part before
its last byte is worth two at least. -/
def State.IsPastAscii : State → Prop
  | .start => True
  | .awaiting 0 _ value => 2 ≤ value
  | .awaiting (_+1) window value => 2 ≤ value*64+(window.low-0x80)

/-- No character below U+0080 except NUL, which also stands for numbers that
are no character. -/
def IsNonAscii (item : Item) : Prop := ∀ c, item = some c → 0 < c.toNat → 0x80 ≤ c.toNat

theorem to_nat_of_nat_of_pos {n : Nat} (h : 0 < (Char.ofNat n).toNat) :
    (Char.ofNat n).toNat = n := by
  by_cases hv : n.isValidChar
  · rw [Char.ofNat, dif_pos hv]
    rfl
  · rw [Char.ofNat, dif_neg hv] at h
    exact absurd h (by decide)

theorem is_non_ascii_of_nat {n : Nat} (h : 0x80 ≤ n) : IsNonAscii (some (Char.ofNat n)) := by
  rintro c ⟨⟩ hc
  rwa [to_nat_of_nat_of_pos hc]

theorem lead_is_past_ascii (b : Nat) : (lead b).1.IsPastAscii := by
  unfold lead
  split
  · trivial
  split
  · trivial
  split
  · simp only [State.IsPastAscii]
    omega
  split
  · by_cases h0 : b = 0xE0
    · simp [State.IsPastAscii, h0, Window.low]
    · by_cases h1 : b = 0xED
      · simp [State.IsPastAscii, h1, Window.low]
      · simp only [State.IsPastAscii, h0, h1, if_false, Window.low]
        omega
  split
  · by_cases h0 : b = 0xF0
    · simp [State.IsPastAscii, h0, Window.low]
    · by_cases h1 : b = 0xF4
      · simp [State.IsPastAscii, h1, Window.low]
      · simp only [State.IsPastAscii, h0, h1, if_false, Window.low]
        omega
  · trivial

theorem lead_is_non_ascii {b : Nat} (h : 0x80 ≤ b) : ∀ item ∈ (lead b).2, IsNonAscii item := by
  have hn : ∀ item ∈ ([none] : List Item), IsNonAscii item := by
    intro item hm
    simp [List.mem_singleton.mp hm, IsNonAscii]
  unfold lead
  rw [if_neg (by omega)]
  split
  · exact hn
  split
  · simp
  split
  · simp
  split
  · simp
  · exact hn

theorem extend_is_past_ascii {more : Nat} {window : Window} {value b : Nat}
    (h : (State.awaiting more window value).IsPastAscii) (hb : window.low ≤ b) :
    (extend more value b).1.IsPastAscii ∧ ∀ item ∈ (extend more value b).2, IsNonAscii item := by
  cases more with
  | zero =>
    simp only [State.IsPastAscii] at h
    refine ⟨trivial, ?_⟩
    intro item hm
    rw [List.mem_singleton.mp hm]
    exact is_non_ascii_of_nat (by omega)
  | succ more =>
    simp only [State.IsPastAscii] at h
    cases more with
    | zero => exact ⟨by simp only [extend, State.IsPastAscii]; omega, by simp [extend]⟩
    | succ more => exact ⟨by simp only [extend, State.IsPastAscii]; omega, by simp [extend]⟩

theorem step_is_past_ascii {state : State} (h : state.IsPastAscii) {b : UInt8}
    (hb : 0x80 ≤ b.toNat) :
    (step state b).1.IsPastAscii ∧ ∀ item ∈ (step state b).2, IsNonAscii item := by
  cases state with
  | start => exact ⟨lead_is_past_ascii _, lead_is_non_ascii hb⟩
  | awaiting more window value =>
    rw [step]
    split
    · rename_i hw
      exact extend_is_past_ascii h hw.1
    · refine ⟨lead_is_past_ascii _, ?_⟩
      intro item hm
      rcases List.mem_cons.mp hm with rfl | hm
      · simp [IsNonAscii]
      · exact lead_is_non_ascii hb item hm

theorem mem_finish {state : State} {item : Item} (h : item ∈ finish state) : item = none := by
  cases state with
  | start => cases h
  | awaiting more window value => exact List.mem_singleton.mp h

theorem mem_of_mem_items {bytes : Bytes} {state : State} {c : Char} (hs : state.IsPastAscii)
    (h : some c ∈ items state bytes) (hn : 0 < c.toNat) (ha : c.toNat < 0x80) :
    ∃ b ∈ bytes, b.toNat = c.toNat := by
  induction bytes generalizing state with
  | nil => cases mem_finish h
  | cons b bytes ih =>
    rw [items, List.mem_append] at h
    by_cases hb : b.toNat < 0x80
    · rw [step_ascii state b hb] at h
      rcases h with h | h
      · rcases List.mem_append.mp h with h | h
        · cases mem_finish h
        · have he := Option.some.inj (List.mem_singleton.mp h)
          refine ⟨b, List.mem_cons_self, ?_⟩
          rw [he] at hn ⊢
          exact (to_nat_of_nat_of_pos hn).symm
      · have hz : State.start.IsPastAscii := trivial
        obtain ⟨x, hx, he⟩ := ih hz h
        exact ⟨x, List.mem_cons_of_mem _ hx, he⟩
    · have hp := step_is_past_ascii hs (Nat.le_of_not_lt hb)
      rcases h with h | h
      · exact absurd (hp.2 _ h c rfl hn) (by omega)
      · obtain ⟨x, hx, he⟩ := ih hp.1 h
        exact ⟨x, List.mem_cons_of_mem _ hx, he⟩

section Separator
variable {separator : UInt8} {c : Char}

theorem not_mem_decode_lossy {bytes : Bytes} (hb : separator ∉ bytes)
    (hc : separator.toNat = c.toNat) (hn : 0 < c.toNat) (ha : c.toNat < 0x80) :
    c ∉ decodeLossy bytes := by
  intro h
  obtain ⟨item, hi, he⟩ := List.mem_map.mp h
  cases item with
  | none =>
    have hr : replacement = c := he
    exact absurd (hr ▸ ha) (by decide)
  | some d =>
    have hd : d = c := he
    have hs : State.start.IsPastAscii := trivial
    obtain ⟨b, hm, hv⟩ := mem_of_mem_items hs (hd ▸ hi) hn ha
    exact hb (UInt8.toNat_inj.mp (hv.trans hc.symm) ▸ hm)

theorem decode_lossy_join_with (pieces : List Bytes) (hc : separator.toNat = c.toNat)
    (ha : c.toNat < 0x80) :
    decodeLossy (joinWith separator pieces) = joinWith c (pieces.map decodeLossy) := by
  induction pieces with
  | nil => rfl
  | cons piece pieces ih =>
    by_cases hp : pieces = []
    · subst pieces
      rfl
    · have hm : pieces.map decodeLossy ≠ [] := by simpa using hp
      rw [join_with_cons _ _ hp, decode_lossy_ascii _ _ _ (hc ▸ ha), ih, hc, Char.ofNat_toNat,
        List.map_cons, join_with_cons _ _ hm]

/-- Cutting first and reading the pieces is reading first and cutting the text. -/
theorem split_on_decode_lossy (bytes : Bytes) (hc : separator.toNat = c.toNat) (hn : 0 < c.toNat)
    (ha : c.toNat < 0x80) :
    splitOn c (decodeLossy bytes) = (splitOn separator bytes).map decodeLossy := by
  have hs : (splitOn separator bytes).map decodeLossy ≠ [] := by
    simpa using split_on_ne_nil separator bytes
  have hp : ∀ piece ∈ (splitOn separator bytes).map decodeLossy, c ∉ piece := by
    intro piece hm
    obtain ⟨part, hb, rfl⟩ := List.mem_map.mp hm
    exact not_mem_decode_lossy (not_mem_of_mem_split_on hb) hc hn ha
  rw [← split_on_join_with c hs hp, ← decode_lossy_join_with _ hc ha, join_with_split_on]

end Separator
end CgroupLimits.Utf8
