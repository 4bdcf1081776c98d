import CgroupLimits.Proofs.Text.Blanks
import CgroupLimits.Text.Numeral

/-!
# What a numeral denotes

The value of a numeral is that of its digits, with the sign in front. Reading
gives exactly this value as long as the range has room for it. Leaving the
range early is no loss, for further digits only lead farther away from zero.
-/

set_option autoImplicit false

namespace CgroupLimits.Numeral
open CgroupLimits

def IsDigits (digits : Text) : Prop := digits ≠ [] ∧ ∀ c ∈ digits, c.isDigit

def value (digits : Text) : Nat := Nat.ofDigitChars 10 digits 0

/-- Digits, or a sign and digits. -/
def Denotes (s : Text) (n : Int) : Prop :=
  ∃ digits, IsDigits digits ∧
    ((s = digits ∨ s = '+' :: digits) ∧ n = value digits ∨ s = '-' :: digits ∧ n = -value digits)

def signed (negative : Bool) (n : Nat) : Int := if negative then -n else n

theorem digit_value?_eq_some {c : Char} (h : c.isDigit) :
    digitValue? c = some (c.toNat - '0'.toNat) := by
  have hc : '0' ≤ c ∧ c ≤ '9' := by
    simpa [Char.isDigit, Char.le_def] using h
  rw [digitValue?, if_pos hc]

theorem digit_value?_eq_none {c : Char} (h : ¬ c.isDigit) : digitValue? c = none := by
  have hc : ¬ ('0' ≤ c ∧ c ≤ '9') := by
    simpa [Char.isDigit, Char.le_def] using h
  rw [digitValue?, if_neg hc]

theorem append_digit_signed (negative : Bool) (n digit : Nat) :
    appendDigit negative (signed negative n) digit = signed negative (10*n+digit) := by
  cases negative <;> simp only [appendDigit, signed, if_true, if_false, Bool.false_eq_true] <;>
    push_cast <;> omega

theorem le_of_digit_chars (digits : Text) (n : Nat) : n ≤ Nat.ofDigitChars 10 digits n := by
  induction digits generalizing n with
  | nil => simp
  | cons c digits ih =>
    have h := ih (10*n+(c.toNat - '0'.toNat))
    rw [Nat.ofDigitChars_cons]
    omega

/-- What has left the range on one side of zero does not come back. -/
theorem outside_of_le {lower upper : Int} (hl : lower ≤ 0) (hu : 0 ≤ upper) (negative : Bool)
    {m n : Nat} (hmn : m ≤ n)
    (hm : ¬ (lower ≤ signed negative m ∧ signed negative m ≤ upper)) :
    ¬ (lower ≤ signed negative n ∧ signed negative n ≤ upper) := by
  cases negative <;> simp only [signed, if_true, if_false, Bool.false_eq_true] at hm ⊢ <;> omega

theorem read_digits_cons (lower upper : Int) (negative : Bool) (n : Nat) {c : Char} (rest : Text)
    (hc : c.isDigit) :
    readDigits lower upper negative (signed negative n) (c :: rest) =
      if upper < signed negative (10*n+(c.toNat - '0'.toNat)) then .error .tooLarge
      else if signed negative (10*n+(c.toNat - '0'.toNat)) < lower then .error .tooSmall
      else readDigits lower upper negative (signed negative (10*n+(c.toNat - '0'.toNat))) rest := by
  rw [readDigits, digit_value?_eq_some hc]
  simp only [append_digit_signed]

theorem read_digits_eq_ok_iff {lower upper : Int} (hl : lower ≤ 0) (hu : 0 ≤ upper)
    (negative : Bool) (m : Nat) (s : Text) (n : Int)
    (hm : lower ≤ signed negative m ∧ signed negative m ≤ upper) :
    readDigits lower upper negative (signed negative m) s = .ok n ↔
      (∀ c ∈ s, c.isDigit) ∧ n = signed negative (Nat.ofDigitChars 10 s m) ∧
        lower ≤ n ∧ n ≤ upper := by
  induction s generalizing m with
  | nil =>
    rw [readDigits, Nat.ofDigitChars_nil]
    constructor
    · intro h
      cases h
      exact ⟨by simp, rfl, hm⟩
    · intro h
      rw [h.2.1]
  | cons c rest ih =>
    by_cases hc : c.isDigit
    · rw [read_digits_cons lower upper negative m rest hc, Nat.ofDigitChars_cons]
      have hd : (∀ x ∈ c :: rest, x.isDigit) ↔ ∀ x ∈ rest, x.isDigit := by simp [hc]
      rw [hd]
      by_cases hr : lower ≤ signed negative (10*m+(c.toNat - '0'.toNat)) ∧
          signed negative (10*m+(c.toNat - '0'.toNat)) ≤ upper
      · rw [if_neg (by omega), if_neg (by omega)]
        exact ih _ hr
      -- Out of range at this digit, so out of range at the end of all digits.
      · have ho := outside_of_le hl hu negative (le_of_digit_chars rest _) hr
        constructor
        · intro h
          split at h
          · cases h
          · split at h
            · cases h
            · omega
        · intro h
          exact absurd (h.2.1 ▸ h.2.2) ho
    · rw [readDigits, digit_value?_eq_none hc]
      constructor
      · intro h
        cases h
      · intro h
        exact absurd (h.1 c List.mem_cons_self) hc

theorem sign_ne_of_is_digits {c : Char} {rest : Text} (h : IsDigits (c :: rest)) :
    c ≠ '+' ∧ c ≠ '-' := by
  have hc := h.2 c List.mem_cons_self
  constructor <;> intro he <;> rw [he] at hc <;> exact absurd hc (by decide)

theorem denotes_plus (rest : Text) (n : Int) :
    Denotes ('+' :: rest) n ↔ IsDigits rest ∧ n = value rest := by
  constructor
  · intro h
    obtain ⟨digits, hd, ⟨rfl | h, hn⟩ | ⟨h, -⟩⟩ := h
    · exact absurd rfl (sign_ne_of_is_digits hd).1
    · rw [List.cons.inj h |>.2]
      exact ⟨hd, hn⟩
    · cases h
  · intro h
    exact ⟨rest, h.1, Or.inl ⟨Or.inr rfl, h.2⟩⟩

theorem denotes_minus (rest : Text) (n : Int) :
    Denotes ('-' :: rest) n ↔ IsDigits rest ∧ n = -value rest := by
  constructor
  · intro h
    obtain ⟨digits, hd, ⟨rfl | h, -⟩ | ⟨h, hn⟩⟩ := h
    · exact absurd rfl (sign_ne_of_is_digits hd).2
    · cases h
    · rw [List.cons.inj h |>.2]
      exact ⟨hd, hn⟩
  · intro h
    exact ⟨rest, h.1, Or.inr ⟨rfl, h.2⟩⟩

theorem denotes_unsigned {c : Char} (hp : c ≠ '+') (hm : c ≠ '-') (rest : Text) (n : Int) :
    Denotes (c :: rest) n ↔ IsDigits (c :: rest) ∧ n = value (c :: rest) := by
  constructor
  · intro h
    obtain ⟨digits, hd, ⟨rfl | h, hn⟩ | ⟨h, -⟩⟩ := h
    · exact ⟨hd, hn⟩
    · exact absurd (List.cons.inj h).1 hp
    · exact absurd (List.cons.inj h).1 hm
  · intro h
    exact ⟨c :: rest, h.1, Or.inl ⟨Or.inl rfl, h.2⟩⟩

variable {lower upper : Int}

theorem read_digits_zero_eq_ok_iff (hl : lower ≤ 0) (hu : 0 ≤ upper) (negative : Bool) {s : Text}
    (hs : s ≠ []) (n : Int) :
    readDigits lower upper negative 0 s = .ok n ↔
      (IsDigits s ∧ n = signed negative (value s)) ∧ lower ≤ n ∧ n ≤ upper := by
  have hz : signed negative 0 = 0 := by cases negative <;> rfl
  have h := read_digits_eq_ok_iff hl hu negative 0 s n (by rw [hz]; exact ⟨hl, hu⟩)
  rw [hz] at h
  rw [h]
  simp [IsDigits, value, hs, and_assoc]

theorem read_eq_ok_iff (hl : lower < 0) (hu : 0 ≤ upper) (s : Text) (n : Int) :
    read lower upper s = .ok n ↔ Denotes s n ∧ lower ≤ n ∧ n ≤ upper := by
  have hz := Int.le_of_lt hl
  cases s with
  | nil =>
    constructor
    · intro h
      cases h
    · intro h
      obtain ⟨⟨digits, hd, ⟨h | h, -⟩ | ⟨h, -⟩⟩, -⟩ := h
      · exact absurd h.symm hd.1
      · cases h
      · cases h
  | cons c rest =>
    by_cases hp : c = '+'
    · subst c
      rw [denotes_plus, read]
      by_cases hr : rest = []
      · simp [hr, IsDigits]
      · rw [if_neg (by simp [hr]), read_digits_zero_eq_ok_iff hz hu false hr]
        rfl
    · by_cases hm : c = '-'
      · subst c
        rw [denotes_minus, read]
        by_cases hr : rest = []
        · simp [hr, IsDigits]
        · rw [if_neg (by simp [hr]; omega), read_digits_zero_eq_ok_iff hz hu true hr]
          rfl
      · rw [denotes_unsigned hp hm, read_unsigned lower upper c rest hp hm,
          read_digits_zero_eq_ok_iff hz hu false (List.cons_ne_nil _ _)]
        rfl

/-- A number type of just this range is read exactly as denoted. -/
theorem map_read_eq_ok_iff (hl : lower < 0) (hu : 0 ≤ upper) {α : Type} {ofInt : Int → α}
    {toInt : α → Int} (hr : ∀ a, lower ≤ toInt a ∧ toInt a ≤ upper)
    (ht : ∀ a, ofInt (toInt a) = a) (hn : ∀ n, lower ≤ n → n ≤ upper → toInt (ofInt n) = n)
    (s : Text) (a : α) : (read lower upper s).map ofInt = .ok a ↔ Denotes s (toInt a) := by
  constructor
  · intro h
    cases hs : read lower upper s with
    | error fault => simp [hs, Except.map] at h
    | ok n =>
      have hd := (read_eq_ok_iff hl hu s n).mp hs
      rw [hs] at h
      rw [← Except.ok.inj h, hn n hd.2.1 hd.2.2]
      exact hd.1
  · intro h
    rw [(read_eq_ok_iff hl hu s (toInt a)).mpr ⟨h, hr a⟩]
    exact congrArg Except.ok (ht a)

theorem int32_eq_ok_iff (s : Text) (id : Int32) : int32 s = .ok id ↔ Denotes s id.toInt := by
  apply map_read_eq_ok_iff (by decide) (by decide) _ Int32.ofInt_toInt
  · intro n hl hu
    exact Int32.toInt_ofInt_of_le (by omega) (by omega)
  · intro n
    have hl := n.le_toInt
    have hu := n.toInt_lt
    omega

theorem int64_eq_ok_iff (s : Text) (n : Int64) : int64 s = .ok n ↔ Denotes s n.toInt := by
  apply map_read_eq_ok_iff (by decide) (by decide) _ Int64.ofInt_toInt
  · intro n hl hu
    exact Int64.toInt_ofInt_of_le (by omega) (by omega)
  · intro n
    have hl := n.le_toInt
    have hu := n.toInt_lt
    omega

theorem of_int_nat_cast (n : Nat) : ofInt n = ofNat n := by
  rw [ofInt, if_neg (by omega), Int.natAbs_natCast]

theorem denotes_of_int (n : Int) : Denotes (ofInt n) n := by
  have hr := read_of_int (-(n.natAbs+1)) n.natAbs n (by omega) (by omega) (by omega)
  exact ((read_eq_ok_iff (by omega) (by omega) _ n).mp hr).1

namespace Denotes
variable {s : Text} {n : Int}

theorem ne_nil (h : Denotes s n) : s ≠ [] := by
  obtain ⟨digits, hd, ⟨rfl | rfl, -⟩ | ⟨rfl, -⟩⟩ := h
  · exact hd.1
  · exact List.cons_ne_nil _ _
  · exact List.cons_ne_nil _ _

theorem mem (h : Denotes s n) {c : Char} (hc : c ∈ s) : c.isDigit ∨ c = '+' ∨ c = '-' := by
  obtain ⟨digits, hd, ⟨rfl | rfl, -⟩ | ⟨rfl, -⟩⟩ := h
  · exact Or.inl (hd.2 c hc)
  · rcases List.mem_cons.mp hc with rfl | hc
    · exact Or.inr (Or.inl rfl)
    · exact Or.inl (hd.2 c hc)
  · rcases List.mem_cons.mp hc with rfl | hc
    · exact Or.inr (Or.inr rfl)
    · exact Or.inl (hd.2 c hc)

theorem not_mem (h : Denotes s n) {c : Char}
    (hd : ¬ c.isDigit) (hp : c ≠ '+') (hm : c ≠ '-') : c ∉ s := by
  intro hc
  rcases h.mem hc with h | h | h
  · exact hd h
  · exact hp h
  · exact hm h

theorem not_is_blank (h : Denotes s n) : ∀ c ∈ s, ¬ Text.isBlank c := by
  intro c hc
  rcases h.mem hc with hd | rfl | rfl
  · exact Text.not_is_blank_of_is_digit hd
  · decide
  · decide

theorem not_mem_of_is_blank (h : Denotes s n) {c : Char} (hc : Text.isBlank c) : c ∉ s :=
  fun hm => h.not_is_blank c hm hc

theorem is_trimmed (h : Denotes s n) : Text.IsTrimmed s :=
  Text.is_trimmed_of_not_blank h.ne_nil h.not_is_blank

theorem unique (h : Denotes s n) {m : Int} (hm : Denotes s m) : n = m := by
  -- A range with room for both is read as either of them.
  have hr : ∀ k, Denotes s k → (k = n ∨ k = m) →
      read (-(n.natAbs+m.natAbs+1)) (n.natAbs+m.natAbs) s = .ok k := by
    intro k hk he
    exact (read_eq_ok_iff (by omega) (by omega) s k).mpr ⟨hk, by omega, by omega⟩
  exact Except.ok.inj ((hr n h (Or.inl rfl)).symm.trans (hr m hm (Or.inr rfl)))

theorem nonpos_of_minus (h : Denotes s n) (hm : s.head? = some '-') : n ≤ 0 := by
  obtain ⟨rest, rfl⟩ := List.head?_eq_some_iff.mp hm
  have hn := ((denotes_minus rest n).mp h).2
  omega

end Denotes

def DenotesUnsigned (s : Text) (n : Nat) : Prop := Denotes s n ∧ s.head? ≠ some '-'

theorem read_unsigned_eq_ok_iff (hu : 0 ≤ upper) (s : Text) (n : Int) :
    read 0 upper s = .ok n ↔ (Denotes s n ∧ s.head? ≠ some '-') ∧ 0 ≤ n ∧ n ≤ upper := by
  have hz := Int.le_refl 0
  cases s with
  | nil =>
    constructor
    · intro h
      cases h
    · intro h
      exact absurd rfl h.1.1.ne_nil
  | cons c rest =>
    by_cases hp : c = '+'
    · subst c
      rw [denotes_plus, read]
      by_cases hr : rest = []
      · simp [hr, IsDigits]
      · rw [if_neg (by simp [hr]), read_digits_zero_eq_ok_iff hz hu false hr]
        simp [signed]
    · by_cases hm : c = '-'
      · subst c
        simp [read]
      · rw [denotes_unsigned hp hm, read_unsigned 0 upper c rest hp hm,
          read_digits_zero_eq_ok_iff hz hu false (List.cons_ne_nil _ _)]
        simp [signed, hm]

theorem map_read_unsigned_eq_ok_iff (hu : 0 ≤ upper) {α : Type} {ofNat : Nat → α}
    {toNat : α → Nat} (hr : ∀ a, toNat a ≤ upper) (ht : ∀ a, ofNat (toNat a) = a)
    (hn : ∀ n : Nat, n ≤ upper → toNat (ofNat n) = n) (s : Text) (a : α) :
    (read 0 upper s).map (fun n => ofNat n.toNat) = .ok a ↔ DenotesUnsigned s (toNat a) := by
  constructor
  · intro h
    cases hs : read 0 upper s with
    | error fault => simp [hs, Except.map] at h
    | ok n =>
      obtain ⟨hd, hz, hle⟩ := (read_unsigned_eq_ok_iff hu s n).mp hs
      obtain ⟨m, rfl⟩ := Int.eq_ofNat_of_zero_le hz
      rw [hs] at h
      have ha : ofNat m = a := Except.ok.inj h
      rw [← ha, hn m hle]
      exact hd
  · intro h
    rw [(read_unsigned_eq_ok_iff hu s (toNat a)).mpr ⟨h, Int.natCast_nonneg _, hr a⟩]
    exact congrArg Except.ok (ht a)

theorem uint32_eq_ok_iff (s : Text) (n : UInt32) :
    uint32 s = .ok n ↔ DenotesUnsigned s n.toNat := by
  apply map_read_unsigned_eq_ok_iff (by decide) _ fun n => UInt32.ofNat_toNat
  · intro n hu
    rw [UInt32.toNat_ofNat']
    omega
  · intro n
    have hn := n.toNat_lt
    omega

theorem uint64_eq_ok_iff (s : Text) (n : UInt64) :
    uint64 s = .ok n ↔ DenotesUnsigned s n.toNat := by
  apply map_read_unsigned_eq_ok_iff (by decide) _ fun n => UInt64.ofNat_toNat
  · intro n hu
    rw [UInt64.toNat_ofNat']
    omega
  · intro n
    have hn := n.toNat_lt
    omega

theorem denotes_unsigned_of_nat (n : Nat) : DenotesUnsigned (ofNat n) n := by
  obtain ⟨d, rest, hd, he⟩ := of_nat_eq_cons n
  constructor
  · exact of_int_nat_cast n ▸ denotes_of_int n
  · rw [he]
    exact fun h => (digit_char_ne_sign d hd).2 (Option.some.inj h)

theorem exists_int64_eq_error {s : Text} {n : Int} (h : Denotes s n)
    (ho : ∀ m : Int64, m.toInt ≠ n) : ∃ fault, int64 s = .error fault := by
  cases hs : int64 s with
  | error fault => exact ⟨fault, rfl⟩
  | ok m => exact absurd (h.unique ((int64_eq_ok_iff s m).mp hs)).symm (ho m)

end CgroupLimits.Numeral
