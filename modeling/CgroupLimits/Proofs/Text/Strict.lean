import CgroupLimits.Text.Utf8

/-!
# Strict decoding

Bytes without a fault are the encoding of exactly one text. Each leading byte
says how many bytes follow it, and the window of the second one leaves out
every number that has a shorter form or is no character. So the first
character can be put back into the bytes that it was read from, and with it,
character by character, the whole text.
-/

set_option autoImplicit false

namespace CgroupLimits.Utf8
open CgroupLimits

theorem faultless_cons_eq_some_iff {item : Item} {rest : List Item} {s : Text} :
    faultless (item :: rest) = some s ↔
      ∃ c tail, item = some c ∧ faultless rest = some tail ∧ s = c :: tail := by
  cases item with
  | none => simp [faultless]
  | some c =>
    rw [faultless, Option.map_eq_some_iff]
    constructor
    · rintro ⟨tail, ht, rfl⟩
      exact ⟨c, tail, rfl, ht, rfl⟩
    · rintro ⟨_, tail, ⟨⟩, ht, rfl⟩
      exact ⟨tail, ht, rfl⟩

theorem exists_continuation {more value : Nat} {window : Window} {bytes : Bytes} {s : Text}
    (h : faultless (items (.awaiting more window value) bytes) = some s) :
    ∃ (n : Nat) (rest : Bytes), n < 64 ∧ bytes = UInt8.ofNat (0x80+n) :: rest ∧
      window.low ≤ 0x80+n ∧ 0x80+n ≤ window.high ∧
      faultless ((extend more value (0x80+n)).2 ++ items (extend more value (0x80+n)).1 rest) =
        some s := by
  cases bytes with
  | nil => simp [items, finish, faultless] at h
  | cons b rest =>
    rw [items, step] at h
    split at h
    · rename_i hw
      have hl := window.le_low
      have hh := window.high_le
      have hb : 0x80+(b.toNat-0x80) = b.toNat := by omega
      refine ⟨b.toNat-0x80, rest, by omega, ?_, ?_⟩
      · rw [hb, UInt8.ofNat_toNat]
      · rw [hb]
        exact ⟨hw.1, hw.2, h⟩
    · simp [faultless] at h

theorem exists_last {value : Nat} {window : Window} {bytes : Bytes} {s : Text}
    (h : faultless (items (.awaiting 0 window value) bytes) = some s) :
    ∃ (n : Nat) (rest : Bytes) (tail : Text), n < 64 ∧ bytes = UInt8.ofNat (0x80+n) :: rest ∧
      window.low ≤ 0x80+n ∧ 0x80+n ≤ window.high ∧
      faultless (items .start rest) = some tail ∧ s = Char.ofNat (value*64+n) :: tail := by
  obtain ⟨n, rest, hn, rfl, hl, hh, hf⟩ := exists_continuation h
  rw [extend, List.cons_append, List.nil_append, faultless_cons_eq_some_iff] at hf
  obtain ⟨c, tail, hc, ht, rfl⟩ := hf
  rw [Nat.add_sub_cancel_left] at hc
  cases hc
  exact ⟨n, rest, tail, hn, rfl, hl, hh, ht, rfl⟩

theorem exists_next {more value : Nat} {window : Window} {bytes : Bytes} {s : Text}
    (h : faultless (items (.awaiting (more+1) window value) bytes) = some s) :
    ∃ (n : Nat) (rest : Bytes), n < 64 ∧ bytes = UInt8.ofNat (0x80+n) :: rest ∧
      window.low ≤ 0x80+n ∧ 0x80+n ≤ window.high ∧
      faultless (items (.awaiting more .full (value*64+n)) rest) = some s := by
  obtain ⟨n, rest, hn, rfl, hl, hh, hf⟩ := exists_continuation h
  rw [extend, Nat.add_sub_cancel_left] at hf
  exact ⟨n, rest, hn, rfl, hl, hh, hf⟩

section Encoded
variable {n : Nat}

theorem to_nat_of_nat (h : n.isValidChar) : (Char.ofNat n).toNat = n := by
  rw [Char.ofNat, dif_pos h]
  rfl

theorem encode_char_one (h : n < 0x80) : encodeChar (Char.ofNat n) = [UInt8.ofNat n] := by
  rw [encodeChar, to_nat_of_nat (Or.inl (by omega))]
  exact if_pos h

theorem encode_char_two (hl : 0x80 ≤ n) (hu : n < 0x800) :
    encodeChar (Char.ofNat n) = [UInt8.ofNat (0xC0+n/64), UInt8.ofNat (0x80+n%64)] := by
  rw [encodeChar, to_nat_of_nat (Or.inl (by omega))]
  rw [if_neg (by omega), if_pos hu]

theorem encode_char_three (hl : 0x800 ≤ n) (hu : n < 0x10000) (hv : n < 0xD800 ∨ 0xDFFF < n) :
    encodeChar (Char.ofNat n) =
      [UInt8.ofNat (0xE0+n/4096), UInt8.ofNat (0x80+n/64%64), UInt8.ofNat (0x80+n%64)] := by
  have hc : n.isValidChar := hv.imp id fun h => ⟨h, by omega⟩
  rw [encodeChar, to_nat_of_nat hc]
  rw [if_neg (by omega), if_neg (by omega), if_pos hu]

theorem encode_char_four (hl : 0x10000 ≤ n) (hu : n < 0x110000) :
    encodeChar (Char.ofNat n) =
      [UInt8.ofNat (0xF0+n/262144), UInt8.ofNat (0x80+n/4096%64), UInt8.ofNat (0x80+n/64%64),
        UInt8.ofNat (0x80+n%64)] := by
  rw [encodeChar, to_nat_of_nat (Or.inr ⟨by omega, hu⟩)]
  rw [if_neg (by omega), if_neg (by omega), if_neg (by omega)]

end Encoded

/-- What the window of a leading byte leaves out: overlong forms and surrogates. -/
theorem second_of_three {b n : Nat}
    (hl : (if b = 0xE0 then Window.fromA0 else if b = 0xED then .upTo9F else .full).low ≤ 0x80+n)
    (hh : 0x80+n ≤ (if b = 0xE0 then Window.fromA0 else if b = 0xED then .upTo9F else .full).high) :
    (b = 0xE0 → 0x20 ≤ n) ∧ (b = 0xED → n < 0x20) := by
  constructor
  · intro h
    rw [if_pos h, Window.low] at hl
    omega
  · intro h
    rw [if_neg (by omega), if_pos h, Window.high] at hh
    omega

theorem second_of_four {b n : Nat}
    (hl : (if b = 0xF0 then Window.from90 else if b = 0xF4 then .upTo8F else .full).low ≤ 0x80+n)
    (hh : 0x80+n ≤ (if b = 0xF0 then Window.from90 else if b = 0xF4 then .upTo8F else .full).high) :
    (b = 0xF0 → 0x10 ≤ n) ∧ (b = 0xF4 → n < 0x10) := by
  constructor
  · intro h
    rw [if_pos h, Window.low] at hl
    omega
  · intro h
    rw [if_neg (by omega), if_pos h, Window.high] at hh
    omega

theorem exists_encode_char {b : UInt8} {bytes : Bytes} {s : Text}
    (h : faultless (items .start (b :: bytes)) = some s) :
    ∃ c tail rest, s = c :: tail ∧ b :: bytes = encodeChar c ++ rest ∧
      faultless (items .start rest) = some tail := by
  have hb : UInt8.ofNat b.toNat = b := UInt8.ofNat_toNat
  rw [items, step, lead] at h
  -- One case for each number of bytes; a byte that leads nothing is a fault.
  split at h
  · rename_i h1
    rw [List.cons_append, List.nil_append, faultless_cons_eq_some_iff] at h
    obtain ⟨c, tail, hc, ht, rfl⟩ := h
    cases hc
    refine ⟨_, tail, bytes, rfl, ?_, ht⟩
    rw [encode_char_one h1, hb]
    rfl
  split at h
  · simp [faultless] at h
  split at h
  · obtain ⟨n, rest, tail, hn, rfl, -, -, ht, rfl⟩ := exists_last h
    refine ⟨_, tail, rest, rfl, ?_, ht⟩
    rw [encode_char_two (by omega) (by omega),
      show 0xC0+((b.toNat-0xC0)*64+n)/64 = b.toNat by omega,
      show ((b.toNat-0xC0)*64+n)%64 = n by omega, hb]
    rfl
  split at h
  · obtain ⟨n, rest, hn, rfl, hl, hh, h⟩ := exists_next h
    obtain ⟨n', rest, tail, hn', rfl, -, -, ht, rfl⟩ := exists_last h
    have hw := second_of_three hl hh
    refine ⟨_, tail, rest, rfl, ?_, ht⟩
    rw [encode_char_three (by omega) (by omega) (by omega),
      show 0xE0+(((b.toNat-0xE0)*64+n)*64+n')/4096 = b.toNat by omega,
      show (((b.toNat-0xE0)*64+n)*64+n')/64%64 = n by omega,
      show (((b.toNat-0xE0)*64+n)*64+n')%64 = n' by omega, hb]
    rfl
  split at h
  · obtain ⟨n, rest, hn, rfl, hl, hh, h⟩ := exists_next h
    obtain ⟨n', rest, hn', rfl, -, -, h⟩ := exists_next h
    obtain ⟨n'', rest, tail, hn'', rfl, -, -, ht, rfl⟩ := exists_last h
    have hw := second_of_four hl hh
    refine ⟨_, tail, rest, rfl, ?_, ht⟩
    rw [encode_char_four (by omega) (by omega),
      show 0xF0+((((b.toNat-0xF0)*64+n)*64+n')*64+n'')/262144 = b.toNat by omega,
      show ((((b.toNat-0xF0)*64+n)*64+n')*64+n'')/4096%64 = n by omega,
      show ((((b.toNat-0xF0)*64+n)*64+n')*64+n'')/64%64 = n' by omega,
      show ((((b.toNat-0xF0)*64+n)*64+n')*64+n'')%64 = n'' by omega, hb]
    rfl
  · simp [faultless] at h

/-- Bytes without a fault are those of the text that they are read as. -/
theorem eq_encode_of_faultless {bytes : Bytes} {s : Text}
    (h : faultless (items .start bytes) = some s) : bytes = encode s := by
  induction s generalizing bytes with
  | nil =>
    cases bytes with
    | nil => rfl
    | cons b bytes =>
      obtain ⟨c, tail, rest, hs, -⟩ := exists_encode_char h
      cases hs
  | cons c s ih =>
    cases bytes with
    | nil => cases h
    | cons b bytes =>
      obtain ⟨d, tail, rest, hs, hb, ht⟩ := exists_encode_char h
      cases hs
      rw [hb, ih ht]
      rfl

theorem decode?_eq_some_iff (bytes : Bytes) (s : Text) :
    decode? bytes = some s ↔ bytes = encode s := by
  constructor
  · exact eq_encode_of_faultless
  · rintro rfl
    exact decode?_encode s

theorem decode?_eq_none_iff (bytes : Bytes) :
    decode? bytes = none ↔ ∀ s, bytes ≠ encode s := by
  rw [Option.eq_none_iff_forall_ne_some]
  simp only [ne_eq, decode?_eq_some_iff]

end CgroupLimits.Utf8
