import CgroupLimits.Text.Basic

/-!
# UTF-8

A decoder that reads one byte at a time and writes, for each byte, the
characters that it completes. Where the bytes cannot continue a character,
the part read so far counts as one fault; the byte that broke it starts
afresh. So a fault never swallows a byte that could begin a character, and an
ASCII byte is always read as itself. The lossy reading puts U+FFFD for each
fault, the strict one gives up.
-/

set_option autoImplicit false

namespace CgroupLimits.Utf8
open CgroupLimits

/-- The bytes allowed to continue a character. Four leading bytes narrow the
range of the next one, against overlong forms, surrogates and numbers past the
last character. -/
inductive Window where
  | full
  | fromA0
  | upTo9F
  | from90
  | upTo8F
  deriving DecidableEq, Repr

namespace Window

def low : Window → Nat
  | .full => 0x80
  | .fromA0 => 0xA0
  | .upTo9F => 0x80
  | .from90 => 0x90
  | .upTo8F => 0x80

def high : Window → Nat
  | .full => 0xBF
  | .fromA0 => 0xBF
  | .upTo9F => 0x9F
  | .from90 => 0xBF
  | .upTo8F => 0x8F

theorem le_low (window : Window) : 0x80 ≤ window.low := by
  cases window <;> decide

theorem high_le (window : Window) : window.high ≤ 0xBF := by
  cases window <;> decide

end Window

/-- What the bytes read since the last character allow: a part worth `value` is
read, the next byte must lie in the window, and `more` bytes follow that one. -/
inductive State where
  | start
  | awaiting (more : Nat) (window : Window) (value : Nat)
  deriving DecidableEq, Repr

/-- A completed character, or `none` for a fault. -/
abbrev Item := Option Char

def lead (b : Nat) : State × List Item :=
  if b < 0x80 then (.start, [some (Char.ofNat b)])
  else if b < 0xC2 then (.start, [none])
  else if b < 0xE0 then (.awaiting 0 .full (b-0xC0), [])
  else if b < 0xF0 then
    let window : Window := if b = 0xE0 then .fromA0 else if b = 0xED then .upTo9F else .full
    (.awaiting 1 window (b-0xE0), [])
  else if b < 0xF5 then
    let window : Window := if b = 0xF0 then .from90 else if b = 0xF4 then .upTo8F else .full
    (.awaiting 2 window (b-0xF0), [])
  else (.start, [none])

def extend (more value b : Nat) : State × List Item :=
  match more with
  | 0 => (.start, [some (Char.ofNat (value*64+(b-0x80)))])
  | more+1 => (.awaiting more .full (value*64+(b-0x80)), [])

def step : State → UInt8 → State × List Item
  | .start, b => lead b.toNat
  | .awaiting more window value, b =>
    if window.low ≤ b.toNat ∧ b.toNat ≤ window.high then extend more value b.toNat
    else ((lead b.toNat).1, none :: (lead b.toNat).2)

/-- An unfinished character at the end is one more fault. -/
def finish : State → List Item
  | .start => []
  | .awaiting .. => [none]

def items : State → Bytes → List Item
  | state, [] => finish state
  | state, b :: bytes => (step state b).2 ++ items (step state b).1 bytes

def replacement : Char := Char.ofNat 0xFFFD

def decodeLossy (bytes : Bytes) : Text :=
  (items .start bytes).map fun item => item.getD replacement

def faultless : List Item → Option Text
  | [] => some []
  | none :: _ => none
  | some c :: rest => (faultless rest).map (c :: ·)

def decode? (bytes : Bytes) : Option Text := faultless (items .start bytes)

def encodeChar (c : Char) : Bytes :=
  let n := c.toNat
  if n < 0x80 then [UInt8.ofNat n]
  else if n < 0x800 then [UInt8.ofNat (0xC0+n/64), UInt8.ofNat (0x80+n%64)]
  else if n < 0x10000 then
    [UInt8.ofNat (0xE0+n/4096), UInt8.ofNat (0x80+n/64%64), UInt8.ofNat (0x80+n%64)]
  else
    [UInt8.ofNat (0xF0+n/262144), UInt8.ofNat (0x80+n/4096%64), UInt8.ofNat (0x80+n/64%64),
      UInt8.ofNat (0x80+n%64)]

def encode (s : Text) : Bytes := s.flatMap encodeChar

theorem encode_append (s t : Text) : encode (s++t) = encode s ++ encode t :=
  List.flatMap_append

/-- Whatever came before, an ASCII byte is read as itself and leaves nothing
unfinished. -/
theorem step_ascii (state : State) (b : UInt8) (hb : b.toNat < 0x80) :
    step state b = (.start, finish state ++ [some (Char.ofNat b.toNat)]) := by
  cases state with
  | start => simp [step, lead, finish, hb]
  | awaiting more window value =>
    have hl := window.le_low
    rw [step, if_neg (by omega)]
    simp [lead, finish, hb]

theorem items_ascii (state : State) (before after : Bytes) (b : UInt8) (hb : b.toNat < 0x80) :
    items state (before ++ b :: after) =
      items state before ++ some (Char.ofNat b.toNat) :: items .start after := by
  induction before generalizing state with
  | nil => simp [items, step_ascii state b hb]
  | cons x before ih => simp [items, ih]

theorem decode_lossy_ascii (before after : Bytes) (b : UInt8) (hb : b.toNat < 0x80) :
    decodeLossy (before ++ b :: after) =
      decodeLossy before ++ Char.ofNat b.toNat :: decodeLossy after := by
  simp [decodeLossy, items_ascii .start before after b hb]

theorem step_continuation (more value n : Nat) (window : Window)
    (hl : window.low ≤ 0x80+n) (hh : 0x80+n ≤ window.high) :
    step (.awaiting more window value) (UInt8.ofNat (0x80+n)) = extend more value (0x80+n) := by
  have hw := window.high_le
  have h : (UInt8.ofNat (0x80+n)).toNat = 0x80+n := by
    rw [UInt8.toNat_ofNat']
    omega
  rw [step, h, if_pos ⟨hl, hh⟩]

theorem step_lead (b : Nat) (hb : b < 256) : step .start (UInt8.ofNat b) = lead b := by
  rw [step, UInt8.toNat_ofNat', Nat.mod_eq_of_lt hb]

theorem items_two (n : Nat) (rest : Bytes) (h : 0x80 ≤ n) (hn : n < 0x800) :
    items .start (UInt8.ofNat (0xC0+n/64) :: UInt8.ofNat (0x80+n%64) :: rest) =
      some (Char.ofNat n) :: items .start rest := by
  have hs : lead (0xC0+n/64) = (.awaiting 0 .full (n/64), []) := by
    rw [lead, if_neg (by omega), if_neg (by omega), if_pos (by omega), Nat.add_sub_cancel_left]
  rw [items, items, step_lead _ (by omega), hs]
  rw [step_continuation _ _ _ _ (by simp only [Window.low]; omega)
    (by simp only [Window.high]; omega), extend, Nat.add_sub_cancel_left, Nat.div_add_mod']
  rfl

theorem items_three (n : Nat) (rest : Bytes) (h : 0x800 ≤ n) (hn : n < 0x10000)
    (hv : n < 0xD800 ∨ 0xDFFF < n) :
    items .start (UInt8.ofNat (0xE0+n/4096) :: UInt8.ofNat (0x80+n/64%64) ::
        UInt8.ofNat (0x80+n%64) :: rest) =
      some (Char.ofNat n) :: items .start rest := by
  obtain ⟨window, hs, hl, hh⟩ : ∃ window : Window,
      lead (0xE0+n/4096) = (.awaiting 1 window (n/4096), []) ∧
        window.low ≤ 0x80+n/64%64 ∧ 0x80+n/64%64 ≤ window.high := by
    rw [lead, if_neg (by omega), if_neg (by omega), if_neg (by omega), if_pos (by omega),
      Nat.add_sub_cancel_left]
    by_cases h0 : 0xE0+n/4096 = 0xE0
    · exact ⟨.fromA0, by simp [h0], by simp only [Window.low]; omega,
        by simp only [Window.high]; omega⟩
    by_cases h1 : 0xE0+n/4096 = 0xED
    · exact ⟨.upTo9F, by simp [h1], by simp only [Window.low]; omega,
        by simp only [Window.high]; omega⟩
    exact ⟨.full, by simp only [h0, h1, if_false], by simp only [Window.low]; omega,
      by simp only [Window.high]; omega⟩
  rw [items, items, items, step_lead _ (by omega), hs]
  rw [step_continuation _ _ _ _ hl hh, extend, Nat.add_sub_cancel_left]
  rw [step_continuation _ _ _ _ (by simp only [Window.low]; omega)
    (by simp only [Window.high]; omega), extend, Nat.add_sub_cancel_left,
    show (n/4096*64+n/64%64)*64+n%64 = n by omega]
  rfl

theorem items_four (n : Nat) (rest : Bytes) (h : 0x10000 ≤ n) (hn : n < 0x110000) :
    items .start (UInt8.ofNat (0xF0+n/262144) :: UInt8.ofNat (0x80+n/4096%64) ::
        UInt8.ofNat (0x80+n/64%64) :: UInt8.ofNat (0x80+n%64) :: rest) =
      some (Char.ofNat n) :: items .start rest := by
  obtain ⟨window, hs, hl, hh⟩ : ∃ window : Window,
      lead (0xF0+n/262144) = (.awaiting 2 window (n/262144), []) ∧
        window.low ≤ 0x80+n/4096%64 ∧ 0x80+n/4096%64 ≤ window.high := by
    rw [lead, if_neg (by omega), if_neg (by omega), if_neg (by omega), if_neg (by omega),
      if_pos (by omega), Nat.add_sub_cancel_left]
    by_cases h0 : 0xF0+n/262144 = 0xF0
    · exact ⟨.from90, by simp [h0], by simp only [Window.low]; omega,
        by simp only [Window.high]; omega⟩
    by_cases h1 : 0xF0+n/262144 = 0xF4
    · exact ⟨.upTo8F, by simp [h1], by simp only [Window.low]; omega,
        by simp only [Window.high]; omega⟩
    exact ⟨.full, by simp only [h0, h1, if_false], by simp only [Window.low]; omega,
      by simp only [Window.high]; omega⟩
  rw [items, items, items, items, step_lead _ (by omega), hs]
  rw [step_continuation _ _ _ _ hl hh, extend, Nat.add_sub_cancel_left]
  rw [step_continuation _ _ _ _ (by simp only [Window.low]; omega)
    (by simp only [Window.high]; omega), extend, Nat.add_sub_cancel_left]
  rw [step_continuation _ _ _ _ (by simp only [Window.low]; omega)
    (by simp only [Window.high]; omega), extend, Nat.add_sub_cancel_left,
    show ((n/262144*64+n/4096%64)*64+n/64%64)*64+n%64 = n by omega]
  rfl

theorem eq_or_le_of_mem_encode_char {c : Char} {b : UInt8} (h : b ∈ encodeChar c) :
    b.toNat = c.toNat ∨ 0x80 ≤ b.toNat := by
  have hv : c.toNat < 0x110000 := by
    rcases c.valid with h | h
    · exact Nat.lt_trans h (by decide)
    · exact h.2
  have high : ∀ n, 0x80 ≤ n → n < 256 → 0x80 ≤ (UInt8.ofNat n).toNat := by
    intro n hl hu
    rwa [UInt8.toNat_ofNat', Nat.mod_eq_of_lt hu]
  unfold encodeChar at h
  generalize c.toNat = n at hv h
  dsimp only at h
  split at h
  · rw [List.mem_singleton] at h
    rw [h, UInt8.toNat_ofNat', Nat.mod_eq_of_lt (by omega)]
    exact Or.inl rfl
  split at h
  · simp only [List.mem_cons, List.not_mem_nil, or_false] at h
    rcases h with rfl | rfl <;> exact Or.inr (high _ (by omega) (by omega))
  split at h
  · simp only [List.mem_cons, List.not_mem_nil, or_false] at h
    rcases h with rfl | rfl | rfl <;> exact Or.inr (high _ (by omega) (by omega))
  · simp only [List.mem_cons, List.not_mem_nil, or_false] at h
    rcases h with rfl | rfl | rfl | rfl <;> exact Or.inr (high _ (by omega) (by omega))

theorem eq_of_mem_encode_char {c d : Char} {b : UInt8} (h : b ∈ encodeChar c)
    (hd : b.toNat = d.toNat) (ha : d.toNat < 0x80) : c = d := by
  rcases eq_or_le_of_mem_encode_char h with hc | hc
  · exact Char.toNat_inj.mp (hc.symm.trans hd)
  · omega

theorem not_mem_encode {s : Text} {d : Char} {b : UInt8} (hs : d ∉ s) (hd : b.toNat = d.toNat)
    (ha : d.toNat < 0x80) : b ∉ encode s := by
  intro hb
  obtain ⟨c, hc, hm⟩ := List.mem_flatMap.mp hb
  exact hs (eq_of_mem_encode_char hm hd ha ▸ hc)

theorem items_encode_char (c : Char) (rest : Bytes) :
    items .start (encodeChar c ++ rest) = some c :: items .start rest := by
  have hv : c.toNat < 0xD800 ∨ 0xDFFF < c.toNat ∧ c.toNat < 0x110000 := c.valid
  have hc : Char.ofNat c.toNat = c := Char.ofNat_toNat c
  unfold encodeChar
  generalize c.toNat = n at hv hc
  subst hc
  by_cases h1 : n < 0x80
  · simp only [h1, if_true, List.cons_append, List.nil_append]
    rw [items, step_lead _ (by omega), lead, if_pos h1]
    rfl
  by_cases h2 : n < 0x800
  · simpa [h1, h2] using items_two n rest (by omega) h2
  by_cases h3 : n < 0x10000
  · simpa [h1, h2, h3] using items_three n rest (by omega) h3 (by omega)
  · simpa [h1, h2, h3] using items_four n rest (by omega) (by omega)

theorem items_encode (s : Text) (rest : Bytes) :
    items .start (encode s ++ rest) = s.map some ++ items .start rest := by
  induction s with
  | nil => rfl
  | cons c s ih =>
    rw [encode, List.flatMap_cons, List.append_assoc, items_encode_char]
    rw [encode] at ih
    rw [ih]
    rfl

theorem faultless_map_some (s : Text) : faultless (s.map some) = some s := by
  induction s with
  | nil => rfl
  | cons c s ih => simp [faultless, ih]

theorem decode?_encode (s : Text) : decode? (encode s) = some s := by
  have h := items_encode s []
  simp only [List.append_nil, items, finish] at h
  rw [decode?, h, faultless_map_some]

theorem decode_lossy_encode (s : Text) : decodeLossy (encode s) = s := by
  have h := items_encode s []
  simp only [List.append_nil, items, finish] at h
  rw [decodeLossy, h, List.map_map]
  exact List.map_id' s

end CgroupLimits.Utf8
