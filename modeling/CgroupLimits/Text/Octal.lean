import CgroupLimits.Text.Utf8

/-!
# Octal escapes

Paths in a mount table are bytes in which a space, a tab, a line feed and a
backslash stand as a backslash and three octal digits. Any byte may be written
so. Decoding is one pass over the bytes; what it produces is not looked at
again, and a backslash that starts no escape stands for itself.
-/

set_option autoImplicit false

namespace CgroupLimits.Octal
open CgroupLimits

def backslash : UInt8 := 0x5C

def digitValue? (b : UInt8) : Option Nat :=
  if 0x30 ≤ b ∧ b ≤ 0x37 then some (b.toNat-0x30) else none

/-- The byte that three octal digits name, if it is one: `400` and above are not. -/
def byte? (a b c : UInt8) : Option UInt8 :=
  match digitValue? a, digitValue? b, digitValue? c with
  | some x, some y, some z =>
    if x*64+y*8+z < 256 then some (UInt8.ofNat (x*64+y*8+z)) else none
  | _, _, _ => none

def escape? (lead a b c : UInt8) : Option UInt8 :=
  if lead = backslash then byte? a b c else none

def decodeBytes : Bytes → Bytes
  | lead :: a :: b :: c :: rest =>
    match escape? lead a b c with
    | some byte => byte :: decodeBytes rest
    | none => lead :: decodeBytes (a :: b :: c :: rest)
  | b :: rest => b :: decodeBytes rest
  | [] => []

/-- Escapes may spell bytes that are no UTF-8, so the result is read lossily. -/
def decode (s : Text) : Text := Utf8.decodeLossy (decodeBytes (Utf8.encode s))

def needsEscape (c : Char) : Bool := c == ' ' || c == '\t' || c == '\n' || c == '\\'

def digit (n : Nat) : Char := Char.ofNat (0x30+n)

def encodeChar (c : Char) : Text :=
  if needsEscape c then
    ['\\', digit (c.toNat/64), digit (c.toNat/8%8), digit (c.toNat%8)]
  else [c]

/-- The four characters that would break a line or a field are escaped; all
others stand for themselves. -/
def encode (s : Text) : Text := s.flatMap encodeChar

theorem decode_bytes_cons (b : UInt8) (rest : Bytes) (hb : b ≠ backslash) :
    decodeBytes (b :: rest) = b :: decodeBytes rest := by
  match rest with
  | [] => rfl
  | [_] => rfl
  | [_, _] => rfl
  | x :: y :: z :: rest => simp [decodeBytes, escape?, hb]

theorem decode_bytes_escape (x y z byte : UInt8) (rest : Bytes) (h : byte? x y z = some byte) :
    decodeBytes (backslash :: x :: y :: z :: rest) = byte :: decodeBytes rest := by
  simp [decodeBytes, escape?, h]

theorem decode_bytes_append (bytes rest : Bytes) (h : ∀ b ∈ bytes, b ≠ backslash) :
    decodeBytes (bytes ++ rest) = bytes ++ decodeBytes rest := by
  induction bytes with
  | nil => rfl
  | cons b bytes ih =>
    rw [List.cons_append, decode_bytes_cons b _ (h b (by simp)),
      ih (fun x hx => h x (by simp [hx])), List.cons_append]

theorem utf8_ne_backslash (c : Char) (hc : c ≠ '\\') :
    ∀ b ∈ Utf8.encodeChar c, b ≠ backslash := by
  rintro b hb rfl
  exact hc (Utf8.eq_of_mem_encode_char hb rfl (by decide))

theorem decode_bytes_encode_char (c : Char) (rest : Bytes) :
    decodeBytes (Utf8.encode (encodeChar c) ++ rest) =
      Utf8.encodeChar c ++ decodeBytes rest := by
  by_cases h : needsEscape c
  · have hc : c = ' ' ∨ c = '\t' ∨ c = '\n' ∨ c = '\\' := by
      simpa [needsEscape, or_assoc] using h
    rcases hc with rfl | rfl | rfl | rfl <;> exact decode_bytes_escape _ _ _ _ rest (by decide)
  · have hc : c ≠ '\\' := by
      rintro rfl
      exact h (by decide)
    rw [encodeChar, if_neg h, Utf8.encode, List.flatMap_singleton]
    exact decode_bytes_append _ rest (utf8_ne_backslash c hc)

theorem decode_bytes_encode (s : Text) : decodeBytes (Utf8.encode (encode s)) = Utf8.encode s := by
  induction s with
  | nil => rfl
  | cons c s ih =>
    rw [encode, List.flatMap_cons, Utf8.encode_append, decode_bytes_encode_char]
    rw [encode] at ih
    rw [ih, Utf8.encode, Utf8.encode, List.flatMap_cons]

theorem decode_encode (s : Text) : decode (encode s) = s := by
  rw [decode, decode_bytes_encode, Utf8.decode_lossy_encode]

theorem eq_or_of_mem_encode_char (c : Char) :
    ∀ x ∈ encodeChar c, x = '\\' ∨ needsEscape x = false := by
  by_cases h : needsEscape c
  · have hc : c = ' ' ∨ c = '\t' ∨ c = '\n' ∨ c = '\\' := by
      simpa [needsEscape, or_assoc] using h
    rcases hc with rfl | rfl | rfl | rfl <;> simp [encodeChar, needsEscape, digit]
  · intro x hx
    rw [encodeChar, if_neg h, List.mem_singleton] at hx
    exact Or.inr (hx ▸ eq_false_of_ne_true h)

theorem not_mem_encode {c : Char} (hn : needsEscape c) (hc : c ≠ '\\') (s : Text) :
    c ∉ encode s := by
  intro hm
  obtain ⟨d, -, hd⟩ := List.mem_flatMap.mp hm
  rcases eq_or_of_mem_encode_char d c hd with he | he
  · exact hc he
  · rw [hn] at he
    cases he

theorem encode_injective {s t : Text} (h : encode s = encode t) : s = t := by
  rw [← decode_encode s, h, decode_encode]

end CgroupLimits.Octal
