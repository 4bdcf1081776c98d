import CgroupLimits.Text.Octal

/-!
# Every way to escape a text

A field is written token by token: a character as it is, or a byte as a
backslash and three octal digits. Decoding gives the bytes of the tokens, as
long as no backslash that stands for itself looks like the start of an escape.
Every field has tokens of this kind, so this says how each one is decoded.
-/

set_option autoImplicit false

namespace CgroupLimits.Utf8
open CgroupLimits

theorem prefix_of_encode {s t : Text} (h : encode s <+: encode t) : s <+: t := by
  obtain ⟨rest, h⟩ := h
  have hs := items_encode s rest
  have ht := items_encode t []
  rw [List.append_nil, items, finish, List.append_nil] at ht
  rw [h, ht] at hs
  have hp : s.map some <+: t.map some := ⟨_, hs.symm⟩
  exact (List.prefix_map_iff_of_injective fun _ _ => Option.some.inj).mp hp

end CgroupLimits.Utf8

namespace CgroupLimits.Octal
open CgroupLimits

def spelled (byte : UInt8) : Text :=
  [digit (byte.toNat/64), digit (byte.toNat/8%8), digit (byte.toNat%8)]

inductive Token where
  | literal (c : Char)
  | escape (byte : UInt8)
  deriving DecidableEq, Repr

def Token.text : Token → Text
  | .literal c => [c]
  | .escape byte => '\\' :: spelled byte

def Token.bytes : Token → Bytes
  | .literal c => Utf8.encodeChar c
  | .escape byte => [byte]

def written (tokens : List Token) : Text := tokens.flatMap Token.text

def meaning (tokens : List Token) : Bytes := tokens.flatMap Token.bytes

/-- No literal backslash stands before the three octal digits of a byte. -/
def Unambiguous (tokens : List Token) : Prop :=
  ∀ before after, tokens = before ++ .literal '\\' :: after →
    ∀ byte, ¬ spelled byte <+: written after

theorem unambiguous_cons_iff (token : Token) (tokens : List Token) :
    Unambiguous (token :: tokens) ↔
      (token = .literal '\\' → ∀ byte, ¬ spelled byte <+: written tokens) ∧ Unambiguous tokens := by
  constructor
  · intro h
    constructor
    · rintro rfl
      exact h [] tokens rfl
    · intro before after he
      exact h (token :: before) after (by rw [he, List.cons_append])
  · rintro ⟨hf, ht⟩ before after he
    cases before with
    | nil =>
      obtain ⟨rfl, rfl⟩ := List.cons.inj he
      exact hf rfl
    | cons first before =>
      obtain ⟨-, rfl⟩ := List.cons.inj he
      exact ht before after rfl

theorem forall_byte_iff (p : UInt8 → Prop) :
    (∀ n : Fin 256, p (UInt8.ofNat n)) ↔ ∀ byte, p byte := by
  constructor
  · intro h byte
    have hb := h ⟨byte.toNat, byte.toNat_lt⟩
    rwa [UInt8.ofNat_toNat] at hb
  · intro h n
    exact h _

instance (rest : Text) : Decidable (∀ byte, ¬ spelled byte <+: rest) :=
  decidable_of_iff _ (forall_byte_iff fun byte => ¬ spelled byte <+: rest)

theorem unambiguous_of_not_mem {tokens : List Token} (h : .literal '\\' ∉ tokens) :
    Unambiguous tokens := by
  rintro before after rfl
  exact absurd (by simp) h

instance decidableUnambiguous : DecidablePred Unambiguous
  | [] => isTrue (unambiguous_of_not_mem List.not_mem_nil)
  | token :: tokens =>
    have := decidableUnambiguous tokens
    decidable_of_iff _ (unambiguous_cons_iff token tokens).symm

theorem digit_value?_eq_some {b : UInt8} {n : Nat} (h : digitValue? b = some n) :
    n < 8 ∧ b = UInt8.ofNat (0x30+n) := by
  rw [digitValue?] at h
  split at h
  · rename_i hb
    have hl := UInt8.le_iff_toNat_le.mp hb.1
    have hu := UInt8.le_iff_toNat_le.mp hb.2
    have hn := Option.some.inj h
    simp only [UInt8.toNat_ofNat] at hl hu
    refine ⟨by omega, ?_⟩
    rw [← UInt8.toNat_inj, UInt8.toNat_ofNat', ← hn]
    omega
  · cases h

theorem digit_value?_digit {n : Nat} (h : n < 8) : digitValue? (UInt8.ofNat (0x30+n)) = some n := by
  have hd : ∀ n : Fin 8, digitValue? (UInt8.ofNat (0x30+n)) = some n.val := by decide
  exact hd ⟨n, h⟩

theorem encode_char_digit {n : Nat} (h : n < 8) :
    Utf8.encodeChar (digit n) = [UInt8.ofNat (0x30+n)] := by
  have hd : ∀ n : Fin 8, Utf8.encodeChar (digit n) = [UInt8.ofNat (0x30+n)] := by decide
  exact hd ⟨n, h⟩

theorem encode_spelled (byte : UInt8) :
    Utf8.encode (spelled byte) = [UInt8.ofNat (0x30+byte.toNat/64),
      UInt8.ofNat (0x30+byte.toNat/8%8), UInt8.ofNat (0x30+byte.toNat%8)] := by
  have hb := byte.toNat_lt
  simp only [spelled, Utf8.encode, List.flatMap_cons, List.flatMap_nil]
  rw [encode_char_digit (by omega), encode_char_digit (by omega), encode_char_digit (by omega)]
  rfl

theorem byte?_eq_some_iff (x y z byte : UInt8) :
    byte? x y z = some byte ↔ Utf8.encode (spelled byte) = [x, y, z] := by
  rw [encode_spelled]
  constructor
  · intro h
    rw [byte?] at h
    split at h
    · rename_i a b c hx hy hz
      obtain ⟨ha, rfl⟩ := digit_value?_eq_some hx
      obtain ⟨hb, rfl⟩ := digit_value?_eq_some hy
      obtain ⟨hc, rfl⟩ := digit_value?_eq_some hz
      split at h
      · obtain rfl := Option.some.inj h
        rw [UInt8.toNat_ofNat', Nat.mod_eq_of_lt (by omega)]
        congr <;> omega
      · cases h
    · cases h
  · intro h
    have hb := byte.toNat_lt
    simp only [List.cons.injEq, and_true] at h
    obtain ⟨rfl, rfl, rfl⟩ := h
    rw [byte?, digit_value?_digit (by omega), digit_value?_digit (by omega),
      digit_value?_digit (by omega)]
    dsimp only
    rw [if_pos (by omega)]
    congr
    rw [← UInt8.toNat_inj, UInt8.toNat_ofNat']
    omega

theorem decode_bytes_spelled (byte : UInt8) (rest : Bytes) :
    decodeBytes (Utf8.encode ('\\' :: spelled byte) ++ rest) = byte :: decodeBytes rest := by
  have hb : Utf8.encode ('\\' :: spelled byte) = backslash :: Utf8.encode (spelled byte) := rfl
  have hs := encode_spelled byte
  rw [hb, hs]
  exact decode_bytes_escape _ _ _ _ rest ((byte?_eq_some_iff _ _ _ byte).mpr hs)

theorem decode_bytes_backslash {rest : Text} (h : ∀ byte, ¬ spelled byte <+: rest) :
    decodeBytes (Utf8.encode ('\\' :: rest)) = backslash :: decodeBytes (Utf8.encode rest) := by
  have hb : Utf8.encode ('\\' :: rest) = backslash :: Utf8.encode rest := rfl
  have hn : ∀ x y z more, Utf8.encode rest = x :: y :: z :: more → byte? x y z = none := by
    intro x y z more he
    rw [Option.eq_none_iff_forall_ne_some]
    intro byte hy
    have hs := (byte?_eq_some_iff x y z byte).mp hy
    exact h byte (Utf8.prefix_of_encode ⟨more, by rw [hs, he]; rfl⟩)
  rw [hb]
  cases he : Utf8.encode rest with
  | nil => rfl
  | cons x rest =>
    match rest, he with
    | [], _ => rfl
    | [_], _ => rfl
    | y :: z :: more, he => simp [decodeBytes, escape?, hn x y z more he]

theorem decode_bytes_written {tokens : List Token} (h : Unambiguous tokens) :
    decodeBytes (Utf8.encode (written tokens)) = meaning tokens := by
  induction tokens with
  | nil => rfl
  | cons token tokens ih =>
    obtain ⟨hf, ht⟩ := (unambiguous_cons_iff token tokens).mp h
    rw [meaning, List.flatMap_cons, ← meaning, ← ih ht, written, List.flatMap_cons, ← written]
    cases token with
    | escape byte =>
      rw [Token.text, Utf8.encode_append, decode_bytes_spelled]
      rfl
    | literal c =>
      by_cases hc : c = '\\'
      · subst c
        exact decode_bytes_backslash (hf rfl)
      · have hu := utf8_ne_backslash c hc
        rw [Token.text, Utf8.encode_append, Utf8.encode, List.flatMap_singleton,
          decode_bytes_append _ _ hu]
        rfl

theorem exists_tokens (s : Text) : ∃ tokens, Unambiguous tokens ∧ written tokens = s := by
  induction hn : s.length using Nat.strongRecOn generalizing s with
  | ind n ih =>
    subst n
    by_cases he : ∃ byte, '\\' :: spelled byte <+: s
    · obtain ⟨byte, rest, rfl⟩ := he
      have hl : rest.length < ('\\' :: spelled byte ++ rest).length := by
        rw [List.length_append, List.length_cons]
        omega
      obtain ⟨tokens, hu, rfl⟩ := ih rest.length hl rest rfl
      exact ⟨.escape byte :: tokens, (unambiguous_cons_iff _ _).mpr ⟨by simp, hu⟩, rfl⟩
    · cases s with
      | nil => exact ⟨[], unambiguous_of_not_mem (by simp), rfl⟩
      | cons c rest =>
        obtain ⟨tokens, hu, rfl⟩ := ih rest.length (by simp) rest rfl
        refine ⟨.literal c :: tokens, (unambiguous_cons_iff _ _).mpr ⟨?_, hu⟩, rfl⟩
        rintro hc byte ⟨more, hm⟩
        rw [Token.literal.injEq] at hc
        exact he ⟨byte, more, by rw [hc, List.cons_append, hm]⟩

/-- Decoding reads off the tokens of a field, whichever they are, and what it
produces is not read again. -/
theorem decode_tokens :
    (∀ s, ∃ tokens, Unambiguous tokens ∧ written tokens = s) ∧
    (∀ tokens, Unambiguous tokens →
      decode (written tokens) = Utf8.decodeLossy (meaning tokens)) ∧
    (∀ tokens s, .literal '\\' ∉ tokens → meaning tokens = Utf8.encode s →
      decode (written tokens) = s) ∧
    (∀ rest, decode ("\\134".toList ++ rest) = '\\' :: decode rest) ∧
    (∀ rest, (∀ byte, ¬ spelled byte <+: rest) → decode ('\\' :: rest) = '\\' :: decode rest) ∧
    ∀ s, '\\' ∉ s → decode s = s := by
  have hb : ∀ bytes, Utf8.decodeLossy (backslash :: bytes) = '\\' :: Utf8.decodeLossy bytes :=
    fun bytes => Utf8.decode_lossy_ascii [] bytes backslash (by decide)
  refine ⟨exists_tokens, ?_, ?_, ?_, ?_, ?_⟩
  · intro tokens h
    rw [decode, decode_bytes_written h]
  · intro tokens s hn hm
    rw [decode, decode_bytes_written (unambiguous_of_not_mem hn), hm, Utf8.decode_lossy_encode]
  · intro rest
    have hd := decode_bytes_spelled backslash (Utf8.encode rest)
    rw [← Utf8.encode_append] at hd
    exact (congrArg Utf8.decodeLossy hd).trans (hb _)
  · intro rest h
    rw [decode, decode_bytes_backslash h, hb, decode]
  · intro s h
    have hn : ∀ b ∈ Utf8.encode s, b ≠ backslash := by
      rintro b hm rfl
      exact Utf8.not_mem_encode h rfl (by decide) hm
    have hd := decode_bytes_append (Utf8.encode s) [] hn
    rw [List.append_nil, decodeBytes, List.append_nil] at hd
    rw [decode, hd, Utf8.decode_lossy_encode]

def tangledTokens : List Token :=
  [.literal '/', .escape 0xC3, .escape 0xA9, .escape 0x5C, .literal '0', .literal '4', .literal '0',
    .literal '\\', .literal '7', .literal '7', .literal '7', .escape 0xE2, .literal '\\',
    .literal '0', .literal '8', .literal '\\', .literal '1']

def plainTokens : List Token :=
  [.literal '/', .escape 0xC3, .escape 0xA9, .escape 0x5C, .literal '0', .literal '4', .literal '0']

theorem decode_tokens_tangled :
    Unambiguous tangledTokens ∧
      decode "/\\303\\251\\134040\\777\\342\\08\\1".toList =
        "/\u00e9\\040\\777\ufffd\\08\\1".toList ∧
      Token.literal '\\' ∉ plainTokens ∧
      meaning plainTokens = Utf8.encode "/\u00e9\\040".toList ∧
      decode "/\\303\\251\\134040".toList = "/\u00e9\\040".toList ∧
      (∀ byte, ¬ spelled byte <+: "777".toList) ∧ '\\' ∉ "777".toList ∧
      decode "\\777".toList = "\\777".toList := by
  have hu : Unambiguous tangledTokens := by decide +kernel
  have hp : Token.literal '\\' ∉ plainTokens := by decide
  have hm : meaning plainTokens = Utf8.encode "/\u00e9\\040".toList := by decide
  have hs : ∀ byte, ¬ spelled byte <+: "777".toList := by decide +kernel
  have hn : '\\' ∉ "777".toList := by decide
  obtain ⟨-, htokens, htext, -, hliteral, hplain⟩ := decode_tokens
  refine ⟨hu, ?_, hp, hm, htext _ _ hp hm, hs, hn, ?_⟩
  · exact (htokens _ hu).trans (by decide +kernel)
  · exact (hliteral _ hs).trans (congrArg _ (hplain _ hn))

end CgroupLimits.Octal
