import CgroupLimits.Text.Basic

/-!
# Decimal numerals within a range

A numeral is one optional sign and at least one ASCII digit. It is read from
the left, and the first thing wrong decides the fault: a character that is no
digit, or the digit with which the value leaves the range. A minus sign is
only known to ranges that reach below zero.
-/

set_option autoImplicit false

namespace CgroupLimits

inductive NumeralFault where
  | empty
  | invalidDigit
  | tooLarge
  | tooSmall
  deriving DecidableEq, Repr

namespace Numeral

def digitValue? (c : Char) : Option Nat :=
  if '0' ≤ c ∧ c ≤ '9' then some (c.toNat - '0'.toNat) else none

/-- `value` with one more digit, away from zero on the side that `negative` says. -/
def appendDigit (negative : Bool) (value : Int) (digit : Nat) : Int :=
  if negative then value*10-digit else value*10+digit

def readDigits (lower upper : Int) (negative : Bool) : Int → Text → Except NumeralFault Int
  | value, [] => .ok value
  | value, c :: rest =>
    match digitValue? c with
    | none => .error .invalidDigit
    | some digit =>
      let next := appendDigit negative value digit
      if upper < next then .error .tooLarge
      else if next < lower then .error .tooSmall
      else readDigits lower upper negative next rest

def read (lower upper : Int) (s : Text) : Except NumeralFault Int :=
  match s with
  | [] => .error .empty
  | '+' :: rest =>
    if rest.isEmpty then .error .invalidDigit else readDigits lower upper false 0 rest
  | '-' :: rest =>
    if rest.isEmpty ∨ 0 ≤ lower then .error .invalidDigit
    else readDigits lower upper true 0 rest
  | _ => readDigits lower upper false 0 s

def int32 (s : Text) : Except NumeralFault Int32 :=
  (read (-2147483648) 2147483647 s).map Int32.ofInt

def uint32 (s : Text) : Except NumeralFault UInt32 :=
  (read 0 4294967295 s).map fun n => UInt32.ofNat n.toNat

def int64 (s : Text) : Except NumeralFault Int64 :=
  (read (-9223372036854775808) 9223372036854775807 s).map Int64.ofInt

def uint64 (s : Text) : Except NumeralFault UInt64 :=
  (read 0 18446744073709551615 s).map fun n => UInt64.ofNat n.toNat

/-- The canonical numeral: no plus sign, no leading zero. -/
def ofNat (n : Nat) : Text := Nat.toDigits 10 n

def ofInt (n : Int) : Text :=
  if n < 0 then '-' :: ofNat n.natAbs else ofNat n.natAbs

theorem digit_value?_digit_char (d : Nat) (hd : d < 10) :
    digitValue? (Nat.digitChar d) = some d := by
  have h : ∀ d : Fin 10, digitValue? (Nat.digitChar d.val) = some d.val := by decide
  exact h ⟨d, hd⟩

theorem read_digits_append (lower upper value : Int) (negative : Bool) (s t : Text) :
    readDigits lower upper negative value (s++t) =
      (readDigits lower upper negative value s).bind
        fun next => readDigits lower upper negative next t := by
  induction s generalizing value with
  | nil => rfl
  | cons c s ih =>
    rw [List.cons_append, readDigits, readDigits]
    cases digitValue? c with
    | none => rfl
    | some digit =>
      dsimp only
      split
      · rfl
      · split
        · rfl
        · exact ih _

theorem read_digits_digit (lower upper value : Int) (negative : Bool) (d : Nat) (hd : d < 10)
    (hl : lower ≤ appendDigit negative value d) (hu : appendDigit negative value d ≤ upper) :
    readDigits lower upper negative value [Nat.digitChar d] =
      .ok (appendDigit negative value d) := by
  simp only [readDigits, digit_value?_digit_char d hd]
  rw [if_neg (by omega), if_neg (by omega)]

theorem append_digit_last (negative : Bool) (n : Nat) :
    appendDigit negative (appendDigit negative 0 (n/10)) (n%10) = appendDigit negative 0 n := by
  cases negative <;> simp only [appendDigit, Bool.false_eq_true, if_true, if_false] <;> omega

theorem append_digit_leading (lower upper : Int) (negative : Bool) (n : Nat) (hl : lower ≤ 0)
    (hu : 0 ≤ upper) (hn : lower ≤ appendDigit negative 0 n ∧ appendDigit negative 0 n ≤ upper) :
    lower ≤ appendDigit negative 0 (n/10) ∧ appendDigit negative 0 (n/10) ≤ upper := by
  cases negative <;>
    simp only [appendDigit, Bool.false_eq_true, if_true, if_false] at hn ⊢ <;> omega

theorem read_digits_of_nat (lower upper : Int) (negative : Bool) (n : Nat) (hl : lower ≤ 0)
    (hu : 0 ≤ upper) (hn : lower ≤ appendDigit negative 0 n ∧ appendDigit negative 0 n ≤ upper) :
    readDigits lower upper negative 0 (ofNat n) = .ok (appendDigit negative 0 n) := by
  induction n using Nat.strongRecOn with
  | ind n ih =>
    by_cases hs : n < 10
    · rw [ofNat, Nat.toDigits_of_lt_base hs]
      exact read_digits_digit lower upper 0 negative n hs hn.1 hn.2
    · have hlast := append_digit_last negative n
      have hrest := ih (n/10) (by omega) (append_digit_leading lower upper negative n hl hu hn)
      rw [ofNat] at hrest
      rw [ofNat, Nat.toDigits_of_base_le (by decide) (by omega), read_digits_append, hrest]
      change readDigits lower upper negative (appendDigit negative 0 (n/10))
        [Nat.digitChar (n%10)] = _
      rw [read_digits_digit _ _ _ _ _ (by omega) (by omega) (by omega), hlast]

theorem of_nat_eq_cons (n : Nat) :
    ∃ d rest, d < 10 ∧ ofNat n = Nat.digitChar d :: rest := by
  induction n using Nat.strongRecOn with
  | ind n ih =>
    by_cases hs : n < 10
    · exact ⟨n, [], hs, Nat.toDigits_of_lt_base hs⟩
    · obtain ⟨d, rest, hd, he⟩ := ih (n/10) (by omega)
      refine ⟨d, rest ++ [Nat.digitChar (n%10)], hd, ?_⟩
      rw [ofNat] at he
      rw [ofNat, Nat.toDigits_of_base_le (by decide) (by omega), he, List.cons_append]

theorem digit_char_ne_sign (d : Nat) (hd : d < 10) :
    Nat.digitChar d ≠ '+' ∧ Nat.digitChar d ≠ '-' := by
  have h : ∀ d : Fin 10, Nat.digitChar d.val ≠ '+' ∧ Nat.digitChar d.val ≠ '-' := by decide
  exact h ⟨d, hd⟩

theorem read_unsigned (lower upper : Int) (c : Char) (rest : Text) (hp : c ≠ '+') (hm : c ≠ '-') :
    read lower upper (c :: rest) = readDigits lower upper false 0 (c :: rest) := by
  rw [read]
  · simp
  · rintro _ ⟨⟩
    exact hp rfl
  · rintro _ ⟨⟩
    exact hm rfl

/-- Canonical numerals are read back by every range that has room for them. -/
theorem read_of_int (lower upper n : Int) (hl : lower ≤ 0) (hu : 0 ≤ upper)
    (hn : lower ≤ n ∧ n ≤ upper) : read lower upper (ofInt n) = .ok n := by
  obtain ⟨d, rest, hd, he⟩ := of_nat_eq_cons n.natAbs
  by_cases hneg : n < 0
  · have hv : appendDigit true 0 n.natAbs = n := by
      simp only [appendDigit, if_true]
      omega
    have hr := read_digits_of_nat lower upper true n.natAbs hl hu (by omega)
    have hsome : ¬ ((ofNat n.natAbs).isEmpty = true ∨ 0 ≤ lower) := by
      rw [he]
      simp
      omega
    rw [hv] at hr
    rw [ofInt, if_pos hneg, read, if_neg hsome, hr]
  · have hv : appendDigit false 0 n.natAbs = n := by
      simp only [appendDigit, Bool.false_eq_true, if_false]
      omega
    have hr := read_digits_of_nat lower upper false n.natAbs hl hu (by omega)
    have hs := digit_char_ne_sign d hd
    rw [hv, he] at hr
    rw [ofInt, if_neg hneg, he, read_unsigned lower upper _ rest hs.1 hs.2, hr]

end Numeral
end CgroupLimits
