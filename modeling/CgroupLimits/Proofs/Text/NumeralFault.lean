import CgroupLimits.Proofs.Text.NumeralValue

/-!
# The first thing wrong with a numeral

A text that is no numeral of the range goes wrong at one character. All that
stands before it is the start of a numeral in range, and the character itself
is no digit, or the digit with which the number leaves the range. What follows
it makes no difference.
-/

set_option autoImplicit false

namespace CgroupLimits.Numeral
open CgroupLimits

def IsSign (c : Char) : Prop := c = '+' ∨ c = '-'

inductive IsGoodStart (lower upper : Int) : Text → Prop
  | nil : IsGoodStart lower upper []
  | sign {c : Char} (isSign : IsSign c) : IsGoodStart lower upper [c]
  | number {s : Text} {n : Int} (denotes : Denotes s n) (inRange : lower ≤ n ∧ n ≤ upper) :
      IsGoodStart lower upper s

inductive Leaves (lower upper n : Int) : NumeralFault → Prop
  | above (large : upper < n) : Leaves lower upper n .tooLarge
  | below (small : n < lower) : Leaves lower upper n .tooSmall

/-- What is wrong where the first thing is wrong, from the left. -/
inductive FirstFault (lower upper : Int) : Text → NumeralFault → Prop
  | signAlone {c : Char} (isSign : IsSign c) : FirstFault lower upper [c] .invalidDigit
  | notDigit {before : Text} {c : Char} (good : IsGoodStart lower upper before)
      (notDigit : ¬ c.isDigit) (notSign : before = [] → ¬ IsSign c) (after : Text) :
      FirstFault lower upper (before ++ c :: after) .invalidDigit
  | outOfRange {before : Text} {c : Char} {n : Int} {fault : NumeralFault}
      (good : IsGoodStart lower upper before) (digit : c.isDigit)
      (denotes : Denotes (before++[c]) n) (leaves : Leaves lower upper n fault) (after : Text) :
      FirstFault lower upper (before ++ c :: after) fault

inductive Sign : Text → Bool → Prop
  | unsigned : Sign [] false
  | plus : Sign ['+'] false
  | minus : Sign ['-'] true

variable {lower upper : Int} {negative : Bool} {sign s : Text} {fault : NumeralFault}

theorem FirstFault.ne_empty (h : FirstFault lower upper s fault) : fault ≠ .empty := by
  cases h with
  | signAlone _ => exact NumeralFault.noConfusion
  | notDigit _ _ _ _ => exact NumeralFault.noConfusion
  | outOfRange _ _ _ leaves _ => cases leaves <;> exact NumeralFault.noConfusion

theorem is_digits_concat {digits : Text} {c : Char} (hd : ∀ x ∈ digits, x.isDigit)
    (hc : c.isDigit) : IsDigits (digits++[c]) :=
  ⟨by simp, by simpa [or_imp, forall_and, hc] using hd⟩

theorem denotes_sign (hs : Sign sign negative) {digits : Text} (hd : IsDigits digits) :
    Denotes (sign ++ digits) (signed negative (value digits)) := by
  cases hs with
  | unsigned => exact ⟨digits, hd, Or.inl ⟨Or.inl rfl, rfl⟩⟩
  | plus => exact ⟨digits, hd, Or.inl ⟨Or.inr rfl, rfl⟩⟩
  | minus => exact ⟨digits, hd, Or.inr ⟨rfl, rfl⟩⟩

theorem is_good_start_sign (hs : Sign sign negative) {digits : Text} (hd : ∀ c ∈ digits, c.isDigit)
    (hr : lower ≤ signed negative (value digits) ∧ signed negative (value digits) ≤ upper) :
    IsGoodStart lower upper (sign ++ digits) := by
  by_cases hn : digits = []
  · subst digits
    cases hs with
    | unsigned => exact .nil
    | plus => exact .sign (Or.inl rfl)
    | minus => exact .sign (Or.inr rfl)
  · exact .number (denotes_sign hs ⟨hn, hd⟩) hr

theorem IsGoodStart.exists_sign (hl : lower ≤ 0) (hu : 0 ≤ upper) (h : IsGoodStart lower upper s) :
    ∃ sign negative digits, Sign sign negative ∧ s = sign ++ digits ∧ (∀ c ∈ digits, c.isDigit) ∧
      lower ≤ signed negative (value digits) ∧ signed negative (value digits) ≤ upper := by
  have hz : ∀ negative,
      lower ≤ signed negative (value []) ∧ signed negative (value []) ≤ upper := by
    intro negative
    cases negative <;> exact ⟨hl, hu⟩
  cases h with
  | nil => exact ⟨[], false, [], .unsigned, rfl, by simp, hz false⟩
  | sign isSign =>
    rcases isSign with rfl | rfl
    · exact ⟨['+'], false, [], .plus, rfl, by simp, hz false⟩
    · exact ⟨['-'], true, [], .minus, rfl, by simp, hz true⟩
  | number denotes inRange =>
    obtain ⟨digits, hd, ⟨rfl | rfl, rfl⟩ | ⟨rfl, rfl⟩⟩ := denotes
    · exact ⟨[], false, _, .unsigned, rfl, hd.2, inRange⟩
    · exact ⟨['+'], false, _, .plus, rfl, hd.2, inRange⟩
    · exact ⟨['-'], true, _, .minus, rfl, hd.2, inRange⟩

def DigitFault (lower upper : Int) (negative : Bool) (m : Nat) (s : Text)
    (fault : NumeralFault) : Prop :=
  ∃ digits c after, s = digits ++ c :: after ∧ (∀ x ∈ digits, x.isDigit) ∧
    (lower ≤ signed negative (Nat.ofDigitChars 10 digits m) ∧
      signed negative (Nat.ofDigitChars 10 digits m) ≤ upper) ∧
    (¬ c.isDigit ∧ fault = .invalidDigit ∨
      c.isDigit ∧ Leaves lower upper (signed negative (Nat.ofDigitChars 10 (digits++[c]) m)) fault)

theorem digit_fault_cons (hl : lower ≤ 0) (hu : 0 ≤ upper) {m : Nat}
    (hm : lower ≤ signed negative m ∧ signed negative m ≤ upper) {c : Char} (rest : Text)
    (hc : c.isDigit) :
    DigitFault lower upper negative m (c :: rest) fault ↔
      Leaves lower upper (signed negative (10*m+(c.toNat - '0'.toNat))) fault ∨
      (lower ≤ signed negative (10*m+(c.toNat - '0'.toNat)) ∧
        signed negative (10*m+(c.toNat - '0'.toNat)) ≤ upper) ∧
      DigitFault lower upper negative (10*m+(c.toNat - '0'.toNat)) rest fault := by
  constructor
  · rintro ⟨digits, d, after, he, hd, hr, hw⟩
    cases digits with
    | nil =>
      obtain ⟨rfl, rfl⟩ := List.cons.inj he
      exact Or.inl (hw.resolve_left fun h => h.1 hc).2
    | cons x digits =>
      obtain ⟨rfl, rfl⟩ := List.cons.inj he
      rw [Nat.ofDigitChars_cons] at hr
      -- What is still in range further on has never left it.
      have hn : lower ≤ signed negative (10*m+(c.toNat - '0'.toNat)) ∧
          signed negative (10*m+(c.toNat - '0'.toNat)) ≤ upper := by
        by_contra ho
        exact outside_of_le hl hu negative (le_of_digit_chars digits _) ho hr
      rw [List.cons_append, Nat.ofDigitChars_cons] at hw
      exact Or.inr ⟨hn, digits, d, after, rfl, fun y hy => hd y (List.mem_cons_of_mem _ hy), hr, hw⟩
  · rintro (h | ⟨-, digits, d, after, rfl, hd, hr, hw⟩)
    · refine ⟨[], c, rest, rfl, by simp, hm, Or.inr ⟨hc, ?_⟩⟩
      rwa [List.nil_append, Nat.ofDigitChars_cons, Nat.ofDigitChars_nil]
    · refine ⟨c :: digits, d, after, rfl, ?_, ?_, ?_⟩
      · simpa [hc] using hd
      · rwa [Nat.ofDigitChars_cons]
      · rwa [List.cons_append, Nat.ofDigitChars_cons]

theorem checked_eq_error_iff (hlu : lower ≤ upper) (n : Int) (reading : Except NumeralFault Int) :
    (if upper < n then .error .tooLarge else if n < lower then .error .tooSmall else reading) =
        .error fault ↔
      Leaves lower upper n fault ∨ (lower ≤ n ∧ n ≤ upper) ∧ reading = .error fault := by
  constructor
  · intro h
    by_cases ha : upper < n
    · rw [if_pos ha] at h
      cases h
      exact Or.inl (.above ha)
    · by_cases hb : n < lower
      · rw [if_neg ha, if_pos hb] at h
        cases h
        exact Or.inl (.below hb)
      · rw [if_neg ha, if_neg hb] at h
        exact Or.inr ⟨by omega, h⟩
  · rintro (h | ⟨hr, h⟩)
    · cases h with
      | above ha => rw [if_pos ha]
      | below hb => rw [if_neg (by omega), if_pos hb]
    · rw [if_neg (by omega), if_neg (by omega), h]

theorem read_digits_eq_error_iff (hl : lower ≤ 0) (hu : 0 ≤ upper) (negative : Bool) (m : Nat)
    (s : Text) (hm : lower ≤ signed negative m ∧ signed negative m ≤ upper) :
    readDigits lower upper negative (signed negative m) s = .error fault ↔
      DigitFault lower upper negative m s fault := by
  induction s generalizing m with
  | nil =>
    constructor
    · intro h
      cases h
    · rintro ⟨digits, c, after, he, -⟩
      cases digits <;> cases he
  | cons c rest ih =>
    by_cases hc : c.isDigit
    · rw [read_digits_cons lower upper negative m rest hc, digit_fault_cons hl hu hm rest hc,
        checked_eq_error_iff (Int.le_trans hl hu)]
      exact or_congr_right (and_congr_right fun hr => ih _ hr)
    · rw [readDigits, digit_value?_eq_none hc]
      constructor
      · rintro ⟨⟩
        exact ⟨[], c, rest, rfl, by simp, hm, Or.inl ⟨hc, rfl⟩⟩
      · rintro ⟨digits, d, after, he, hd, -, hw⟩
        cases digits with
        | nil =>
          obtain ⟨rfl, rfl⟩ := List.cons.inj he
          rw [(hw.resolve_right fun h => hc h.1).2]
        | cons x digits =>
          obtain ⟨rfl, rfl⟩ := List.cons.inj he
          exact absurd (hd c List.mem_cons_self) hc

theorem read_sign (hl : lower < 0) (hs : Sign sign negative) {c : Char} (rest : Text)
    (hc : sign = [] → ¬ IsSign c) :
    read lower upper (sign ++ c :: rest) = readDigits lower upper negative 0 (c :: rest) := by
  cases hs with
  | unsigned =>
    have hn := hc rfl
    rw [IsSign, not_or] at hn
    exact read_unsigned lower upper c rest hn.1 hn.2
  | plus => simp [read]
  | minus =>
    rw [List.singleton_append, read, if_neg (by simp; omega)]

theorem exists_sign (c : Char) (rest : Text) :
    (∃ d, IsSign d ∧ c :: rest = [d]) ∨
      ∃ sign negative d after, Sign sign negative ∧ c :: rest = sign ++ d :: after ∧
        (sign = [] → ¬ IsSign d) := by
  by_cases hc : IsSign c
  · cases rest with
    | nil => exact Or.inl ⟨c, hc, rfl⟩
    | cons d after =>
      rcases hc with rfl | rfl
      · exact Or.inr ⟨_, _, d, after, .plus, rfl, by simp⟩
      · exact Or.inr ⟨_, _, d, after, .minus, rfl, by simp⟩
  · exact Or.inr ⟨_, _, c, rest, .unsigned, rfl, fun _ => hc⟩

theorem not_is_sign_of_is_digit {c : Char} (h : c.isDigit) : ¬ IsSign c := by
  rintro (rfl | rfl) <;> exact absurd h (by decide)

theorem read_sign_alone {c : Char} (h : IsSign c) :
    read lower upper [c] = .error .invalidDigit := by
  rcases h with rfl | rfl <;> simp [read]

theorem read_sign_eq_error_iff (hl : lower < 0) (hu : 0 ≤ upper) (hs : Sign sign negative)
    {c : Char} (rest : Text) (hc : sign = [] → ¬ IsSign c) :
    read lower upper (sign ++ c :: rest) = .error fault ↔
      DigitFault lower upper negative 0 (c :: rest) fault := by
  have hz : signed negative 0 = 0 := by cases negative <;> rfl
  have hm : lower ≤ signed negative 0 ∧ signed negative 0 ≤ upper := by
    rw [hz]
    exact ⟨Int.le_of_lt hl, hu⟩
  rw [read_sign hl hs rest hc, ← read_digits_eq_error_iff (Int.le_of_lt hl) hu negative 0 _ hm, hz]

theorem read_digits_eq_error (hl : lower < 0) (hu : 0 ≤ upper) (hs : Sign sign negative)
    {digits : Text} (hd : ∀ c ∈ digits, c.isDigit)
    (hr : lower ≤ signed negative (value digits) ∧ signed negative (value digits) ≤ upper)
    {c : Char} (hc : sign ++ digits = [] → ¬ IsSign c)
    (hw : ¬ c.isDigit ∧ fault = .invalidDigit ∨
      c.isDigit ∧ Leaves lower upper (signed negative (value (digits++[c]))) fault) (after : Text) :
    read lower upper (sign ++ digits ++ c :: after) = .error fault := by
  have h : DigitFault lower upper negative 0 (digits ++ c :: after) fault :=
    ⟨digits, c, after, rfl, hd, hr, hw⟩
  rw [List.append_assoc]
  cases digits with
  | nil => exact (read_sign_eq_error_iff hl hu hs after fun hn => hc (by rw [hn]; rfl)).mpr h
  | cons d digits =>
    have hn := not_is_sign_of_is_digit (hd d List.mem_cons_self)
    exact (read_sign_eq_error_iff hl hu hs _ fun _ => hn).mpr h

/-- Reading names the first fault of every text that has one. -/
theorem read_eq_error_iff (hl : lower < 0) (hu : 0 ≤ upper) (hn : s ≠ []) (fault : NumeralFault) :
    read lower upper s = .error fault ↔ FirstFault lower upper s fault := by
  constructor
  · intro h
    obtain ⟨c, rest, rfl⟩ := List.exists_cons_of_ne_nil hn
    rcases exists_sign c rest with ⟨d, hd, he⟩ | ⟨sign, negative, d, after, hs, he, hd⟩
    · rw [he, read_sign_alone hd] at h
      cases h
      exact he ▸ .signAlone hd
    · rw [he, read_sign_eq_error_iff hl hu hs after hd] at h
      obtain ⟨digits, x, later, hx, hg, hr, hw⟩ := h
      have good := is_good_start_sign hs hg hr
      rw [he, hx, ← List.append_assoc]
      rcases hw with ⟨hw, rfl⟩ | ⟨hw, leaves⟩
      · refine .notDigit good hw ?_ later
        intro hb
        obtain ⟨hs, rfl⟩ := List.append_eq_nil_iff.mp hb
        exact (List.cons.inj hx).1 ▸ hd hs
      · have denotes := denotes_sign hs (is_digits_concat hg hw)
        rw [← List.append_assoc] at denotes
        exact .outOfRange good hw denotes leaves later
  · intro h
    cases h with
    | signAlone isSign => exact read_sign_alone isSign
    | notDigit good hw notSign after =>
      obtain ⟨sign, negative, digits, hs, rfl, hg, hr⟩ := good.exists_sign (Int.le_of_lt hl) hu
      exact read_digits_eq_error hl hu hs hg hr notSign (Or.inl ⟨hw, rfl⟩) after
    | outOfRange good hw denotes leaves after =>
      obtain ⟨sign, negative, digits, hs, rfl, hg, hr⟩ := good.exists_sign (Int.le_of_lt hl) hu
      have hd := denotes_sign hs (is_digits_concat hg hw)
      rw [← List.append_assoc] at hd
      exact read_digits_eq_error hl hu hs hg hr (fun _ => not_is_sign_of_is_digit hw)
        (Or.inr ⟨hw, denotes.unique hd ▸ leaves⟩) after

theorem int32_eq_error_iff (hn : s ≠ []) (fault : NumeralFault) :
    int32 s = .error fault ↔ FirstFault (-2147483648) 2147483647 s fault := by
  have h := @read_eq_error_iff (-2147483648) 2147483647 s (by decide) (by decide) hn fault
  rw [← h, int32]
  cases read (-2147483648) 2147483647 s <;> simp [Except.map]

end CgroupLimits.Numeral
