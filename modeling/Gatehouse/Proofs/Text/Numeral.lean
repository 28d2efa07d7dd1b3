import Gatehouse.Text.Numeral
import Mathlib.Data.List.TakeWhile
import Mathlib.Tactic.Positivity
import Gatehouse.Proofs.Traversal

/-!
# Which texts are numerals

A numeral is a row of digits, with or without a plus sign in front. It is read as the number that
it denotes if this is within the limit (`readUnsigned_eq_ok`). What is wrong with any other text is
told by the digits at its front alone, since more digits never make a number smaller. A text that
denotes an integer of a width, negative ones among them, is read as this integer
(`readSigned_eq_ok`).
-/

namespace Gatehouse.Text

/-- The text behind a plus sign that may stand in front. -/
def unsigned (s : String) : List Char :=
  match s.toList with
  | '+' :: rest => rest
  | cs => cs

/-- The text is a row of digits, with or without a plus sign in front. -/
def IsNumeral (s : String) : Prop :=
  unsigned s ≠ [] ∧ (unsigned s).all Char.isDigit = true

instance (s : String) : Decidable (IsNumeral s) := inferInstanceAs (Decidable (_ ∧ _))

/-- The number that a numeral denotes. -/
def valueOf (s : String) : Nat := Nat.ofDigitChars 10 (unsigned s) 0

/-- What is wrong with a text that is no numeral within the limit. -/
def numeralFault (limit : Nat) (s : String) : NumeralError :=
  if s = "" then .empty
  else if limit < Nat.ofDigitChars 10 ((unsigned s).takeWhile Char.isDigit) 0 then .tooLarge
  else .invalidDigit

variable {limit value : Nat} {s : String}

/-! ## Digits -/

theorem digitValue?_eq (c : Char) :
    digitValue? c = if c.isDigit then some (c.toNat - '0'.toNat) else none := by
  have same : ('0' ≤ c ∧ c ≤ '9') ↔ c.isDigit = true := by
    simp [Char.isDigit, Char.le_def]
  simp only [digitValue?, same]

theorem le_ofDigitChars (digits : List Char) (value : Nat) :
    value ≤ Nat.ofDigitChars 10 digits value := by
  rw [Nat.ofDigitChars_eq_ofDigitChars_zero]
  have power : 0 < 10 ^ digits.length := by positivity
  exact (Nat.le_mul_of_pos_left value power).trans (Nat.le_add_right _ _)

theorem readDigits_eq (within : value ≤ limit) (cs : List Char) :
    readDigits limit value cs =
      if limit < Nat.ofDigitChars 10 (cs.takeWhile Char.isDigit) value then .error .tooLarge
      else if cs.all Char.isDigit then .ok (Nat.ofDigitChars 10 cs value)
      else .error .invalidDigit := by
  induction cs generalizing value with
  | nil => simp [readDigits, within]
  | cons c rest ih =>
    by_cases digit : c.isDigit = true
    · have next : 10 * value + (c.toNat - '0'.toNat) = value * 10 + (c.toNat - '0'.toNat) := by
        omega
      simp only [readDigits, digitValue?_eq, digit, if_true, List.takeWhile_cons_of_pos digit,
        List.all_cons, Bool.true_and, Nat.ofDigitChars_cons, next]
      by_cases large : limit < value * 10 + (c.toNat - '0'.toNat)
      · rw [if_pos large, if_pos (large.trans_le (le_ofDigitChars _ _))]
      · rw [if_neg large, ih (Nat.not_lt.1 large)]
    · simp [readDigits, digitValue?_eq, digit, List.takeWhile_cons_of_neg digit, within]

theorem readDigits_eq_ok {n : Nat} {cs : List Char} :
    readDigits limit 0 cs = .ok n ↔
      cs.all Char.isDigit = true ∧ Nat.ofDigitChars 10 cs 0 = n ∧ n ≤ limit := by
  rw [readDigits_eq (Nat.zero_le limit)]
  by_cases digits : cs.all Char.isDigit = true
  · have whole : cs.takeWhile Char.isDigit = cs :=
      List.takeWhile_eq_self_iff.2 (List.all_eq_true.1 digits)
    rw [whole, if_pos digits]
    split
    · next large =>
      exact ⟨nofun, fun ⟨_, same, within⟩ => absurd (same ▸ within) (Nat.not_le.2 large)⟩
    · next within =>
      rw [Except.ok.injEq]
      exact ⟨fun same => ⟨digits, same, same ▸ Nat.not_lt.1 within⟩, fun read => read.2.1⟩
  · rw [if_neg digits]
    refine ⟨fun read => ?_, fun read => absurd read.1 digits⟩
    split at read
    · cases read
    · cases read

/-! ## Numerals -/

theorem readUnsigned_of_ne (nonempty : s ≠ "") :
    readUnsigned limit s =
      if unsigned s = [] then .error .invalidDigit else readDigits limit 0 (unsigned s) := by
  rw [ne_eq, ← String.toList_eq_nil_iff] at nonempty
  unfold readUnsigned unsigned
  split
  · contradiction
  · next sign => simp [sign]
  · next rest notAlone signed =>
    have digits : rest ≠ [] := notAlone
    simp [signed, digits]
  · next notAlone noSign => simp [nonempty]

theorem readUnsigned_eq (limit : Nat) (s : String) :
    readUnsigned limit s =
      if IsNumeral s ∧ valueOf s ≤ limit then .ok (valueOf s)
      else .error (numeralFault limit s) := by
  by_cases empty : s = ""
  · subst empty
    have none : ¬ IsNumeral "" := by decide
    rw [if_neg fun numeral => none numeral.1]
    rfl
  rw [readUnsigned_of_ne empty, readDigits_eq (Nat.zero_le limit)]
  by_cases numeral : IsNumeral s
  · obtain ⟨nonempty, digits⟩ := numeral
    have whole : (unsigned s).takeWhile Char.isDigit = unsigned s :=
      List.takeWhile_eq_self_iff.2 (List.all_eq_true.1 digits)
    have numeral : IsNumeral s := ⟨nonempty, digits⟩
    by_cases within : valueOf s ≤ limit
    · have fits : ¬ limit < Nat.ofDigitChars 10 (unsigned s) 0 := Nat.not_lt.2 within
      rw [if_neg nonempty, whole, if_neg fits, if_pos digits, if_pos ⟨numeral, within⟩]
      rfl
    · have large : limit < Nat.ofDigitChars 10 (unsigned s) 0 := Nat.lt_of_not_le within
      simp only [numeralFault, nonempty, whole, large, within, empty, and_false, if_true, if_false]
  · by_cases nonempty : unsigned s = []
    · simp [numeralFault, nonempty, numeral, empty]
    · have stray : ¬ (unsigned s).all Char.isDigit = true := fun digits =>
        numeral ⟨nonempty, digits⟩
      simp only [numeralFault, nonempty, stray, numeral, empty, false_and, if_false]
      split
      · rfl
      · rfl

theorem readUnsigned_eq_ok {n : Nat} :
    readUnsigned limit s = .ok n ↔ IsNumeral s ∧ valueOf s = n ∧ n ≤ limit := by
  rw [readUnsigned_eq]
  split
  · next fits =>
    rw [Except.ok.injEq]
    exact ⟨fun same => ⟨fits.1, same, same ▸ fits.2⟩, fun read => read.2.1⟩
  · next unfit =>
    refine ⟨nofun, ?_⟩
    rintro ⟨numeral, rfl, within⟩
    exact absurd ⟨numeral, within⟩ unfit

/-! ## Numerals with a sign -/

variable {width : Width} {n : Int} {digits : List Char}

/-- The text denotes an integer: a numeral its number, and digits behind a minus sign the opposite
of theirs. -/
inductive Denotes (s : String) : Int → Prop where
  | plain (numeral : IsNumeral s) : Denotes s (valueOf s)
  | negative (digits : List Char) (minus : s.toList = '-' :: digits) (nonempty : digits ≠ [])
      (digital : digits.all Char.isDigit = true) :
      Denotes s (-(Nat.ofDigitChars 10 digits 0 : Int))

theorem not_isNumeral_of_minus (minus : s.toList = '-' :: digits) : ¬ IsNumeral s := by
  rintro ⟨-, all⟩
  simp [unsigned, minus] at all

theorem readSigned_of_minus (minus : s.toList = '-' :: digits) (nonempty : digits ≠ []) :
    readSigned width s = .ok n ↔
      ∃ m : Nat, readDigits (width.limit / 2 + 1) 0 digits = .ok m ∧ n = -m := by
  obtain ⟨c, rest, rfl⟩ := List.exists_cons_of_ne_nil nonempty
  simp only [readSigned, minus]
  cases readDigits (width.limit / 2 + 1) 0 (c :: rest) with
  | ok m => simp [eq_comm]
  | error cause => cases cause <;> simp

theorem readSigned_of_plain (plain : ∀ digits, s.toList = '-' :: digits → digits = []) :
    readSigned width s = (readUnsigned (width.limit / 2) s).map Int.ofNat := by
  unfold readSigned
  split
  · next c rest minus => cases plain _ minus
  · rfl

theorem readSigned_eq_ok :
    readSigned width s = .ok n ↔
      Denotes s n ∧ -(width.limit / 2 + 1 : Nat) ≤ n ∧ n ≤ (width.limit / 2 : Nat) := by
  by_cases minus : ∃ digits, s.toList = '-' :: digits ∧ digits ≠ []
  · obtain ⟨digits, minus, nonempty⟩ := minus
    rw [readSigned_of_minus minus nonempty]
    constructor
    · rintro ⟨m, read, rfl⟩
      obtain ⟨digital, rfl, within⟩ := readDigits_eq_ok.1 read
      exact ⟨.negative digits minus nonempty digital, by omega, by omega⟩
    · rintro ⟨denotes, above, -⟩
      cases denotes with
      | plain numeral => exact absurd numeral (not_isNumeral_of_minus minus)
      | negative digits' minus' _ digital =>
        obtain rfl := List.tail_eq_of_cons_eq (minus.symm.trans minus')
        exact ⟨_, readDigits_eq_ok.2 ⟨digital, rfl, by omega⟩, rfl⟩
  · have plain : ∀ digits, s.toList = '-' :: digits → digits = [] := fun digits front =>
      Classical.byContradiction fun nonempty => minus ⟨digits, front, nonempty⟩
    rw [readSigned_of_plain plain, map_eq_ok]
    constructor
    · rintro ⟨m, read, same⟩
      obtain rfl : (m : Int) = n := same
      obtain ⟨numeral, rfl, within⟩ := readUnsigned_eq_ok.1 read
      exact ⟨.plain numeral, by omega, by omega⟩
    · rintro ⟨denotes, -, below⟩
      cases denotes with
      | plain numeral =>
        exact ⟨_, readUnsigned_eq_ok.2 ⟨numeral, rfl, by omega⟩, rfl⟩
      | negative digits front nonempty => exact absurd (plain digits front) nonempty

end Gatehouse.Text
