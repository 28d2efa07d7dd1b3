import Mathlib.Tactic.SplitIfs
import Gatehouse.Text.Utf8

/-!
# Reading UTF-8 back

A reader of UTF-8 that meets the bytes of a character reads that character, wherever it stands: a
character that it was inside of has gone wrong (`readUtf8_char`). So a text is read back from its
bytes (`readUtf8_flatMap`). One byte more never yields more than one character more
(`Utf8State.length_step_le`).
-/

namespace Gatehouse.Text

theorem toNat_ofNat_of_lt {n : Nat} (h : n < 256) : (UInt8.ofNat n).toNat = n := by
  rw [UInt8.toNat_ofNat']
  omega

theorem toNat_charOfNat (b : UInt8) : (Char.ofNat b.toNat).toNat = b.toNat := by
  have small := b.toNat_lt
  rw [Char.ofNat, dif_pos (.inl (by omega))]
  exact UInt32.toNat_ofNatLT ..

theorem isValid_toNat (c : Char) : c.toNat < 0xD800 ∨ 0xDFFF < c.toNat ∧ c.toNat < 0x110000 := by
  have valid := c.valid
  simp only [UInt32.isValidChar, Nat.isValidChar] at valid
  exact valid

/-! ## The bytes of a character -/

theorem utf8EncodeChar_cases (c : Char) :
    c.toNat < 0x80 ∧ String.utf8EncodeChar c = [UInt8.ofNat c.toNat] ∨
      0x80 ≤ c.toNat ∧ ∃ first tails, String.utf8EncodeChar c = first :: tails ∧
        0xC2 ≤ first.toNat ∧ ∀ b ∈ first :: tails, 0x80 ≤ b.toNat := by
  have valid := isValid_toNat c
  have value : c.val.toNat = c.toNat := rfl
  unfold String.utf8EncodeChar
  simp only [value]
  split_ifs
  · exact .inl ⟨by omega, rfl⟩
  all_goals
    refine .inr ⟨by omega, _, _, rfl, ?_, ?_⟩
    · rw [toNat_ofNat_of_lt (by omega)]
      omega
    · simp only [List.forall_mem_cons, List.not_mem_nil, false_imp_iff, implies_true, and_true,
        UInt8.toNat_ofNat']
      omega

theorem eq_of_mem_utf8EncodeChar {c : Char} {n : Nat} (ascii : n < 0x80)
    (h : UInt8.ofNat n ∈ String.utf8EncodeChar c) : c.toNat = n := by
  have value := toNat_ofNat_of_lt (show n < 256 by omega)
  rcases utf8EncodeChar_cases c with ⟨small, bytes⟩ | ⟨-, first, tails, bytes, -, high⟩
  · rw [bytes, List.mem_singleton] at h
    have same := congrArg UInt8.toNat h
    rw [value, toNat_ofNat_of_lt (by omega)] at same
    exact same.symm
  · rw [bytes] at h
    have := high _ h
    omega

/-! ## Inside a character -/

variable {bits owed t : Nat} {low high b : UInt8}

theorem within_of_le (small : t < 64) (above : low.toNat ≤ t + 128) (below : t + 128 ≤ high.toNat) :
    (low ≤ UInt8.ofNat (t + 128) ∧ UInt8.ofNat (t + 128) ≤ high) ∧
      (UInt8.ofNat (t + 128)).toNat - 0x80 = t := by
  rw [UInt8.le_iff_toNat_le, UInt8.le_iff_toNat_le, toNat_ofNat_of_lt (by omega)]
  exact ⟨⟨above, below⟩, Nat.add_sub_cancel t 128⟩

theorem readUtf8_tail (small : t < 64) (above : low.toNat ≤ t + 128) (below : t + 128 ≤ high.toNat)
    (rest : List UInt8) :
    readUtf8 (.inside bits 1 low high) (UInt8.ofNat (t + 128) :: rest) =
      Char.ofNat (bits * 64 + t) :: readUtf8 .idle rest := by
  obtain ⟨within, value⟩ := within_of_le small above below
  rw [readUtf8, Utf8State.step, if_pos within, value]
  rfl

theorem readUtf8_tails (small : t < 64) (above : low.toNat ≤ t + 128)
    (below : t + 128 ≤ high.toNat) (owing : 2 ≤ owed) (rest : List UInt8) :
    readUtf8 (.inside bits owed low high) (UInt8.ofNat (t + 128) :: rest) =
      readUtf8 (.inside (bits * 64 + t) (owed - 1) 0x80 0xBF) rest := by
  obtain ⟨within, value⟩ := within_of_le small above below
  have several : ¬ owed ≤ 1 := by omega
  rw [readUtf8, Utf8State.step, if_pos within, value]
  simp only [if_neg several, List.nil_append]

theorem readUtf8_broken (outside : ¬ (low ≤ b ∧ b ≤ high)) (rest : List UInt8) :
    readUtf8 (.inside bits owed low high) (b :: rest) =
      replacement :: readUtf8 .idle (b :: rest) := by
  rw [readUtf8, Utf8State.step, if_neg outside, readUtf8, Utf8State.step]
  rfl

/-- What a reader between two bytes has begun and not finished reads as one character. -/
def Utf8State.unfinished : Utf8State → List Char
  | .idle => []
  | .inside .. => [replacement]

/-- The next byte of a character that has been begun must be a tail. -/
def Utf8State.Sound : Utf8State → Prop
  | .idle => True
  | .inside _ _ low high => 0x80 ≤ low.toNat ∧ high.toNat ≤ 0xBF

theorem Utf8State.sound_start (b : UInt8) : (start b).2.Sound := by
  unfold start
  simp only
  split_ifs <;> simp [Sound]

theorem Utf8State.Sound.step {state : Utf8State} (sound : state.Sound) (b : UInt8) :
    (state.step b).2.Sound := by
  cases state with
  | idle => exact sound_start b
  | inside bits owed low high =>
    rw [Utf8State.step]
    split
    · simp only
      split <;> simp [Sound]
    · exact sound_start b

theorem Utf8State.length_start (b : UInt8) :
    (start b).1.length + (start b).2.unfinished.length = 1 := by
  unfold start
  simp only
  split_ifs <;> rfl

theorem Utf8State.length_step_le (state : Utf8State) (b : UInt8) :
    (state.step b).1.length + (state.step b).2.unfinished.length ≤ state.unfinished.length + 1 := by
  cases state with
  | idle => exact Nat.le_of_eq (length_start b)
  | inside bits owed low high =>
    have alone := length_start b
    rw [Utf8State.step]
    split
    · simp only
      split <;> simp [unfinished]
    · simp only [unfinished, List.length_cons, List.length_nil] at alone ⊢
      omega

/-! ## First bytes -/

theorem readUtf8_first {first : UInt8} {next : Utf8State}
    (begins : Utf8State.start first = ([], next)) (rest : List UInt8) :
    readUtf8 .idle (first :: rest) = readUtf8 next rest := by
  rw [readUtf8, Utf8State.step, begins]
  rfl

variable {n : Nat}

theorem start_of_two (low : 0xC2 ≤ n) (high : n < 0xE0) :
    Utf8State.start (UInt8.ofNat n) = ([], .inside (n - 0xC0) 1 0x80 0xBF) := by
  simp only [Utf8State.start, toNat_ofNat_of_lt (show n < 256 by omega)]
  rw [if_neg (by omega), if_neg (by omega), if_pos high]

theorem start_of_three (low : 0xE0 ≤ n) (high : n < 0xF0) :
    Utf8State.start (UInt8.ofNat n) = ([], .inside (n - 0xE0) 2
      (if n = 0xE0 then 0xA0 else 0x80) (if n = 0xED then 0x9F else 0xBF)) := by
  simp only [Utf8State.start, toNat_ofNat_of_lt (show n < 256 by omega)]
  rw [if_neg (by omega), if_neg (by omega), if_neg (by omega)]
  by_cases least : n = 0xE0
  · subst least
    rfl
  · by_cases surrogate : n = 0xED
    · subst surrogate
      rfl
    · rw [if_neg least, if_neg surrogate, if_pos high, if_neg least, if_neg surrogate]

theorem start_of_four (low : 0xF0 ≤ n) (high : n < 0xF5) :
    Utf8State.start (UInt8.ofNat n) = ([], .inside (n - 0xF0) 3
      (if n = 0xF0 then 0x90 else 0x80) (if n = 0xF4 then 0x8F else 0xBF)) := by
  simp only [Utf8State.start, toNat_ofNat_of_lt (show n < 256 by omega)]
  rw [if_neg (by omega), if_neg (by omega), if_neg (by omega), if_neg (by omega), if_neg (by omega),
    if_neg (by omega)]
  by_cases least : n = 0xF0
  · subst least
    rfl
  · by_cases greatest : n = 0xF4
    · subst greatest
      rfl
    · rw [if_neg least, if_pos (by omega), if_neg least, if_neg greatest]

/-! ## Reading characters -/

theorem readUtf8_idle_char (c : Char) (rest : List UInt8) :
    readUtf8 .idle (String.utf8EncodeChar c ++ rest) = c :: readUtf8 .idle rest := by
  have valid := isValid_toNat c
  have value : c.val.toNat = c.toNat := rfl
  have whole : ∀ n, n = c.toNat → Char.ofNat n = c := by
    rintro n rfl
    exact Char.ofNat_toNat c
  unfold String.utf8EncodeChar
  simp only [value]
  split_ifs
  · have begins : Utf8State.start (UInt8.ofNat c.toNat) = ([c], .idle) := by
      simp only [Utf8State.start, toNat_ofNat_of_lt (show c.toNat < 256 by omega)]
      rw [if_pos (by omega), whole _ rfl]
    rw [List.singleton_append, readUtf8, Utf8State.step, begins]
    rfl
  · rw [List.cons_append, readUtf8_first (start_of_two (by omega) (by omega)),
      List.singleton_append, readUtf8_tail (by omega) (by simp) (by simp; omega), whole _ (by omega)]
  · rw [List.cons_append, readUtf8_first (start_of_three (by omega) (by omega)), List.cons_append,
      readUtf8_tails (by omega) ?_ ?_ (by omega), List.singleton_append,
      readUtf8_tail (by omega) (by simp) (by simp; omega), whole _ (by omega)]
    · split
      · simp
        omega
      · simp
    · split
      · simp
        omega
      · simp
        omega
  · rw [List.cons_append, readUtf8_first (start_of_four (by omega) (by omega)), List.cons_append,
      readUtf8_tails (by omega) ?_ ?_ (by omega), List.cons_append,
      readUtf8_tails (by omega) (by simp) (by simp; omega) (by omega), List.singleton_append,
      readUtf8_tail (by omega) (by simp) (by simp; omega), whole _ (by omega)]
    · split
      · simp
        omega
      · simp
    · split
      · simp
        omega
      · simp
        omega

theorem readUtf8_char {state : Utf8State} (sound : state.Sound) (c : Char) (rest : List UInt8) :
    readUtf8 state (String.utf8EncodeChar c ++ rest) =
      state.unfinished ++ c :: readUtf8 .idle rest := by
  cases state with
  | idle => exact readUtf8_idle_char c rest
  | inside bits owed low high =>
    rw [← readUtf8_idle_char c rest]
    rcases utf8EncodeChar_cases c with ⟨small, bytes⟩ | ⟨-, first, tails, bytes, large, -⟩
    · rw [bytes]
      refine readUtf8_broken (fun within => ?_) rest
      rw [UInt8.le_iff_toNat_le, toNat_ofNat_of_lt (by omega)] at within
      have := sound.1
      omega
    · rw [bytes]
      refine readUtf8_broken (fun within => ?_) _
      have := UInt8.le_iff_toNat_le.1 within.2
      have := sound.2
      omega

/-- A text is read back from its bytes. -/
theorem readUtf8_flatMap (cs : List Char) :
    readUtf8 .idle (cs.flatMap String.utf8EncodeChar) = cs := by
  induction cs with
  | nil => rfl
  | cons c rest ih => rw [List.flatMap_cons, readUtf8_idle_char, ih]

theorem readUtf8_cons (state : Utf8State) (b : UInt8) (rest : List UInt8) :
    readUtf8 state (b :: rest) = (state.step b).1 ++ readUtf8 (state.step b).2 rest := by
  cases state <;> rfl

end Gatehouse.Text
