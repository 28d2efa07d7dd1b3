import Mathlib.Data.String.Basic
import Gatehouse.Proofs.Text.Utf8

/-!
# The order of bytes

Texts are compared by their characters. Their UTF-8 bytes compare the same way
(`utf8_lt_utf8`): a character that comes first also has the lesser bytes, at the first byte unless
both have the same number of bytes, and at the first tail that differs otherwise.
-/

namespace Gatehouse.Text

/-! ## Bytes one by one -/

section Bytes

variable {m n : Nat} {xs ys : List UInt8}

theorem ofNat_cons_lt (hm : m < 256) (hn : n < 256) (less : m < n ∨ m = n ∧ xs < ys) :
    UInt8.ofNat m :: xs < UInt8.ofNat n :: ys := by
  rw [List.cons_lt_cons_iff, UInt8.lt_iff_toNat_lt, toNat_ofNat_of_lt hm, toNat_ofNat_of_lt hn]
  exact less.imp_right fun ⟨same, rest⟩ => ⟨congrArg UInt8.ofNat same, rest⟩

theorem div_lt_or (k : Nat) (less : m < n) : m / k < n / k ∨ m / k = n / k ∧ m % k < n % k := by
  rcases Nat.lt_or_eq_of_le (Nat.div_le_div_right (c := k) less.le) with front | same
  · exact .inl front
  · have left := Nat.div_add_mod m k
    have right := Nat.div_add_mod n k
    rw [same] at left
    exact .inr ⟨same, by omega⟩

theorem tail_lt (less : m % 64 < n % 64) :
    UInt8.ofNat (m % 64 + 128) :: xs < UInt8.ofNat (n % 64 + 128) :: ys :=
  ofNat_cons_lt (by omega) (by omega) (.inl (by omega))

theorem two_tails_lt (less : m % 4096 < n % 4096) :
    UInt8.ofNat (m / 64 % 64 + 128) :: UInt8.ofNat (m % 64 + 128) :: xs <
      UInt8.ofNat (n / 64 % 64 + 128) :: UInt8.ofNat (n % 64 + 128) :: ys := by
  refine ofNat_cons_lt (by omega) (by omega) ?_
  rcases div_lt_or 64 less with front | ⟨same, last⟩
  · exact .inl (by omega)
  · exact .inr ⟨by omega, tail_lt (by omega)⟩

theorem three_tails_lt (less : m % 262144 < n % 262144) :
    UInt8.ofNat (m / 4096 % 64 + 128) :: UInt8.ofNat (m / 64 % 64 + 128) ::
        UInt8.ofNat (m % 64 + 128) :: xs <
      UInt8.ofNat (n / 4096 % 64 + 128) :: UInt8.ofNat (n / 64 % 64 + 128) ::
        UInt8.ofNat (n % 64 + 128) :: ys := by
  refine ofNat_cons_lt (by omega) (by omega) ?_
  rcases div_lt_or 4096 less with front | ⟨same, last⟩
  · exact .inl (by omega)
  · exact .inr ⟨by omega, two_tails_lt (by omega)⟩

end Bytes

/-! ## Characters and texts -/

theorem utf8EncodeChar_append_lt {c d : Char} (less : c < d) (xs ys : List UInt8) :
    String.utf8EncodeChar c ++ xs < String.utf8EncodeChar d ++ ys := by
  have below : c.toNat < d.toNat := less
  have valid := isValid_toNat d
  have valueC : c.val.toNat = c.toNat := rfl
  have valueD : d.val.toNat = d.toNat := rfl
  unfold String.utf8EncodeChar
  simp only [valueC, valueD]
  split_ifs
  all_goals
    simp only [List.cons_append, List.nil_append]
    refine ofNat_cons_lt (by omega) (by omega) ?_
  -- the first byte decides unless both characters have tails, and the same number of them
  all_goals try exact .inl (by omega)
  · rcases div_lt_or 64 below with front | ⟨same, last⟩
    · exact .inl (by omega)
    · exact .inr ⟨by omega, tail_lt last⟩
  · rcases div_lt_or 4096 below with front | ⟨same, last⟩
    · exact .inl (by omega)
    · exact .inr ⟨by omega, two_tails_lt last⟩
  · rcases div_lt_or 262144 below with front | ⟨same, last⟩
    · exact .inl (by omega)
    · exact .inr ⟨by omega, three_tails_lt last⟩

theorem flatMap_utf8EncodeChar_lt {cs ds : List Char} (less : cs < ds) :
    cs.flatMap String.utf8EncodeChar < ds.flatMap String.utf8EncodeChar := by
  induction less with
  | @nil d ds =>
    rw [List.flatMap_nil, List.flatMap_cons]
    obtain ⟨b, bs, bytes⟩ := List.exists_cons_of_ne_nil (String.utf8EncodeChar_ne_nil (c := d))
    rw [bytes]
    exact List.nil_lt_cons b _
  | rel front => exact utf8EncodeChar_append_lt front _ _
  | cons _ ih => exact List.append_left_lt ih

/-- Texts compare as their bytes do. -/
theorem utf8_lt_utf8 {s t : String} : utf8 s < utf8 t ↔ s < t := by
  have mono {s t : String} (less : s < t) : utf8 s < utf8 t :=
    flatMap_utf8EncodeChar_lt (String.lt_iff_toList_lt.1 less)
  refine ⟨fun less => ?_, mono⟩
  rcases lt_trichotomy s t with below | rfl | above
  · exact below
  · exact absurd less (List.lt_irrefl _)
  · exact absurd (mono above) (List.lt_asymm less)

theorem utf8_le_utf8 {s t : String} : utf8 s ≤ utf8 t ↔ s ≤ t := by
  rw [← List.not_lt, utf8_lt_utf8, not_lt]

end Gatehouse.Text
