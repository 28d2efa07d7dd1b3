import Mathlib.Data.List.DropRight
import Gatehouse.Text.Blank

/-!
# Trimmed texts

A trimmed text is a part of the text that it is made of, and has no blanks at its ends. A text that
has none there is left as it is.
-/

namespace Gatehouse.Text

variable {cs : List Char}

theorem dropWhile_of_head {p : Char → Bool} (stays : ∀ c ∈ cs.head?, p c = false) :
    cs.dropWhile p = cs := by
  cases cs with
  | nil => rfl
  | cons c rest => rw [List.dropWhile_cons_of_neg (by simp [stays c rfl])]

theorem not_of_head_dropWhile {p : Char → Bool} :
    ∀ c ∈ (cs.dropWhile p).head?, p c = false := by
  intro c first
  have stays := List.head?_dropWhile_not p cs
  rw [Option.mem_def.1 first] at stays
  simpa using stays

theorem trimChars_sublist (cs : List Char) : (trimChars cs).Sublist cs :=
  (List.rdropWhile_prefix isBlank _).sublist.trans (List.dropWhile_sublist isBlank)

theorem not_blank_of_head_trimChars (cs : List Char) :
    ∀ c ∈ (trimChars cs).head?, isBlank c = false := by
  obtain ⟨rest, whole⟩ : trimChars cs <+: cs.dropWhile isBlank := List.rdropWhile_prefix isBlank _
  intro c first
  have kept : c ∈ (cs.dropWhile isBlank).head? := by
    rw [← whole, List.head?_append, Option.mem_def.1 first]
    rfl
  exact not_of_head_dropWhile c kept

theorem not_blank_of_last_trimChars (cs : List Char) :
    ∀ c ∈ (trimChars cs).getLast?, isBlank c = false := by
  intro c last
  rw [trimChars, List.getLast?_reverse] at last
  exact not_of_head_dropWhile c last

theorem trimChars_eq_self (first : ∀ c ∈ cs.head?, isBlank c = false)
    (last : ∀ c ∈ cs.getLast?, isBlank c = false) : trimChars cs = cs := by
  rw [trimChars, dropWhile_of_head first, dropWhile_of_head, List.reverse_reverse]
  rwa [List.head?_reverse]

theorem trimChars_append {before after : List Char} (nonempty : cs ≠ [])
    (first : ∀ c ∈ cs.head?, isBlank c = false) (last : ∀ c ∈ cs.getLast?, isBlank c = false)
    (blankBefore : ∀ c ∈ before, isBlank c = true) (blankAfter : ∀ c ∈ after, isBlank c = true) :
    trimChars (before ++ cs ++ after) = cs := by
  have front : (before ++ cs ++ after).dropWhile isBlank = cs ++ after := by
    rw [List.append_assoc, List.dropWhile_append_of_pos blankBefore, dropWhile_of_head]
    rwa [List.head?_append_of_ne_nil _ nonempty]
  have back : (cs ++ after).reverse.dropWhile isBlank = cs.reverse := by
    rw [List.reverse_append, List.dropWhile_append_of_pos, dropWhile_of_head]
    · rwa [List.head?_reverse]
    · simpa using blankAfter
  rw [trimChars, front, back, List.reverse_reverse]

theorem exists_trimChars (cs : List Char) :
    ∃ before after, cs = before ++ trimChars cs ++ after ∧
      (∀ c ∈ before, isBlank c = true) ∧ ∀ c ∈ after, isBlank c = true := by
  let inner := cs.dropWhile isBlank
  refine ⟨cs.takeWhile isBlank, (inner.reverse.takeWhile isBlank).reverse, ?_,
    fun c h => List.mem_takeWhile_imp h,
    fun c h => List.mem_takeWhile_imp (List.mem_reverse.1 h)⟩
  have back : trimChars cs ++ (inner.reverse.takeWhile isBlank).reverse = inner := by
    rw [trimChars, ← List.reverse_append, List.takeWhile_append_dropWhile, List.reverse_reverse]
  rw [List.append_assoc, back, List.takeWhile_append_dropWhile]

theorem trim_trim (text : String) : trim (trim text) = trim text := by
  rw [← String.toList_inj, toList_trim, toList_trim]
  exact trimChars_eq_self (not_blank_of_head_trimChars _) (not_blank_of_last_trimChars _)

end Gatehouse.Text
