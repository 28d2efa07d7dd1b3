/-!
# Cutting lists at a mark

The two ways in which headers, queries and paths are taken apart: at the first occurrence of a
mark, or at every occurrence.
-/

namespace Gatehouse.Text

variable {α : Type} [DecidableEq α]

/-- The part before the first `mark`, and the part after it if the mark occurs. -/
def cut (mark : α) : List α → List α × Option (List α)
  | [] => ([], none)
  | c :: rest =>
    if c = mark then ([], some rest)
    else ((c :: (cut mark rest).1), (cut mark rest).2)

/-- The first piece of a list cut at every `mark`, and the pieces that follow. -/
def pieces (mark : α) : List α → List α × List (List α)
  | [] => ([], [])
  | c :: rest =>
    let (piece, more) := pieces mark rest
    if c = mark then ([], piece :: more) else (c :: piece, more)

/-- The pieces of a list cut at every `mark`; there is always at least one. -/
def split (mark : α) (cs : List α) : List (List α) :=
  (pieces mark cs).1 :: (pieces mark cs).2

/-- The part after the last `mark`, if the mark occurs. -/
def afterLast? (mark : α) (cs : List α) : Option (List α) :=
  if mark ∈ cs then some ((cs.reverse.takeWhile (· ≠ mark)).reverse) else none

/-! ## Where a list is cut -/

theorem cut_of_not_mem {mark : α} {cs : List α} (h : mark ∉ cs) : cut mark cs = (cs, none) := by
  induction cs with
  | nil => rfl
  | cons c rest ih =>
    rw [List.mem_cons, not_or] at h
    simp [cut, Ne.symm h.1, ih h.2]

theorem cut_append {mark : α} {before : List α} (h : mark ∉ before) (after : List α) :
    cut mark (before ++ mark :: after) = (before, some after) := by
  induction before with
  | nil => simp [cut]
  | cons c rest ih =>
    rw [List.mem_cons, not_or] at h
    simp [cut, Ne.symm h.1, ih h.2]

theorem not_mem_cut_fst (mark : α) (cs : List α) : mark ∉ (cut mark cs).1 := by
  induction cs with
  | nil => simp [cut]
  | cons c rest ih =>
    by_cases h : c = mark
    · simp [cut, h]
    · simp [cut, h, Ne.symm h, ih]

theorem split_eq_splitOn (mark : α) (cs : List α) : split mark cs = cs.splitOn mark := by
  induction cs with
  | nil => simp [split, pieces]
  | cons c rest ih =>
    rw [List.splitOn_cons_eq_if_modifyHead, ← ih]
    by_cases h : c = mark
    · simp [split, pieces, h]
    · simp [split, pieces, h]

end Gatehouse.Text
