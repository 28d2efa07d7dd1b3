/-!
# The nonce window

The tokens a session still honours: the most recent ones, oldest first, up to a capacity of at
least one. Looking a token up never makes it younger, and a token that is still held is not
entered again.
-/

namespace Gatehouse

/-- The last `n` elements of a list. -/
def lastOf {α : Type} (n : Nat) (xs : List α) : List α := xs.drop (xs.length - n)

theorem lastOf_length {α : Type} (n : Nat) (xs : List α) :
    (lastOf n xs).length = min n xs.length := by
  rw [lastOf, List.length_drop]; omega

theorem lastOf_of_length_le {α : Type} {n : Nat} {xs : List α} (h : xs.length ≤ n) :
    lastOf n xs = xs := by
  rw [lastOf, Nat.sub_eq_zero_of_le h, List.drop_zero]

theorem lastOf_sublist {α : Type} (n : Nat) (xs : List α) : (lastOf n xs).Sublist xs :=
  List.drop_sublist _ _

theorem lastOf_append {α : Type} (n : Nat) (xs ys : List α) :
    lastOf n (lastOf n xs ++ ys) = lastOf n (xs ++ ys) := by
  have cut : lastOf n xs ++ ys = (xs ++ ys).drop (xs.length - n) := by
    rw [lastOf, List.drop_append_of_le_length (by omega)]
  rw [cut, lastOf, lastOf, List.drop_drop]
  congr 1
  rw [List.length_drop, List.length_append]
  omega

theorem lastOf_subset_append {α : Type} (n : Nat) (xs ys : List α) :
    lastOf n ys ⊆ lastOf n (xs ++ ys) := by
  have suffix : lastOf n ys <:+ lastOf n (xs ++ ys) := by
    refine List.suffix_of_suffix_length_le ((List.drop_suffix _ _).trans (List.suffix_append xs ys))
      (List.drop_suffix _ _) ?_
    rw [lastOf_length, lastOf_length, List.length_append]
    omega
  exact suffix.subset

theorem getElem_mem_lastOf {α : Type} {n m : Nat} {xs : List α} (distinct : xs.Nodup)
    (h : m < xs.length) : xs[m] ∈ lastOf n xs ↔ xs.length ≤ n + m := by
  rw [lastOf, List.mem_drop_iff_getElem]
  constructor
  · rintro ⟨k, hk, same⟩
    have := (List.getElem_inj distinct).1 same
    omega
  · intro late
    refine ⟨m - (xs.length - n), by omega, ?_⟩
    congr 1
    omega

/-- The most recent tokens, oldest first. -/
structure Window where
  capacity : Nat
  tokens : List String
  capacity_pos : 0 < capacity
  bounded : tokens.length ≤ capacity
  distinct : tokens.Nodup
  deriving DecidableEq, Repr

namespace Window

/-- The capacity of a window when none is configured. -/
def defaultCapacity : Nat := 5

/-- An empty window; a capacity of zero counts as one. -/
def ofCapacity (capacity : Nat) : Window where
  capacity := max capacity 1
  tokens := []
  capacity_pos := by omega
  bounded := by simp
  distinct := by simp

def contains (w : Window) (token : String) : Bool := w.tokens.contains token

def size (w : Window) : Nat := w.tokens.length

/-- Enters a token behind the others; the oldest ones go once the window is over capacity. -/
def add (w : Window) (token : String) : Window :=
  if h : token ∈ w.tokens then w
  else { w with
    tokens := lastOf w.capacity (w.tokens ++ [token])
    bounded := by rw [lastOf_length]; omega
    distinct := List.Nodup.sublist (lastOf_sublist ..) <| by
      rw [List.nodup_append]
      refine ⟨w.distinct, by simp, ?_⟩
      rintro a ha b hb rfl
      exact h (List.mem_singleton.1 hb ▸ ha) }

theorem contains_iff {w : Window} {token : String} : w.contains token = true ↔ token ∈ w.tokens := by
  simp [contains]

@[simp] theorem capacity_ofCapacity (capacity : Nat) :
    (ofCapacity capacity).capacity = max capacity 1 := rfl

@[simp] theorem tokens_ofCapacity (capacity : Nat) : (ofCapacity capacity).tokens = [] := rfl

@[simp] theorem capacity_add (w : Window) (token : String) : (w.add token).capacity = w.capacity := by
  rw [add]; split <;> rfl

theorem tokens_add (w : Window) (token : String) :
    (w.add token).tokens =
      if token ∈ w.tokens then w.tokens else lastOf w.capacity (w.tokens ++ [token]) := by
  rw [add]; split <;> rfl

theorem tokens_foldl_add (w : Window) (tokens : List String) (new : (w.tokens ++ tokens).Nodup) :
    (tokens.foldl add w).tokens = lastOf w.capacity (w.tokens ++ tokens) := by
  induction tokens generalizing w with
  | nil => rw [List.foldl_nil, List.append_nil, lastOf_of_length_le w.bounded]
  | cons token rest ih =>
    have absent : token ∉ w.tokens := by
      intro held
      exact (List.nodup_append.1 new).2.2 token held token List.mem_cons_self rfl
    have added : (w.add token).tokens = lastOf w.capacity (w.tokens ++ [token]) := by
      rw [tokens_add, if_neg absent]
    have split : w.tokens ++ token :: rest = w.tokens ++ [token] ++ rest := by simp
    rw [split] at new ⊢
    rw [List.foldl_cons, ih, added, capacity_add, lastOf_append]
    rw [added]
    exact new.sublist ((lastOf_sublist ..).append_right rest)

theorem capacity_foldl_add (w : Window) (tokens : List String) :
    (tokens.foldl add w).capacity = w.capacity := by
  induction tokens generalizing w with
  | nil => rfl
  | cons token rest ih => rw [List.foldl_cons, ih, capacity_add]

end Window

end Gatehouse
