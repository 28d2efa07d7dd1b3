/-!
# Registries

Finite maps that remember the order in which their keys were first entered. Sessions,
attributes, parameters and counters are kept in them. Every key occurs once, by construction.
-/

namespace Gatehouse

/-- A finite map from keys to values, in the order of entry. -/
structure Registry (κ α : Type) where
  entries : List (κ × α)
  distinct : (entries.map Prod.fst).Nodup

namespace Registry

variable {κ α : Type}

def empty : Registry κ α := ⟨[], by simp⟩

instance : Inhabited (Registry κ α) := ⟨empty⟩

@[ext] theorem ext {r s : Registry κ α} (h : r.entries = s.entries) : r = s := by
  cases r; cases s; simp_all

/-- The keys in the order of entry. -/
def keys (r : Registry κ α) : List κ := r.entries.map Prod.fst

def size (r : Registry κ α) : Nat := r.entries.length

/-- The entries that pass a test. -/
def retain (r : Registry κ α) (keep : κ → α → Bool) : Registry κ α :=
  ⟨r.entries.filter fun e => keep e.1 e.2,
    List.Nodup.sublist (List.Sublist.map _ List.filter_sublist) r.distinct⟩

variable [DecidableEq κ]

instance [DecidableEq α] : DecidableEq (Registry κ α) := fun r s =>
  decidable_of_iff (r.entries = s.entries) ⟨ext, congrArg entries⟩

def get? (r : Registry κ α) (k : κ) : Option α := r.entries.lookup k

def contains (r : Registry κ α) (k : κ) : Bool := (r.get? k).isSome

/-- The registry without the entry of a key. -/
def erase (r : Registry κ α) (k : κ) : Registry κ α := r.retain fun k' _ => k' ≠ k

/-- Changes the value under a key in its place. -/
def replace (r : Registry κ α) (k : κ) (v : α) : Registry κ α :=
  ⟨r.entries.map fun e => if e.1 = k then (e.1, v) else e, by
    have h : (r.entries.map fun e => if e.1 = k then (e.1, v) else e).map Prod.fst =
        r.entries.map Prod.fst := by
      rw [List.map_map]
      exact List.map_congr_left fun e _ => by simp only [Function.comp]; split <;> rfl
    rw [h]; exact r.distinct⟩

/-- Enters a value under a key: in place of the old value, or behind the other entries. -/
def put (r : Registry κ α) (k : κ) (v : α) : Registry κ α :=
  if h : k ∈ r.entries.map Prod.fst then r.replace k v
  else ⟨r.entries ++ [(k, v)], by
    rw [List.map_append, List.nodup_append]
    refine ⟨r.distinct, by simp, ?_⟩
    intro a ha b hb
    simp at hb
    subst hb
    intro hab
    exact h (hab ▸ ha)⟩

/-- Enters the pairs of a list one after another, so that the last value of a key counts. -/
def ofList (pairs : List (κ × α)) : Registry κ α :=
  pairs.foldl (fun r e => r.put e.1 e.2) empty

/-! ## Look-ups -/

theorem get?_eq_some_iff {r : Registry κ α} {k : κ} {v : α} :
    r.get? k = some v ↔ (k, v) ∈ r.entries := by
  obtain ⟨entries, distinct⟩ := r
  simp only [get?]
  induction entries with
  | nil => simp
  | cons e rest ih =>
    obtain ⟨k', v'⟩ := e
    rw [List.map_cons, List.nodup_cons] at distinct
    rw [List.lookup_cons]
    by_cases h : k = k'
    · subst h
      have absent : (k, v) ∉ rest := fun hm => distinct.1 (List.mem_map.2 ⟨_, hm, rfl⟩)
      simp [absent, eq_comm]
    · have : (k == k') = false := by simp [h]
      simp [this, h, ih distinct.2]

theorem get?_eq_none_iff {r : Registry κ α} {k : κ} : r.get? k = none ↔ k ∉ r.keys := by
  rw [Option.eq_none_iff_forall_ne_some]
  simp only [ne_eq, get?_eq_some_iff, keys, List.mem_map, not_exists, not_and, Prod.forall]
  grind

theorem exists_get?_iff {r : Registry κ α} {k : κ} : (∃ v, r.get? k = some v) ↔ k ∈ r.keys := by
  rw [← Option.ne_none_iff_exists', ne_eq, get?_eq_none_iff, Classical.not_not]

@[simp] theorem get?_empty (k : κ) : (empty : Registry κ α).get? k = none := rfl

@[simp] theorem get?_put (r : Registry κ α) (k k' : κ) (v : α) :
    (r.put k v).get? k' = if k' = k then some v else r.get? k' := by
  apply Option.ext
  intro w
  by_cases hk : k ∈ r.entries.map Prod.fst
  · simp only [put, hk, dif_pos, get?_eq_some_iff, replace, List.mem_map]
    by_cases h : k' = k
    · subst h; simp only [if_pos]; simp at hk ⊢; grind
    · simp only [if_neg h, get?_eq_some_iff]; grind
  · simp only [put, hk, dif_neg, not_false_eq_true, get?_eq_some_iff, List.mem_append,
      List.mem_singleton]
    by_cases h : k' = k
    · subst h; simp at hk ⊢; grind
    · simp only [if_neg h, get?_eq_some_iff]; grind

theorem entries_put (r : Registry κ α) (k : κ) (v : α) :
    (r.put k v).entries =
      if k ∈ r.keys then r.entries.map fun e => if e.1 = k then (e.1, v) else e
      else r.entries ++ [(k, v)] := by
  rw [put]; split <;> simp_all [keys, replace]

theorem put_put (r : Registry κ α) (k : κ) (v w : α) : (r.put k v).put k w = r.put k w := by
  have held : (r.put k v).get? k ≠ none := by simp
  have entered : k ∈ (r.put k v).keys :=
    Classical.byContradiction fun absent => held (get?_eq_none_iff.2 absent)
  apply ext
  rw [entries_put, if_pos entered, entries_put, entries_put]
  split
  · rw [List.map_map]
    refine List.map_congr_left fun e _ => ?_
    by_cases h : e.1 = k <;> simp [h]
  · next absent =>
    have other : ∀ e ∈ r.entries, e.1 ≠ k := by
      rintro e he rfl
      exact absent (List.mem_map.2 ⟨e, he, rfl⟩)
    rw [List.map_append]
    congr 1
    · exact (List.map_congr_left fun e he => if_neg (other e he)).trans (List.map_id _)
    · simp

theorem put_of_held {r : Registry κ α} {k : κ} {v : α} (held : r.get? k = some v) :
    r.put k v = r := by
  have member := get?_eq_some_iff.1 held
  have entered : k ∈ r.keys := List.mem_map.2 ⟨_, member, rfl⟩
  apply ext
  rw [entries_put, if_pos entered]
  refine (List.map_congr_left fun e he => ?_).trans (List.map_id _)
  split
  · next same =>
    have := get?_eq_some_iff.2 (show (k, e.2) ∈ r.entries from same ▸ he)
    rw [held, Option.some.injEq] at this
    exact Prod.ext rfl this
  · rfl

@[simp] theorem get?_retain (r : Registry κ α) (keep : κ → α → Bool) (k : κ) :
    (r.retain keep).get? k = (r.get? k).filter (keep k) := by
  apply Option.ext
  intro v
  simp [get?_eq_some_iff, retain, Option.filter_eq_some_iff]

@[simp] theorem get?_erase (r : Registry κ α) (k k' : κ) :
    (r.erase k).get? k' = if k' = k then none else r.get? k' := by
  rw [erase, get?_retain]
  by_cases h : k' = k <;> cases r.get? k' <;> simp [h, Option.filter]

end Registry

end Gatehouse
