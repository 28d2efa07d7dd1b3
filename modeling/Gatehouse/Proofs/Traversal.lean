import Mathlib.Data.List.Basic

/-!
# Lists read item by item

Settings are read item by item, and the first failure is the failure of the whole list. What a
list is read as is known from its items.
-/

namespace Gatehouse

variable {ε ε' α β γ : Type}

theorem bind_eq_ok {x : Except ε α} {next : α → Except ε β} {b : β} :
    (x >>= next) = .ok b ↔ ∃ a, x = .ok a ∧ next a = .ok b := by
  cases x with
  | error cause => simp [bind, Except.bind]
  | ok a => simp [bind, Except.bind]

theorem bind_eq_error {x : Except ε α} {next : α → Except ε β} {cause : ε} :
    (x >>= next) = .error cause ↔ x = .error cause ∨ ∃ a, x = .ok a ∧ next a = .error cause := by
  cases x with
  | error other => simp [bind, Except.bind]
  | ok a => simp [bind, Except.bind]

theorem map_eq_ok {x : Except ε α} {f : α → β} {b : β} :
    x.map f = .ok b ↔ ∃ a, x = .ok a ∧ f a = b := by
  cases x with
  | error cause => simp [Except.map]
  | ok a => simp [Except.map]

@[simp] theorem mapError_eq_ok {x : Except ε α} {f : ε → ε'} {a : α} :
    x.mapError f = .ok a ↔ x = .ok a := by
  cases x with
  | error cause => simp [Except.mapError]
  | ok a => simp [Except.mapError]

theorem mapError_eq_error {x : Except ε α} {f : ε → ε'} {failure : ε'} :
    x.mapError f = .error failure ↔ ∃ cause, x = .error cause ∧ f cause = failure := by
  cases x with
  | error cause => simp [Except.mapError]
  | ok a => simp [Except.mapError]

variable {read : α → Except ε β} {xs : List α} {ys : List β}

theorem mapM_cons_eq_ok {x : α} :
    (x :: xs).mapM read = .ok ys ↔
      ∃ y rest, read x = .ok y ∧ xs.mapM read = .ok rest ∧ y :: rest = ys := by
  simp only [List.mapM_cons, bind_eq_ok]
  constructor
  · rintro ⟨y, first, rest, others, whole⟩
    exact ⟨y, rest, first, others, Except.ok.inj whole⟩
  · rintro ⟨y, rest, first, others, rfl⟩
    exact ⟨y, first, rest, others, rfl⟩

theorem exists_mapM_eq_ok : (∃ ys, xs.mapM read = .ok ys) ↔ ∀ x ∈ xs, ∃ y, read x = .ok y := by
  induction xs with
  | nil => exact ⟨fun _ => nofun, fun _ => ⟨[], rfl⟩⟩
  | cons x xs ih =>
    rw [List.forall_mem_cons, ← ih]
    constructor
    · rintro ⟨ys, whole⟩
      obtain ⟨y, rest, first, others, -⟩ := mapM_cons_eq_ok.1 whole
      exact ⟨⟨y, first⟩, rest, others⟩
    · rintro ⟨⟨y, first⟩, rest, others⟩
      exact ⟨y :: rest, mapM_cons_eq_ok.2 ⟨y, rest, first, others, rfl⟩⟩

theorem mem_mapM (whole : xs.mapM read = .ok ys) {y : β} :
    y ∈ ys ↔ ∃ x ∈ xs, read x = .ok y := by
  induction xs generalizing ys with
  | nil =>
    obtain rfl : [] = ys := Except.ok.inj whole
    simp
  | cons x xs ih =>
    obtain ⟨first, rest, head, others, rfl⟩ := mapM_cons_eq_ok.1 whole
    simp [ih others, head, eq_comm]

theorem map_filter_mapM {f : α → γ} {g : β → γ} {p : α → Bool} {q : β → Bool}
    (alike : ∀ x y, read x = .ok y → g y = f x ∧ q y = p x) (whole : xs.mapM read = .ok ys) :
    (ys.filter q).map g = (xs.filter p).map f := by
  induction xs generalizing ys with
  | nil =>
    obtain rfl : [] = ys := Except.ok.inj whole
    rfl
  | cons x xs ih =>
    obtain ⟨y, rest, head, others, rfl⟩ := mapM_cons_eq_ok.1 whole
    obtain ⟨value, test⟩ := alike x y head
    rw [List.filter_cons, List.filter_cons, test]
    split
    · rw [List.map_cons, List.map_cons, value, ih others]
    · exact ih others

theorem map_mapM {f : α → γ} {g : β → γ} (alike : ∀ x y, read x = .ok y → g y = f x)
    (whole : xs.mapM read = .ok ys) : ys.map g = xs.map f := by
  have all := map_filter_mapM (p := fun _ => true) (q := fun _ => true)
    (fun x y head => ⟨alike x y head, rfl⟩) whole
  rwa [List.filter_true, List.filter_true] at all

theorem length_mapM (whole : xs.mapM read = .ok ys) : ys.length = xs.length := by
  have units := map_mapM (f := fun _ => ()) (g := fun _ => ()) (fun _ _ _ => rfl) whole
  simpa using congrArg List.length units

/-! ## Failures -/

/-- The failure of what could not be read. -/
def failure? : Except ε α → Option ε
  | .error cause => some cause
  | .ok _ => none

theorem failure?_eq_some {x : Except ε α} {cause : ε} :
    failure? x = some cause ↔ x = .error cause := by
  cases x with
  | error other => simp [failure?]
  | ok a => simp [failure?]

theorem failure?_eq_none {x : Except ε α} : failure? x = none ↔ ∃ a, x = .ok a := by
  cases x with
  | error cause => simp [failure?]
  | ok a => simp [failure?]

theorem failure?_bind {x : Except ε α} {next : α → Except ε β} {later : Option ε}
    (second : ∀ a, x = .ok a → failure? (next a) = later) :
    failure? (x >>= next) = (failure? x).or later := by
  cases x with
  | error cause => rfl
  | ok a => exact second a rfl

theorem failure?_bind_pure (x : Except ε α) (f : α → β) :
    failure? (x >>= fun a => pure (f a)) = failure? x := by
  cases x with
  | error cause => rfl
  | ok a => rfl

@[simp] theorem failure?_mapError (x : Except ε α) (f : ε → ε') :
    failure? (x.mapError f) = (failure? x).map f := by
  cases x with
  | error cause => rfl
  | ok a => rfl

/-- The failure of a list is the first one among its items. -/
theorem failure?_mapM (read : α → Except ε β) (xs : List α) :
    failure? (xs.mapM read) = (xs.filterMap fun x => failure? (read x)).head? := by
  induction xs with
  | nil => rfl
  | cons x xs ih =>
    rw [List.mapM_cons, List.filterMap_cons]
    cases read x with
    | error cause => rfl
    | ok y =>
      -- an item that can be read leaves the failure to the rest
      change failure? _ = (xs.filterMap fun x => failure? (read x)).head?
      rw [← ih]
      cases xs.mapM read with
      | error cause => rfl
      | ok rest => rfl

theorem mapM_eq_error {cause : ε} (failed : xs.mapM read = .error cause) :
    ∃ x ∈ xs, read x = .error cause := by
  rw [← failure?_eq_some, failure?_mapM] at failed
  obtain ⟨x, member, reason⟩ := List.mem_filterMap.1 (List.mem_of_head? failed)
  exact ⟨x, member, failure?_eq_some.1 reason⟩

end Gatehouse
