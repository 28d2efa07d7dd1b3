import Gatehouse.Nonce.Window
import Mathlib.Data.Finset.Basic
import Mathlib.Data.Finset.Lattice.Lemmas

/-!
# The window as a bounded queue

Tokens are entered into a window and looked up, in any order and any number of times. A look-up
leaves no trace. What counts are the tokens that were new when they were entered
(`Window.insertions`): the window holds the last of these, up to its capacity
(`Window.tokens_run`). The same answers are given by a queue that keeps the set of its members
beside it and pops its oldest tokens one by one (`Queue`).
-/

namespace Gatehouse

inductive WindowCall where
  | add (token : String)
  | contains (token : String)
  deriving DecidableEq, Repr

namespace WindowCall

/-- Makes calls one after another: the answers of the look-ups, and the state that is left. -/
def run {σ : Type} (add : σ → String → σ) (contains : σ → String → Bool) (s : σ) :
    List WindowCall → List Bool × σ
  | [] => ([], s)
  | .add token :: rest => run add contains (add s token) rest
  | .contains token :: rest =>
    let (answers, left) := run add contains s rest
    (contains s token :: answers, left)

/-- The tokens that calls ask to be entered, the latest one last. -/
def added (calls : List WindowCall) : List String :=
  calls.filterMap fun call => match call with
    | .add token => some token
    | .contains _ => none

theorem run_snd {σ : Type} (add : σ → String → σ) (contains : σ → String → Bool) (s : σ)
    (calls : List WindowCall) : (run add contains s calls).2 = (added calls).foldl add s := by
  induction calls generalizing s with
  | nil => rfl
  | cons call rest ih =>
    cases call with
    | add token => exact ih (add s token)
    | contains token => exact ih s

end WindowCall

/-! ## A queue with its members -/

/-- Tokens in the order in which they were entered, and the set of them, by which they are looked
up. -/
structure Queue where
  capacity : Nat
  order : List String
  members : Finset String

namespace Queue

def ofCapacity (capacity : Nat) : Queue := ⟨max capacity 1, [], ∅⟩

def contains (q : Queue) (token : String) : Bool := token ∈ q.members

/-- Pops the oldest token, and removes it from the members, as long as there are too many. -/
def evict (capacity : Nat) : List String → Finset String → List String × Finset String
  | [], members => ([], members)
  | oldest :: rest, members =>
    if capacity < rest.length + 1 then evict capacity rest (members.erase oldest)
    else (oldest :: rest, members)

/-- Enters a token that is no member yet behind the others, and pops the oldest ones. -/
def add (q : Queue) (token : String) : Queue :=
  if token ∈ q.members then q
  else
    let (order, members) := evict q.capacity (q.order ++ [token]) (insert token q.members)
    { q with order, members }

def run (q : Queue) (calls : List WindowCall) : List Bool × Queue :=
  WindowCall.run add contains q calls

/-- The eviction stops when the last tokens are left, and they are the members that are left. -/
theorem evict_eq (capacity : Nat) {order : List String} (distinct : order.Nodup) :
    evict capacity order order.toFinset =
      (lastOf capacity order, (lastOf capacity order).toFinset) := by
  induction order with
  | nil => rw [evict, lastOf_of_length_le (Nat.zero_le capacity)]
  | cons oldest rest ih =>
    obtain ⟨new, others⟩ := List.nodup_cons.1 distinct
    rw [evict]
    split
    · next tooMany =>
      have popped : (oldest :: rest).toFinset.erase oldest = rest.toFinset := by
        rw [List.toFinset_cons, Finset.erase_insert (mt List.mem_toFinset.1 new)]
      have shorter : lastOf capacity (oldest :: rest) = lastOf capacity rest := by
        have more : rest.length + 1 - capacity = rest.length - capacity + 1 := by omega
        rw [lastOf, List.length_cons, more, List.drop_succ_cons, lastOf]
      rw [popped, ih others, shorter]
    · next enough =>
      have whole : (oldest :: rest).length ≤ capacity := by
        rw [List.length_cons]
        omega
      rw [lastOf_of_length_le whole]

/-- The queue holds the tokens of the window, and its members are these. -/
structure InStep (q : Queue) (w : Window) : Prop where
  capacity : q.capacity = w.capacity
  order : q.order = w.tokens
  members : q.members = w.tokens.toFinset

variable {q : Queue} {w : Window}

theorem inStep_ofCapacity (capacity : Nat) : (ofCapacity capacity).InStep (.ofCapacity capacity) :=
  ⟨rfl, rfl, rfl⟩

theorem InStep.mem_members (step : q.InStep w) (token : String) :
    token ∈ q.members ↔ token ∈ w.tokens := by
  rw [step.members, List.mem_toFinset]

theorem InStep.contains (step : q.InStep w) (token : String) :
    q.contains token = w.contains token := by
  rw [Bool.eq_iff_iff, Queue.contains, decide_eq_true_iff, step.mem_members, Window.contains_iff]

theorem InStep.add (step : q.InStep w) (token : String) : (q.add token).InStep (w.add token) := by
  have tokens := w.tokens_add token
  rw [Queue.add]
  by_cases held : token ∈ w.tokens
  · rw [if_pos held] at tokens
    rw [if_pos ((step.mem_members token).2 held)]
    exact ⟨step.capacity.trans (w.capacity_add token).symm, step.order.trans tokens.symm,
      by rw [step.members, tokens]⟩
  · rw [if_neg held] at tokens
    have distinct : (w.tokens ++ [token]).Nodup := by
      rw [List.nodup_append]
      refine ⟨w.distinct, List.nodup_singleton token, fun a ha b hb same => held ?_⟩
      rw [← List.mem_singleton.1 hb, ← same]
      exact ha
    have entered : insert token q.members = (w.tokens ++ [token]).toFinset := by
      rw [step.members, List.toFinset_append, Finset.insert_eq, Finset.union_comm]
      rfl
    rw [if_neg (mt (step.mem_members token).1 held), entered, step.order, step.capacity,
      evict_eq w.capacity distinct]
    exact ⟨(w.capacity_add token).symm, tokens.symm, by rw [tokens]⟩

theorem InStep.run (step : q.InStep w) (calls : List WindowCall) :
    (q.run calls).1 = (WindowCall.run Window.add Window.contains w calls).1 ∧
      (q.run calls).2.InStep (WindowCall.run Window.add Window.contains w calls).2 := by
  induction calls generalizing q w with
  | nil => exact ⟨rfl, step⟩
  | cons call rest ih =>
    cases call with
    | add token => exact ih (step.add token)
    | contains token =>
      obtain ⟨answers, left⟩ := ih step
      exact ⟨congrArg₂ List.cons (step.contains token) answers, left⟩

end Queue

/-! ## What a window holds -/

theorem mem_lastOf_iff {α : Type} {n : Nat} {xs : List α} {x : α} :
    x ∈ lastOf n xs ↔
      ∃ before later, xs = before ++ x :: later ∧ x ∉ later ∧ later.length < n := by
  constructor
  · intro among
    -- the last occurrence of the element is the first one from behind
    obtain ⟨later, before, split, last⟩ :=
      List.eq_append_cons_of_mem (List.mem_reverse.2 among)
    have whole : lastOf n xs = before.reverse ++ x :: later.reverse := by
      rw [← (lastOf n xs).reverse_reverse, split]
      simp
    refine ⟨xs.take (xs.length - n) ++ before.reverse, later.reverse, ?_, by simpa using last, ?_⟩
    · rw [List.append_assoc, ← whole, lastOf, List.take_append_drop]
    · have length := lastOf_length n xs
      rw [whole, List.length_append, List.length_cons] at length
      omega
  · rintro ⟨before, later, rfl, -, few⟩
    have cut : (before ++ x :: later).length - n ≤ before.length := by
      rw [List.length_append, List.length_cons]
      omega
    rw [lastOf, List.drop_append_of_le_length cut]
    exact List.mem_append_right _ List.mem_cons_self

namespace Window

def run (w : Window) (calls : List WindowCall) : List Bool × Window :=
  WindowCall.run add contains w calls

/-- The tokens that calls enter while the window does not hold them, in their order. -/
def insertions (w : Window) : List WindowCall → List String
  | [] => []
  | .add token :: rest =>
    if w.contains token then w.insertions rest else token :: (w.add token).insertions rest
  | .contains _ :: rest => w.insertions rest

theorem add_of_mem {w : Window} {token : String} (held : token ∈ w.tokens) : w.add token = w :=
  dif_pos held

theorem mem_tokens_add_self (w : Window) (token : String) : token ∈ (w.add token).tokens := by
  rw [tokens_add]
  split
  · assumption
  · exact mem_lastOf_iff.2 ⟨w.tokens, [], rfl, List.not_mem_nil, w.capacity_pos⟩

theorem tokens_add_of_new {w : Window} {token : String} (new : token ∉ w.tokens) :
    (w.add token).tokens =
      (if w.tokens.length < w.capacity then w.tokens else w.tokens.tail) ++ [token] := by
  have bounded := w.bounded
  have positive := w.capacity_pos
  rw [tokens_add, if_neg new]
  split
  · next room => exact lastOf_of_length_le (by rw [List.length_append]; exact room)
  · next full =>
    have one : (w.tokens ++ [token]).length - w.capacity = 1 := by
      rw [List.length_append, List.length_singleton]
      omega
    rw [lastOf, one, List.drop_append_of_le_length (by omega), List.drop_one]

/-- **A window holds the last tokens that were new to it.** -/
theorem tokens_run (w : Window) (calls : List WindowCall) :
    (w.run calls).2.tokens = lastOf w.capacity (w.tokens ++ w.insertions calls) := by
  induction calls generalizing w with
  | nil =>
    rw [insertions, List.append_nil, lastOf_of_length_le w.bounded]
    rfl
  | cons call rest ih =>
    cases call with
    | contains token => exact ih w
    | add token =>
      by_cases held : w.contains token = true
      · have same : w.add token = w := add_of_mem (contains_iff.1 held)
        show ((w.add token).run rest).2.tokens = _
        rw [insertions, if_pos held, same, ih]
      · have entered : (w.add token).tokens = lastOf w.capacity (w.tokens ++ [token]) := by
          rw [tokens_add, if_neg (mt contains_iff.2 held)]
        show ((w.add token).run rest).2.tokens = _
        rw [insertions, if_neg held, ih, capacity_add, entered, lastOf_append, List.append_assoc]
        rfl

/-- What holds of a window, and of a queue with its members, after calls that both have answered
since they were empty. A capacity of zero counts as one. -/
structure FifoSet (capacity : Nat) (calls : List WindowCall) (w : Window) (q : Queue) : Prop where
  answers : ((Queue.ofCapacity capacity).run calls).1 = ((ofCapacity capacity).run calls).1
  order : q.order = w.tokens
  members : ∀ token, token ∈ q.members ↔ token ∈ q.order
  found : ∀ token, q.contains token = w.contains token ∧
    (w.contains token = true ↔ token ∈ w.tokens)
  distinct : w.tokens.Nodup
  bounded : w.tokens.length ≤ max capacity 1
  /-- Look-ups have changed nothing. -/
  entered : w = (WindowCall.added calls).foldl add (ofCapacity capacity)
  latest : ∀ token, (WindowCall.added calls).getLast? = some token → token ∈ w.tokens
  again : ∀ token ∈ w.tokens, w.add token = w ∧ q.add token = q
  /-- A new token goes behind the others; the oldest one gives way if the window is full. -/
  new : ∀ token ∉ w.tokens, (w.add token).tokens =
    (if w.tokens.length < max capacity 1 then w.tokens else w.tokens.tail) ++ [token]
  /-- A token is held just if fewer new tokens than the capacity came after it was last new. -/
  held : ∀ token, token ∈ w.tokens ↔ ∃ before later,
    (ofCapacity capacity).insertions calls = before ++ token :: later ∧ token ∉ later ∧
      later.length < max capacity 1
  newest : (WindowCall.added calls).Nodup →
    w.tokens = lastOf (max capacity 1) (WindowCall.added calls)

/-- **A window is a bounded queue without repetitions.** -/
theorem fifoSet_run (capacity : Nat) (calls : List WindowCall) :
    FifoSet capacity calls ((ofCapacity capacity).run calls).2
      ((Queue.ofCapacity capacity).run calls).2 := by
  obtain ⟨answers, step⟩ := (Queue.inStep_ofCapacity capacity).run calls
  have entered : ((ofCapacity capacity).run calls).2 = _ :=
    WindowCall.run_snd add contains (ofCapacity capacity) calls
  have limit : ((ofCapacity capacity).run calls).2.capacity = max capacity 1 := by
    rw [entered, capacity_foldl_add, capacity_ofCapacity]
  have tokens := (ofCapacity capacity).tokens_run calls
  have bounded := ((ofCapacity capacity).run calls).2.bounded
  rw [tokens_ofCapacity, List.nil_append, capacity_ofCapacity] at tokens
  rw [limit] at bounded
  change Queue.InStep _ ((ofCapacity capacity).run calls).2 at step
  refine ⟨answers, step.order, fun token => ?_,
    fun token => ⟨step.contains token, contains_iff⟩, distinct _, bounded,
    entered, fun token last => ?_, fun token held => ⟨add_of_mem held, ?_⟩, fun token new => ?_,
    fun token => ?_, fun different => ?_⟩
  · rw [step.mem_members, step.order]
  · obtain ⟨earlier, split⟩ := List.getLast?_eq_some_iff.1 last
    rw [entered, split, List.foldl_append]
    exact mem_tokens_add_self _ token
  · exact if_pos ((step.mem_members token).2 held)
  · rw [tokens_add_of_new new, limit]
  · rw [tokens, mem_lastOf_iff]
  · rw [entered, tokens_foldl_add _ _ (by simpa using different), tokens_ofCapacity,
      List.nil_append, capacity_ofCapacity]

/-- A token that was pushed out may come again; one that is held does not become younger. -/
example : ((ofCapacity 2).run [.add "a", .add "b", .add "a", .add "c", .contains "a", .add "a"]) =
    ([false], ⟨2, ["c", "a"], by decide, by decide, by decide⟩) := by
  decide

end Window

end Gatehouse
