import Gatehouse.Proofs.Session.Eager

/-!
# A service without a get-or-insert of its own

The basic service makes its get-or-insert up from a look-up and a write. The main statement is
`Sessions.basic_forwards`: from any store on, and at whatever times, the service gives the answers
of the store and leaves the store that the operations themselves leave, as long as none of them is
a purge, which it does not offer. Here events come in their order, the first one first.
-/

namespace Gatehouse

namespace Store

variable {σ τ : Type}

/-- The answers to events in their order, and what the events leave behind. -/
def answers (perform : σ → Nat → Op → Reply × σ) (s : σ) : List Event → List Reply × σ
  | [] => ([], s)
  | e :: rest =>
    let (reply, s) := perform s e.time e.op
    let (replies, s) := answers perform s rest
    (reply :: replies, s)

/-- Two that answer every event alike and stay abreast of each other answer all of them alike. -/
theorem answers_abreast {perform : σ → Nat → Op → Reply × σ}
    {perform' : τ → Nat → Op → Reply × τ} {abreast : σ → τ} {events : List Event}
    (step : ∀ e ∈ events, ∀ s, perform' (abreast s) e.time e.op =
      ((perform s e.time e.op).1, abreast (perform s e.time e.op).2)) (s : σ) :
    answers perform' (abreast s) events =
      ((answers perform s events).1, abreast (answers perform s events).2) := by
  induction events generalizing s with
  | nil => rfl
  | cons e rest ih =>
    have later := ih fun e' member => step e' (List.mem_cons_of_mem e member)
    simp only [answers, step e List.mem_cons_self, later]

end Store

namespace Sessions

/-- Performs an operation as the service offers it. -/
def perform (s : Sessions) (now : Nat) : Store.Op → Store.Reply × Sessions
  | .create id => (.begun id, s.create now id)
  | .isLive id => (.live (s.isLive now id).1, (s.isLive now id).2)
  | .get id key => (.found (s.get now id key).1, (s.get now id key).2)
  | .set id key value => (.stored (s.set now id key value).1, (s.set now id key value).2)
  | .getOrInsert id key initial =>
    (.found (s.getOrInsert now id key initial).1, (s.getOrInsert now id key initial).2)
  | .invalidate id => (.ended, s.invalidate id)
  | .purge => (.purged (s.purge now).1, (s.purge now).2)

theorem perform_basic (st : Store) (now : Nat) {op : Store.Op} (offered : op ≠ .purge) :
    perform ⟨.basic, st⟩ now op = ((st.perform now op).1, ⟨.basic, (st.perform now op).2⟩) := by
  cases op with
  | getOrInsert id key initial =>
    rw [perform, getOrInsert_eq]
    rfl
  | purge => exact absurd rfl offered
  | _ => rfl

/-- **A service that forwards all but the get-or-insert and the purge answers as its store.** Its
get-or-insert, made up from a look-up and a write, gives the attribute that the get-or-insert of
the store gives and leaves the same store, whether the session is live, has been idle too long or
is not held at all; and so do all operations one after another. -/
theorem basic_forwards (st : Store) :
    (∀ (now : Nat) (id : SessionId) (key : String) (initial : Attribute),
      getThenSet st now id key initial = st.getOrInsert now id key initial) ∧
    ∀ events : List Store.Event, (∀ e ∈ events, e.op ≠ .purge) →
      Store.answers perform ⟨.basic, st⟩ events =
        ((Store.answers Store.perform st events).1,
          ⟨.basic, (Store.answers Store.perform st events).2⟩) := by
  refine ⟨getThenSet_eq st, fun events offered => ?_⟩
  exact Store.answers_abreast (fun e member s => perform_basic s e.time (offered e member)) st

/-- What is entered first is found when the session has been idle for exactly the limit; once it has
been idle for longer it is gone, as one that never was. -/
theorem basic_forwards_at_limit :
    let a : SessionId := ⟨"a"⟩
    let st := Store.empty 10
    let events : List Store.Event := [⟨0, .create a⟩, ⟨0, .getOrInsert a "k" (.text "v")⟩,
      ⟨10, .getOrInsert a "k" (.text "w")⟩, ⟨21, .getOrInsert a "k" (.text "x")⟩,
      ⟨21, .getOrInsert ⟨"b"⟩ "k" (.text "y")⟩]
    (∀ e ∈ events, e.op ≠ .purge) ∧
      Store.answers perform ⟨.basic, st⟩ events =
        ([.begun a, .found (some (.text "v")), .found (some (.text "v")), .found none,
          .found none], ⟨.basic, st⟩) := by
  intro a st events
  have offered : ∀ e ∈ events, e.op ≠ .purge := by decide
  exact ⟨offered, ((basic_forwards st).2 events offered).trans (by decide)⟩

end Sessions

end Gatehouse
