import Gatehouse.Proofs.Session.Access

/-!
# Which sessions are held

A store holds every session that it has an entry for, one that has expired included. Only
`Store.create` brings in a session; after any other operation the store holds none that it did not
hold before (`Store.NoMore`).
-/

namespace Gatehouse

namespace Store

/-- The store has an entry for the session, expired or not. -/
def Holds (st : Store) (id : SessionId) : Prop := (st.sessions.get? id).isSome

instance (st : Store) (id : SessionId) : Decidable (st.Holds id) :=
  inferInstanceAs (Decidable (_ = true))

/-- Every session that `st'` holds is held by `st`. -/
structure NoMore (st st' : Store) : Prop where
  held : ∀ id, st'.Holds id → st.Holds id

variable {st st' : Store} {now : Nat} {id : SessionId}

theorem noMore_refl (st : Store) : st.NoMore st := ⟨fun _ h => h⟩

theorem holds_of_live {entry : SessionEntry} (live : st.live? now id = some entry) :
    st.Holds id := by
  rw [Holds, (live?_eq_some.1 live).1]
  rfl

theorem holds_update (st : Store) (id id' : SessionId) (entry : SessionEntry) :
    (st.update id entry).Holds id' ↔ id' = id ∨ st.Holds id' := by
  rw [Holds, Holds, update, Registry.get?_put]
  split <;> simp_all

theorem holds_create (st : Store) (now : Nat) (id id' : SessionId) :
    (st.create now id).Holds id' ↔ id' = id ∨ st.Holds id' :=
  holds_update ..

theorem holds_invalidate (st : Store) (id id' : SessionId) :
    (st.invalidate id).Holds id' ↔ id' ≠ id ∧ st.Holds id' := by
  rw [Holds, Holds, invalidate, Registry.get?_erase]
  split <;> simp_all

/-! ## No operation but one brings in a session -/

theorem noMore_invalidate (st : Store) (id : SessionId) : st.NoMore (st.invalidate id) :=
  ⟨fun _ h => ((holds_invalidate ..).1 h).2⟩

theorem noMore_update (held : st.Holds id) (entry : SessionEntry) :
    st.NoMore (st.update id entry) := by
  refine ⟨fun id' h => ?_⟩
  rcases (holds_update ..).1 h with rfl | before
  · exact held
  · exact before

theorem noMore_touch (st : Store) (now : Nat) (id : SessionId) :
    st.NoMore (st.touch now id).2 := by
  unfold touch
  split
  · exact st.noMore_refl
  · next entry found =>
    split
    · exact st.noMore_invalidate id
    · exact noMore_update (by rw [Holds, found]; rfl) _

theorem Touches.noMore (touches : st.Touches now id st') : st.NoMore st' := by
  cases touches with
  | visited => exact st.noMore_touch now id
  | changed found entry =>
    rw [touch_fst, Option.map_eq_some_iff] at found
    obtain ⟨before, live, -⟩ := found
    refine ⟨fun id' h => ?_⟩
    rcases (holds_update ..).1 h with rfl | held
    · exact holds_of_live live
    · exact (st.noMore_touch now id).held id' held

theorem noMore_get (st : Store) (now : Nat) (id : SessionId) (key : String) :
    st.NoMore (st.get now id key).2 :=
  st.noMore_touch now id

theorem noMore_set (st : Store) (now : Nat) (id : SessionId) (key : String)
    (value : Attribute) : st.NoMore (st.set now id key value).2 :=
  (st.set_touches now id key value).noMore

theorem noMore_getOrInsert (st : Store) (now : Nat) (id : SessionId) (key : String)
    (initial : Attribute) : st.NoMore (st.getOrInsert now id key initial).2 :=
  (st.getOrInsert_touches now id key initial).noMore

theorem noMore_addToken (st : Store) (id : SessionId) (key : String) (mark : Nat)
    (token : String) : st.NoMore (st.addToken id key mark token) := by
  unfold addToken
  split
  · exact st.noMore_refl
  · next entry found =>
    split
    · split
      · exact noMore_update (by rw [Holds, found]; rfl) _
      · exact st.noMore_refl
    · exact st.noMore_refl

end Store

namespace Sessions

theorem noMore_getOrInsert (s : Sessions) (now : Nat) (id : SessionId) (key : String)
    (initial : Attribute) : s.store.NoMore (s.getOrInsert now id key initial).2.store := by
  rw [getOrInsert_eq]
  exact s.store.noMore_getOrInsert now id key initial

end Sessions

end Gatehouse
