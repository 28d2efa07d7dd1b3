import Gatehouse.Proofs.Session.Held

/-!
# Which entries operations change

A store holds the entry of a session that has expired until the session is accessed or purged, and
`Store.live?` does not show such an entry. Here every entry counts: an operation on one session
leaves the entries of all others as they are (`Store.Confined`), and an access leaves no entry of
its own session that has expired (`Store.get?_touch`).
-/

namespace Gatehouse

namespace Store

/-- `st'` holds the same as `st`, but for one session. -/
structure Confined (st : Store) (id : SessionId) (st' : Store) : Prop where
  others : ∀ other, other ≠ id → st'.sessions.get? other = st.sessions.get? other

variable {st st' st'' : Store} {now : Nat} {id : SessionId}

theorem confined_refl (st : Store) (id : SessionId) : st.Confined id st :=
  ⟨fun _ _ => rfl⟩

theorem Confined.trans (first : st.Confined id st') (second : st'.Confined id st'') :
    st.Confined id st'' :=
  ⟨fun other elsewhere => (second.others other elsewhere).trans (first.others other elsewhere)⟩

theorem confined_update (st : Store) (id : SessionId) (entry : SessionEntry) :
    st.Confined id (st.update id entry) := by
  refine ⟨fun other elsewhere => ?_⟩
  rw [update, Registry.get?_put, if_neg elsewhere]

theorem confined_create (st : Store) (now : Nat) (id : SessionId) :
    st.Confined id (st.create now id) :=
  st.confined_update id _

theorem confined_invalidate (st : Store) (id : SessionId) : st.Confined id (st.invalidate id) := by
  refine ⟨fun other elsewhere => ?_⟩
  rw [invalidate, Registry.get?_erase, if_neg elsewhere]

theorem get?_touch (st : Store) (now : Nat) (id other : SessionId) :
    (st.touch now id).2.sessions.get? other =
      if other = id then (st.live? now id).map (·.accessed now) else st.sessions.get? other := by
  unfold touch live?
  split
  · next absent =>
    split
    · next same => rw [same, absent]; rfl
    · rfl
  · next entry held =>
    split
    · next expired => simp [invalidate, held, expired, Option.filter]
    · next live => simp [update, held, live, Option.filter, SessionEntry.accessed]

theorem confined_touch (st : Store) (now : Nat) (id : SessionId) :
    st.Confined id (st.touch now id).2 := by
  refine ⟨fun other elsewhere => ?_⟩
  rw [get?_touch, if_neg elsewhere]

theorem Touches.confined (touches : st.Touches now id st') : st.Confined id st' := by
  cases touches with
  | visited => exact st.confined_touch now id
  | changed found entry => exact (st.confined_touch now id).trans (confined_update _ id entry)

theorem confined_set (st : Store) (now : Nat) (id : SessionId) (key : String)
    (value : Attribute) : st.Confined id (st.set now id key value).2 :=
  (st.set_touches now id key value).confined

theorem confined_getOrInsert (st : Store) (now : Nat) (id : SessionId) (key : String)
    (initial : Attribute) : st.Confined id (st.getOrInsert now id key initial).2 :=
  (st.getOrInsert_touches now id key initial).confined

theorem get?_getOrInsert_of_gone (gone : st.live? now id = none) (key : String)
    (initial : Attribute) : (st.getOrInsert now id key initial).2.sessions.get? id = none := by
  have removed := st.get?_touch now id id
  rw [if_pos rfl, gone] at removed
  rw [getOrInsert, touch_eq, gone]
  exact removed

theorem confined_addToken (st : Store) (id : SessionId) (key : String) (mark : Nat)
    (token : String) : st.Confined id (st.addToken id key mark token) := by
  unfold addToken
  split
  · exact st.confined_refl id
  · split
    · split
      · exact st.confined_update id _
      · exact st.confined_refl id
    · exact st.confined_refl id

end Store

namespace Sessions

theorem confined_getOrInsert (s : Sessions) (now : Nat) (id : SessionId) (key : String)
    (initial : Attribute) : s.store.Confined id (s.getOrInsert now id key initial).2.store := by
  rw [getOrInsert_eq]
  exact s.store.confined_getOrInsert now id key initial

theorem confined_create (s : Sessions) (now : Nat) (id : SessionId) :
    s.store.Confined id (s.create now id).store := by
  have created := s.store.confined_create now id
  unfold create
  split
  · exact created.trans (Store.confined_invalidate ..)
  · exact created

end Sessions

end Gatehouse
