import Gatehouse.Session.Service

/-!
# What operations do to a store

`Store.live?` is the entry of a session that has not expired. Every operation is described by what
it answers in terms of `live?`, and by the live entries it leaves: but for a purge it concerns one
session, and all others stay as they are (`Store.Becomes`). A second access at the same instant
changes nothing (`Store.touch_touch`), and so the get-or-insert that a service makes up from two
accesses is that of the store (`Sessions.getThenSet_eq`).
-/

namespace Gatehouse

namespace SessionEntry

def accessed (entry : SessionEntry) (now : Nat) : SessionEntry := { entry with lastAccess := now }

def put (entry : SessionEntry) (key : String) (value : Attribute) : SessionEntry :=
  { entry with attributes := entry.attributes.put key value }

/-- What the entry holds under a key, or else what it is given. -/
def getD (entry : SessionEntry) (key : String) (initial : Attribute) : Attribute :=
  (entry.attributes.get? key).getD initial

/-- The entry with an attribute entered if it is missing. -/
def ensure (entry : SessionEntry) (key : String) (initial : Attribute) : SessionEntry :=
  if entry.attributes.get? key = none then entry.put key initial else entry

/-- The entry with a token entered into the window with a mark. -/
def enter (entry : SessionEntry) (key : String) (mark : Nat) (token : String) : SessionEntry :=
  match entry.attributes.get? key with
  | some (.nonces held window) =>
    if held = mark then entry.put key (.nonces held (window.add token)) else entry
  | _ => entry

@[simp] theorem lastAccess_accessed (entry : SessionEntry) (now : Nat) :
    (entry.accessed now).lastAccess = now := rfl

@[simp] theorem attributes_accessed (entry : SessionEntry) (now : Nat) :
    (entry.accessed now).attributes = entry.attributes := rfl

@[simp] theorem lastAccess_put (entry : SessionEntry) (key : String) (value : Attribute) :
    (entry.put key value).lastAccess = entry.lastAccess := rfl

@[simp] theorem get?_attributes_put (entry : SessionEntry) (key key' : String) (value : Attribute) :
    (entry.put key value).attributes.get? key' =
      if key' = key then some value else entry.attributes.get? key' := by
  simp [put]

theorem ensure_of_missing {entry : SessionEntry} {key : String}
    (missing : entry.attributes.get? key = none) (initial : Attribute) :
    entry.ensure key initial = entry.put key initial :=
  if_pos missing

theorem ensure_of_held {entry : SessionEntry} {key : String} {value : Attribute}
    (held : entry.attributes.get? key = some value) (initial : Attribute) :
    entry.ensure key initial = entry :=
  if_neg (by simp [held])

theorem put_of_held {entry : SessionEntry} {key : String} {value : Attribute}
    (held : entry.attributes.get? key = some value) : entry.put key value = entry := by
  rw [put, Registry.put_of_held held]

theorem put_put (entry : SessionEntry) (key : String) (value value' : Attribute) :
    (entry.put key value).put key value' = entry.put key value' := by
  simp only [put, Registry.put_put]

theorem ensure_eq_put (entry : SessionEntry) (key : String) (initial : Attribute) :
    entry.ensure key initial = entry.put key (entry.getD key initial) := by
  cases held : entry.attributes.get? key with
  | none =>
    rw [ensure_of_missing held, getD, held]
    rfl
  | some value =>
    rw [ensure_of_held held, getD, held]
    exact (put_of_held held).symm

@[simp] theorem lastAccess_ensure (entry : SessionEntry) (key : String) (initial : Attribute) :
    (entry.ensure key initial).lastAccess = entry.lastAccess := by
  rw [ensure_eq_put, lastAccess_put]

@[simp] theorem get?_attributes_ensure (entry : SessionEntry) (key key' : String)
    (initial : Attribute) :
    (entry.ensure key initial).attributes.get? key' =
      if key' = key then some (entry.getD key initial) else entry.attributes.get? key' := by
  rw [ensure_eq_put, get?_attributes_put]

end SessionEntry

namespace Store

/-- The entry of a session that has not expired. -/
def live? (st : Store) (now : Nat) (id : SessionId) : Option SessionEntry :=
  (st.sessions.get? id).filter fun entry => !st.isExpired now entry

theorem live?_eq_some {st : Store} {now : Nat} {id : SessionId} {entry : SessionEntry} :
    st.live? now id = some entry ↔
      st.sessions.get? id = some entry ∧ now - entry.lastAccess ≤ st.idleLimit := by
  simp [live?, Option.filter_eq_some_iff, isExpired]

@[simp] theorem live?_empty (idleLimit now : Nat) (id : SessionId) :
    (empty idleLimit).live? now id = none := rfl

theorem live?_later {st : Store} {now later : Nat} (h : now ≤ later) (id : SessionId) :
    st.live? later id =
      (st.live? now id).filter fun entry => later - entry.lastAccess ≤ st.idleLimit := by
  apply Option.ext
  intro entry
  simp only [live?_eq_some, Option.filter_eq_some_iff, decide_eq_true_eq]
  constructor
  · -- a session that will be live is live now: time only takes sessions away
    rintro ⟨held, idle⟩
    exact ⟨⟨held, by omega⟩, idle⟩
  · rintro ⟨⟨held, _⟩, idle⟩
    exact ⟨held, idle⟩

/-! ## One session changes -/

/-- `st'` is `st` with another live entry, or none, for one session. -/
structure Becomes (st : Store) (now : Nat) (id : SessionId) (entry : Option SessionEntry)
    (st' : Store) : Prop where
  idleLimit : st'.idleLimit = st.idleLimit
  live? : ∀ id', st'.live? now id' = if id' = id then entry else st.live? now id'

variable {st st' st'' : Store} {now : Nat} {id : SessionId} {before entry : Option SessionEntry}

theorem Becomes.self (becomes : Becomes st now id entry st') : st'.live? now id = entry := by
  rw [becomes.live?, if_pos rfl]

theorem Becomes.other (becomes : Becomes st now id entry st') {id' : SessionId} (h : id' ≠ id) :
    st'.live? now id' = st.live? now id' := by
  rw [becomes.live?, if_neg h]

theorem Becomes.trans (first : Becomes st now id before st')
    (second : Becomes st' now id entry st'') : Becomes st now id entry st'' := by
  refine ⟨second.idleLimit.trans first.idleLimit, fun id' => ?_⟩
  rw [second.live?, first.live?]
  split <;> rfl

theorem becomes_refl (st : Store) (now : Nat) (id : SessionId) :
    Becomes st now id (st.live? now id) st :=
  ⟨rfl, fun id' => by split <;> simp_all⟩

theorem Becomes.of_none (becomes : Becomes st now id before st') (gone : before = none)
    (h : entry = none) : Becomes st now id entry st' := by
  rw [h, ← gone]
  exact becomes

theorem update_becomes (st : Store) {now : Nat} (id : SessionId) {entry : SessionEntry}
    (time : entry.lastAccess = now) : Becomes st now id (some entry) (st.update id entry) := by
  refine ⟨rfl, fun id' => ?_⟩
  simp only [live?, update, Registry.get?_put]
  split
  · simp [isExpired, time]
  · rfl

theorem create_becomes (st : Store) (now : Nat) (id : SessionId) :
    Becomes st now id (some ⟨.empty, now⟩) (st.create now id) :=
  update_becomes st id rfl

theorem invalidate_becomes (st : Store) (now : Nat) (id : SessionId) :
    Becomes st now id none (st.invalidate id) := by
  refine ⟨rfl, fun id' => ?_⟩
  simp only [live?, invalidate, Registry.get?_erase]
  split <;> rfl

/-! ## Accesses -/

theorem touch_fst (st : Store) (now : Nat) (id : SessionId) :
    (st.touch now id).1 = (st.live? now id).map (·.accessed now) := by
  unfold touch live?
  split
  · next h => simp [h]
  · next entry h => split <;> simp_all [SessionEntry.accessed, Option.filter]

theorem touch_becomes (st : Store) (now : Nat) (id : SessionId) :
    Becomes st now id ((st.live? now id).map (·.accessed now)) (st.touch now id).2 := by
  rw [← touch_fst]
  unfold touch
  split
  · next h => exact (becomes_refl st now id).of_none (by simp [live?, h]) rfl
  · next entry h =>
    split
    · exact invalidate_becomes st now id
    · exact update_becomes st id rfl

theorem touch_eq (st : Store) (now : Nat) (id : SessionId) :
    st.touch now id = ((st.live? now id).map (·.accessed now), (st.touch now id).2) :=
  Prod.ext (touch_fst st now id) rfl

theorem isLive_fst (st : Store) (now : Nat) (id : SessionId) :
    (st.isLive now id).1 = (st.live? now id).isSome := by
  simp [isLive, touch_fst]

theorem isLive_becomes (st : Store) (now : Nat) (id : SessionId) :
    Becomes st now id ((st.live? now id).map (·.accessed now)) (st.isLive now id).2 :=
  touch_becomes st now id

theorem get_fst (st : Store) (now : Nat) (id : SessionId) (key : String) :
    (st.get now id key).1 = (st.live? now id).bind (·.attributes.get? key) := by
  simp only [get, touch_fst]
  cases st.live? now id <;> rfl

theorem get_becomes (st : Store) (now : Nat) (id : SessionId) (key : String) :
    Becomes st now id ((st.live? now id).map (·.accessed now)) (st.get now id key).2 :=
  touch_becomes st now id

theorem set_fst (st : Store) (now : Nat) (id : SessionId) (key : String) (value : Attribute) :
    (st.set now id key value).1 = (st.live? now id).isSome := by
  rw [set, touch_eq]
  cases st.live? now id <;> rfl

theorem set_becomes (st : Store) (now : Nat) (id : SessionId) (key : String)
    (value : Attribute) :
    Becomes st now id ((st.live? now id).map fun entry => (entry.accessed now).put key value)
      (st.set now id key value).2 := by
  have touched := touch_becomes st now id
  rw [set, touch_eq]
  cases h : st.live? now id with
  | none => exact touched.of_none (by rw [h]; rfl) rfl
  | some entry => exact touched.trans (update_becomes _ id rfl)

theorem getOrInsert_fst (st : Store) (now : Nat) (id : SessionId) (key : String)
    (initial : Attribute) :
    (st.getOrInsert now id key initial).1 = (st.live? now id).map (·.getD key initial) := by
  rw [getOrInsert, touch_eq]
  cases h : st.live? now id with
  | none => rfl
  | some entry =>
    simp only [Option.map_some, SessionEntry.getD, SessionEntry.attributes_accessed]
    split <;> simp_all

theorem getOrInsert_becomes (st : Store) (now : Nat) (id : SessionId) (key : String)
    (initial : Attribute) :
    Becomes st now id
      ((st.live? now id).map fun entry => (entry.accessed now).ensure key initial)
      (st.getOrInsert now id key initial).2 := by
  have touched := touch_becomes st now id
  rw [getOrInsert, touch_eq]
  cases h : st.live? now id with
  | none => exact touched.of_none (by rw [h]; rfl) rfl
  | some entry =>
    simp only [h, Option.map_some] at touched ⊢
    split
    · next value held =>
      rw [SessionEntry.ensure_of_held held]
      exact touched
    · next missing =>
      rw [SessionEntry.ensure_of_missing missing]
      exact touched.trans (update_becomes _ id rfl)

/-! ## What accesses may leave -/

/-- What an access to a session leaves, or that with another entry in the place of the one found. -/
inductive Touches (st : Store) (now : Nat) (id : SessionId) : Store → Prop where
  | visited : Touches st now id (st.touch now id).2
  | changed {found : SessionEntry} (held : (st.touch now id).1 = some found)
      (entry : SessionEntry) : Touches st now id ((st.touch now id).2.update id entry)

theorem set_touches (st : Store) (now : Nat) (id : SessionId) (key : String) (value : Attribute) :
    st.Touches now id (st.set now id key value).2 := by
  have as_found := @Touches.visited st now id
  have with_other := @Touches.changed st now id
  rw [set]
  rcases found : st.touch now id with ⟨_ | entry, left⟩ <;> rw [found] at as_found with_other
  · exact as_found
  · exact with_other rfl _

theorem getOrInsert_touches (st : Store) (now : Nat) (id : SessionId) (key : String)
    (initial : Attribute) : st.Touches now id (st.getOrInsert now id key initial).2 := by
  have as_found := @Touches.visited st now id
  have with_other := @Touches.changed st now id
  rw [getOrInsert]
  rcases found : st.touch now id with ⟨_ | entry, left⟩ <;> rw [found] at as_found with_other
  · exact as_found
  · simp only
    split
    · exact as_found
    · exact with_other rfl _

/-! ## Two accesses at one instant -/

theorem touch_of_absent (absent : st.sessions.get? id = none) (now : Nat) :
    st.touch now id = (none, st) := by
  rw [touch, absent]

theorem touch_of_expired {entry : SessionEntry} (held : st.sessions.get? id = some entry)
    (expired : st.isExpired now entry = true) : st.touch now id = (none, st.invalidate id) := by
  rw [touch, held]
  exact if_pos expired

theorem touch_of_live {entry : SessionEntry} (held : st.sessions.get? id = some entry)
    (live : st.isExpired now entry = false) :
    st.touch now id = (some (entry.accessed now), st.update id (entry.accessed now)) := by
  rw [touch, held]
  exact if_neg (by rw [live]; exact Bool.false_ne_true)

theorem update_of_held {entry : SessionEntry} (held : st.sessions.get? id = some entry) :
    st.update id entry = st := by
  rw [update, Registry.put_of_held held]

theorem touch_touch (st : Store) (now : Nat) (id : SessionId) :
    (st.touch now id).2.touch now id = st.touch now id := by
  cases held : st.sessions.get? id with
  | none =>
    rw [touch_of_absent held]
    exact touch_of_absent held now
  | some entry =>
    cases expired : st.isExpired now entry with
    | true =>
      rw [touch_of_expired held expired]
      exact touch_of_absent (by simp [invalidate]) now
    | false =>
      -- the entry that the first access leaves has been idle for no time at all
      have moved : (st.update id (entry.accessed now)).sessions.get? id =
          some (entry.accessed now) := by
        simp [update]
      rw [touch_of_live held expired, touch_of_live moved (by simp [isExpired])]
      exact Prod.ext rfl (update_of_held moved)

/-! ## Purges and tokens -/

theorem live?_purge (st : Store) (now : Nat) (id : SessionId) :
    (st.purge now).2.live? now id = st.live? now id := by
  have kept : (st.purge now).2.sessions.get? id = st.live? now id := by simp [purge, live?]
  rw [live?, kept, live?, Option.filter_filter]
  congr 1
  funext entry
  exact Bool.and_self _

theorem addToken_becomes (st : Store) (now : Nat) (id : SessionId) (key : String) (mark : Nat)
    (token : String) :
    Becomes st now id ((st.live? now id).map (·.enter key mark token))
      (st.addToken id key mark token) := by
  -- the token goes into the entry that is held, expired or not; only a live one is seen
  have unchanged : ∀ entry, st.sessions.get? id = some entry →
      entry.enter key mark token = entry →
      Becomes st now id ((st.live? now id).map (·.enter key mark token)) st := by
    intro entry held same
    have := becomes_refl st now id
    simp only [live?, held] at this ⊢
    cases expired : st.isExpired now entry <;> simp_all [Option.filter]
  unfold addToken
  cases held : st.sessions.get? id with
  | none => exact (becomes_refl st now id).of_none (by simp [live?, held]) (by simp [live?, held])
  | some entry =>
    simp only
    split
    · next mark' window holds =>
      split
      · next same =>
        have entered : entry.enter key mark token =
            entry.put key (.nonces mark' (window.add token)) := by
          simp [SessionEntry.enter, holds, same]
        refine ⟨rfl, fun id' => ?_⟩
        simp only [live?, update, Registry.get?_put, held]
        split
        · cases expired : st.isExpired now entry <;>
            simp_all [Option.filter, SessionEntry.put, isExpired]
        · rfl
      · next other =>
        exact unchanged entry held (by simp [SessionEntry.enter, holds, other])
    · next foreign =>
      refine unchanged entry held ?_
      rw [SessionEntry.enter]
      split
      · next mark' window holds => exact absurd holds (foreign mark' window)
      · rfl

end Store

namespace Sessions

theorem getThenSet_eq (st : Store) (now : Nat) (id : SessionId) (key : String)
    (initial : Attribute) :
    getThenSet st now id key initial = st.getOrInsert now id key initial := by
  have again := st.touch_touch now id
  simp only [getThenSet, Store.get, Store.getOrInsert]
  rcases found : st.touch now id with ⟨_ | entry, left⟩ <;> rw [found] at again
  · -- no such session: the write finds none either
    simp only [Option.bind_none, Store.set, again]
  · cases held : entry.attributes.get? key with
    | some value => simp only [Option.bind_some, held]
    | none => simp only [Option.bind_some, held, Store.set, again]

theorem getOrInsert_eq (s : Sessions) (now : Nat) (id : SessionId) (key : String)
    (initial : Attribute) :
    s.getOrInsert now id key initial = s.via (·.getOrInsert now id key initial) := by
  rw [getOrInsert]
  split
  · rfl
  · simp only [getThenSet_eq]

end Sessions

end Gatehouse
