import Gatehouse.Filter.Passage
import Gatehouse.Proofs.Session.Access

/-!
# What happens to a site

A site is told by its live sessions. What concerns one session leaves all others as they are
(`Site.Becomes`); a mere access keeps that one, too, but for the time of its last access
(`Site.Visited`).
-/

namespace Gatehouse

namespace Site

/-- The entry of a session that is live at a site. -/
def live? (site : Site) (id : SessionId) : Option SessionEntry :=
  site.sessions.store.live? site.now id

/-- `site'` is `site` with another live entry, or none, for one session. -/
structure Becomes (site : Site) (id : SessionId) (entry : Option SessionEntry) (site' : Site) :
    Prop where
  backing : site'.sessions.backing = site.sessions.backing
  now : site'.now = site.now
  store : site.sessions.store.Becomes site.now id entry site'.sessions.store

/-- `site'` is `site` after an access to a session, if one is given. -/
structure Visited (site : Site) (session : Option SessionId) (site' : Site) : Prop where
  backing : site'.sessions.backing = site.sessions.backing
  now : site'.now = site.now
  untouched : session = none → site'.sessions = site.sessions
  touched : ∀ id, session = some id →
    site.sessions.store.Becomes site.now id ((site.live? id).map (·.accessed site.now))
      site'.sessions.store

variable {site site' site'' : Site} {id : SessionId} {before entry : Option SessionEntry}

theorem Becomes.live? (becomes : site.Becomes id entry site') (id' : SessionId) :
    site'.live? id' = if id' = id then entry else site.live? id' := by
  rw [Site.live?, becomes.now]
  exact becomes.store.live? id'

theorem Becomes.self (becomes : site.Becomes id entry site') : site'.live? id = entry := by
  rw [becomes.live?, if_pos rfl]

theorem Becomes.other (becomes : site.Becomes id entry site') {id' : SessionId} (h : id' ≠ id) :
    site'.live? id' = site.live? id' := by
  rw [becomes.live?, if_neg h]

theorem Becomes.trans (first : site.Becomes id before site')
    (second : site'.Becomes id entry site'') : site.Becomes id entry site'' := by
  refine ⟨second.backing.trans first.backing, second.now.trans first.now, first.store.trans ?_⟩
  rw [← first.now]
  exact second.store

theorem Becomes.after_gone {own : SessionId} (first : site.Becomes own before site')
    (gone : site.live? own = none) (h : before = none) (second : site'.Becomes id entry site'') :
    site.Becomes id entry site'' := by
  refine ⟨second.backing.trans first.backing, second.now.trans first.now, ?_, fun id' => ?_⟩
  · exact second.store.idleLimit.trans first.store.idleLimit
  · have same : site'.live? id' = site.live? id' := by
      rw [first.live?]
      split
      · next own => rw [own, gone, h]
      · rfl
    have := second.live? id'
    rw [same, Site.live?, second.now, first.now] at this
    exact this

theorem openSession_becomes (full : site.sessions.backing = .full) :
    site.Becomes (site.supply.handle site.supply.handlesDrawn) (some ⟨.empty, site.now⟩)
      site.openSession.2 := by
  refine ⟨?_, rfl, ?_⟩ <;> simp only [openSession, Sessions.create, full]
  exact Store.create_becomes ..

theorem invalidate_becomes (site : Site) (id : SessionId) :
    site.Becomes id none (site.invalidate id) :=
  ⟨rfl, rfl, Store.invalidate_becomes ..⟩

theorem live?_purge (site : Site) (id : SessionId) :
    (site.access fun now s => s.purge now).2.live? id = site.live? id := by
  simp only [access, Sessions.purge]
  split
  · exact Store.live?_purge ..
  · rfl

theorem visited_none (site : Site) : site.Visited none site :=
  ⟨rfl, rfl, fun _ => rfl, fun id h => (by cases h)⟩

theorem Becomes.visited (becomes : site.Becomes id ((site.live? id).map (·.accessed site.now)) site') :
    site.Visited (some id) site' := by
  refine ⟨becomes.backing, becomes.now, (fun h => by cases h), fun id' same => ?_⟩
  obtain rfl := Option.some.inj same
  exact becomes.store

theorem Visited.count (visited : site.Visited session site') (change : Tally → Tally) :
    site.Visited session (site'.count change) :=
  ⟨visited.backing, visited.now, visited.untouched, visited.touched⟩

theorem Visited.idleLimit (visited : site.Visited session site') :
    site'.sessions.store.idleLimit = site.sessions.store.idleLimit := by
  cases session with
  | none => rw [visited.untouched rfl]
  | some id => exact (visited.touched id rfl).idleLimit

theorem Visited.becomes (visited : site.Visited session site') (own : session = some id) :
    site.Becomes id ((site.live? id).map (·.accessed site.now)) site' :=
  ⟨visited.backing, visited.now, visited.touched id own⟩

theorem Visited.trans_becomes (visited : site.Visited session site')
    (h : ∀ own, session = some own → own = id ∨ site.live? own = none)
    (second : site'.Becomes id entry site'') : site.Becomes id entry site'' := by
  cases session with
  | none =>
    refine ⟨second.backing.trans visited.backing, second.now.trans visited.now, ?_⟩
    rw [← visited.untouched rfl, ← visited.now]
    exact second.store
  | some own =>
    have first := visited.becomes rfl
    rcases h own rfl with rfl | gone
    · exact first.trans second
    · -- an access to a session that is gone leaves the others as they are
      exact first.after_gone gone (by rw [gone]; rfl) second

theorem Visited.live? (visited : site.Visited session site') (id : SessionId) :
    site'.live? id = if session = some id then (site.live? id).map (·.accessed site.now)
      else site.live? id := by
  rw [Site.live?, visited.now]
  cases session with
  | none => rw [visited.untouched rfl]; rfl
  | some own =>
    rw [(visited.touched own rfl).live?]
    by_cases h : id = own
    · simp [h]
    · simp [h, Ne.symm h, Site.live?]

end Site

end Gatehouse
