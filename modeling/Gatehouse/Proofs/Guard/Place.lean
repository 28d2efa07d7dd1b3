import Gatehouse.Filter.Guard
import Gatehouse.Proofs.Guard.Site

/-!
# The place of a token

What the parts of a guard do, over the full service: how it classes a request by the live sessions
(`Guard.reading`), which window it finds in a session or brings there (`Guard.seat`), and in which
session the token of a request goes, its own if that is live and a new one otherwise
(`Request.home`).
-/

namespace Gatehouse

/-! ## Windows -/

def SessionEntry.window? (entry : SessionEntry) : Option Window :=
  Guard.windowOf (entry.attributes.get? Guard.windowKey)

/-- The window that a live session holds. -/
def Site.window? (site : Site) (id : SessionId) : Option Window :=
  (site.live? id).bind (·.window?)

namespace Site

variable {site site' : Site}

theorem window?_start (backing : Backing) (idleLimit : Nat) (supply : Supply) (id : SessionId) :
    (Site.start (.start backing idleLimit) supply).window? id = none := rfl

/-- Every session that is live at `site'` was live at `site`, and held the same window. -/
def Keeps (site site' : Site) : Prop :=
  ∀ id entry', site'.live? id = some entry' →
    ∃ entry, site.live? id = some entry ∧ entry'.window? = entry.window?

theorem keeps_elapse (site : Site) (milliseconds : Nat) : site.Keeps (site.elapse milliseconds) := by
  intro id entry live
  have later : site.now ≤ (site.elapse milliseconds).now := Nat.le_add_right ..
  rw [live?, Store.live?_later later, Option.filter_eq_some_iff] at live
  exact ⟨entry, live.1, rfl⟩

theorem keeps_invalidate (site : Site) (id : SessionId) : site.Keeps (site.invalidate id) := by
  intro id' entry live
  rw [(site.invalidate_becomes id).live?] at live
  split at live
  · cases live
  · exact ⟨entry, live, rfl⟩

theorem keeps_purge (site : Site) : site.Keeps (site.access fun now s => s.purge now).2 := by
  intro id entry live
  exact ⟨entry, (site.live?_purge id).symm.trans live, rfl⟩

theorem Visited.keeps {session : Option SessionId} (visited : site.Visited session site') :
    site.Keeps site' := by
  intro id entry' live
  rw [visited.live?] at live
  split at live
  · obtain ⟨entry, before, rfl⟩ := Option.map_eq_some_iff.1 live
    exact ⟨entry, before, rfl⟩
  · exact ⟨entry', live, rfl⟩

theorem Visited.window? {session : Option SessionId} (visited : site.Visited session site')
    (id : SessionId) : site'.window? id = site.window? id := by
  rw [Site.window?, Site.window?, visited.live?]
  split
  · cases site.live? id <;> rfl
  · rfl

end Site

namespace Guard

variable {g : Guard}

/-- The mark and the window that a guard finds in a session, or else those that it brings. -/
def seat (g : Guard) (mark : Nat) (entry : SessionEntry) : Nat × Window :=
  match entry.attributes.get? windowKey with
  | some (.nonces held window) => (held, window)
  | _ => (mark, g.freshWindow)

/-- The entry, accessed, with a window under the window key. -/
def seated (g : Guard) (mark now : Nat) (entry : SessionEntry) : SessionEntry :=
  (entry.accessed now).put windowKey (.nonces (g.seat mark entry).1 (g.seat mark entry).2)

/-- The entry, accessed, with a token entered into its window. -/
def granted (g : Guard) (mark now : Nat) (token : String) (entry : SessionEntry) : SessionEntry :=
  (entry.accessed now).put windowKey
    (.nonces (g.seat mark entry).1 ((g.seat mark entry).2.add token))

theorem granted_accessed (mark now earlier : Nat) (token : String) (entry : SessionEntry) :
    g.granted mark now token (entry.accessed earlier) = g.granted mark now token entry := rfl

theorem seat_eq (mark : Nat) (entry : SessionEntry) :
    g.seat mark entry =
      match entry.getD windowKey (.nonces mark g.freshWindow) with
      | .nonces held window => (held, window)
      | .text _ => (mark, g.freshWindow) := by
  rw [seat, SessionEntry.getD]
  rcases entry.attributes.get? windowKey with _ | (value | ⟨held, window⟩) <;> rfl

theorem seat_snd (mark : Nat) (entry : SessionEntry) :
    (g.seat mark entry).2 = entry.window?.getD g.freshWindow := by
  rw [seat, SessionEntry.window?]
  rcases entry.attributes.get? windowKey with _ | (value | ⟨held, window⟩) <;> rfl

theorem get?_granted (mark now : Nat) (token : String) (entry : SessionEntry) :
    (g.granted mark now token entry).attributes.get? windowKey =
      some (.nonces (g.seat mark entry).1 ((g.seat mark entry).2.add token)) := by
  rw [granted, SessionEntry.get?_attributes_put, if_pos rfl]

theorem window?_granted (mark now : Nat) (token : String) (entry : SessionEntry) :
    (g.granted mark now token entry).window? =
      some ((entry.window?.getD g.freshWindow).add token) := by
  rw [SessionEntry.window?, get?_granted, windowOf, seat_snd]

theorem enter_seated (mark now : Nat) (token : String) (entry : SessionEntry) :
    (g.seated mark now entry).enter windowKey (g.seat mark entry).1 token =
      g.granted mark now token entry := by
  simp [SessionEntry.enter, seated, granted, SessionEntry.put_put]

/-! ## The check -/

/-- How a guard classes a request, by the live sessions. -/
def reading (g : Guard) (r : Request) (live? : SessionId → Option SessionEntry) : Decision :=
  if g.isEntry r then .entry
  else
    match r.session with
    | none => .rejected .noSession
    | some id => judge ((live? id).bind (·.window?)) (r.parameter? g.options.parameter)

theorem reading_of_session {r : Request} (notEntry : g.isEntry r = false) {id : SessionId}
    (session : r.session = some id) (site : Site) :
    g.reading r site.live? = judge (site.window? id) (r.parameter? g.options.parameter) := by
  rw [reading, if_neg (by simp [notEntry]), session]
  rfl

theorem reading_of_no_session {r : Request} (notEntry : g.isEntry r = false)
    (session : r.session = none) (live? : SessionId → Option SessionEntry) :
    g.reading r live? = .rejected .noSession := by
  rw [reading, if_neg (by simp [notEntry]), session]

theorem reading_of_held {r : Request} {site : Site} {id : SessionId} {window : Window}
    {token : String} (notEntry : g.isEntry r = false) (own : r.session = some id)
    (given : r.parameter? g.options.parameter = some token)
    (held : site.window? id = some window) (known : token ∈ window.tokens) :
    g.reading r site.live? = .accepted := by
  rw [reading_of_session notEntry own, held, given, judge, if_pos (Window.contains_iff.2 known)]

theorem notEntry_of_refusal {r : Request} {live? : SessionId → Option SessionEntry}
    {refusal : Refusal} (refuses : g.reading r live? = .rejected refusal) :
    g.isEntry r = false := by
  rw [Bool.eq_false_iff]
  intro entry
  rw [reading, if_pos entry] at refuses
  cases refuses

theorem check_fst (g : Guard) (r : Request) (now : Nat) (s : Sessions) :
    (g.check r now s).1 = g.reading r (s.store.live? now) := by
  unfold check reading
  split
  · rfl
  · cases r.session with
    | none => rfl
    | some id =>
      simp only [window?, Sessions.get, Sessions.via, Store.get_fst]
      cases s.store.live? now id <;> rfl

theorem check_eq_reading (g : Guard) (r : Request) (site : Site) :
    (g.check r site.now site.sessions).1 = g.reading r site.live? :=
  check_fst ..

theorem check_visited (g : Guard) (r : Request) (site : Site) :
    site.Visited (if g.isEntry r then none else r.session) (site.access (g.check r)).2 := by
  by_cases entry : g.isEntry r = true
  · rw [if_pos entry]
    have same : (site.access (g.check r)).2 = site := by
      rw [Site.access, check, if_pos entry]
    rw [same]
    exact site.visited_none
  · rw [if_neg entry]
    cases session : r.session with
    | none =>
      have same : (site.access (g.check r)).2 = site := by
        rw [Site.access, check, if_neg entry, session]
      rw [same]
      exact site.visited_none
    | some id =>
      have touched : (site.access (g.check r)).2 =
          { site with sessions := (site.sessions.get site.now id windowKey).2 } := by
        rw [Site.access, check, if_neg entry, session]
        rfl
      rw [touched]
      exact Site.Becomes.visited ⟨rfl, rfl, Store.get_becomes _ _ _ windowKey⟩

/-! ## The window of a session -/

theorem offerWindow_fst {s : Sessions} (full : s.backing = .full) (id : SessionId)
    (mark now : Nat) :
    (g.offerWindow id mark now s).1 =
      match (s.store.live? now id).map (·.getD windowKey (.nonces mark g.freshWindow)) with
      | none => .gone
      | some (.nonces held _) => .held held
      | some (.text _) => .foreign := by
  unfold offerWindow
  simp only [Sessions.getOrInsert, full, Sessions.via]
  rw [← Store.getOrInsert_fst]
  split <;> simp_all

theorem offerWindow_snd (s : Sessions) (id : SessionId) (mark now : Nat) :
    (g.offerWindow id mark now s).2 =
      (s.getOrInsert now id windowKey (.nonces mark g.freshWindow)).2 := by
  unfold offerWindow
  split <;> simp_all

theorem offerWindow_becomes {site : Site} (full : site.sessions.backing = .full) (id : SessionId)
    (mark : Nat) :
    site.Becomes id ((site.live? id).map fun entry =>
      (entry.accessed site.now).ensure windowKey (.nonces mark g.freshWindow))
      (site.access (g.offerWindow id mark)).2 := by
  have := Store.getOrInsert_becomes site.sessions.store site.now id windowKey
    (.nonces mark g.freshWindow)
  refine ⟨?_, rfl, ?_⟩ <;>
    simp only [Site.access, offerWindow_snd, Sessions.getOrInsert, full, Sessions.via]
  exact this

theorem replaceWindow_becomes (site : Site) (id : SessionId) (mark : Nat) :
    site.Becomes id ((site.live? id).map fun entry =>
      (entry.accessed site.now).put windowKey (.nonces mark g.freshWindow))
      (site.access (g.replaceWindow id mark)).2 :=
  ⟨rfl, rfl, Store.set_becomes ..⟩

theorem replaceWindow_fst (s : Sessions) (id : SessionId) (mark now : Nat) :
    (g.replaceWindow id mark now s).1 = (s.store.live? now id).isSome :=
  Store.set_fst ..

theorem windowIn_eq (g : Guard) (id : SessionId) (mark : Nat) (site : Site) :
    g.windowIn id mark site =
      match (site.access (g.offerWindow id mark)).1 with
      | .gone => (none, (site.access (g.offerWindow id mark)).2)
      | .held held => (some held, (site.access (g.offerWindow id mark)).2)
      | .foreign =>
        let offered := (site.access (g.offerWindow id mark)).2
        (if (offered.access (g.replaceWindow id mark)).1 then some mark else none,
          (offered.access (g.replaceWindow id mark)).2) := by
  unfold windowIn
  rcases site.access (g.offerWindow id mark) with ⟨_ | _ | held, offered⟩
  · rfl
  · simp only
    rcases offered.access (g.replaceWindow id mark) with ⟨_ | _, replaced⟩ <;> rfl
  · rfl

theorem windowIn_spec {site : Site} (full : site.sessions.backing = .full) (id : SessionId)
    (mark : Nat) :
    (g.windowIn id mark site).1 = (site.live? id).map (fun entry => (g.seat mark entry).1) ∧
      site.Becomes id ((site.live? id).map (g.seated mark site.now)) (g.windowIn id mark site).2 := by
  have offer : (site.access (g.offerWindow id mark)).1 = _ :=
    offerWindow_fst full id mark site.now
  have offered := offerWindow_becomes (g := g) full id mark
  rw [windowIn_eq, offer]
  cases live : site.live? id with
  | none =>
    rw [live] at offered
    rw [show site.sessions.store.live? site.now id = none from live]
    exact ⟨rfl, offered⟩
  | some entry =>
    rw [live, Option.map_some, SessionEntry.ensure_eq_put] at offered
    rw [show site.sessions.store.live? site.now id = some entry from live]
    cases found : entry.getD windowKey (.nonces mark g.freshWindow) with
    | nonces held window =>
      have seat : g.seat mark entry = (held, window) := by rw [seat_eq, found]
      rw [show (entry.accessed site.now).getD windowKey _ = _ from found] at offered
      simp only [Option.map_some, found, seated, seat]
      exact ⟨trivial, offered⟩
    | text value =>
      -- the session holds something else, which is replaced in a second access
      have seat : g.seat mark entry = (mark, g.freshWindow) := by rw [seat_eq, found]
      have replaced := replaceWindow_becomes (g := g) (site.access (g.offerWindow id mark)).2 id mark
      have answer := replaceWindow_fst (g := g) (site.access (g.offerWindow id mark)).2.sessions id
        mark (site.access (g.offerWindow id mark)).2.now
      rw [show Store.live? _ _ id = _ from offered.self] at answer
      rw [offered.self, offered.now] at replaced
      simp only [Option.map_some, found, seated, seat]
      refine ⟨if_pos answer, offered.trans ?_⟩
      rw [← SessionEntry.put_put]
      exact replaced

theorem windowIn_sessions (g : Guard) (id : SessionId) (mark : Nat) (site : Site) :
    (g.windowIn id mark site).2 =
      { site with sessions := (g.windowIn id mark site).2.sessions } := by
  rw [windowIn_eq]
  split <;> rfl

/-! ## The place of a token -/

end Guard

/-- The same request, up to the session that it carries. -/
def Request.Resembles (r' r : Request) : Prop :=
  ∃ session created, r' = { r with session := session, sessionCreated := created }

/-- Where the token of a request goes: the session, its entry so far, the request that carries the
session, and how many sessions were begun for it. -/
structure Home where
  session : SessionId
  entry : SessionEntry
  request : Request
  begun : Nat

/-- The session of a request, if it is live, or else a new one. -/
def Request.home (r : Request) (site : Site) : Home :=
  match r.session.bind fun id => (site.live? id).map fun entry => (id, entry) with
  | some (id, entry) => ⟨id, entry, r, 0⟩
  | none =>
    let id := site.supply.handle site.supply.handlesDrawn
    ⟨id, ⟨.empty, site.now⟩, r.attach id, 1⟩

namespace Request

variable {r : Request} {site : Site}

theorem home_of_live {id : SessionId} {entry : SessionEntry} (own : r.session = some id)
    (live : site.live? id = some entry) : r.home site = ⟨id, entry, r, 0⟩ := by
  simp [home, own, live]

theorem home_of_gone (gone : ∀ id, r.session = some id → site.live? id = none) :
    r.home site =
      ⟨site.supply.handle site.supply.handlesDrawn, ⟨.empty, site.now⟩,
        r.attach (site.supply.handle site.supply.handlesDrawn), 1⟩ := by
  cases own : r.session with
  | none => simp [home, own]
  | some id => simp [home, own, gone id own]

theorem live_or_gone (r : Request) (site : Site) :
    (∃ id entry, r.session = some id ∧ site.live? id = some entry) ∨
      ∀ id, r.session = some id → site.live? id = none := by
  cases own : r.session with
  | none => exact .inr fun id h => by cases h
  | some id =>
    cases live : site.live? id with
    | none => exact .inr fun id' h => by rwa [← Option.some.inj h]
    | some entry => exact .inl ⟨id, entry, rfl, live⟩

theorem session_home (r : Request) (site : Site) :
    (r.home site).request.session = some (r.home site).session := by
  rcases r.live_or_gone site with ⟨id, entry, own, live⟩ | gone
  · rw [home_of_live own live]
    exact own
  · rw [home_of_gone gone]
    rfl

theorem home_or_gone {id : SessionId} (own : r.session = some id) (site : Site) :
    id = (r.home site).session ∨ site.live? id = none := by
  cases live : site.live? id with
  | none => exact .inr rfl
  | some entry =>
    rw [home_of_live own live]
    exact .inl rfl

theorem home_visited (r : Request) {site' : Site} {session : Option SessionId}
    (visited : site.Visited session site') (supply : site'.supply = site.supply) :
    r.home site' = r.home site ∨
      r.home site' = { r.home site with entry := (r.home site).entry.accessed site.now } := by
  rcases r.live_or_gone site with ⟨id, entry, own, live⟩ | gone
  · have live' := visited.live? id
    rw [live] at live'
    rw [home_of_live own live]
    split at live'
    · exact .inr (home_of_live own live')
    · exact .inl (home_of_live own live')
  · have gone' : ∀ id, r.session = some id → site'.live? id = none := by
      intro id own
      rw [visited.live?, gone id own]
      split <;> rfl
    rw [home_of_gone gone, home_of_gone gone', supply, visited.now]
    exact .inl rfl

theorem Resembles.trans {r' r'' : Request} (first : r'.Resembles r) (second : r''.Resembles r') :
    r''.Resembles r := by
  obtain ⟨session, created, rfl⟩ := first
  obtain ⟨session', created', rfl⟩ := second
  exact ⟨session', created', rfl⟩

theorem resembles_home (r : Request) (site : Site) : (r.home site).request.Resembles r := by
  rcases r.live_or_gone site with ⟨id, entry, own, live⟩ | gone
  · rw [home_of_live own live]
    exact ⟨r.session, r.sessionCreated, rfl⟩
  · rw [home_of_gone gone]
    exact ⟨_, true, rfl⟩

theorem window?_home {window : Window} (held : (r.home site).entry.window? = some window) :
    site.window? (r.home site).session = some window := by
  rcases r.live_or_gone site with ⟨id, entry, own, live⟩ | gone
  · rw [home_of_live own live] at held ⊢
    rw [Site.window?, live]
    exact held
  · rw [home_of_gone gone] at held
    cases held

theorem own_of_window {window : Window} (held : (r.home site).entry.window? = some window) :
    r.session = some (r.home site).session := by
  rcases r.live_or_gone site with ⟨id, entry, own, live⟩ | gone
  · rw [home_of_live own live]
    exact own
  · rw [home_of_gone gone] at held
    cases held

theorem window?_of_own (own : r.session = some (r.home site).session) :
    site.window? (r.home site).session = (r.home site).entry.window? := by
  rcases r.live_or_gone site with ⟨id, entry, carried, live⟩ | gone
  · rw [home_of_live carried live, Site.window?, live]
    rfl
  · rw [Site.window?, gone _ own, home_of_gone gone]
    rfl

end Request

namespace Guard

variable {g : Guard}

theorem placeInOwn_of_own {r : Request} {id : SessionId} (own : r.session = some id) (mark : Nat)
    (site : Site) :
    g.placeInOwn mark r site =
      ((g.windowIn id mark site).1.map (⟨id, ·⟩), (g.windowIn id mark site).2) := by
  simp [placeInOwn, own]

theorem resembles_placeFor (g : Guard) (mark : Nat) (r : Request) (site : Site) :
    (g.placeFor mark r site).2.1.Resembles r := by
  unfold placeFor
  split
  · exact ⟨_, _, rfl⟩
  · exact ⟨_, true, rfl⟩

/-- What `Guard.placeFor` makes of a site. -/
structure Placed (g : Guard) (mark : Nat) (r : Request) (site : Site)
    (result : Option Place × Request × Site) : Prop where
  place : result.1 = some ⟨(r.home site).session, (g.seat mark (r.home site).entry).1⟩
  request : result.2.1 = (r.home site).request
  supply : result.2.2.supply = { site.supply with
    handlesDrawn := site.supply.handlesDrawn + (r.home site).begun }
  becomes : site.Becomes (r.home site).session
    (some (g.seated mark site.now (r.home site).entry)) result.2.2

theorem placeFor_of_live {r : Request} {site : Site} {id : SessionId} {entry : SessionEntry}
    (full : site.sessions.backing = .full) (own : r.session = some id)
    (live : site.live? id = some entry) (mark : Nat) :
    g.placeFor mark r site =
      (some ⟨id, (g.seat mark entry).1⟩, r, (g.windowIn id mark site).2) := by
  have held := (windowIn_spec (g := g) full id mark).1
  rw [live, Option.map_some] at held
  rw [placeFor, placeInOwn_of_own own, held]
  rfl

theorem placeFor_of_gone {r : Request} {site looked : Site} {mark : Nat}
    (missing : g.placeInOwn mark r site = (none, looked)) :
    g.placeFor mark r site =
      let id := looked.openSession.1
      let windowed := g.windowIn id mark looked.openSession.2
      (windowed.1.map (⟨id, ·⟩), r.attach id, windowed.2) := by
  rw [placeFor, missing]

theorem placed_of_live {r : Request} {site : Site} {id : SessionId} {entry : SessionEntry}
    (full : site.sessions.backing = .full) (own : r.session = some id)
    (live : site.live? id = some entry) (mark : Nat) :
    g.Placed mark r site (g.placeFor mark r site) := by
  have becomes := (windowIn_spec (g := g) full id mark).2
  have kept := windowIn_sessions g id mark site
  have home := Request.home_of_live own live
  rw [live, Option.map_some] at becomes
  rw [placeFor_of_live full own live mark]
  exact ⟨by rw [home], by rw [home], by rw [home, kept]; rfl, by rw [home]; exact becomes⟩

theorem placeInOwn_of_gone {r : Request} {site : Site} (full : site.sessions.backing = .full)
    (gone : ∀ id, r.session = some id → site.live? id = none) (mark : Nat) :
    ∃ looked, g.placeInOwn mark r site = (none, looked) ∧ looked.supply = site.supply ∧
      looked.now = site.now ∧ looked.sessions.backing = .full ∧
      ∀ id entry site', looked.Becomes id entry site' → site.Becomes id entry site' := by
  cases own : r.session with
  | none => exact ⟨site, by simp [placeInOwn, own], rfl, rfl, full, fun _ _ _ h => h⟩
  | some id =>
    obtain ⟨held, becomes⟩ := windowIn_spec (g := g) full id mark
    have kept := windowIn_sessions g id mark site
    rw [gone id own] at held becomes
    refine ⟨_, by rw [placeInOwn_of_own own, held]; rfl, by rw [kept], becomes.now,
      becomes.backing.trans full, fun id' entry site' h => ?_⟩
    exact becomes.after_gone (gone id own) rfl h

theorem placed_of_gone {r : Request} {site : Site} (full : site.sessions.backing = .full)
    (gone : ∀ id, r.session = some id → site.live? id = none) (mark : Nat) :
    g.Placed mark r site (g.placeFor mark r site) := by
  obtain ⟨looked, missing, sameSupply, sameNow, stillFull, looks⟩ :=
    placeInOwn_of_gone (g := g) full gone mark
  have opened := Site.openSession_becomes stillFull
  have openedFull : looked.openSession.2.sessions.backing = .full := opened.backing.trans stillFull
  rw [sameSupply, sameNow] at opened
  -- the new session is live and empty, so the window that it is given is a fresh one
  have windowed := windowIn_spec (g := g) openedFull
    (site.supply.handle site.supply.handlesDrawn) mark
  have kept := windowIn_sessions g (site.supply.handle site.supply.handlesDrawn) mark
    looked.openSession.2
  rw [opened.self, Option.map_some, Option.map_some, opened.now, sameNow] at windowed
  have result : g.placeFor mark r site =
      (some ⟨site.supply.handle site.supply.handlesDrawn, (g.seat mark ⟨.empty, site.now⟩).1⟩,
        r.attach (site.supply.handle site.supply.handlesDrawn),
        (g.windowIn (site.supply.handle site.supply.handlesDrawn) mark
          looked.openSession.2).2) := by
    rw [placeFor_of_gone missing]
    simp only [Site.openSession, sameSupply] at windowed ⊢
    rw [windowed.1]
    rfl
  have home := Request.home_of_gone gone
  rw [result]
  refine ⟨by rw [home], by rw [home], ?_, ?_⟩
  · rw [home, kept]
    simp [Site.openSession, sameSupply]
  · rw [home]
    exact looks _ _ _ (opened.trans windowed.2)

theorem placeFor_placed (g : Guard) (r : Request) (site : Site)
    (full : site.sessions.backing = .full) (mark : Nat) :
    g.Placed mark r site (g.placeFor mark r site) := by
  rcases r.live_or_gone site with ⟨id, entry, own, live⟩ | gone
  · exact placed_of_live full own live mark
  · exact placed_of_gone full gone mark

end Guard

end Gatehouse
