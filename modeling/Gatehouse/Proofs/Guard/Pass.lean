import Gatehouse.Proofs.Guard.Place

/-!
# What a guard leaves behind

Over the full service a guard either refuses a passage, which only accesses the session of the
request (`Guard.Refused`), or lets it pass, which enters a fresh token into the window of one
session and stamps it on the links (`Guard.Passed`). Which of the two, the reading of the request
tells.
-/

namespace Gatehouse

/-- The token that a guard issues if it lets a passage pass. -/
def Passage.token (p : Passage) : String := (p.site.supply.block p.site.supply.blocksDrawn).token

/-- Where that token goes. -/
def Passage.home (p : Passage) : Home := p.request.home p.site

namespace Passage

variable {p : Passage}

/-- The request carries a session that is live. -/
def Housed (p : Passage) : Prop :=
  ∃ id entry, p.request.session = some id ∧ p.site.live? id = some entry

theorem Housed.home (housed : p.Housed) :
    p.request.session = some p.home.session ∧ p.home.request = p.request ∧ p.home.begun = 0 ∧
      ∃ entry, p.site.live? p.home.session = some entry := by
  obtain ⟨id, entry, own, live⟩ := housed
  rw [Passage.home, Request.home_of_live own live]
  exact ⟨own, rfl, rfl, entry, live⟩

theorem home_of_not_housed (away : ¬ p.Housed) :
    p.home = ⟨p.site.supply.handle p.site.supply.handlesDrawn, ⟨.empty, p.site.now⟩,
      p.request.attach (p.site.supply.handle p.site.supply.handlesDrawn), 1⟩ := by
  refine Request.home_of_gone fun id own => ?_
  cases live : p.site.live? id with
  | none => rfl
  | some entry => exact (away ⟨id, entry, own, live⟩).elim

end Passage

namespace Guard

variable {g : Guard} {p p' : Passage}

/-- What a guard leaves of a passage that it lets pass. -/
structure Passed (g : Guard) (p p' : Passage) : Prop where
  request : p'.request = p.home.request
  links : p'.links = p.links.wrap (.stamp g.options.parameter p.token)
  supply : p'.site.supply = { p.site.supply with
    handlesDrawn := p.site.supply.handlesDrawn + p.home.begun
    blocksDrawn := p.site.supply.blocksDrawn + 1 }
  becomes : p.site.Becomes p.home.session
    (some (g.granted p.site.supply.blocksDrawn p.site.now p.token p.home.entry)) p'.site

/-- What a guard leaves of a passage that it refuses. -/
structure Refused (p p' : Passage) : Prop where
  request : p'.request = p.request
  links : p'.links = p.links
  supply : p'.site.supply = p.site.supply
  visited : p.site.Visited p.request.session p'.site

theorem Passed.window? (passed : g.Passed p p') (id : SessionId) :
    p'.site.window? id =
      if id = p.home.session then some ((p.home.entry.window?.getD g.freshWindow).add p.token)
      else p.site.window? id := by
  rw [Site.window?, passed.becomes.live?]
  split
  · rw [Option.bind_some, window?_granted]
  · rfl

theorem issue_eq (g : Guard) (p : Passage) :
    g.issue p =
      let result := g.placeFor p.site.supply.blocksDrawn p.request p.site.drawBlock.2
      let sessions := record result.1 p.token result.2.2.sessions
      { request := result.2.1
        links := p.links.wrap (.stamp g.options.parameter p.token)
        site := { result.2.2 with sessions }.count Tally.issue } := rfl

theorem issue_passed (full : p.site.sessions.backing = .full) : g.Passed p (g.issue p) := by
  have placed := placeFor_placed g p.request p.site.drawBlock.2 full p.site.supply.blocksDrawn
  rw [issue_eq]
  generalize g.placeFor p.site.supply.blocksDrawn p.request p.site.drawBlock.2 = result at placed ⊢
  obtain ⟨found, request, site⟩ := result
  obtain ⟨place, carried, supply, becomes⟩ := placed
  have live : site.sessions.store.live? p.site.now p.home.session =
      some (g.seated p.site.supply.blocksDrawn p.site.now p.home.entry) := becomes.store.self
  have entered := Store.addToken_becomes site.sessions.store p.site.now p.home.session windowKey
    (g.seat p.site.supply.blocksDrawn p.home.entry).1 p.token
  rw [live, Option.map_some, enter_seated] at entered
  have place : found = some ⟨p.home.session, (g.seat p.site.supply.blocksDrawn p.home.entry).1⟩ :=
    place
  have supply : site.supply = { p.site.drawBlock.2.supply with
    handlesDrawn := p.site.supply.handlesDrawn + p.home.begun } := supply
  subst place
  refine ⟨carried, rfl, ?_, becomes.backing, becomes.now, becomes.store.trans entered⟩
  show site.supply = _
  rw [supply]
  rfl

theorem pass_eq (g : Guard) (p : Passage) :
    g.pass p =
      let decision := g.reading p.request p.site.live?
      let site := (p.site.access (g.check p.request)).2.count (·.decide decision.label)
      match decision with
      | .rejected refusal => (.reject g.options.denyStatus refusal.message, { p with site })
      | _ => (.proceed, g.issue { p with site }) := by
  have decision := check_fst g p.request p.site.now p.site.sessions
  unfold pass
  simp only [Site.access] at decision ⊢
  rw [decision]
  rfl

theorem resembles_pass (g : Guard) (p : Passage) :
    (g.pass p).2.request.Resembles p.request := by
  rw [pass_eq]
  cases g.reading p.request p.site.live? with
  | rejected refusal => exact ⟨_, _, rfl⟩
  | entry => exact resembles_placeFor ..
  | accepted => exact resembles_placeFor ..

theorem Passed.of_visited {site' : Site} {session : Option SessionId}
    (visited : p.site.Visited session site') (own : session = none ∨ session = p.request.session)
    (supply : site'.supply = p.site.supply) (passed : g.Passed { p with site := site' } p') :
    g.Passed p p' := by
  obtain ⟨request, links, drawn, becomes⟩ := passed
  rw [Passage.home] at request drawn becomes
  simp only [Passage.token, supply, visited.now] at request links drawn becomes
  -- the access was to none but the session of the request, so the token goes where it went before
  have there : ∀ id, session = some id → id = p.home.session ∨ p.site.live? id = none := by
    intro id h
    rcases own with none | same
    · rw [none] at h
      cases h
    · exact Request.home_or_gone (same ▸ h) p.site
  rcases p.request.home_visited visited supply with home | home
  · rw [home] at request drawn becomes
    exact ⟨request, links, drawn, visited.trans_becomes there becomes⟩
  · rw [home] at request drawn becomes
    rw [granted_accessed] at becomes
    exact ⟨request, links, drawn, visited.trans_becomes there becomes⟩

theorem pass_eq_issue (passes : ∀ refusal, g.reading p.request p.site.live? ≠ .rejected refusal) :
    g.pass p = (.proceed, g.issue { p with
      site := (p.site.access (g.check p.request)).2.count
        (·.decide (g.reading p.request p.site.live?).label) }) := by
  rw [pass_eq]
  cases decision : g.reading p.request p.site.live? with
  | rejected refusal => exact absurd decision (passes refusal)
  | _ => rfl

theorem pass_of_passes (full : p.site.sessions.backing = .full)
    (passes : ∀ refusal, g.reading p.request p.site.live? ≠ .rejected refusal) :
    (g.pass p).1 = .proceed ∧ g.Passed p (g.pass p).2 := by
  have visited := (check_visited g p.request p.site).count
    (·.decide (g.reading p.request p.site.live?).label)
  rw [pass_eq_issue passes]
  refine ⟨rfl, .of_visited visited ?_ rfl (issue_passed (visited.backing.trans full))⟩
  split
  · exact .inl rfl
  · exact .inr rfl

theorem pass_eq_check {refusal : Refusal}
    (refuses : g.reading p.request p.site.live? = .rejected refusal) :
    g.pass p = (.reject g.options.denyStatus refusal.message,
      { p with site := (p.site.access (g.check p.request)).2.count (·.decide .rejected) }) := by
  rw [pass_eq, refuses]
  rfl

theorem pass_of_refusal {refusal : Refusal}
    (refuses : g.reading p.request p.site.live? = .rejected refusal) :
    (g.pass p).1 = .reject g.options.denyStatus refusal.message ∧ Refused p (g.pass p).2 := by
  have visited := (check_visited g p.request p.site).count (·.decide .rejected)
  rw [if_neg (by simp [notEntry_of_refusal refuses])] at visited
  rw [pass_eq_check refuses]
  exact ⟨rfl, rfl, rfl, rfl, visited⟩

theorem pass_proceed_iff (g : Guard) (p : Passage) :
    (g.pass p).1 = .proceed ↔
      ∀ refusal, g.reading p.request p.site.live? ≠ .rejected refusal := by
  rw [pass_eq]
  cases g.reading p.request p.site.live? <;> simp

theorem holds_of_proceed (proceeds : (g.pass p).1 = .proceed)
    (notEntry : g.isEntry p.request = false) :
    ∃ id nonce window, p.request.session = some id ∧
      p.request.parameter? g.options.parameter = some nonce ∧
      p.site.window? id = some window ∧ nonce ∈ window.tokens := by
  rw [pass_proceed_iff] at proceeds
  cases session : p.request.session with
  | none => exact (proceeds _ (reading_of_no_session notEntry session _)).elim
  | some id =>
    rw [reading_of_session notEntry session] at proceeds
    cases held : p.site.window? id with
    | none => exact (proceeds .noWindow (by rw [held]; rfl)).elim
    | some window =>
      cases given : p.request.parameter? g.options.parameter with
      | none => exact (proceeds .noNonce (by rw [held, given]; rfl)).elim
      | some nonce =>
        refine ⟨id, nonce, window, rfl, rfl, held, ?_⟩
        by_cases known : window.contains nonce = true
        · exact Window.contains_iff.1 known
        · refine (proceeds .unknownNonce ?_).elim
          rw [held, given, judge, if_neg known]

/-- The session into which a guard issues a token while it is shown a passage, and the token. -/
def issued? (g : Guard) (p : Passage) : Option (SessionId × String) :=
  match g.pass p with
  | (.proceed, p') => p'.request.session.map (·, p.token)
  | _ => none

theorem issued?_of_proceed (full : p.site.sessions.backing = .full)
    (proceeds : (g.pass p).1 = .proceed) : g.issued? p = some (p.home.session, p.token) := by
  have passed := (pass_of_passes full ((pass_proceed_iff g p).1 proceeds)).2
  rw [issued?]
  split
  · next p' same =>
    rw [same] at passed
    rw [passed.request, Passage.home, Request.session_home]
    rfl
  · next other => exact (other (g.pass p).2 (Prod.ext proceeds rfl)).elim

theorem issued?_of_refusal {refusal : Refusal}
    (refuses : g.reading p.request p.site.live? = .rejected refusal) : g.issued? p = none := by
  have verdict := (pass_of_refusal refuses).1
  rw [issued?]
  split
  · next p' same => rw [same] at verdict; cases verdict
  · rfl

theorem pass_cases (g : Guard) (full : p.site.sessions.backing = .full) :
    ((g.pass p).1 = .proceed ∧ g.Passed p (g.pass p).2 ∧
        g.issued? p = some (p.home.session, p.token)) ∨
      ∃ refusal, g.reading p.request p.site.live? = .rejected refusal ∧
        (g.pass p).1 = .reject g.options.denyStatus refusal.message ∧
        Refused p (g.pass p).2 ∧ g.issued? p = none := by
  by_cases refuses : ∃ refusal, g.reading p.request p.site.live? = .rejected refusal
  · obtain ⟨refusal, refuses⟩ := refuses
    obtain ⟨verdict, refused⟩ := pass_of_refusal refuses
    exact .inr ⟨refusal, refuses, verdict, refused, issued?_of_refusal refuses⟩
  · obtain ⟨proceeds, passed⟩ := pass_of_passes full (not_exists.1 refuses)
    exact .inl ⟨proceeds, passed, issued?_of_proceed full proceeds⟩

end Guard

end Gatehouse
