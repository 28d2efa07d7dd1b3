import Gatehouse.Proofs.Guard.Pass
import Gatehouse.Proofs.Session.Confined

/-!
# How far a guard reaches

A guard that rejects a request reaches no further than the session that the request carries, and
that session is only accessed (`Guard.spared_of_reject`). One that lets a request pass reaches the
session of its token as well, and no other one; of a session that had expired nothing is left
(`Guard.held?_pass_of_passes`).
-/

namespace Gatehouse

namespace Site

/-- The entry that a site holds for a session, expired or not. -/
def held? (site : Site) (id : SessionId) : Option SessionEntry :=
  site.sessions.store.sessions.get? id

/-- `site'` holds the same as `site`, but for one session. -/
def Confined (site : Site) (id : SessionId) (site' : Site) : Prop :=
  site.sessions.store.Confined id site'.sessions.store

variable {site site' : Site} {id other : SessionId}

theorem Confined.held? (confined : site.Confined id site') (elsewhere : other ≠ id) :
    site'.held? other = site.held? other :=
  confined.others other elsewhere

theorem confined_openSession (site : Site) :
    site.Confined (site.supply.handle site.supply.handlesDrawn) site.openSession.2 :=
  site.sessions.confined_create ..

end Site

namespace Guard

variable {g : Guard} {p : Passage} {id other : SessionId}

/-! ## Windows and tokens -/

theorem confined_windowIn (g : Guard) (id : SessionId) (mark : Nat) (site : Site) :
    site.Confined id (g.windowIn id mark site).2 := by
  have offered : site.Confined id (site.access (g.offerWindow id mark)).2 := by
    show site.sessions.store.Confined id (g.offerWindow id mark site.now site.sessions).2.store
    rw [offerWindow_snd]
    exact site.sessions.confined_getOrInsert ..
  rw [windowIn_eq]
  split
  · exact offered
  · exact offered
  · exact Store.Confined.trans offered (Store.confined_set ..)

theorem held?_windowIn_of_gone {site : Site} (full : site.sessions.backing = .full)
    (gone : site.live? id = none) (mark : Nat) : (g.windowIn id mark site).2.held? id = none := by
  have offer : (site.access (g.offerWindow id mark)).1 = .gone := by
    have told := offerWindow_fst (g := g) full id mark site.now
    rw [show site.sessions.store.live? site.now id = none from gone] at told
    exact told
  rw [windowIn_eq, offer]
  show (g.offerWindow id mark site.now site.sessions).2.store.sessions.get? id = none
  rw [offerWindow_snd, Sessions.getOrInsert, full]
  exact Store.get?_getOrInsert_of_gone gone ..

theorem held?_placeInOwn {r : Request} {site : Site} (full : site.sessions.backing = .full)
    (gone : ∀ id, r.session = some id → site.live? id = none) (mark : Nat) (other : SessionId) :
    (g.placeInOwn mark r site).2.held? other =
      if r.session = some other then none else site.held? other := by
  cases own : r.session with
  | none => rw [placeInOwn, own, if_neg (Option.some_ne_none other).symm]
  | some id =>
    rw [placeInOwn_of_own own]
    split
    · next same =>
      obtain rfl := Option.some.inj same
      exact held?_windowIn_of_gone full (gone id own) mark
    · next differs =>
      exact (g.confined_windowIn id mark site).held? fun same => differs (congrArg some same.symm)

theorem held?_placeFor {r : Request} {site : Site} (full : site.sessions.backing = .full)
    (elsewhere : other ≠ (r.home site).session) (mark : Nat) :
    (g.placeFor mark r site).2.2.held? other =
      if r.session = some other then none else site.held? other := by
  rcases r.live_or_gone site with ⟨id, entry, own, live⟩ | gone
  · rw [Request.home_of_live own live] at elsewhere
    have differs : some id ≠ some other := fun same => elsewhere (Option.some.inj same).symm
    rw [placeFor_of_live full own live mark, own, if_neg differs]
    exact (g.confined_windowIn id mark site).held? elsewhere
  · obtain ⟨looked, missing, sameSupply, -, -, -⟩ := placeInOwn_of_gone (g := g) full gone mark
    have left := held?_placeInOwn (g := g) full gone mark other
    rw [missing] at left
    rw [Request.home_of_gone gone, ← sameSupply] at elsewhere
    rw [placeFor_of_gone missing, ← left]
    -- what follows is about the new session alone
    exact ((g.confined_windowIn _ mark _).held? elsewhere).trans
      (looked.confined_openSession.held? elsewhere)

theorem held?_issue (full : p.site.sessions.backing = .full)
    (elsewhere : other ≠ p.home.session) :
    (g.issue p).site.held? other =
      if p.request.session = some other then none else p.site.held? other := by
  have placed := placeFor_placed g p.request p.site.drawBlock.2 full p.site.supply.blocksDrawn
  have drawn : p.site.drawBlock.2.sessions.backing = .full := full
  have before := held?_placeFor (g := g) (r := p.request) drawn elsewhere p.site.supply.blocksDrawn
  rw [issue_eq]
  generalize g.placeFor p.site.supply.blocksDrawn p.request p.site.drawBlock.2 = result
    at placed before ⊢
  have place : result.1 = some ⟨p.home.session, _⟩ := placed.place
  have entered : (record result.1 p.token result.2.2.sessions).store.sessions.get? other =
      result.2.2.held? other := by
    rw [place]
    exact (Store.confined_addToken ..).others other elsewhere
  exact entered.trans before

/-! ## Passages -/

theorem held?_check (g : Guard) (r : Request) (site : Site) (id : SessionId) :
    (site.access (g.check r)).2.held? id =
      if g.isEntry r = false ∧ r.session = some id then (site.live? id).map (·.accessed site.now)
      else site.held? id := by
  by_cases entry : g.isEntry r = true
  · rw [Site.access, check, if_pos entry, if_neg (by simp [entry])]
  · cases session : r.session with
    | none => rw [Site.access, check, if_neg entry, session, if_neg (by simp)]
    | some own =>
      have touched : (site.access (g.check r)).2.held? id =
          (site.sessions.store.touch site.now own).2.sessions.get? id := by
        rw [Site.access, check, if_neg entry, session]
        rfl
      rw [touched, Store.get?_touch]
      by_cases same : id = own
      · subst same
        rw [if_pos rfl, if_pos ⟨by simpa using entry, rfl⟩]
        rfl
      · rw [if_neg same, if_neg fun h => same (Option.some.inj h.2).symm]
        rfl

theorem held?_pass_of_passes (full : p.site.sessions.backing = .full)
    (passes : ∀ refusal, g.reading p.request p.site.live? ≠ .rejected refusal)
    (elsewhere : other ≠ p.home.session) :
    (g.pass p).2.site.held? other =
      if p.request.session = some other then none else p.site.held? other := by
  have visited := (check_visited g p.request p.site).count
    (·.decide (g.reading p.request p.site.live?).label)
  have there : other ≠ (p.request.home ((p.site.access (g.check p.request)).2.count
      (·.decide (g.reading p.request p.site.live?).label))).session := by
    rcases p.request.home_visited visited rfl with home | home <;> rw [home] <;> exact elsewhere
  rw [pass_eq_issue passes, held?_issue (visited.backing.trans full) there]
  split
  · rfl
  · next differs =>
    exact (held?_check g p.request p.site other).trans (if_neg fun h => differs h.2)

theorem exists_refusal_of_reject {status : Nat} {reason : String}
    (rejects : (g.pass p).1 = .reject status reason) :
    ∃ refusal, g.reading p.request p.site.live? = .rejected refusal := by
  refine Classical.byContradiction fun passes => ?_
  rw [(pass_proceed_iff g p).2 (not_exists.1 passes)] at rejects
  cases rejects

theorem held?_pass_of_refusal {refusal : Refusal}
    (refuses : g.reading p.request p.site.live? = .rejected refusal) (id : SessionId) :
    (g.pass p).2.site.held? id =
      if p.request.session = some id then (p.site.live? id).map (·.accessed p.site.now)
      else p.site.held? id := by
  rw [pass_eq_check refuses]
  refine (held?_check g p.request p.site id).trans ?_
  simp only [notEntry_of_refusal refuses, true_and]

/-- All that a guard changes of a passage that it rejects: it counts the decision, and accesses the
session of the request. -/
structure Spared (p p' : Passage) : Prop where
  request : p'.request = p.request
  links : p'.links = p.links
  supply : p'.site.supply = p.site.supply
  now : p'.site.now = p.site.now
  tally : p'.site.tally = p.site.tally.decide .rejected
  backing : p'.site.sessions.backing = p.site.sessions.backing
  idleLimit : p'.site.sessions.store.idleLimit = p.site.sessions.store.idleLimit
  held : ∀ id, p'.site.held? id =
    if p.request.session = some id then (p.site.live? id).map (·.accessed p.site.now)
    else p.site.held? id

theorem spared_of_refusal {refusal : Refusal}
    (refuses : g.reading p.request p.site.live? = .rejected refusal) : Spared p (g.pass p).2 := by
  have visited := check_visited g p.request p.site
  have held := held?_pass_of_refusal refuses
  rw [pass_eq_check refuses] at held ⊢
  exact ⟨rfl, rfl, rfl, rfl, rfl, visited.backing, visited.idleLimit, held⟩

/-- **A guard that rejects a request leaves all as it was, but for the session that the request
carries.** That one counts as accessed if it is live, and is removed if it has expired. -/
theorem spared_of_reject {status : Nat} {reason : String}
    (rejects : (g.pass p).1 = .reject status reason) :
    status = g.options.denyStatus ∧
      (∃ refusal, (g.check p.request p.site.now p.site.sessions).1 = .rejected refusal ∧
        reason = refusal.message) ∧
      Spared p (g.pass p).2 := by
  obtain ⟨refusal, refuses⟩ := exists_refusal_of_reject rejects
  have decision := (g.check_eq_reading p.request p.site).trans refuses
  rw [(pass_of_refusal refuses).1] at rejects
  obtain ⟨rfl, rfl⟩ := Verdict.reject.inj rejects
  exact ⟨rfl, ⟨refusal, decision, rfl⟩, spared_of_refusal refuses⟩

/-- A nonce that is not known, and a session that has expired: the first takes nothing from its
session, and the second leaves nothing of its own. -/
theorem spared_of_reject_stale :
    let g : Guard := ⟨{ entryPoints := ["/"] }⟩
    let supply : Supply :=
      ⟨fun n => ⟨if n = 0 then "a" else "b"⟩, fun n => .replicate 16 n.toUInt8, 0, 0⟩
    let first := (g.pass ⟨{ path := "/" }, .plain, .start (.start .full 10) supply⟩).2.site
    let site := ((g.pass ⟨{ path := "/" }, .plain, first.elapse 11⟩).2.site).elapse 2
    let params := [(g.options.parameter, "0")]
    let pay (id : SessionId) : Passage :=
      ⟨{ method := "POST", path := "/pay", params, session := some id }, .plain, site⟩
    (g.pass (pay ⟨"b"⟩)).1 = .reject 403 "nonce not recognised" ∧
      Spared (pay ⟨"b"⟩) (g.pass (pay ⟨"b"⟩)).2 ∧ (site.live? ⟨"b"⟩).isSome ∧
      (g.pass (pay ⟨"a"⟩)).1 = .reject 403 "no nonce cache in session" ∧
      (g.pass (pay ⟨"a"⟩)).2.site.held? ⟨"a"⟩ = none ∧ (site.held? ⟨"a"⟩).isSome := by
  intro g supply first site params pay
  have unknown : (g.pass (pay ⟨"b"⟩)).1 = .reject 403 "nonce not recognised" := by decide
  have stale : (g.pass (pay ⟨"a"⟩)).1 = .reject 403 "no nonce cache in session" := by decide
  obtain ⟨-, -, known⟩ := spared_of_reject unknown
  obtain ⟨-, -, left⟩ := spared_of_reject stale
  have gone : (g.pass (pay ⟨"a"⟩)).2.site.held? ⟨"a"⟩ = none := by
    rw [left.held, if_pos rfl]
    decide
  exact ⟨unknown, known, by decide, stale, gone, by decide⟩

end Guard

end Gatehouse
