import Gatehouse.Proofs.Guard.Begun
import Gatehouse.Proofs.Guard.Reach
import Gatehouse.Proofs.Nonce.Fifo

/-!
# What a guard grants

A request that a guard lets pass carries a live session that holds the token on its links, so the
next request of that session may follow one of them (`Guard.grants_of_proceed`). If the request
comes with a live session it keeps that one, and otherwise it is given a new one. Blocks may repeat,
and a session may hold anything under the window key.
-/

namespace Gatehouse

namespace Guard

variable {g : Guard} {p p' : Passage}

/-- What a request that a guard has let pass can count on, with the session that it carries. -/
structure Grants (g : Guard) (p : Passage) (id : SessionId) (p' : Passage) : Prop where
  carried : p'.request.session = some id
  holds : ∃ entry mark window, p'.site.live? id = some entry ∧
    entry.attributes.get? windowKey = some (.nonces mark window) ∧ p.token ∈ window.tokens
  links : p'.links = p.links.wrap (.stamp g.options.parameter p.token)
  drawn : p'.site.supply.blocksDrawn = p.site.supply.blocksDrawn + 1
  now : p'.site.now = p.site.now
  follows : ∀ r : Request, r.session = some id →
    r.parameter? g.options.parameter = some p.token →
    (g.check r p'.site.now p'.site.sessions).1 = if g.isEntry r then .entry else .accepted
  /-- A request that carries a live session keeps it. -/
  kept : p.Housed → p'.request = p.request ∧
    p'.site.supply.handlesDrawn = p.site.supply.handlesDrawn
  /-- For any other request a session is begun. -/
  begun : ¬ p.Housed → id = p.site.nextSession ∧ p'.request = p.request.attach id ∧
    p'.site.supply.handlesDrawn = p.site.supply.handlesDrawn + 1
  fresh : ¬ p.Housed → p.site.Supplied → ¬ p.site.Holds id
  /-- If the request carries a session that has expired, that one is removed. -/
  others : ∀ other, other ≠ id → p'.site.held? other =
    if p.request.session = some other then none else p.site.held? other

theorem Passed.holds (passed : g.Passed p p') :
    ∃ entry mark window, p'.site.live? p.home.session = some entry ∧
      entry.attributes.get? windowKey = some (.nonces mark window) ∧ p.token ∈ window.tokens :=
  ⟨_, _, _, passed.becomes.self, get?_granted .., Window.mem_tokens_add_self ..⟩

theorem Passed.follows (passed : g.Passed p p') {r : Request}
    (own : r.session = some p.home.session)
    (given : r.parameter? g.options.parameter = some p.token) :
    (g.check r p'.site.now p'.site.sessions).1 = if g.isEntry r then .entry else .accepted := by
  have held := passed.window? p.home.session
  rw [if_pos rfl] at held
  rw [check_eq_reading]
  split
  · next entry => rw [reading, if_pos entry]
  · next notEntry =>
    exact reading_of_held (by simpa using notEntry) own given held
      (Window.mem_tokens_add_self ..)

/-- **A request that a guard lets pass has a live session with the token of its links.** It is the
request's own session, or a new one if that is not live; no other session is changed. -/
theorem grants_of_proceed (full : p.site.sessions.backing = .full)
    (proceeds : (g.pass p).1 = .proceed) : ∃ id, g.Grants p id (g.pass p).2 := by
  have passes := (pass_proceed_iff g p).1 proceeds
  obtain ⟨-, passed⟩ := pass_of_passes full passes
  refine ⟨p.home.session, ?_⟩
  constructor
  case carried =>
    rw [passed.request]
    exact p.request.session_home p.site
  case holds => exact passed.holds
  case links => exact passed.links
  case drawn => rw [passed.supply]
  case now => exact passed.becomes.now
  case follows =>
    intro r own given
    exact passed.follows own given
  case kept =>
    intro housed
    obtain ⟨-, request, none, -⟩ := housed.home
    refine ⟨passed.request.trans request, ?_⟩
    rw [passed.supply, none]
    rfl
  case begun =>
    intro away
    rw [passed.request, passed.supply, Passage.home_of_not_housed away]
    exact ⟨rfl, rfl, rfl⟩
  case fresh =>
    intro away supplied
    rw [Passage.home_of_not_housed away]
    exact supplied.next_new
  case others =>
    intro other elsewhere
    exact held?_pass_of_passes full passes elsewhere

/-- Under one block for all time, a session that holds a text in the place of a window, and the same
session once it has expired. -/
theorem grants_of_proceed_foreign :
    let g : Guard := ⟨{ entryPoints := ["/"] }⟩
    let supply : Supply := ⟨fun n => ⟨.ofList (.replicate n 'a')⟩, fun _ => .replicate 16 0, 0, 0⟩
    let own : SessionId := ⟨""⟩
    let opened := (Site.start (.start .full 10) supply).openSession.2
    let site := (opened.access fun now s => s.set now own windowKey (.text "x")).2
    let first : Passage := ⟨{ path := "/", session := some own }, .plain, site⟩
    let second : Passage := { first with site := (g.pass first).2.site.elapse 11 }
    (∃ id, g.Grants first id (g.pass first).2) ∧ first.Housed ∧
      (∃ id, g.Grants second id (g.pass second).2 ∧ ¬ second.site.Holds id) ∧ ¬ second.Housed := by
  intro g supply own opened site first second
  have distinct : Function.Injective supply.handle := by
    intro m n same
    have lengths := congrArg (fun id : SessionId => id.text.length) same
    simpa [supply] using lengths
  have housed : first.Housed :=
    ⟨own, ⟨.put .empty windowKey (.text "x"), 0⟩, rfl, by decide⟩
  have away : ¬ second.Housed := by
    rintro ⟨id, entry, carried, live⟩
    obtain rfl : own = id := Option.some.inj carried
    rw [show second.site.live? own = none by decide] at live
    cases live
  have supplied : second.site.Supplied := by
    have opens := (Site.supplied_start distinct .full 10).begins (Site.begins_openSession _)
    have writes : opened.Begins site :=
      opened.begins_access _ fun now s => s.store.noMore_set now own windowKey (.text "x")
    have waits := (g.pass first).2.site.begins_elapse 11
    exact (opens.begins writes).begins ((g.begins_pass first).trans waits)
  obtain ⟨id, grants⟩ := grants_of_proceed (g := g) (p := second) (by decide) (by decide)
  exact ⟨grants_of_proceed (by decide) (by decide), housed,
    ⟨id, grants, grants.fresh away supplied⟩, away⟩

end Guard

end Gatehouse
