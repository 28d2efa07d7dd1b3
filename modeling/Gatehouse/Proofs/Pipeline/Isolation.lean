import Gatehouse.Proofs.Pipeline.Home

/-!
# Sessions do not interfere

Requests are shown to a pipeline one after another while time passes and purges take place. Of a
session there is to be seen when it was last accessed, and which window it holds (`Site.sight`). A
request in another session leaves that as it was. A request in the session itself is treated alike,
and leaves alike, where these are alike (`Passage.Parallel`). So the calls in a session are answered
as they would be without all others (`Pipeline.others_unobserved`).
-/

namespace Gatehouse

/-! ## What there is to be seen of a session -/

namespace Site

variable {site site' : Site} {id : SessionId}

/-- The last access to a session that is live, and the window that it holds. -/
def sight (site : Site) (id : SessionId) : Option (Nat × Option Window) :=
  (site.live? id).map fun entry => (entry.lastAccess, entry.window?)

theorem window?_eq_sight (site : Site) (id : SessionId) :
    site.window? id = (site.sight id).bind Prod.snd := by
  rw [window?, sight]
  cases site.live? id <;> rfl

/-- No session that is still to be begun at the site will bear this name. -/
def NeverBegins (site : Site) (id : SessionId) : Prop :=
  ∀ n, site.supply.handlesDrawn ≤ n → site.supply.handle n ≠ id

/-- At two sites there is the same to be seen of a session, now and for as long as nobody accesses
it. -/
structure Alike (id : SessionId) (site site' : Site) : Prop where
  full : site.sessions.backing = .full
  full' : site'.sessions.backing = .full
  now : site'.now = site.now
  idleLimit : site'.sessions.store.idleLimit = site.sessions.store.idleLimit
  new : site.NeverBegins id
  new' : site'.NeverBegins id
  sight : site'.sight id = site.sight id

theorem sight_elapse (site : Site) (milliseconds : Nat) (id : SessionId) :
    (site.elapse milliseconds).sight id = (site.sight id).filter fun seen =>
      site.now + milliseconds - seen.1 ≤ site.sessions.store.idleLimit := by
  have later : site.now ≤ (site.elapse milliseconds).now := Nat.le_add_right ..
  rw [sight, live?, Store.live?_later later, sight, Option.filter_map]
  rfl

theorem Alike.elapse (alike : site.Alike id site') (milliseconds : Nat) :
    (site.elapse milliseconds).Alike id (site'.elapse milliseconds) := by
  obtain ⟨full, full', now, idleLimit, new, new', sight⟩ := alike
  refine ⟨full, full', congrArg (· + milliseconds) now, idleLimit, new, new', ?_⟩
  rw [sight_elapse, sight_elapse, sight, now, idleLimit]

theorem Alike.purge (alike : site.Alike id site') :
    (site.access fun now s => s.purge now).2.Alike id
      (site'.access fun now s => s.purge now).2 := by
  obtain ⟨full, full', now, idleLimit, new, new', sight⟩ := alike
  have purged : ∀ site : Site, site.sessions.backing = .full →
      (site.access fun now s => s.purge now).2.sessions =
        ⟨.full, (site.sessions.store.purge site.now).2⟩ := by
    intro site full
    simp [access, Sessions.purge, full, Sessions.via]
  refine ⟨by rw [purged site full], by rw [purged site' full'], now, ?_, new, new', ?_⟩
  · rw [purged site full, purged site' full']
    exact idleLimit
  · rw [Site.sight, Site.sight, live?_purge, live?_purge]
    exact sight

end Site

namespace Request

theorem Resembles.symm {r r' : Request} (same : r'.Resembles r) : r.Resembles r' := by
  obtain ⟨session, created, rfl⟩ := same
  exact ⟨r.session, r.sessionCreated, rfl⟩

end Request

namespace Passage

variable {p p' : Passage} {id own : SessionId}

theorem window?_home (own : p.request.session = some id) :
    p.home.entry.window? = p.site.window? id := by
  rw [Site.window?]
  cases live : p.site.live? id with
  | none =>
    have gone : ∀ id', p.request.session = some id' → p.site.live? id' = none := by
      intro id' same
      rw [← Option.some.inj (own.symm.trans same), live]
    rw [Passage.home, Request.home_of_gone gone]
    rfl
  | some entry =>
    rw [Passage.home, Request.home_of_live own live]
    rfl

theorem home_session_eq_iff (carries : p.request.session = some own)
    (new : p.site.NeverBegins id) :
    p.home.session = id ↔ own = id ∧ (p.site.sight own).isSome := by
  rw [Site.sight, Option.isSome_map]
  cases live : p.site.live? own with
  | none =>
    have away : ¬ p.Housed := by
      rintro ⟨id', entry, same, live'⟩
      rw [← Option.some.inj (carries.symm.trans same), live] at live'
      cases live'
    rw [home_of_not_housed away]
    refine ⟨fun same => (new _ (Nat.le_refl _) same).elim, fun h => ?_⟩
    cases h.2
  | some entry =>
    rw [Passage.home, Request.home_of_live carries live]
    exact ⟨fun same => ⟨same, rfl⟩, And.left⟩

/-- Two passages that are alike in what concerns a session: the requests differ at most in the
session that they carry, and of that there is the same to be seen. -/
structure Parallel (id : SessionId) (p p' : Passage) : Prop where
  sites : p.site.Alike id p'.site
  links : p'.links = p.links
  request : p'.request.Resembles p.request
  blocks : ∀ n, p'.site.supply.block (p'.site.supply.blocksDrawn + n) =
    p.site.supply.block (p.site.supply.blocksDrawn + n)
  carried : ∃ own own', p.request.session = some own ∧ p'.request.session = some own' ∧
    p'.site.sight own' = p.site.sight own ∧ (own' = id ↔ own = id)

theorem Parallel.count (parallel : p.Parallel id p') (change change' : Tally → Tally) :
    Parallel id { p with site := p.site.count change }
      { p' with site := p'.site.count change' } :=
  { parallel with sites := { parallel.sites with } }

end Passage

/-! ## One turn -/

namespace Passage.Steady

variable {p p' q q' : Passage} {id : SessionId}

theorem neverBegins (steady : p.Steady q) (new : p.site.NeverBegins id) :
    q.site.NeverBegins id := by
  intro n drawn
  rw [steady.handle]
  exact new n (Nat.le_trans steady.drawn drawn)

theorem alike (steady : p.Steady q) (steady' : p'.Steady q') (alike : p.site.Alike id p'.site)
    (sight : q'.site.sight id = q.site.sight id) : q.site.Alike id q'.site where
  full := steady.backing.trans alike.full
  full' := steady'.backing.trans alike.full'
  now := by rw [steady'.now, steady.now, alike.now]
  idleLimit := by rw [steady'.idleLimit, steady.idleLimit, alike.idleLimit]
  new := steady.neverBegins alike.new
  new' := steady'.neverBegins alike.new'
  sight := sight

end Passage.Steady

namespace Guard

variable {g : Guard} {p p' q q' : Passage} {id : SessionId}

theorem Passed.sight (passed : g.Passed p q) {own : SessionId}
    (carries : p.request.session = some own) (id : SessionId) :
    q.site.sight id = if id = p.home.session then
      some (p.site.now, some ((((p.site.sight own).bind Prod.snd).getD g.freshWindow).add p.token))
      else p.site.sight id := by
  rw [Site.sight, passed.becomes.live?]
  split
  · rw [Option.map_some, window?_granted, Passage.window?_home carries, Site.window?_eq_sight]
    rfl
  · rfl

theorem Refused.sight (refused : Refused p q) (id : SessionId) :
    q.site.sight id = if p.request.session = some id then
      (p.site.sight id).map fun seen => (p.site.now, seen.2) else p.site.sight id := by
  rw [Site.sight, refused.visited.live?]
  split
  · rw [Site.sight, Option.map_map, Option.map_map]
    rfl
  · rfl

theorem reading_parallel (g : Guard) (parallel : p.Parallel id p') :
    g.reading p'.request p'.site.live? = g.reading p.request p.site.live? := by
  obtain ⟨own, own', carries, carries', sight, -⟩ := parallel.carried
  obtain ⟨session, created, same⟩ := parallel.request
  have isEntry : g.isEntry p'.request = g.isEntry p.request := by rw [same]; rfl
  have parameter : p'.request.parameter? g.options.parameter =
      p.request.parameter? g.options.parameter := by
    rw [same]
    rfl
  by_cases entry : g.isEntry p.request = true
  · rw [reading, if_pos (isEntry.trans entry), reading, if_pos entry]
  · have notEntry : g.isEntry p.request = false := by simpa using entry
    rw [reading_of_session (isEntry.trans notEntry) carries', reading_of_session notEntry carries,
      parameter, Site.window?_eq_sight, Site.window?_eq_sight, sight]

theorem Passed.parallel (parallel : p.Parallel id p') (passed : g.Passed p q)
    (passed' : g.Passed p' q') : q.Parallel id q' := by
  obtain ⟨alike, links, request, blocks, own, own', carries, carries', ownSight, same⟩ := parallel
  have token : p'.token = p.token := congrArg Block.token (blocks 0)
  have home : p'.home.session = id ↔ p.home.session = id := by
    rw [Passage.home_session_eq_iff carries alike.new,
      Passage.home_session_eq_iff carries' alike.new', ownSight, same]
  have seen := passed.sight carries
  have seen' := passed'.sight carries'
  rw [ownSight, alike.now, token] at seen'
  have sight : q'.site.sight id = q.site.sight id := by
    rw [seen, seen', alike.sight]
    simp only [eq_comm (a := id), home]
  refine ⟨passed.steady.1.alike passed'.steady.1 alike sight, ?_, ?_, fun n => ?_,
    p.home.session, p'.home.session, ?_, ?_, ?_, home⟩
  · rw [passed'.links, passed.links, links, token]
  · rw [passed'.request, passed.request]
    exact ((Request.resembles_home ..).symm.trans request).trans (Request.resembles_home ..)
  · rw [passed'.supply, passed.supply]
    simpa only [Nat.add_assoc, Nat.add_comm 1] using blocks (1 + n)
  · rw [passed.request]
    exact Request.session_home ..
  · rw [passed'.request]
    exact Request.session_home ..
  · rw [seen, seen', if_pos rfl, if_pos rfl]

theorem Refused.parallel (parallel : p.Parallel id p') (refused : Refused p q)
    (refused' : Refused p' q') : q.Parallel id q' := by
  obtain ⟨alike, links, request, blocks, own, own', carries, carries', ownSight, same⟩ := parallel
  have seen := refused.sight
  have seen' := refused'.sight
  rw [alike.now] at seen'
  have sight : q'.site.sight id = q.site.sight id := by
    rw [seen, seen', alike.sight]
    simp only [carries, carries', Option.some.injEq, same]
  refine ⟨refused.steady.alike refused'.steady alike sight, ?_, ?_, ?_, own, own', ?_, ?_, ?_, same⟩
  · rw [refused'.links, refused.links, links]
  · rw [refused'.request, refused.request]
    exact request
  · rw [refused'.supply, refused.supply]
    exact blocks
  · rw [refused.request, carries]
  · rw [refused'.request, carries']
  · rw [seen, seen', if_pos carries, if_pos carries', ownSight]

/-- A guard decides alike on what is alike, and leaves it alike. -/
theorem pass_parallel (g : Guard) (parallel : p.Parallel id p') :
    (g.pass p').1 = (g.pass p).1 ∧ (g.pass p).2.Parallel id (g.pass p').2 := by
  have reads := reading_parallel g parallel
  by_cases refuses : ∃ refusal, g.reading p.request p.site.live? = .rejected refusal
  · obtain ⟨refusal, refuses⟩ := refuses
    obtain ⟨verdict, refused⟩ := pass_of_refusal refuses
    obtain ⟨verdict', refused'⟩ := pass_of_refusal (reads.trans refuses)
    exact ⟨verdict'.trans verdict.symm, Refused.parallel parallel refused refused'⟩
  · obtain ⟨verdict, passed⟩ := pass_of_passes parallel.sites.full (not_exists.1 refuses)
    obtain ⟨verdict', passed'⟩ := pass_of_passes parallel.sites.full'
      (by rw [reads]; exact not_exists.1 refuses)
    exact ⟨verdict'.trans verdict.symm, Passed.parallel parallel passed passed'⟩

end Guard

/-! ## One call -/

namespace Pipeline

variable {p p' : Passage} {id : SessionId}

theorem firstTurn_parallel (stage : Stage BuiltinFilter) (parallel : p.Parallel id p') :
    (firstTurn stage p').result.1 = (firstTurn stage p).result.1 ∧
      (firstTurn stage p).result.2.Parallel id (firstTurn stage p').result.2 := by
  have shown : (firstTurn stage p).passage.Parallel id (firstTurn stage p').passage :=
    parallel.count ..
  cases filter : stage.filter with
  | guard g =>
    rw [firstTurn_guard filter, firstTurn_guard filter]
    exact Guard.pass_parallel g shown
  | screen s =>
    obtain ⟨session, created, same⟩ := parallel.request
    have failed : p'.request.paramsFailed = p.request.paramsFailed := by rw [same]
    rw [firstTurn_screen filter, firstTurn_screen filter, failed]
    exact ⟨rfl, shown⟩

theorem runStages_parallel (stages : List (Stage BuiltinFilter)) (parallel : p.Parallel id p') :
    (runStages stages p').outcome = (runStages stages p).outcome ∧
      (runStages stages p).passage.Parallel id (runStages stages p').passage := by
  induction stages generalizing p p' with
  | nil => exact ⟨rfl, parallel⟩
  | cons stage rest ih =>
    obtain ⟨same, left⟩ := firstTurn_parallel stage parallel
    cases verdict : (firstTurn stage p).result.1 with
    | proceed =>
      rw [runStages_of_proceed verdict, runStages_of_proceed (same.trans verdict)]
      exact ih left
    | reject status reason =>
      rw [runStages_of_reject verdict, runStages_of_reject (same.trans verdict)]
      obtain ⟨change, counted⟩ := visit_eq stage p
      obtain ⟨change', counted'⟩ := visit_eq stage p'
      refine ⟨rfl, ?_⟩
      simp only [counted, counted']
      exact left.count change change'

end Pipeline

/-! ## Many calls -/

/-- The site, with given blocks to be drawn there from now on. -/
def Site.drawing (site : Site) (draws : Nat → Block) : Site :=
  { site with supply := { site.supply with block := fun n => draws (n - site.supply.blocksDrawn) } }

namespace Pipeline

/-- What happens at a site. A call brings the links of its response, and the blocks that are drawn
for it, one after another. -/
inductive Event where
  | call (r : Request) (links : Links) (draws : Nat → Block)
  | elapse (milliseconds : Nat)
  | purge

/-- The event is a call in another session, or in none. -/
def Event.isForeign (id : SessionId) : Event → Bool
  | .call r _ _ => r.session ≠ some id
  | _ => false

variable (pipeline : Pipeline BuiltinFilter)

def call (site : Site) (r : Request) (links : Links) (draws : Nat → Block) : Run :=
  pipeline.run ⟨r, links, site.drawing draws⟩

/-- The site after one more event. -/
def advance (site : Site) : Event → Site
  | .call r links draws => (pipeline.call site r links draws).passage.site
  | .elapse milliseconds => site.elapse milliseconds
  | .purge => (site.access fun now s => s.purge now).2

/-- The site after events, one after another. -/
def after (site : Site) : List Event → Site
  | [] => site
  | e :: rest => after (pipeline.advance site e) rest

/-- What becomes of a call in a session, and the links that its answer is written with. -/
def answer? (id : SessionId) (site : Site) : Event → Option (Outcome × Links)
  | .call r links draws =>
    let run := pipeline.call site r links draws
    if r.session = some id then some (run.outcome, run.passage.links) else none
  | _ => none

/-- The answers to the calls in a session, in their order. -/
def answersIn (id : SessionId) (site : Site) : List Event → List (Outcome × Links)
  | [] => []
  | e :: rest =>
    (pipeline.answer? id site e).toList ++ answersIn id (pipeline.advance site e) rest

variable {site site' : Site} {id : SessionId} {r : Request}

theorem alike_foreign (alike : site.Alike id site') (foreign : r.session ≠ some id) (links : Links)
    (draws : Nat → Block) : (pipeline.call site r links draws).passage.site.Alike id site' := by
  let p : Passage := pipeline.entering ⟨r, links, site.drawing draws⟩
  let p' : Passage := ⟨r, links, site'⟩
  have elsewhere : id ≠ p.home.session := by
    intro same
    by_cases housed : p.Housed
    · exact foreign (same ▸ housed.home.1)
    · rw [Passage.home_of_not_housed housed] at same
      exact alike.new _ (Nat.le_refl _) same.symm
  have steady : p.Steady (pipeline.call site r links draws).passage :=
    steady_run (p := p) alike.full (pipeline.stagesFor r)
  have start : p.site.Alike id p'.site := { alike with }
  refine steady.alike p'.steady_refl start ?_
  rw [start.sight, Site.sight, Site.sight, steady.others id elsewhere]

theorem alike_own (alike : site.Alike id site') (own : r.session = some id) (links : Links)
    (draws : Nat → Block) :
    let run := pipeline.call site r links draws
    let run' := pipeline.call site' r links draws
    run'.outcome = run.outcome ∧ run'.passage.links = run.passage.links ∧
      run.passage.site.Alike id run'.passage.site := by
  have start : Passage.Parallel id (pipeline.entering ⟨r, links, site.drawing draws⟩)
      (pipeline.entering ⟨r, links, site'.drawing draws⟩) := by
    refine ⟨{ alike with }, rfl, ⟨_, _, rfl⟩, fun n => ?_, id, id, own, own, alike.sight, Iff.rfl⟩
    show draws (site'.supply.blocksDrawn + n - site'.supply.blocksDrawn) =
      draws (site.supply.blocksDrawn + n - site.supply.blocksDrawn)
    rw [Nat.add_sub_cancel_left, Nat.add_sub_cancel_left]
  obtain ⟨outcome, left⟩ := runStages_parallel (pipeline.stagesFor r) start
  exact ⟨outcome, left.links, left.sites⟩

theorem alike_after (alike : site.Alike id site') (events : List Event) :
    let own := events.filter fun e => !e.isForeign id
    pipeline.answersIn id site' own = pipeline.answersIn id site events ∧
      (pipeline.after site events).Alike id (pipeline.after site' own) := by
  induction events generalizing site site' with
  | nil => exact ⟨rfl, alike⟩
  | cons e rest ih =>
    cases e with
    | call r links draws =>
      by_cases own : r.session = some id
      · obtain ⟨outcome, answered, left⟩ := alike_own pipeline alike own links draws
        obtain ⟨answers, after⟩ := ih left
        simp only [List.filter_cons, Event.isForeign, own, ne_eq, not_true_eq_false, decide_false,
          Bool.not_false, if_true, answersIn, answer?, outcome, answered]
        exact ⟨congrArg _ answers, after⟩
      · obtain ⟨answers, after⟩ := ih (alike_foreign pipeline alike own links draws)
        simp only [List.filter_cons, Event.isForeign, own, ne_eq, not_false_eq_true, decide_true,
          Bool.not_true, Bool.false_eq_true, if_false, answersIn, answer?, Option.toList_none,
          List.nil_append]
        exact ⟨answers, after⟩
    | elapse milliseconds => exact ih (alike.elapse milliseconds)
    | purge => exact ih alike.purge

/-- **The calls in a session are answered as they would be without all other calls**, and leave the
session the same window. The sessions that are begun on the way may bear other names then; only none
of them may bear the name of this session. -/
theorem others_unobserved (site : Site) (full : site.sessions.backing = .full) (id : SessionId) (supply : Supply)
    (new : site.NeverBegins id) (new' : { site with supply }.NeverBegins id)
    (events : List Event) :
    let own := events.filter fun e => !e.isForeign id
    let alone : Site := { site with supply }
    pipeline.answersIn id alone own = pipeline.answersIn id site events ∧
      (pipeline.after alone own).window? id = (pipeline.after site events).window? id := by
  intro own alone
  have start : site.Alike id alone := ⟨full, full, rfl, rfl, new, new', rfl⟩
  obtain ⟨answers, left⟩ := alike_after pipeline start events
  refine ⟨answers, ?_⟩
  rw [Site.window?_eq_sight, Site.window?_eq_sight, left.sight]

/-- In one of two live sessions a visitor is given a token and pays with it. It neither helps nor
hinders that the other visitor is given a token and tries the same payment meanwhile, that a third
one turns up, and that there is a purge. -/
theorem others_unobserved_payment :
    let g : Guard := ⟨{ entryPoints := ["/"], windowSize := 1 }⟩
    let rule : Rule := ⟨"csrf", [.tree ""], [], false, false, .ofList []⟩
    let pipeline : Pipeline BuiltinFilter :=
      ⟨.ofList [("csrf", .guard g)], [⟨rule, .guard g⟩], .empty⟩
    let handles (n : Nat) : SessionId := ⟨if n = 0 then "a" else if n = 1 then "b" else "c"⟩
    let drawn (n : Nat) (_ : Nat) : Block := .replicate 16 n.toUInt8
    let empty : Site := .start (.start .full 10) { handle := handles, block := drawn 0 }
    let site := empty.openSession.2.openSession.2
    let visit (session : Option SessionId) (n : Nat) : Event :=
      .call { path := "/", session } .plain (drawn n)
    let payment : Request := { method := "POST", path := "/pay"
                               params := [("csrfToken", (drawn 1 0).token)] }
    let pay (id : SessionId) (n : Nat) : Event :=
      .call { payment with session := some id } .plain (drawn n)
    let events := [visit (some ⟨"a"⟩) 1, visit (some ⟨"b"⟩) 2, .elapse 6, visit none 3, .purge,
      pay ⟨"b"⟩ 4, pay ⟨"a"⟩ 5]
    let own := [visit (some ⟨"a"⟩) 1, .elapse 6, .purge, pay ⟨"a"⟩ 5]
    let supply : Supply := { handle := fun _ => ⟨"d"⟩, block := drawn 0 }
    site.sessions.backing = .full ∧ site.NeverBegins ⟨"a"⟩ ∧
      { site with supply }.NeverBegins ⟨"a"⟩ ∧
      (pipeline.answersIn ⟨"b"⟩ site events).map Prod.fst =
        [.proceed, .halted "csrf" 403 "nonce not recognised"] ∧
      (pipeline.answersIn ⟨"a"⟩ { site with supply } own).map Prod.fst = [.proceed, .proceed] ∧
      (pipeline.after { site with supply } own).window? ⟨"a"⟩ =
        some (((Window.ofCapacity 1).add (drawn 1 0).token).add (drawn 5 0).token) := by
  intro g rule pipeline handles drawn empty site visit payment pay events own supply
  have new : site.NeverBegins ⟨"a"⟩ := by
    intro n (later : 2 ≤ n)
    show handles n ≠ _
    simp only [handles, if_neg (show n ≠ 0 by omega), if_neg (show n ≠ 1 by omega)]
    decide
  have new' : { site with supply }.NeverBegins ⟨"a"⟩ := fun _ _ =>
    show (⟨"d"⟩ : SessionId) ≠ ⟨"a"⟩ by decide
  obtain ⟨answers, window⟩ :=
    others_unobserved pipeline site rfl ⟨"a"⟩ supply new new' events
  have same : (events.filter fun e => !e.isForeign ⟨"a"⟩) = own := rfl
  rw [same] at answers window
  refine ⟨rfl, new, new', by decide, ?_, ?_⟩
  · rw [answers]
    decide
  · rw [window]
    decide

end Pipeline

end Gatehouse
