import Mathlib.Logic.Relation
import Gatehouse.Filter.Guard

/-!
# Calls in flight

A guard serves many requests at once. A call is one request on its way through a guard; it makes
one access to what all calls share at a time (`Call.step`), and between two of its accesses other
calls may make theirs, and anything else may happen to the sessions (`Scene.apply`). A call that
nobody disturbs does what `Guard.pass` does (`Call.undisturbed`).
-/

namespace Gatehouse

namespace Guard

/-- The token that a call is to enter, and the mark of the window that it may bring. -/
structure Ticket where
  mark : Nat
  token : String
  deriving DecidableEq, Repr

/-- How far a call has come, and what it has in hand. -/
inductive Stage where
  | arrived
  /-- It has taken hold of the window at a place, when so many tokens had been entered in all. -/
  | holding (place : Place) (window : Window) (seen : Nat)
  /-- It has passed the check. -/
  | cleared
  /-- It is to offer a window to a session: its own, or one that was begun for it. -/
  | offering (ticket : Ticket) (id : SessionId) (own : Bool)
  /-- The session holds something else in the place of a window, which is to be replaced. -/
  | replacing (ticket : Ticket) (id : SessionId) (own : Bool)
  /-- It is to begin a session. -/
  | opening (ticket : Ticket)
  /-- It is to enter its token. -/
  | entering (ticket : Ticket) (place : Option Place)
  | passed (ticket : Ticket) (place : Option Place)
  | refused (refusal : Refusal)
  deriving DecidableEq, Repr

namespace Ticket

/-- What a call does next that has drawn a ticket. -/
def start (ticket : Ticket) (r : Request) : Stage :=
  match r.session with
  | none => .opening ticket
  | some id => .offering ticket id true

/-- What a call does next that finds a session gone. -/
def missed (ticket : Ticket) (own : Bool) : Stage :=
  if own then .opening ticket else .entering ticket none

/-- What a call does next that has offered a window to a session. -/
def onOffer (ticket : Ticket) (id : SessionId) (own : Bool) : Offer → Stage
  | .gone => ticket.missed own
  | .foreign => .replacing ticket id own
  | .held mark => .entering ticket (some ⟨id, mark⟩)

/-- What a call does next that has replaced what a session held, if the session still exists. -/
def onReplace (ticket : Ticket) (id : SessionId) (own replaced : Bool) : Stage :=
  if replaced then .entering ticket (some ⟨id, ticket.mark⟩) else ticket.missed own

end Ticket

/-- A request on its way through a guard. -/
structure Call where
  guard : Guard
  request : Request
  links : Links
  stage : Stage
  deriving DecidableEq, Repr

/-- What calls share: the site, and the tokens that were entered so far, oldest first, each with
the place of the window that it went into. -/
structure Commons where
  site : Site
  entered : List (Place × String)

/-- The window at a place once tokens have been entered here and elsewhere. A call has hold of the
window itself, so it sees them also when the session is gone. -/
def Place.grown (place : Place) (window : Window) (entered : List (Place × String)) : Window :=
  ((entered.filter fun e => e.1 = place).map Prod.snd).foldl Window.add window

namespace Call

/-- The call, come to a stage. -/
def inStage (call : Call) (stage : Stage) : Call := { call with stage }

/-- Counts how the request of a call is classed; a call that is not rejected is cleared. -/
def classed (call : Call) (decision : Decision) (commons : Commons) : Call × Commons :=
  (call.inStage (match decision with
      | .rejected refusal => .refused refusal
      | _ => .cleared),
    { commons with site := commons.site.count (·.decide decision.label) })

/-- Goes on with what the session of a call holds in the place of a window. -/
def look (call : Call) (id : SessionId) (held : Option Attribute) (commons : Commons) :
    Call × Commons :=
  match held with
  | some (.nonces mark window) =>
    (call.inStage (.holding ⟨id, mark⟩ window commons.entered.length), commons)
  | _ => call.classed (.rejected .noWindow) commons

/-- Takes the next step of a call, with at most one access to the sessions. -/
def step (call : Call) (commons : Commons) : Call × Commons :=
  match call.stage with
  | .arrived =>
    if call.guard.isEntry call.request then call.classed .entry commons
    else
      match call.request.session with
      | none => call.classed (.rejected .noSession) commons
      | some id =>
        let (held, site) := commons.site.access fun now s => s.get now id windowKey
        call.look id held { commons with site }
  | .holding place window seen =>
    let window := place.grown window (commons.entered.drop seen)
    let nonce := call.request.parameter? call.guard.options.parameter
    call.classed (judge (some window) nonce) commons
  | .cleared =>
    let mark := commons.site.supply.blocksDrawn
    let (block, site) := commons.site.drawBlock
    (call.inStage (Ticket.start ⟨mark, block.token⟩ call.request), { commons with site })
  | .offering ticket id own =>
    let (offer, site) := commons.site.access (call.guard.offerWindow id ticket.mark)
    (call.inStage (ticket.onOffer id own offer), { commons with site })
  | .replacing ticket id own =>
    let (replaced, site) := commons.site.access (call.guard.replaceWindow id ticket.mark)
    (call.inStage (ticket.onReplace id own replaced), { commons with site })
  | .opening ticket =>
    let (id, site) := commons.site.openSession
    ({ call with request := call.request.attach id, stage := .offering ticket id false },
      { commons with site })
  | .entering ticket place =>
    let site := { commons.site with
      sessions := record place ticket.token commons.site.sessions }
    ({ call with
        links := call.links.wrap (.stamp call.guard.options.parameter ticket.token)
        stage := .passed ticket place },
      { site := site.count Tally.issue
        entered := commons.entered ++ (place.map (·, ticket.token)).toList })
  | .passed .. | .refused _ => (call, commons)

/-- What has become of a call. -/
def verdict? (call : Call) : Option Verdict :=
  match call.stage with
  | .passed .. => some .proceed
  | .refused refusal => some (.reject call.guard.options.denyStatus refusal.message)
  | _ => none

/-- The token of a call that has passed. -/
def token? (call : Call) : Option String :=
  match call.stage with
  | .passed ticket _ => some ticket.token
  | _ => none

end Call

theorem Call.handle_step (call : Call) (commons : Commons) :
    (call.step commons).2.site.supply.handle = commons.site.supply.handle := by
  cases at_ : call.stage with
  | arrived =>
    simp only [step, at_]
    split
    · rfl
    · split
      · rfl
      · unfold look
        split <;> rfl
  | passed ticket place | refused refusal => simp only [step, at_]
  | _ =>
    simp only [step, at_]
    rfl

/-! ## A call that nobody disturbs -/

/-- A call and what it shares come from one state to another by steps of that call. -/
def Reaches : Call × Commons → Call × Commons → Prop :=
  Relation.ReflTransGen fun before after => before.1.step before.2 = after

namespace Call

theorem reaches_classed (call : Call) (site : Site) (entered : List (Place × String)) :
    Reaches (call.inStage .arrived, ⟨site, entered⟩)
      (call.classed (site.access (call.guard.check call.request)).1
        ⟨(site.access (call.guard.check call.request)).2, entered⟩) := by
  by_cases entry : call.guard.isEntry call.request = true
  · refine .single ?_
    simp only [step, inStage, entry, if_true, Site.access, check]
    rfl
  · cases session : call.request.session with
    | none =>
      refine .single ?_
      simp only [step, inStage, entry, session, Site.access, check]
      rfl
    | some id =>
      have checks : site.access (call.guard.check call.request) =
          let (held, site) := site.access fun now s => s.get now id windowKey
          (judge (windowOf held) (call.request.parameter? call.guard.options.parameter), site) := by
        simp only [Site.access, check, entry, session, window?]
        rfl
      have first : (call.inStage .arrived).step ⟨site, entered⟩ =
          let (held, site) := site.access fun now s => s.get now id windowKey
          call.look id held ⟨site, entered⟩ := by
        simp only [step, inStage, entry, session]
        rfl
      rw [checks]
      rcases found : site.access fun now s => s.get now id windowKey with
        ⟨_ | (value | ⟨mark, window⟩), looked⟩ <;> rw [found] at first
      · exact .single first
      · exact .single first
      · -- nothing has been entered since the call took hold of the window
        refine .head first (.single ?_)
        simp only [step, look, inStage, List.drop_length]
        rfl

/-- The stage of a call that has found a window in a session, or none. -/
def landed (ticket : Ticket) (id : SessionId) (own : Bool) : Option Nat → Stage
  | some mark => .entering ticket (some ⟨id, mark⟩)
  | none => ticket.missed own

theorem reaches_landed (call : Call) (ticket : Ticket) (id : SessionId) (own : Bool) (site : Site)
    (entered : List (Place × String)) :
    Reaches (call.inStage (.offering ticket id own), ⟨site, entered⟩)
      (call.inStage (landed ticket id own (call.guard.windowIn id ticket.mark site).1),
        ⟨(call.guard.windowIn id ticket.mark site).2, entered⟩) := by
  have first : (call.inStage (.offering ticket id own)).step ⟨site, entered⟩ =
      let (offer, site) := site.access (call.guard.offerWindow id ticket.mark)
      (call.inStage (ticket.onOffer id own offer), ⟨site, entered⟩) := rfl
  unfold windowIn
  rcases answer : site.access (call.guard.offerWindow id ticket.mark) with
    ⟨_ | _ | mark, offered⟩ <;> rw [answer] at first
  · exact .single first
  · refine .head first (.single ?_)
    simp only [step, inStage, Ticket.onOffer]
    rcases offered.access (call.guard.replaceWindow id ticket.mark) with ⟨_ | _, replaced⟩ <;> rfl
  · exact .single first

theorem landed_begun (ticket : Ticket) (id : SessionId) (held : Option Nat) :
    landed ticket id false held = .entering ticket (held.map (⟨id, ·⟩)) := by
  cases held <;> rfl

theorem reaches_begun (call : Call) (ticket : Ticket) (site : Site)
    (entered : List (Place × String)) :
    let (id, opened) := site.openSession
    let (held, site') := call.guard.windowIn id ticket.mark opened
    Reaches (call.inStage (.opening ticket), ⟨site, entered⟩)
      ({ call with
          request := call.request.attach id
          stage := .entering ticket (held.map (⟨id, ·⟩)) },
        ⟨site', entered⟩) := by
  have sought := reaches_landed { call with request := call.request.attach site.openSession.1 }
    ticket site.openSession.1 false site.openSession.2 entered
  rw [landed_begun] at sought
  exact .head rfl sought

theorem reaches_placed (call : Call) (ticket : Ticket) (site : Site)
    (entered : List (Place × String)) :
    let (place, request, site') := call.guard.placeFor ticket.mark call.request site
    Reaches (call.inStage (ticket.start call.request), ⟨site, entered⟩)
      ({ call with request, stage := .entering ticket place }, ⟨site', entered⟩) := by
  unfold placeFor placeInOwn Ticket.start
  cases session : call.request.session with
  | none => exact reaches_begun call ticket site entered
  | some id =>
    have sought := reaches_landed call ticket id true site entered
    rcases found : call.guard.windowIn id ticket.mark site with ⟨_ | mark, searched⟩ <;>
      simp only [found] at sought ⊢
    · exact sought.trans (reaches_begun call ticket searched entered)
    · exact sought

/-- **A call that nobody disturbs does what its guard does.** -/
theorem undisturbed (g : Guard) (p : Passage) (entered : List (Place × String)) :
    ∃ call commons, Reaches (⟨g, p.request, p.links, .arrived⟩, ⟨p.site, entered⟩) (call, commons) ∧
      call.verdict? = some (g.pass p).1 ∧
      Passage.mk call.request call.links commons.site = (g.pass p).2 := by
  have checked := reaches_classed ⟨g, p.request, p.links, .arrived⟩ p.site entered
  -- a call that is cleared draws its ticket, finds a place for its token and enters it there
  have issued : ∀ site, ∃ call commons,
      Reaches (⟨g, p.request, p.links, .cleared⟩, ⟨site, entered⟩) (call, commons) ∧
        call.verdict? = some .proceed ∧
        Passage.mk call.request call.links commons.site = g.issue { p with site } := by
    intro site
    have placed := reaches_placed ⟨g, p.request, p.links, .cleared⟩
      ⟨site.supply.blocksDrawn, site.drawBlock.1.token⟩ site.drawBlock.2 entered
    exact ⟨_, _, .head rfl (placed.trans (.single rfl)), rfl, rfl⟩
  unfold pass
  rcases checks : p.site.access (g.check p.request) with ⟨_ | _ | refusal, site⟩ <;>
    simp only [checks] at checked ⊢
  · obtain ⟨call, commons, reached, verdict, passage⟩ := issued (site.count (·.decide .entry))
    exact ⟨call, commons, checked.trans reached, verdict, passage⟩
  · obtain ⟨call, commons, reached, verdict, passage⟩ := issued (site.count (·.decide .accepted))
    exact ⟨call, commons, checked.trans reached, verdict, passage⟩
  · exact ⟨_, _, checked, rfl, rfl⟩

end Call

/-! ## Scenes -/

/-- The calls, and what they share. -/
structure Scene where
  calls : List Call
  commons : Commons

inductive Move where
  /-- The call at an index takes a step. -/
  | step (index : Nat)
  | elapse (milliseconds : Nat)
  | purge
  /-- A session is begun elsewhere. -/
  | create
  | invalidate (id : SessionId)
  /-- An attribute is set elsewhere. -/
  | write (id : SessionId) (key : String) (value : Attribute)
  deriving DecidableEq, Repr

namespace Scene

/-- A scene where no call has taken a step. -/
def start (calls : List Call) (site : Site) : Scene := ⟨calls, ⟨site, []⟩⟩

def site (scene : Scene) : Site := scene.commons.site

/-- Something happens to the site, and no call takes a step. -/
def withSite (scene : Scene) (site : Site) : Scene :=
  { scene with commons := { scene.commons with site } }

/-- The call at an index, if there is one, takes a step. -/
def stepAt (scene : Scene) (index : Nat) : Scene :=
  match scene.calls[index]? with
  | none => scene
  | some call =>
    let (call, commons) := call.step scene.commons
    ⟨scene.calls.set index call, commons⟩

def apply (scene : Scene) : Move → Scene
  | .step index => scene.stepAt index
  | .elapse milliseconds => scene.withSite (scene.site.elapse milliseconds)
  | .purge => scene.withSite (scene.site.access fun now s => s.purge now).2
  | .create => scene.withSite scene.site.openSession.2
  | .invalidate id => scene.withSite (scene.site.invalidate id)
  | .write id key value => scene.withSite (scene.site.access fun now s => s.set now id key value).2

def run (scene : Scene) (moves : List Move) : Scene := moves.foldl apply scene

theorem run_append (scene : Scene) (earlier later : List Move) :
    scene.run (earlier ++ later) = (scene.run earlier).run later := List.foldl_append

theorem handle_apply (scene : Scene) (move : Move) :
    (scene.apply move).site.supply.handle = scene.site.supply.handle := by
  cases move with
  | step index =>
    simp only [apply, stepAt]
    split
    · rfl
    · next call _ => exact call.handle_step scene.commons
  | _ => rfl

theorem handle_run (scene : Scene) (moves : List Move) :
    (scene.run moves).site.supply.handle = scene.site.supply.handle := by
  induction moves generalizing scene with
  | nil => rfl
  | cons move rest ih => exact (ih (scene.apply move)).trans (scene.handle_apply move)

theorem getElem?_apply (scene : Scene) (move : Move) (index : Nat) :
    (scene.apply move).calls[index]? =
      if move = .step index then scene.calls[index]?.map fun call => (call.step scene.commons).1
      else scene.calls[index]? := by
  cases move with
  | step other =>
    simp only [apply, stepAt, Move.step.injEq]
    split
    · next nobody =>
      split
      · next same => rw [← same, nobody, Option.map_none]
      · rfl
    · next call here =>
      split
      · next same =>
        have bound := (List.getElem?_eq_some_iff.1 here).1
        rw [← same, here, List.getElem?_set_self bound, Option.map_some]
      · next other => exact List.getElem?_set_ne other
  | _ => rfl

theorem getElem?_run_of_notMem {scene : Scene} {moves : List Move} {index : Nat}
    (rests : .step index ∉ moves) : (scene.run moves).calls[index]? = scene.calls[index]? := by
  induction moves generalizing scene with
  | nil => rfl
  | cons move rest ih =>
    obtain ⟨other, rests⟩ := not_or.1 (mt List.mem_cons.2 rests)
    have kept := scene.getElem?_apply move index
    rw [if_neg (Ne.symm other)] at kept
    exact (ih rests).trans kept

end Scene

end Guard

end Gatehouse
