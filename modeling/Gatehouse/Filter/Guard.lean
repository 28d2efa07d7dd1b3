import Gatehouse.Filter.Options
import Gatehouse.Filter.Passage

/-!
# The guard against forged requests

A guard lets a request pass if it enters by an entry point, or if it presents a nonce that was
issued into its session and is still held there. Every request that passes is given a fresh
nonce: it goes into the window of the session, which is begun if need be, and onto every outbound
link. A request that is rejected changes nothing but the last access of its session.

Each access to the sessions is a function of its own: `Guard.check`, `Guard.offerWindow`,
`Guard.replaceWindow`, `Site.openSession` and `Guard.record`. `Guard.pass` runs them in a row.
-/

namespace Gatehouse

inductive Refusal where
  | noSession
  | noWindow
  | noNonce
  | unknownNonce
  deriving DecidableEq, Repr

def Refusal.message : Refusal → String
  | .noSession => "no session"
  | .noWindow => "no nonce cache in session"
  | .noNonce => "nonce parameter missing"
  | .unknownNonce => "nonce not recognised"

inductive Decision where
  | entry
  | accepted
  | rejected (refusal : Refusal)
  deriving DecidableEq, Repr

def Decision.label : Decision → DecisionLabel
  | .entry => .entry
  | .accepted => .accepted
  | .rejected _ => .rejected

structure Guard where
  options : GuardOptions
  deriving DecidableEq, Repr

namespace Guard

/-- The key under which a session holds its window. -/
def windowKey : String := "request_filter.csrf.nonce_cache"

/-- Sets up a guard; the random source must be known. -/
def ofOptions (name : String) (options : GuardOptions) : Except InitError Guard :=
  match RandomSource.parse options.randomSource with
  | .error cause => .error (.randomSource name cause)
  | .ok _ => .ok ⟨options⟩

/-- The request is a GET for an entry point. -/
def isEntry (g : Guard) (r : Request) : Bool :=
  r.method = "GET" && g.options.entryPoints.contains r.path

/-- An empty window of the size that the guard gives to sessions. -/
def freshWindow (g : Guard) : Window := .ofCapacity g.options.windowSize

/-- The window that an attribute holds. -/
def windowOf : Option Attribute → Option Window
  | some (.nonces _ window) => some window
  | _ => none

/-- The window of a session; looking at it is an access. -/
def window? (now : Nat) (id : SessionId) (s : Sessions) : Option Window × Sessions :=
  let (held, s) := s.get now id windowKey
  (windowOf held, s)

/-- Judges a nonce by the window of its session. -/
def judge (window : Option Window) (nonce : Option String) : Decision :=
  match window, nonce with
  | none, _ => .rejected .noWindow
  | some _, none => .rejected .noNonce
  | some window, some nonce =>
    if window.contains nonce then .accepted else .rejected .unknownNonce

/-- Classes a request. The session is accessed unless the request is an entry. -/
def check (g : Guard) (r : Request) (now : Nat) (s : Sessions) : Decision × Sessions :=
  if g.isEntry r then (.entry, s)
  else
    match r.session with
    | none => (.rejected .noSession, s)
    | some id =>
      let (window, s) := window? now id s
      (judge window (r.parameter? g.options.parameter), s)

/-- What a session holds under the window key once it has been offered a window. -/
inductive Offer where
  | gone
  | foreign
  | held (mark : Nat)
  deriving DecidableEq, Repr

/-- Offers a session an empty window with a mark, which it takes if it holds nothing yet. -/
def offerWindow (g : Guard) (id : SessionId) (mark now : Nat) (s : Sessions) :
    Offer × Sessions :=
  match s.getOrInsert now id windowKey (.nonces mark g.freshWindow) with
  | (none, s) => (.gone, s)
  | (some (.nonces held _), s) => (.held held, s)
  | (some (.text _), s) => (.foreign, s)

/-- Puts an empty window with a mark in the place of what a session holds; false if the session
does not exist. -/
def replaceWindow (g : Guard) (id : SessionId) (mark now : Nat) (s : Sessions) :
    Bool × Sessions :=
  s.set now id windowKey (.nonces mark g.freshWindow)

/-- The mark of the window of a session, which is given one if it has none; nothing if there is no
such session. -/
def windowIn (g : Guard) (id : SessionId) (mark : Nat) (site : Site) : Option Nat × Site :=
  match site.access (g.offerWindow id mark) with
  | (.gone, site) => (none, site)
  | (.held held, site) => (some held, site)
  | (.foreign, site) =>
    match site.access (g.replaceWindow id mark) with
    | (true, site) => (some mark, site)
    | (false, site) => (none, site)

structure Place where
  session : SessionId
  mark : Nat
  deriving DecidableEq, Repr

/-- The place of the window of a request's session, if the request has one. -/
def placeInOwn (g : Guard) (mark : Nat) (r : Request) (site : Site) : Option Place × Site :=
  match r.session with
  | none => (none, site)
  | some id =>
    let (held, site) := g.windowIn id mark site
    (held.map (⟨id, ·⟩), site)

/-- The place for the nonce of a request. A request without a session that exists is given a new
one; where the service refuses even that, there is no place. -/
def placeFor (g : Guard) (mark : Nat) (r : Request) (site : Site) :
    Option Place × Request × Site :=
  match g.placeInOwn mark r site with
  | (some place, site) => (some place, r, site)
  | (none, site) =>
    let (id, site) := site.openSession
    let (held, site) := g.windowIn id mark site
    (held.map (⟨id, ·⟩), r.attach id, site)

/-- Enters a token into the window at a place, unless another window has taken that place. -/
def record (place : Option Place) (token : String) (s : Sessions) : Sessions :=
  match place with
  | none => s
  | some place => s.addToken place.session windowKey place.mark token

/-- Gives a request a fresh nonce. The number of the block drawn for it serves as the mark of a
window that is made on this occasion. -/
def issue (g : Guard) (p : Passage) : Passage :=
  let mark := p.site.supply.blocksDrawn
  let (block, site) := p.site.drawBlock
  let (place, request, site) := g.placeFor mark p.request site
  let site := { site with sessions := record place block.token site.sessions }
  { request
    links := p.links.wrap (.stamp g.options.parameter block.token)
    site := site.count Tally.issue }

/-- Checks a request, and gives it a fresh nonce if it passes. -/
def pass (g : Guard) (p : Passage) : Verdict × Passage :=
  let (decision, site) := p.site.access (g.check p.request)
  let p := { p with site := site.count (·.decide decision.label) }
  match decision with
  | .rejected refusal => (.reject g.options.denyStatus refusal.message, p)
  | _ => (.proceed, g.issue p)

end Guard

instance : Filter Guard := ⟨Guard.pass⟩

end Gatehouse
