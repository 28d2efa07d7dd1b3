import Gatehouse.Filter.Tally
import Gatehouse.Link.Form
import Gatehouse.Link.Decoration
import Gatehouse.Nonce.Token
import Gatehouse.Routing.Phase
import Gatehouse.Session.Service

/-!
# Passages

A filter is shown a passage: a request on its way in, the links of the response on its way out,
and the site that all requests share. It lets the request proceed or rejects it, and leaves the
passage for the next filter.
-/

namespace Gatehouse

/-- What filters see of a request. -/
structure Request where
  method : String := "GET"
  path : String
  servlet : Option String := none
  phase : Phase := .request
  params : List Link.Pair := []
  paramsFailed : Bool := false
  session : Option SessionId := none
  /-- The session was begun by a filter. -/
  sessionCreated : Bool := false
  deriving DecidableEq, Repr

namespace Request

def parameter? (r : Request) (name : String) : Option String :=
  (r.params.find? fun pair => pair.1 = name).map Prod.snd

/-- The request with a session that a filter has begun for it. -/
def attach (r : Request) (id : SessionId) : Request :=
  { r with session := some id, sessionCreated := true }

end Request

/-- The session handles and random blocks to come, as streams, and how many were drawn. -/
structure Supply where
  handle : Nat → SessionId
  block : Nat → Block
  handlesDrawn : Nat := 0
  blocksDrawn : Nat := 0

/-- What all requests share: the sessions, the present time, the supply of handles and blocks, and
the tally. -/
structure Site where
  sessions : Sessions
  now : Nat
  supply : Supply
  tally : Tally

namespace Site

def start (sessions : Sessions) (supply : Supply) : Site := ⟨sessions, 0, supply, .zero⟩

def elapse (site : Site) (milliseconds : Nat) : Site :=
  { site with now := site.now + milliseconds }

/-- Runs an operation of the session service at the present time. -/
def access {α : Type} (site : Site) (run : Nat → Sessions → α × Sessions) : α × Site :=
  let (answer, sessions) := run site.now site.sessions
  (answer, { site with sessions })

def invalidate (site : Site) (id : SessionId) : Site :=
  { site with sessions := site.sessions.invalidate id }

/-- Draws a handle and begins a session under it. -/
def openSession (site : Site) : SessionId × Site :=
  let id := site.supply.handle site.supply.handlesDrawn
  (id, { site with
    sessions := site.sessions.create site.now id
    supply := { site.supply with handlesDrawn := site.supply.handlesDrawn + 1 } })

def drawBlock (site : Site) : Block × Site :=
  (site.supply.block site.supply.blocksDrawn,
    { site with supply := { site.supply with blocksDrawn := site.supply.blocksDrawn + 1 } })

def count (site : Site) (change : Tally → Tally) : Site :=
  { site with tally := change site.tally }

end Site

/-- A request on its way in, the links on their way out, and the site. -/
structure Passage where
  request : Request
  links : Links
  site : Site

inductive Verdict where
  | proceed
  | reject (status : Nat) (reason : String)
  deriving DecidableEq, Repr

/-- Something that decides on requests. -/
class Filter (φ : Type) where
  /-- Decides on a request, and leaves the passage for the next filter. -/
  pass : φ → Passage → Verdict × Passage

end Gatehouse
