import Gatehouse.Filter.Pipeline
import Gatehouse.Http.Cookie
import Gatehouse.Http.Message

/-!
# The gate

The gate stands between the network and the handlers. It describes each request to the pipeline,
answers those that a filter rejects, and lets the others in. A session that was begun on the way
is announced by a cookie, or ended again if the request was rejected.
-/

namespace Gatehouse

def formType : String := "application/x-www-form-urlencoded"

/-- A content type names a form: blanks, the case of letters and parameters do not matter. -/
def isFormType (contentType : String) : Bool :=
  let word := (Text.cut ';' contentType.toList).1
  Text.sameLetters (String.ofList (Text.trimChars word)) formType

def Incoming.isForm (m : Incoming) : Bool := (m.headerText? "content-type").any isFormType

/-- What a handler is given: the request, the links of its answer, and its session. -/
structure Admission where
  incoming : Incoming
  links : Links
  session : Option SessionId

/-- Answers requests that were let in. -/
abbrev Handler := Admission → Site → Answer × Site

structure Gate where
  pipeline : Pipeline BuiltinFilter
  cookieName : String
  maxBodySize : Nat
  maxParameters : Nat

namespace Gate

/-- The form that a request brings and the body that is left for the handler. A form that cannot
be read leaves an empty body, and counts as failed. -/
def takeForm (gate : Gate) (m : Incoming) : Option (List UInt8) × Bool × Body :=
  if m.isForm then
    match m.body.read gate.maxBodySize with
    | some bytes => (some bytes, false, .free bytes)
    | none => (none, true, .free [])
  else (none, false, m.body)

/-- The request as filters see it, and the request as it is left for the handler. -/
def describe (gate : Gate) (m : Incoming) : Request × Incoming :=
  let (form, formFailed, body) := gate.takeForm m
  let query := m.target.query.map Text.utf8
  let parameters := Link.Parameters.read query form gate.maxParameters
  ({ method := m.method
     path := m.target.path
     phase := m.phase
     params := parameters.pairs
     paramsFailed := formFailed || parameters.failed
     session := Cookie.session? (m.headerAll "cookie") gate.cookieName },
    { m with body })

/-- The session that a filter has begun for a request. -/
def newSession? (r : Request) : Option SessionId :=
  if r.sessionCreated then r.session else none

/-- Ends the session that was begun for a rejected request: nobody will learn of it. -/
def retract (r : Request) (site : Site) : Site :=
  match newSession? r with
  | none => site
  | some id => site.invalidate id

/-- Announces the session that was begun for a request, if the cookie is a legal header value. -/
def announce (gate : Gate) (r : Request) (answer : Answer) : Answer :=
  match (newSession? r).bind (Cookie.announce? gate.cookieName) with
  | none => answer
  | some cookie => answer.addHeader "set-cookie" cookie

/-- Runs a request through the pipeline, and lets it in to the handler if no filter rejects it. -/
def serve (gate : Gate) (handler : Handler) (m : Incoming) (site : Site) : Answer × Site :=
  let (request, m) := gate.describe m
  let run := gate.pipeline.run { request, links := .plain, site }
  let p := run.passage
  match run.outcome with
  | .halted _ status reason => (.text status reason, retract p.request p.site)
  | .proceed =>
    let (answer, site) := handler ⟨m, p.links, p.request.session⟩ p.site
    (gate.announce p.request answer, site)

end Gate

end Gatehouse
