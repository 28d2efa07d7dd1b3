import Gatehouse.Http.Gate

/-!
# Servers

A server has a gate and an application behind it. The application tells which service answers a
method on a path; the gate stands before every service, also before the ones that only refuse.
-/

namespace Gatehouse

/-- What answers a method on a path. -/
structure Service where
  handler : Handler
  /-- The methods of the path, to be named in every answer to a method that is not among them. -/
  allow : Option String := none
  /-- The body of an answer is held back from a HEAD request. -/
  honoursHead : Bool := true

namespace Service

/-- Answers without a body and with a fixed status. -/
def fixed (status : Nat) : Handler := fun _ site => (.empty status, site)

/-- The method asks for a tunnel, and the answer grants it. -/
def isTunnel (method : String) (answer : Answer) : Bool :=
  method = "CONNECT" && 200 ≤ answer.status && answer.status < 300

/-- The last touch on an answer: the methods of the path are named where that is due, and the body
is held back from a HEAD request and from a granted tunnel. -/
def finish (service : Service) (method : String) (answer : Answer) : Answer :=
  if isTunnel method answer then answer.bodiless
  else
    let answer := match service.allow with
      | none => answer
      | some methods => answer.supplyHeader "allow" methods
    if method = "HEAD" ∧ service.honoursHead then answer.bodiless else answer

end Service

/-- Tells which service answers a method on a path. -/
abbrev Application := String → String → Service

structure Server where
  gate : Gate
  application : Application

namespace Server

/-- The server that settings describe, in front of an application. -/
def ofSettings (s : Settings) (application : Application) : Except PipelineError Server := do
  let pipeline ← Pipeline.ofSettings s
  let gate : Gate := {
    pipeline
    cookieName := s.session.cookieName
    maxBodySize := s.limits.maxBodySize
    maxParameters := s.limits.maxParameters }
  return { gate, application }

/-- Answers a request. One that claims a body above the limit does not get as far as the gate. -/
def respond (server : Server) (m : Incoming) (site : Site) : Answer × Site :=
  let service := server.application m.method m.target.path
  match m.restrict? server.gate.maxBodySize with
  | none => (service.finish m.method (.text 413 "length limit exceeded"), site)
  | some restricted =>
    let (answer, site) := server.gate.serve service.handler restricted site
    (service.finish m.method answer, site)

end Server

end Gatehouse
