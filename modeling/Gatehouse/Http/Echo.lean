import Gatehouse.Http.Server
import Gatehouse.Text.Json

/-!
# The echo application

Answers any method on any path with what it was given.
-/

namespace Gatehouse.Echo

/-- The link in every answer. -/
def link : String := "/next?a=1#top"

/-- What was given, as an object. -/
def describe (admission : Admission) (body : List UInt8) : String :=
  Text.renderObject [
    ("body", .string (Text.ofUtf8Lossy body)),
    ("method", .string admission.incoming.method),
    ("next", .string (admission.links.encodeUrl link)),
    ("session", admission.session.elim .null fun id => .string id.text),
    ("uri", .string admission.incoming.target.render)]

/-- Answers with what was given. -/
def answer : Handler := fun admission site =>
  match admission.incoming.body.read handlerLimit with
  | none => (.bodyTooLong, site)
  | some body => (.text 200 (describe admission body), site)

def application : Application := fun _ _ => { handler := answer }

end Gatehouse.Echo
