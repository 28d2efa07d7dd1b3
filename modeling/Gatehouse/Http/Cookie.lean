import Gatehouse.Http.HeaderValue
import Gatehouse.Session.Store
import Gatehouse.Text.Blank
import Gatehouse.Text.Cut

/-!
# The session cookie

A new session is announced by a `Set-Cookie` value, and a request names its session in `Cookie`
headers. Headers that cannot be read as text name no session.
-/

namespace Gatehouse

namespace Cookie

/-- The cookies of a header value, by name and value; pieces without an equals sign are none. -/
def readHeader (text : List Char) : List (List Char × List Char) :=
  (Text.split ';' text).filterMap fun piece =>
    match Text.cut '=' (Text.trimChars piece) with
    | (_, none) => none
    | (name, some value) => some (name, value)

/-- The cookies of the `Cookie` headers that can be read, in order. -/
def readAll (headers : List (List UInt8)) : List (List Char × List Char) :=
  (headers.filterMap HeaderValue.toText?).flatMap readHeader

/-- The session named by the first cookie of a name that has a value. -/
def session? (headers : List (List UInt8)) (name : String) : Option SessionId :=
  ((readAll headers).find? fun cookie => cookie.1 = name.toList ∧ cookie.2 ≠ []).map fun cookie =>
    ⟨String.ofList cookie.2⟩

/-- The text that announces a session. -/
def announcement (name : String) (id : SessionId) : String :=
  s!"{name}={id.text}; Path=/; HttpOnly; SameSite=Lax"

/-- The `Set-Cookie` value that announces a session, if it is legal. -/
def announce? (name : String) (id : SessionId) : Option String :=
  let text := announcement name id
  if HeaderValue.isLegalText text then some text else none

end Cookie

end Gatehouse
