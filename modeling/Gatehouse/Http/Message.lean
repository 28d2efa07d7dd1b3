import Gatehouse.Http.HeaderValue
import Gatehouse.Http.Target
import Gatehouse.Routing.Phase
import Gatehouse.Text.Numeral

/-!
# Messages

Requests as they come in and answers as they go out. The body of a request carries an allowance:
it can be read only if it has no more bytes than that.
-/

namespace Gatehouse

/-- The character may stand in a method or in a header name. -/
def isTokenChar (c : Char) : Bool :=
  Target.isAlphanumeric c || "!#$%&'*+-.^_\x60|~".toList.contains c

/-- The text is a method or a header name. -/
def isToken (text : String) : Bool := text ≠ "" && text.toList.all isTokenChar

structure Body where
  bytes : List UInt8
  /-- How many bytes may be read at most, if that was limited. -/
  allowance : Option Nat
  deriving DecidableEq, Repr

namespace Body

/-- A body of which every byte may be read. -/
def free (bytes : List UInt8) : Body := ⟨bytes, none⟩

/-- The bytes of a body, if there are no more than the reader and the allowance permit. -/
def read (body : Body) (limit : Nat) : Option (List UInt8) :=
  if body.bytes.length ≤ limit ∧ body.allowance.all (body.bytes.length ≤ ·) then some body.bytes
  else none

end Body

/-- A request as it comes in; header names are in lower case. -/
structure Incoming where
  method : String
  target : Target
  headers : List (String × List UInt8)
  body : Body
  phase : Phase := .request
  deriving DecidableEq, Repr

namespace Incoming

def headerAll (m : Incoming) (name : String) : List (List UInt8) :=
  (m.headers.filter fun header => header.1 = name).map Prod.snd

/-- The text of the first value of a header, if it can be read. -/
def headerText? (m : Incoming) (name : String) : Option String :=
  ((m.headerAll name).head?.bind HeaderValue.toText?).map String.ofList

/-- The length that a request claims for its body. -/
def claimedLength? (m : Incoming) : Option Nat :=
  (m.headerText? "content-length").bind fun text =>
    (Text.readUnsigned Text.Width.bits64.limit text).toOption

/-- Limits the body of a request: to the limit, and to the claimed length if that is less. Nothing
if the claim is above the limit. -/
def restrict? (m : Incoming) (limit : Nat) : Option Incoming :=
  match m.claimedLength? with
  | none => some { m with body := { m.body with allowance := some limit } }
  | some length =>
    if limit < length then none
    else some { m with body := { m.body with allowance := some length } }

end Incoming

structure Answer where
  status : Nat
  headers : List (String × String)
  body : String
  deriving DecidableEq, Repr

namespace Answer

def empty (status : Nat) : Answer := ⟨status, [], ""⟩

/-- An answer with a body of some content type. -/
def typed (status : Nat) (contentType body : String) : Answer :=
  ⟨status, [("content-type", contentType)], body⟩

def text (status : Nat) (body : String) : Answer := typed status "text/plain; charset=utf-8" body

def page (body : String) : Answer := typed 200 "text/html; charset=utf-8" body

def json (status : Nat) (body : String) : Answer := typed status "application/json" body

def headerAll (a : Answer) (name : String) : List String :=
  (a.headers.filter fun header => header.1 = name).map Prod.snd

def addHeader (a : Answer) (name value : String) : Answer :=
  { a with headers := a.headers ++ [(name, value)] }

/-- The answer with a header that it lacks. -/
def supplyHeader (a : Answer) (name value : String) : Answer :=
  if a.headerAll name = [] then a.addHeader name value else a

def bodiless (a : Answer) : Answer := { a with body := "" }

end Answer

/-- The most bytes of a body that a handler reads. -/
def handlerLimit : Nat := 2 * 1024 * 1024

/-- The answer to a request whose body has more bytes than may be read. -/
def Answer.bodyTooLong : Answer :=
  .text 413 "Failed to buffer the request body: length limit exceeded"

end Gatehouse
