import Gatehouse.Http.Server
import Gatehouse.Text.Json

/-!
# The demo application

A small bank: a welcome page, an account page with two forms, and the two actions of the forms.
Every link bears the decorations that the filters have left.
-/

namespace Gatehouse.Demo

def welcome : Handler := fun admission site =>
  let account := admission.links.encodeUrl "/account"
  (.page <| "<html><body>\n<h1>Welcome</h1>\n<a href=\"" ++ account ++
    "\">Account</a>\n</body></html>\n", site)

def account : Handler := fun admission site =>
  let transfer := admission.links.encodeUrl "/transfer"
  let logout := admission.links.encodeUrl "/logout"
  (.page <| "<html><body>\n<form method=\"post\" action=\"" ++ transfer ++
    "\">\n<input name=\"to\"><input name=\"amount\"><button>Send</button>\n</form>\n" ++
    "<form method=\"post\" action=\"" ++ logout ++
    "\"><button>Log out</button></form>\n</body></html>\n", site)

/-! ## Transfers -/

inductive FormError where
  | missing (field : String)
  | duplicate (field : String)
  | amount (cause : Text.NumeralError)
  deriving DecidableEq, Repr

def FormError.message : FormError → String
  | .missing field => "missing field \x60" ++ field ++ "\x60"
  | .duplicate field => "duplicate field \x60" ++ field ++ "\x60"
  | .amount cause => "amount: " ++ cause.message

/-- What a form has given of an order so far. -/
structure Draft where
  recipient : Option String := none
  amount : Option Nat := none
  deriving DecidableEq, Repr

/-- Reads one field; fields that an order does not have are passed over. -/
def Draft.enter (draft : Draft) : Link.Pair → Except FormError Draft
  | (name, value) =>
    if name = "to" then
      if draft.recipient.isSome then .error (.duplicate name)
      else .ok { draft with recipient := some value }
    else if name = "amount" then
      if draft.amount.isSome then .error (.duplicate name)
      else
        match Text.readUnsigned Text.Width.bits64.limit value with
        | .error cause => .error (.amount cause)
        | .ok amount => .ok { draft with amount := some amount }
    else .ok draft

structure Order where
  recipient : String
  amount : Nat
  deriving DecidableEq, Repr

/-- The order that the fields of a form give, in the order in which they stand. -/
def Order.ofFields (fields : List Link.Pair) : Except FormError Order := do
  let draft ← fields.foldlM Draft.enter {}
  match draft.recipient, draft.amount with
  | none, _ => .error (.missing "to")
  | some _, none => .error (.missing "amount")
  | some recipient, some amount => .ok { recipient, amount }

/-- The order that a request brings, or the answer that refuses it. -/
def readOrder (m : Incoming) : Except Answer Order :=
  let isForm := (m.headerText? "content-type").any fun type =>
    (formType.toList.isPrefixOf type.toList)
  if !isForm then
    .error (.text 415 ("Form requests must have \x60Content-Type: " ++ formType ++ "\x60"))
  else
    match m.body.read handlerLimit with
    | none => .error .bodyTooLong
    | some body =>
      match Order.ofFields (Link.decode body) with
      | .ok order => .ok order
      | .error cause =>
        .error (.text 422 ("Failed to deserialize form body: " ++ cause.message))

/-- Accepts a transfer of at least one unit. -/
def transfer : Handler := fun admission site =>
  match readOrder admission.incoming with
  | .error answer => (answer, site)
  | .ok order =>
    if order.amount = 0 then
      (.json 422 (Text.renderObject [("error", .string "amount must be positive")]), site)
    else
      (.json 200 (Text.renderObject [
        ("amount", .number order.amount),
        ("next", .string (admission.links.encodeUrl "/account")),
        ("status", .string "accepted"),
        ("to", .string order.recipient)]), site)

/-! ## Logging out -/

/-- A redirect; a target that is no legal header value is an error of the server. -/
def redirect (links : Links) (url : String) : Answer :=
  match links.location? url with
  | some location => (Answer.empty 303).addHeader "location" location
  | none => .text 500 "failed to parse header value"

/-- Ends the session and goes back to the welcome page. -/
def logout : Handler := fun admission site =>
  let site := match admission.session with
    | none => site
    | some id => site.invalidate id
  (redirect admission.links "/", site)

/-! ## Routes -/

def asking (handler : Handler) : Application := fun method _ =>
  if method = "GET" ∨ method = "HEAD" then { handler }
  else { handler := Service.fixed 405, allow := some "GET,HEAD" }

def posting (handler : Handler) : Application := fun method _ =>
  if method = "POST" then { handler } else { handler := Service.fixed 405, allow := some "POST" }

def application : Application := fun method path =>
  if path = "/" then asking welcome method path
  else if path = "/account" then asking account method path
  else if path = "/transfer" then posting transfer method path
  else if path = "/logout" then posting logout method path
  else { handler := Service.fixed 404, honoursHead := !"/".toList.isPrefixOf path.toList }

end Gatehouse.Demo
