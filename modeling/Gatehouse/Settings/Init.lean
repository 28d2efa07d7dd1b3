import Gatehouse.Registry
import Gatehouse.Nonce.Token
import Gatehouse.Text.Numeral

/-!
# Init parameters

A filter is set up from parameters with text values. `InitReader` reads them one by one and
remembers which keys were read, so that keys nobody asked for can be refused at the end.
-/

namespace Gatehouse

inductive ValueFault where
  | numeral (cause : Text.NumeralError)
  | belowOne
  | above (limit : Nat)
  | blank
  | noFailureStatus
  deriving DecidableEq, Repr

def ValueFault.message : ValueFault → String
  | .numeral cause => cause.message
  | .belowOne => "must be at least 1"
  | .above limit => s!"must be at most {limit}"
  | .blank => "must not be empty"
  | .noFailureStatus => "must be a 4xx or 5xx status"

inductive InitError where
  | unknownParameter (filter key : String)
  | invalidValue (filter key value : String) (fault : ValueFault)
  | randomSource (filter : String) (cause : UnknownSource)
  deriving DecidableEq, Repr

def InitError.message : InitError → String
  | .unknownParameter filter key => s!"filter '{filter}': unknown parameter '{key}'"
  | .invalidValue filter key value fault =>
    s!"filter '{filter}': invalid value '{value}' for '{key}': {fault.message}"
  | .randomSource filter cause => s!"filter '{filter}': {cause.message}"

/-- The parameters of a filter, and the keys read so far. -/
structure InitReader where
  filter : String
  params : Registry String String
  strict : Bool
  consumed : List String

/-- The least of some texts, by code point. -/
def leastText? : List String → Option String
  | [] => none
  | s :: rest =>
    match leastText? rest with
    | none => some s
    | some least => some (if least < s then least else s)

namespace InitReader

/-- A reader that has read nothing yet. -/
def start (filter : String) (params : Registry String String) (strict : Bool) : InitReader :=
  ⟨filter, params, strict, []⟩

/-- The value of a key; a key that is missing is not counted as read. -/
def text (r : InitReader) (key : String) : Option String × InitReader :=
  match r.params.get? key with
  | none => (none, r)
  | some value => (some value, { r with consumed := key :: r.consumed })

/-- The error that reports a value of a key. -/
def invalid (r : InitReader) (key value : String) (fault : ValueFault) : InitError :=
  .invalidValue r.filter key value fault

/-- The value of a key in another form, blanks around it aside. A value that does not have this form
is reported as it is written, and its key counts as read. -/
def parse {α : Type} (r : InitReader) (form : String → Except Text.NumeralError α) (key : String) :
    Except InitError (Option α) × InitReader :=
  match r.text key with
  | (none, r) => (.ok none, r)
  | (some raw, r) =>
    match form (Text.trim raw) with
    | .ok a => (.ok (some a), r)
    | .error cause => (.error (r.invalid key raw (.numeral cause)), r)

/-- The value of a key as a number without a sign. -/
def number (r : InitReader) (width : Text.Width) (key : String) :
    Except InitError (Option Nat) × InitReader :=
  r.parse (Text.readUnsigned width.limit) key

/-- The value of a key as a number with a sign. -/
def signed (r : InitReader) (width : Text.Width) (key : String) :
    Except InitError (Option Int) × InitReader :=
  r.parse (Text.readSigned width) key

def unread (r : InitReader) : List String :=
  r.params.keys.filter fun key => !r.consumed.contains key

/-- Ends the reading: a strict reader refuses the least key that was not read. -/
def finish (r : InitReader) : Except InitError Unit :=
  match leastText? r.unread with
  | some key => if r.strict then .error (.unknownParameter r.filter key) else .ok ()
  | none => .ok ()

end InitReader

end Gatehouse
