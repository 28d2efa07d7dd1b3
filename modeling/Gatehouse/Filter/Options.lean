import Gatehouse.Nonce.Window
import Gatehouse.Settings.Init
import Gatehouse.Text.Blank
import Gatehouse.Text.Cut

/-!
# Options of a guard

How a guard is set up: which paths may be entered without a nonce, how many nonces a session
keeps, where random blocks come from, the name of the nonce parameter, and the status of a
rejection. `GuardOptions.read` takes them from init parameters; each has a default.
-/

namespace Gatehouse

structure GuardOptions where
  /-- The paths that a GET may enter without a nonce. -/
  entryPoints : List String := []
  windowSize : Nat := Window.defaultCapacity
  /-- The name of the random source. -/
  randomSource : String := "os"
  parameter : String := "csrfToken"
  denyStatus : Nat := 403
  deriving DecidableEq, Repr

namespace GuardOptions

/-- The largest window that init parameters may ask for. -/
def largestWindow : Nat := 1024

/-- The entry points of a comma-separated list: its items without blanks at their ends, where
something is left of them. -/
def entryPointsOf (text : String) : List String :=
  ((Text.split ',' text.toList).map Text.trimChars).filter (· ≠ []) |>.map String.ofList

def readEntryPoints (r : InitReader) : List String × InitReader :=
  match r.text "entry_points" with
  | (none, r) => ([], r)
  | (some text, r) => (entryPointsOf text, r)

def readWindowSize (r : InitReader) : Except InitError Nat × InitReader :=
  let key := "nonce_cache_size"
  match r.number .bits64 key with
  | (.error cause, r) => (.error cause, r)
  | (.ok none, r) => (.ok Window.defaultCapacity, r)
  | (.ok (some size), r) =>
    if size = 0 then (.error (r.invalid key "0" .belowOne), r)
    else if largestWindow < size then
      (.error (r.invalid key (toString size) (.above largestWindow)), r)
    else (.ok size, r)

def readRandomSource (r : InitReader) : String × InitReader :=
  match r.text "random_source" with
  | (none, r) => ("os", r)
  | (some text, r) => (Text.trim text, r)

def readParameter (r : InitReader) : Except InitError String × InitReader :=
  let key := "nonce_request_parameter"
  match r.text key with
  | (none, r) => (.ok "csrfToken", r)
  | (some text, r) =>
    let name := Text.trim text
    if name = "" then (.error (r.invalid key name .blank), r) else (.ok name, r)

def readDenyStatus (r : InitReader) : Except InitError Nat × InitReader :=
  let key := "deny_status"
  match r.number .bits16 key with
  | (.error cause, r) => (.error cause, r)
  | (.ok none, r) => (.ok 403, r)
  | (.ok (some code), r) =>
    if 400 ≤ code ∧ code ≤ 599 then (.ok code, r)
    else (.error (r.invalid key (toString code) .noFailureStatus), r)

/-- Reads all options; the first fault is the error, and keys that no option has are looked at
last. -/
def read (r : InitReader) : Except InitError GuardOptions := do
  let (entryPoints, r) := readEntryPoints r
  let (windowSize, r) := readWindowSize r
  let windowSize ← windowSize
  let (randomSource, r) := readRandomSource r
  let (parameter, r) := readParameter r
  let parameter ← parameter
  let (denyStatus, r) := readDenyStatus r
  let denyStatus ← denyStatus
  r.finish
  return { entryPoints, windowSize, randomSource, parameter, denyStatus }

end GuardOptions

end Gatehouse
