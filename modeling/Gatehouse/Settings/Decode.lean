import Gatehouse.Settings.Schema
import Gatehouse.Text.Numeral
import Gatehouse.Toml.Value

/-!
# Decoding settings

Settings as TOML values. The fields of a section are named by the keys of a table; an array gives
them by place instead. Keys that no field has are passed over, and a field that is not given has
its default, unless there is none.
-/

namespace Gatehouse

open Toml

/-- The key under which a date stands where a table is wanted. -/
def datetimeKey : String := "$__toml_private_datetime"

/-- The fields of a section, by name or by place. -/
inductive Fields where
  | named (entries : Entries)
  | placed (items : List Value)

namespace Fields

/-- The fields that a value gives. -/
def ofValue? : Value → Option Fields
  | .table _ entries => some (.named entries)
  | .array _ items => some (.placed items)
  | .datetime text => some (.named [(datetimeKey, .text text)])
  | _ => none

/-- The value of a field, given its place and its name. -/
def get? (fields : Fields) (place : Nat) (name : String) : Option Value :=
  match fields with
  | .named entries => entries.lookup name
  | .placed items => items[place]?

variable {α : Type}

def required (fields : Fields) (read : Value → Option α) (place : Nat) (name : String) :
    Option α :=
  (fields.get? place name).bind read

def optional (fields : Fields) (read : Value → Option α) (fallback : α) (place : Nat)
    (name : String) : Option α :=
  match fields.get? place name with
  | none => some fallback
  | some value => read value

end Fields

namespace Decode

def text? : Value → Option String
  | .text s => some s
  | _ => none

def flag? : Value → Option Bool
  | .boolean b => some b
  | _ => none

/-- A count that fits into sixty-four bits. -/
def count? : Value → Option Nat
  | .integer (.ofNat n) => if n ≤ Text.Width.bits64.limit then some n else none
  | _ => none

/-- A list whose items are read one by one. -/
def list? {α : Type} (read : Value → Option α) : Value → Option (List α)
  | .array _ items => items.mapM read
  | _ => none

def texts? : Value → Option (Registry String String)
  | .table _ entries => do
    let pairs ← entries.mapM fun (key, value) => do some (key, ← text? value)
    some (.ofList pairs)
  | .datetime text => some (.ofList [(datetimeKey, text)])
  | _ => none

/-- The value holds nothing. -/
def isHollow : Value → Bool
  | .array _ [] => true
  | .table _ [] => true
  | _ => false

/-- The kind of a filter: its name, or a table of one entry with that key and nothing in it. -/
def kind? : Value → Option FilterKind
  | .text name => FilterKind.ofName? name
  | .table _ [(name, value)] => if isHollow value then FilterKind.ofName? name else none
  | _ => none

def listener? (value : Value) : Option ListenerSettings := do
  let fields ← Fields.ofValue? value
  let standard : ListenerSettings := {}
  some { bindAddress := ← fields.optional text? standard.bindAddress 0 "bind_address" }

def limits? (value : Value) : Option LimitSettings := do
  let fields ← Fields.ofValue? value
  let standard : LimitSettings := {}
  some {
    requestTimeoutSecs :=
      ← fields.optional count? standard.requestTimeoutSecs 0 "request_timeout_secs"
    maxBodySize := ← fields.optional count? standard.maxBodySize 1 "max_body_size"
    maxParameters := ← fields.optional count? standard.maxParameters 2 "max_parameters" }

def session? (value : Value) : Option SessionSettings := do
  let fields ← Fields.ofValue? value
  let standard : SessionSettings := {}
  some {
    cookieName := ← fields.optional text? standard.cookieName 0 "cookie_name"
    idleTimeoutSecs := ← fields.optional count? standard.idleTimeoutSecs 1 "idle_timeout_secs"
    sweepIntervalSecs :=
      ← fields.optional count? standard.sweepIntervalSecs 2 "sweep_interval_secs" }

def observability? (value : Value) : Option ObservabilitySettings := do
  let fields ← Fields.ofValue? value
  let standard : ObservabilitySettings := {}
  some {
    logLevel := ← fields.optional text? standard.logLevel 0 "log_level"
    metricsEnabled := ← fields.optional flag? standard.metricsEnabled 1 "metrics_enabled"
    metricsAddress := ← fields.optional text? standard.metricsAddress 2 "metrics_address" }

def filter? (value : Value) : Option FilterDefinition := do
  let fields ← Fields.ofValue? value
  some {
    name := ← fields.required text? 0 "name"
    kind := ← fields.required kind? 1 "kind"
    strict := ← fields.optional (fun v => (flag? v).map some) none 2 "strict"
    params := ← fields.optional texts? .empty 3 "params" }

def rule? (value : Value) : Option RuleDefinition := do
  let fields ← Fields.ofValue? value
  some {
    filter := ← fields.required text? 0 "filter"
    urlPatterns := ← fields.optional (list? text?) [] 1 "url_patterns"
    servletNames := ← fields.optional (list? text?) [] 2 "servlet_names"
    dispatchers := ← fields.optional (list? text?) [] 3 "dispatchers" }

def servlet? (value : Value) : Option ServletDefinition := do
  let fields ← Fields.ofValue? value
  some {
    name := ← fields.required text? 0 "name"
    urlPatterns := ← fields.required (list? text?) 1 "url_patterns" }

end Decode

/-- The settings that the entries of a document give. -/
def Settings.decode? (entries : Entries) : Option Settings := do
  let fields := Fields.named entries
  some {
    listener := ← fields.optional Decode.listener? {} 0 "listener"
    limits := ← fields.optional Decode.limits? {} 1 "limits"
    session := ← fields.optional Decode.session? {} 2 "session"
    observability := ← fields.optional Decode.observability? {} 3 "observability"
    filters := ← fields.optional (Decode.list? Decode.filter?) [] 4 "filters"
    rules := ← fields.optional (Decode.list? Decode.rule?) [] 5 "mappings"
    servlets := ← fields.optional (Decode.list? Decode.servlet?) [] 6 "servlets" }

end Gatehouse
