import Gatehouse.Settings.Schema
import Gatehouse.Settings.Address
import Gatehouse.Routing.Directory

/-!
# Auditing settings

The audit finds every fault of the settings, in a fixed order: addresses, limits, the cookie
name, then filters, rules and servlets in the order in which they are written.
-/

namespace Gatehouse

inductive Fault where
  | address (field value : String)
  | zero (field : String)
  | emptyCookieName
  | duplicateFilter (name : String)
  | emptyFilterName
  | undefinedFilter (index : Nat) (filter : String)
  | rule (index : Nat) (cause : RuleError)
  | dispatcher (index : Nat) (text : String)
  | servletPattern (servlet pattern : String)
  deriving DecidableEq, Repr

def Fault.message : Fault → String
  | .address field value => s!"invalid {field} '{value}'"
  | .zero field => s!"{field} must be greater than zero"
  | .emptyCookieName => "session cookie name must not be empty"
  | .duplicateFilter name => s!"filter '{name}' is defined more than once"
  | .emptyFilterName => "filter definition has an empty name"
  | .undefinedFilter index filter => s!"mapping #{index} references undefined filter '{filter}'"
  | .rule index cause => s!"mapping #{index}: {cause.message}"
  | .dispatcher index text => s!"mapping #{index}: unknown dispatcher '{text}'"
  | .servletPattern servlet pattern =>
    s!"servlet '{servlet}': invalid URL pattern '{pattern}'"

namespace Settings

def faultIf (condition : Bool) (fault : Fault) : List Fault :=
  if condition then [fault] else []

/-- The faults of the addresses; that of the metrics counts only where metrics are reported. -/
def addressFaults (s : Settings) : List Fault :=
  faultIf (!Address.isSocket s.listener.bindAddress)
      (.address "listener.bind_address" s.listener.bindAddress) ++
    faultIf (s.observability.metricsEnabled && !Address.isSocket s.observability.metricsAddress)
      (.address "observability.metrics_address" s.observability.metricsAddress)

/-- The faults of the limits and times that must not be zero, and of the cookie name. -/
def limitFaults (s : Settings) : List Fault :=
  faultIf (s.limits.requestTimeoutSecs = 0) (.zero "limits.request_timeout_secs") ++
    faultIf (s.limits.maxBodySize = 0) (.zero "limits.max_body_size") ++
    faultIf (s.limits.maxParameters = 0) (.zero "limits.max_parameters") ++
    faultIf (s.session.idleTimeoutSecs = 0) (.zero "session.idle_timeout_secs") ++
    faultIf (s.session.sweepIntervalSecs = 0) (.zero "session.sweep_interval_secs") ++
    faultIf (Text.trim s.session.cookieName = "") .emptyCookieName

/-- The faults of filter names, given the names that stand before them. -/
def filterFaults (seen : List String) : List FilterDefinition → List Fault
  | [] => []
  | f :: rest =>
    if Text.trim f.name = "" then .emptyFilterName :: filterFaults seen rest
    else if f.name ∈ seen then .duplicateFilter f.name :: filterFaults seen rest
    else filterFaults (f.name :: seen) rest

/-- The names that rules may refer to: those of the filters whose name is not blank. -/
def filterNames (s : Settings) : List String :=
  (s.filters.map FilterDefinition.name).filter fun name => Text.trim name ≠ ""

/-- The fault of the rule at an index, if it has one. -/
def ruleFault? (names : List String) (index : Nat) (definition : RuleDefinition) :
    Option Fault :=
  match definition.build with
  | .error (.dispatcher text) => some (.dispatcher index text)
  | .error (.rule cause) => some (.rule index cause)
  | .ok rule => if rule.filter ∈ names then none else some (.undefinedFilter index rule.filter)

/-- The faults of rules that are numbered from an index on. -/
def ruleFaults (names : List String) (index : Nat) : List RuleDefinition → List Fault
  | [] => []
  | definition :: rest =>
    (ruleFault? names index definition).toList ++ ruleFaults names (index + 1) rest

/-- A servlet cannot be mounted on the text. -/
def isBadMount (text : String) : Bool :=
  text ≠ Directory.defaultPattern &&
    match UrlPattern.parse text with
    | .ok _ => false
    | .error _ => true

/-- The faults of the patterns of a servlet. -/
def servletFaults (servlet : ServletDefinition) : List Fault :=
  (servlet.urlPatterns.filter isBadMount).map (.servletPattern servlet.name)

def faults (s : Settings) : List Fault :=
  s.addressFaults ++ s.limitFaults ++ filterFaults [] s.filters ++
    ruleFaults s.filterNames 0 s.rules ++ s.servlets.flatMap servletFaults

end Settings

end Gatehouse
