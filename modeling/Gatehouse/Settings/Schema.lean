import Gatehouse.Registry
import Gatehouse.Routing.Rule

/-!
# Settings

What a deployment is configured with: where it listens, its limits, how it keeps sessions and
reports on itself, and its filters, rules and servlets.
-/

namespace Gatehouse

/-- Where the server listens. -/
structure ListenerSettings where
  bindAddress : String := "0.0.0.0:8080"
  deriving DecidableEq, Repr

/-- Limits on requests: seconds, bytes and a count. -/
structure LimitSettings where
  requestTimeoutSecs : Nat := 30
  maxBodySize : Nat := 2 * 1024 * 1024
  maxParameters : Nat := 1000
  deriving DecidableEq, Repr

/-- How sessions are named and how long they last. -/
structure SessionSettings where
  cookieName : String := "SESSIONID"
  idleTimeoutSecs : Nat := 30 * 60
  sweepIntervalSecs : Nat := 60
  deriving DecidableEq, Repr

/-- What the server reports about itself. -/
structure ObservabilitySettings where
  logLevel : String := "info"
  metricsEnabled : Bool := false
  metricsAddress : String := "0.0.0.0:9090"
  deriving DecidableEq, Repr

inductive FilterKind where
  | csrfPrevention
  | failedRequest
  deriving DecidableEq, Repr

namespace FilterKind

def name : FilterKind → String
  | .csrfPrevention => "csrf_prevention"
  | .failedRequest => "failed_request"

def ofName? (name : String) : Option FilterKind :=
  [csrfPrevention, failedRequest].find? fun kind => kind.name = name

/-- Unknown parameters are refused unless settings say otherwise. -/
def strictByDefault : FilterKind → Bool
  | .csrfPrevention => true
  | .failedRequest => false

end FilterKind

/-- A named filter and its parameters. -/
structure FilterDefinition where
  name : String
  kind : FilterKind
  strict : Option Bool := none
  params : Registry String String := .empty
  deriving DecidableEq

/-- Unknown parameters are refused. -/
def FilterDefinition.isStrict (definition : FilterDefinition) : Bool :=
  definition.strict.getD definition.kind.strictByDefault

/-- A servlet and the patterns it is mounted on, as written in settings. -/
structure ServletDefinition where
  name : String
  urlPatterns : List String
  deriving DecidableEq, Repr

structure Settings where
  listener : ListenerSettings := {}
  limits : LimitSettings := {}
  session : SessionSettings := {}
  observability : ObservabilitySettings := {}
  filters : List FilterDefinition := []
  rules : List RuleDefinition := []
  servlets : List ServletDefinition := []
  deriving DecidableEq

/-- The log directive of a level: it applies to the filters and to the HTTP layer. -/
def logDirective (level : String) : String :=
  s!"request_filter={level},tower_http={level}"

end Gatehouse
