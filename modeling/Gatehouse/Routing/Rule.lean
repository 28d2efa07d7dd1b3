import Gatehouse.Routing.Phase
import Gatehouse.Routing.Pattern

/-!
# Rules

A rule binds a filter to the requests it applies to: by URL pattern or by servlet name, in some
phases. A rule is built from a definition made of texts. `Rule.resolve` lists the filters of a
request in the order of the rules, once for every rule that applies.
-/

namespace Gatehouse

/-- The text that stands for every URL, or for every servlet. -/
def everything : String := "*"

structure RuleDefinition where
  filter : String
  urlPatterns : List String
  servletNames : List String
  dispatchers : List String
  deriving DecidableEq, Repr

inductive RuleError where
  | emptyFilterName
  | noMatchRule (filter : String)
  | emptyServletName (filter : String)
  | pattern (filter : String) (cause : PatternError)
  deriving DecidableEq, Repr

def RuleError.message : RuleError → String
  | .emptyFilterName => "filter mapping has an empty filter name"
  | .noMatchRule filter =>
    s!"mapping for filter '{filter}' has neither URL patterns nor servlet names"
  | .emptyServletName filter => s!"mapping for filter '{filter}' has an empty servlet name"
  | .pattern filter cause => s!"mapping for filter '{filter}': {cause.message}"

inductive DefinitionError where
  | dispatcher (text : String)
  | rule (cause : RuleError)
  deriving DecidableEq, Repr

def DefinitionError.message : DefinitionError → String
  | .dispatcher text => s!"unknown dispatcher '{text}'"
  | .rule cause => cause.message

/-- A filter and the requests it applies to. -/
structure Rule where
  filter : String
  urlPatterns : List UrlPattern
  servletNames : List String
  everyUrl : Bool
  everyServlet : Bool
  phases : PhaseSet
  deriving DecidableEq, Repr

namespace Rule

/-- Reads URL patterns one after another; the first bad one is the error. -/
def readPatterns (filter : String) : List String → Except RuleError (List UrlPattern)
  | [] => .ok []
  | text :: rest =>
    match UrlPattern.parse text with
    | .error cause => .error (.pattern filter cause)
    | .ok pattern => (readPatterns filter rest).map (pattern :: ·)

/-- Builds a rule from the texts of its URL patterns and servlet names. -/
def build (filter : String) (urlPatterns servletNames : List String) (phases : List Phase) :
    Except RuleError Rule :=
  let name := Text.trim filter
  if name = "" then .error .emptyFilterName
  else if urlPatterns = [] ∧ servletNames = [] then .error (.noMatchRule name)
  else
    match readPatterns name (urlPatterns.filter (· ≠ everything)) with
    | .error cause => .error cause
    | .ok patterns =>
      if "" ∈ servletNames then .error (.emptyServletName name)
      else .ok {
        filter := name
        urlPatterns := patterns
        servletNames := servletNames.filter (· ≠ everything)
        everyUrl := everything ∈ urlPatterns
        everyServlet := everything ∈ servletNames
        phases := PhaseSet.ofList phases }

def coversUrl (rule : Rule) (path : String) : Bool :=
  rule.everyUrl || rule.urlPatterns.any (·.covers path)

/-- The rule covers the servlet; a request without a servlet is not covered. -/
def coversServlet (rule : Rule) : Option String → Bool
  | none => false
  | some name => rule.everyServlet || rule.servletNames.contains name

def coversTarget (rule : Rule) (path : String) (servlet : Option String) : Bool :=
  rule.coversUrl path || rule.coversServlet servlet

/-- The rule covers the target and is bound to the phase. -/
def applies (rule : Rule) (path : String) (servlet : Option String) (phase : Phase) : Bool :=
  rule.phases.contains phase && rule.coversTarget path servlet

/-- The filters of the rules that apply, in the order of the rules. -/
def resolve (rules : List Rule) (path : String) (servlet : Option String) (phase : Phase) :
    List String :=
  (rules.filter (·.applies path servlet phase)).map Rule.filter

end Rule

namespace RuleDefinition

/-- Reads phase names one after another; the first bad one is the error, as it is written. -/
def readDispatchers : List String → Except DefinitionError (List Phase)
  | [] => .ok []
  | text :: rest =>
    match Phase.parse text with
    | .error _ => .error (.dispatcher text)
    | .ok phase => (readDispatchers rest).map (phase :: ·)

/-- Builds the rule that a definition describes; phase names are read first. -/
def build (definition : RuleDefinition) : Except DefinitionError Rule :=
  match readDispatchers definition.dispatchers with
  | .error cause => .error cause
  | .ok phases =>
    match Rule.build definition.filter definition.urlPatterns definition.servletNames phases with
    | .error cause => .error (.rule cause)
    | .ok rule => .ok rule

end RuleDefinition

end Gatehouse
