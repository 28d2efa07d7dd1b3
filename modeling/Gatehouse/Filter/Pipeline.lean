import Gatehouse.Filter.Builtin
import Gatehouse.Routing.Directory
import Gatehouse.Routing.Rule

/-!
# Pipelines

A pipeline has named filters, rules that bind them to requests, and the directory of servlets.
A request passes the filters of the rules that apply to it, in the order of the rules, up to the
first that rejects it.
-/

namespace Gatehouse

inductive PipelineError where
  | duplicateFilter (name : String)
  | undefinedFilter (name : String)
  | definition (cause : DefinitionError)
  | servlet (name : String) (cause : PatternError)
  | filterInit (cause : InitError)
  deriving DecidableEq, Repr

def PipelineError.message : PipelineError → String
  | .duplicateFilter name => s!"filter '{name}' is defined more than once"
  | .undefinedFilter name => s!"mapping references undefined filter '{name}'"
  | .definition cause => cause.message
  | .servlet name cause => s!"servlet '{name}': {cause.message}"
  | .filterInit cause => cause.message

/-- A rule with the filter that it names. -/
structure Stage (φ : Type) where
  rule : Rule
  filter : φ

inductive Outcome where
  | proceed
  | halted (filter : String) (status : Nat) (reason : String)
  deriving DecidableEq, Repr

/-- A pipeline of filters of some type. -/
structure Pipeline (φ : Type) where
  filters : Registry String φ
  stages : List (Stage φ)
  servlets : Directory

/-- The run of a request: what became of it, the filters that it was shown to, and the passage it
leaves. -/
structure Run where
  outcome : Outcome
  visited : List String
  passage : Passage

namespace Pipeline

variable {φ : Type}

/-! ## Building -/

def enterFilters (known : Registry String φ) :
    List (String × φ) → Except PipelineError (Registry String φ)
  | [] => .ok known
  | (name, filter) :: rest =>
    if known.contains name then .error (.duplicateFilter name)
    else enterFilters (known.put name filter) rest

def pairStages (known : Registry String φ) : List Rule → Except PipelineError (List (Stage φ))
  | [] => .ok []
  | rule :: rest =>
    match known.get? rule.filter with
    | none => .error (.undefinedFilter rule.filter)
    | some filter => (pairStages known rest).map (⟨rule, filter⟩ :: ·)

def mountServlets (directory : Directory) :
    List ServletDefinition → Except PipelineError Directory
  | [] => .ok directory
  | servlet :: rest =>
    match directory.register servlet.name servlet.urlPatterns with
    | (_, .error cause) => .error (.servlet servlet.name cause)
    | (directory, .ok ()) => mountServlets directory rest

/-- Puts a pipeline together from its parts. -/
def assemble (filters : List (String × φ)) (rules : List Rule)
    (servlets : List ServletDefinition) : Except PipelineError (Pipeline φ) := do
  let filters ← enterFilters .empty filters
  let stages ← pairStages filters rules
  let servlets ← mountServlets .empty servlets
  return { filters, stages, servlets }

def initFilters :
    List FilterDefinition → Except PipelineError (List (String × BuiltinFilter))
  | [] => .ok []
  | definition :: rest =>
    match BuiltinFilter.ofDefinition definition with
    | .error cause => .error (.filterInit cause)
    | .ok filter => (initFilters rest).map ((definition.name, filter) :: ·)

def buildRules : List RuleDefinition → Except PipelineError (List Rule)
  | [] => .ok []
  | definition :: rest =>
    match definition.build with
    | .error cause => .error (.definition cause)
    | .ok rule => (buildRules rest).map (rule :: ·)

/-- Builds the pipeline that settings describe. Filters are set up first, then the rules are
built, then the parts are put together. -/
def ofSettings (s : Settings) : Except PipelineError (Pipeline BuiltinFilter) := do
  let filters ← initFilters s.filters
  let rules ← buildRules s.rules
  assemble filters rules s.servlets

/-! ## Running -/

/-- The servlet of a request: its own, or the one that serves its path. -/
def servletOf (p : Pipeline φ) (r : Request) : Option String :=
  r.servlet.or (p.servlets.resolve r.path)

def rules (p : Pipeline φ) : List Rule := p.stages.map Stage.rule

/-- The names of the filters that apply to a request, in the order in which it passes them. -/
def resolve (p : Pipeline φ) (r : Request) : List String :=
  Rule.resolve p.rules r.path (p.servletOf r) r.phase

def filterCount (p : Pipeline φ) : Nat := p.filters.size

def stagesFor (p : Pipeline φ) (r : Request) : List (Stage φ) :=
  p.stages.filter fun stage => stage.rule.applies r.path (p.servletOf r) r.phase

variable [Filter φ]

/-- Shows a passage to one stage, and counts that. -/
def visit (stage : Stage φ) (p : Passage) : Verdict × Passage :=
  let name := stage.rule.filter
  match Filter.pass stage.filter { p with site := p.site.count (·.invoke name) } with
  | (.proceed, p) => (.proceed, p)
  | (.reject status reason, p) =>
    (.reject status reason, { p with site := p.site.count (·.reject name status) })

/-- Shows a passage to stages one after another, up to the first that rejects it. -/
def runStages : List (Stage φ) → Passage → Run
  | [], p => ⟨.proceed, [], p⟩
  | stage :: rest, p =>
    let name := stage.rule.filter
    match visit stage p with
    | (.reject status reason, p) => ⟨.halted name status reason, [name], p⟩
    | (.proceed, p) =>
      let run := runStages rest p
      { run with visited := name :: run.visited }

/-- Runs a request through the pipeline; it learns its servlet first. -/
def run (pipeline : Pipeline φ) (p : Passage) : Run :=
  runStages (pipeline.stagesFor p.request)
    { p with request := { p.request with servlet := pipeline.servletOf p.request } }

end Pipeline

end Gatehouse
