import Gatehouse.Proofs.Routing.Coverage
import Gatehouse.Proofs.Routing.Definition

/-!
# What is wrong with a definition

All that is wrong with a definition can be listed from its texts alone: phases that cannot be read,
a blank filter name, no target, URL patterns that cannot be read, nameless servlets. The builder
reports the first failure of this list, and builds a rule if there is none
(`RuleDefinition.build_eq_first_failure`).
-/

namespace Gatehouse

namespace Rule

variable {filter : String} {urlPatterns servletNames : List String} {phases : List Phase}

/-- All that is wrong with the texts of a rule. The text for every URL is no pattern, and need not
be one. -/
def failures (filter : String) (urlPatterns servletNames : List String) : List RuleError :=
  let name := Text.trim filter
  (if name = "" then [.emptyFilterName] else []) ++
    (if urlPatterns = [] ∧ servletNames = [] then [.noMatchRule name] else []) ++
    (urlPatterns.filter (· ≠ everything)).filterMap
      (fun text => (failure? (UrlPattern.parse text)).map (.pattern name)) ++
    (servletNames.filter (· = "")).map fun _ => .emptyServletName name

theorem failure?_readPatterns (filter : String) (texts : List String) :
    failure? (readPatterns filter texts) =
      (texts.filterMap fun text =>
        (failure? (UrlPattern.parse text)).map (.pattern filter)).head? := by
  rw [readPatterns_eq, failure?_mapM]
  simp only [failure?_mapError]

theorem head?_nameless (name : String) (servletNames : List String) :
    ((servletNames.filter (· = "")).map fun _ => RuleError.emptyServletName name).head? =
      if "" ∈ servletNames then some (.emptyServletName name) else none := by
  rw [List.filter_eq, List.map_replicate, List.head?_replicate]
  simp only [List.count_eq_zero, ite_not]

theorem failure?_build (filter : String) (urlPatterns servletNames : List String)
    (phases : List Phase) :
    failure? (build filter urlPatterns servletNames phases) =
      (failures filter urlPatterns servletNames).head? := by
  simp only [build, failures, List.head?_append, head?_nameless, ← failure?_readPatterns]
  by_cases blank : Text.trim filter = ""
  · simp [blank, failure?]
  · by_cases untargeted : urlPatterns = [] ∧ servletNames = []
    · simp [blank, untargeted, failure?]
    · rw [if_neg blank, if_neg untargeted, if_neg blank, if_neg untargeted]
      cases readPatterns (Text.trim filter) (urlPatterns.filter (· ≠ everything)) with
      | error cause => rfl
      | ok patterns =>
        by_cases nameless : "" ∈ servletNames
        · simp [nameless, failure?]
        · simp [nameless, failure?]

/-! ## What a rule keeps -/

theorem everything_or_rest {texts : List String} (nonempty : texts ≠ []) :
    everything ∈ texts ∨ ∃ text, text ∈ texts.filter (· ≠ everything) := by
  obtain ⟨text, member⟩ := List.exists_mem_of_ne_nil texts nonempty
  by_cases all : text = everything
  · exact .inl (all ▸ member)
  · exact .inr ⟨text, List.mem_filter.2 ⟨member, by simpa using all⟩⟩

/-- A rule applies to something: it has a mark for every URL or every servlet, a pattern or a
name. -/
def HasTarget (rule : Rule) : Prop :=
  rule.everyUrl = true ∨ rule.everyServlet = true ∨ rule.urlPatterns ≠ [] ∨ rule.servletNames ≠ []

variable {rule : Rule}

theorem hasTarget_of_build (built : build filter urlPatterns servletNames phases = .ok rule) :
    rule.HasTarget := by
  obtain ⟨-, targeted, -, patterns, read, rfl⟩ := build_eq_ok.1 built
  rcases targeted with urls | servlets
  · rcases everything_or_rest urls with all | ⟨text, member⟩
    · exact .inl (decide_eq_true all)
    · obtain ⟨pattern, parsed⟩ := exists_readPatterns.1 ⟨patterns, read⟩ text member
      have kept : pattern ∈ patterns := (mem_readPatterns read).2 ⟨text, member, parsed⟩
      exact .inr (.inr (.inl (List.ne_nil_of_mem kept)))
  · rcases everything_or_rest servlets with all | ⟨name, member⟩
    · exact .inr (.inl (decide_eq_true all))
    · exact .inr (.inr (.inr (List.ne_nil_of_mem member)))

theorem render_ne_everything (built : build filter urlPatterns servletNames phases = .ok rule) :
    ∀ pattern ∈ rule.urlPatterns, pattern.render ≠ everything := by
  obtain ⟨-, -, -, patterns, read, rfl⟩ := build_eq_ok.1 built
  intro pattern kept
  obtain ⟨text, member, parsed⟩ := (mem_readPatterns read).1 kept
  rw [(UrlPattern.parse_eq_ok.1 parsed).1]
  simpa using (List.mem_filter.1 member).2

theorem everything_not_mem (built : build filter urlPatterns servletNames phases = .ok rule) :
    everything ∉ rule.servletNames := by
  obtain ⟨-, -, -, patterns, -, rfl⟩ := build_eq_ok.1 built
  simp

end Rule

namespace RuleDefinition

/-- All that is wrong with a definition: the phases come first. -/
def failures (definition : RuleDefinition) : List DefinitionError :=
  (definition.dispatchers.filterMap fun text =>
      (failure? (Phase.parse text)).map fun _ => .dispatcher text) ++
    (Rule.failures definition.filter definition.urlPatterns definition.servletNames).map .rule

theorem failure?_readDispatchers (texts : List String) :
    failure? (readDispatchers texts) =
      (texts.filterMap fun text =>
        (failure? (Phase.parse text)).map fun _ => DefinitionError.dispatcher text).head? := by
  rw [readDispatchers_eq, failure?_mapM]
  simp only [failure?_mapError]

theorem failure?_build (definition : RuleDefinition) :
    failure? definition.build = definition.failures.head? := by
  rw [failures, List.head?_append, ← failure?_readDispatchers, List.head?_map]
  unfold build
  cases readDispatchers definition.dispatchers with
  | error cause => rfl
  | ok phases =>
    rw [← Rule.failure?_build _ _ _ phases]
    dsimp only
    cases Rule.build definition.filter definition.urlPatterns definition.servletNames phases with
    | error cause => rfl
    | ok rule => rfl

/-- **A definition is built or reported by its first failure.** It is built if every text in it can
be read. Otherwise the failure that is reported is the first of all there are, in the order of
phases, filter name, target, URL patterns and servlet names. A rule that is built applies to
something, and the text for everything stands nowhere in it. -/
theorem build_eq_first_failure (definition : RuleDefinition) :
    ((∃ rule, definition.build = .ok rule) ↔ definition.Readable) ∧
      (∀ cause, definition.build = .error cause ↔ definition.failures.head? = some cause) ∧
        ∀ rule, definition.build = .ok rule →
          rule.HasTarget ∧ (∀ pattern ∈ rule.urlPatterns, pattern.render ≠ everything) ∧
            everything ∉ rule.servletNames := by
  refine ⟨exists_build, fun cause => ?_, fun rule built => ?_⟩
  · rw [← failure?_eq_some, failure?_build]
  · obtain ⟨phases, -, built⟩ := build_eq_ok.1 built
    exact ⟨Rule.hasTarget_of_build built, Rule.render_ne_everything built,
      Rule.everything_not_mem built⟩

/-- A definition with several failures is reported for its phase and, once that is put right, for
the first of its URL patterns that cannot be read. -/
theorem build_eq_first_failure_shop :
    let broken : RuleDefinition :=
      ⟨" shop ", ["/a", "*", "*.a/b", "a"], ["", "cart"], ["request", "REPLY"]⟩
    let mended : RuleDefinition := { broken with dispatchers := ["request"] }
    let sound : RuleDefinition := ⟨" shop ", ["*"], [], []⟩
    let rule : Rule := ⟨"shop", [], [], true, false, .unset⟩
    broken.build = .error (.dispatcher "REPLY") ∧
      mended.build = .error (.rule (.pattern "shop" (.badExtension "*.a/b"))) ∧
        sound.build = .ok rule ∧ rule.HasTarget := by
  intro broken mended sound rule
  have built : sound.build = .ok rule := by decide
  refine ⟨?_, ?_, built, ((build_eq_first_failure sound).2.2 rule built).1⟩
  · rw [(build_eq_first_failure broken).2.1]
    decide
  · rw [(build_eq_first_failure mended).2.1]
    decide

end RuleDefinition

end Gatehouse
