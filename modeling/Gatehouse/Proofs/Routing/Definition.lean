import Gatehouse.Routing.Rule
import Gatehouse.Proofs.Traversal

/-!
# What a definition says

A definition is made of texts, and says by itself which requests it selects. A rule can be built
from it if every text in it can be read, and then the rule applies to the requests that the
definition selects. Neither depends on the order in which texts stand in it, nor on how often.
-/

namespace Gatehouse

/-! ## Phases -/

theorem Phase.parse_eq_ok {text : String} {phase : Phase} :
    Phase.parse text = .ok phase ↔ Text.sameLetters phase.name (Text.trim text) = true := by
  simp only [Phase.parse]
  constructor
  · intro parsed
    split at parsed
    · next found named =>
      obtain rfl : found = phase := Except.ok.inj parsed
      simpa using List.find?_some named
    · cases parsed
  · intro same
    have letters : Text.lowerChars (Text.trim text) = Text.lowerChars phase.name :=
      (LawfulBEq.eq_of_beq same).symm
    simp only [Text.sameLetters, letters]
    cases phase <;> rfl

namespace PhaseSet

@[simp] theorem names_unset (phase : Phase) : unset.names phase = false := by cases phase <;> rfl

@[simp] theorem names_only (phase phase' : Phase) :
    (only phase).names phase' = decide (phase' = phase) := by
  cases phase <;> cases phase' <;> rfl

@[simp] theorem names_union (s t : PhaseSet) (phase : Phase) :
    (s.union t).names phase = (s.names phase || t.names phase) := by
  cases phase <;> rfl

theorem names_foldl_insert (s : PhaseSet) (phases : List Phase) (phase : Phase) :
    (phases.foldl insert s).names phase = (s.names phase || decide (phase ∈ phases)) := by
  induction phases generalizing s with
  | nil => simp
  | cons first rest ih => simp [ih, insert, Bool.or_assoc]

@[simp] theorem names_ofList (phases : List Phase) (phase : Phase) :
    (ofList phases).names phase = decide (phase ∈ phases) := by
  simp [ofList, names_foldl_insert]

theorem contains_ofList {phases : List Phase} {phase : Phase} :
    (ofList phases).contains phase = true ↔
      phase ∈ phases ∨ phases = [] ∧ phase = .request := by
  unfold contains resolve isUnset
  rcases phases with _ | ⟨first, rest⟩
  · simp [ofList]
  · have named : ofList (first :: rest) ≠ unset := by
      intro same
      have first_named := names_ofList (first :: rest) first
      rw [same] at first_named
      simp at first_named
    simp [named]

end PhaseSet

/-! ## Rules -/

/-- The text is the written form of a pattern that covers the path. -/
def UrlPattern.Written (text path : String) : Prop :=
  ∃ pattern, UrlPattern.parse text = .ok pattern ∧ pattern.covers path = true

instance (text path : String) : Decidable (UrlPattern.Written text path) :=
  match parsed : UrlPattern.parse text with
  | .ok pattern =>
    decidable_of_iff (pattern.covers path = true) (by simp [UrlPattern.Written, parsed])
  | .error _ => .isFalse (by simp [UrlPattern.Written, parsed])

namespace Rule

variable {filter : String} {texts : List String}

theorem readPatterns_eq (filter : String) (texts : List String) :
    readPatterns filter texts =
      texts.mapM fun text => (UrlPattern.parse text).mapError (.pattern filter) := by
  induction texts with
  | nil => rfl
  | cons text rest ih =>
    rw [readPatterns, List.mapM_cons, ← ih]
    cases UrlPattern.parse text with
    | error cause => rfl
    | ok pattern => cases readPatterns filter rest <;> rfl

theorem exists_readPatterns :
    (∃ patterns, readPatterns filter texts = .ok patterns) ↔
      ∀ text ∈ texts, ∃ pattern, UrlPattern.parse text = .ok pattern := by
  rw [readPatterns_eq, exists_mapM_eq_ok]
  simp only [mapError_eq_ok]

theorem mem_readPatterns {patterns : List UrlPattern}
    (read : readPatterns filter texts = .ok patterns) {pattern : UrlPattern} :
    pattern ∈ patterns ↔ ∃ text ∈ texts, UrlPattern.parse text = .ok pattern := by
  rw [readPatterns_eq] at read
  simp only [mem_mapM read, mapError_eq_ok]

theorem covers_of_read {patterns : List UrlPattern}
    (read : readPatterns filter texts = .ok patterns) {path : String} :
    patterns.any (·.covers path) = true ↔ ∃ text ∈ texts, UrlPattern.Written text path := by
  simp only [List.any_eq_true, mem_readPatterns read, UrlPattern.Written]
  constructor
  · rintro ⟨pattern, ⟨text, member, parsed⟩, covers⟩
    exact ⟨text, member, pattern, parsed, covers⟩
  · rintro ⟨text, member, pattern, parsed, covers⟩
    exact ⟨pattern, ⟨text, member, parsed⟩, covers⟩

theorem build_eq_ok {urlPatterns servletNames : List String} {phases : List Phase} {rule : Rule} :
    build filter urlPatterns servletNames phases = .ok rule ↔
      Text.trim filter ≠ "" ∧ (urlPatterns ≠ [] ∨ servletNames ≠ []) ∧ "" ∉ servletNames ∧
        ∃ patterns,
          readPatterns (Text.trim filter) (urlPatterns.filter (· ≠ everything)) = .ok patterns ∧
          { filter := Text.trim filter
            urlPatterns := patterns
            servletNames := servletNames.filter (· ≠ everything)
            everyUrl := everything ∈ urlPatterns
            everyServlet := everything ∈ servletNames
            phases := PhaseSet.ofList phases } = rule := by
  simp only [build]
  split
  · next blank => simp [blank]
  · next named =>
    split
    · next untargeted => simp [untargeted]
    · next targeted =>
      have target : urlPatterns ≠ [] ∨ servletNames ≠ [] := Decidable.not_and_iff_or_not.1 targeted
      split
      · next cause unread =>
        rw [unread]
        simp
      · next patterns read =>
        rw [read]
        split
        · next nameless => simp [nameless]
        · next names => simp [named, target, names]

end Rule

/-! ## Definitions -/

namespace RuleDefinition

/-- A definition is bound to the phases that it names; one that names none is bound to the request
phase. -/
def Binds (definition : RuleDefinition) (phase : Phase) : Prop :=
  (∃ text ∈ definition.dispatchers, Text.sameLetters phase.name (Text.trim text) = true) ∨
    definition.dispatchers = [] ∧ phase = .request

def NamesUrl (definition : RuleDefinition) (path : String) : Prop :=
  ∃ text ∈ definition.urlPatterns, text = everything ∨ UrlPattern.Written text path

/-- A request without a servlet is selected by no servlet name. -/
def NamesServlet (definition : RuleDefinition) (servlet : Option String) : Prop :=
  ∃ name ∈ servlet, ∃ text ∈ definition.servletNames, text = everything ∨ text = name

/-- A definition selects what it names by URL or by servlet, in the phases it is bound to. -/
def Selects (definition : RuleDefinition) (path : String) (servlet : Option String)
    (phase : Phase) : Prop :=
  definition.Binds phase ∧ (definition.NamesUrl path ∨ definition.NamesServlet servlet)

instance (definition : RuleDefinition) (phase : Phase) : Decidable (definition.Binds phase) :=
  inferInstanceAs (Decidable (_ ∨ _))

instance (definition : RuleDefinition) (path : String) : Decidable (definition.NamesUrl path) :=
  inferInstanceAs (Decidable (∃ text ∈ definition.urlPatterns, _))

instance (definition : RuleDefinition) (servlet : Option String) :
    Decidable (definition.NamesServlet servlet) :=
  inferInstanceAs (Decidable (∃ name ∈ servlet, ∃ text ∈ definition.servletNames, _))

instance (definition : RuleDefinition) (path : String) (servlet : Option String) (phase : Phase) :
    Decidable (definition.Selects path servlet phase) :=
  inferInstanceAs (Decidable (_ ∧ _))

/-- Every text in a definition can be read. -/
structure Readable (definition : RuleDefinition) : Prop where
  dispatchers : ∀ text ∈ definition.dispatchers, ∃ phase, Phase.parse text = .ok phase
  filter : Text.trim definition.filter ≠ ""
  target : definition.urlPatterns ≠ [] ∨ definition.servletNames ≠ []
  urlPatterns : ∀ text ∈ definition.urlPatterns,
    text = everything ∨ ∃ pattern, UrlPattern.parse text = .ok pattern
  servletNames : "" ∉ definition.servletNames

/-- Two definitions name the same filter, and have the same texts in each of their lists. -/
structure Alike (definition other : RuleDefinition) : Prop where
  filter : definition.filter = other.filter
  urlPatterns : ∀ text, text ∈ definition.urlPatterns ↔ text ∈ other.urlPatterns
  servletNames : ∀ text, text ∈ definition.servletNames ↔ text ∈ other.servletNames
  dispatchers : ∀ text, text ∈ definition.dispatchers ↔ text ∈ other.dispatchers

variable {definition other : RuleDefinition}

theorem eq_nil_congr {xs ys : List String} (same : ∀ text, text ∈ xs ↔ text ∈ ys) :
    xs = [] ↔ ys = [] := by
  simp [List.eq_nil_iff_forall_not_mem, same]

theorem Alike.selects (alike : definition.Alike other) (path : String) (servlet : Option String)
    (phase : Phase) :
    definition.Selects path servlet phase ↔ other.Selects path servlet phase := by
  unfold Selects Binds NamesUrl NamesServlet
  simp only [alike.urlPatterns, alike.servletNames, alike.dispatchers,
    eq_nil_congr alike.dispatchers]

theorem Alike.readable (alike : definition.Alike other) (readable : definition.Readable) :
    other.Readable where
  dispatchers text member := readable.dispatchers text ((alike.dispatchers text).2 member)
  filter := alike.filter ▸ readable.filter
  target := by
    have target := readable.target
    rwa [ne_eq, eq_nil_congr alike.urlPatterns, ne_eq, eq_nil_congr alike.servletNames] at target
  urlPatterns text member := readable.urlPatterns text ((alike.urlPatterns text).2 member)
  servletNames member := readable.servletNames ((alike.servletNames _).2 member)

/-! ## Rules of definitions -/

theorem readDispatchers_eq (texts : List String) :
    readDispatchers texts =
      texts.mapM fun text => (Phase.parse text).mapError fun _ => .dispatcher text := by
  induction texts with
  | nil => rfl
  | cons text rest ih =>
    rw [readDispatchers, List.mapM_cons, ← ih]
    cases Phase.parse text with
    | error cause => rfl
    | ok phase => cases readDispatchers rest <;> rfl

theorem exists_readDispatchers {texts : List String} :
    (∃ phases, readDispatchers texts = .ok phases) ↔
      ∀ text ∈ texts, ∃ phase, Phase.parse text = .ok phase := by
  rw [readDispatchers_eq, exists_mapM_eq_ok]
  simp only [mapError_eq_ok]

theorem contains_of_read {phases : List Phase}
    (read : readDispatchers definition.dispatchers = .ok phases) {phase : Phase} :
    (PhaseSet.ofList phases).contains phase = true ↔ definition.Binds phase := by
  rw [readDispatchers_eq] at read
  have none_named : phases = [] ↔ definition.dispatchers = [] := by
    rw [← List.length_eq_zero_iff, length_mapM read, List.length_eq_zero_iff]
  rw [PhaseSet.contains_ofList, Binds, none_named]
  simp only [mem_mapM read, mapError_eq_ok, Phase.parse_eq_ok]

theorem build_eq_ok {rule : Rule} :
    definition.build = .ok rule ↔
      ∃ phases, readDispatchers definition.dispatchers = .ok phases ∧
        Rule.build definition.filter definition.urlPatterns definition.servletNames phases =
          .ok rule := by
  unfold build
  split
  · next cause unread => simp [unread]
  · next phases read =>
    rw [read]
    split
    · next cause unbuilt => simp [unbuilt]
    · next rule built => simp [built]

theorem exists_build : (∃ rule, definition.build = .ok rule) ↔ definition.Readable := by
  constructor
  · rintro ⟨rule, built⟩
    obtain ⟨phases, bound, built⟩ := build_eq_ok.1 built
    obtain ⟨filter, target, servlets, patterns, covered, -⟩ := Rule.build_eq_ok.1 built
    refine ⟨exists_readDispatchers.1 ⟨phases, bound⟩, filter, target, ?_, servlets⟩
    intro text member
    by_cases all : text = everything
    · exact .inl all
    · have listed : text ∈ definition.urlPatterns.filter (· ≠ everything) :=
        List.mem_filter.2 ⟨member, by simpa using all⟩
      exact .inr (Rule.exists_readPatterns.1 ⟨patterns, covered⟩ text listed)
  · intro readable
    obtain ⟨phases, bound⟩ := exists_readDispatchers.2 readable.dispatchers
    have parsed : ∀ text ∈ definition.urlPatterns.filter (· ≠ everything),
        ∃ pattern, UrlPattern.parse text = .ok pattern := by
      intro text listed
      obtain ⟨member, all⟩ := List.mem_filter.1 listed
      exact (readable.urlPatterns text member).resolve_left (by simpa using all)
    obtain ⟨patterns, covered⟩ := Rule.exists_readPatterns.2 parsed
    exact ⟨_, build_eq_ok.2 ⟨phases, bound, Rule.build_eq_ok.2 ⟨readable.filter, readable.target,
      readable.servletNames, patterns, covered, rfl⟩⟩⟩

theorem filter_of_build {rule : Rule} (built : definition.build = .ok rule) :
    rule.filter = Text.trim definition.filter := by
  obtain ⟨_, -, built⟩ := build_eq_ok.1 built
  obtain ⟨-, -, -, _, -, rfl⟩ := Rule.build_eq_ok.1 built
  rfl

/-- **The rule of a definition applies to what the definition selects.** -/
theorem applies_of_build {rule : Rule} (built : definition.build = .ok rule) {path : String}
    {servlet : Option String} {phase : Phase} :
    rule.applies path servlet phase = true ↔ definition.Selects path servlet phase := by
  obtain ⟨phases, bound, built⟩ := build_eq_ok.1 built
  obtain ⟨-, -, -, patterns, covered, rfl⟩ := Rule.build_eq_ok.1 built
  -- a text that stands for everything is kept as a mark of the rule, the others in its lists
  have split_off : ∀ (texts : List String) (holds : String → Prop),
      (everything ∈ texts ∨ ∃ text ∈ texts.filter (· ≠ everything), holds text) ↔
        ∃ text ∈ texts, text = everything ∨ holds text := by
    intro texts holds
    simp only [List.mem_filter, decide_eq_true_eq]
    grind
  rw [Rule.applies, Bool.and_eq_true, contains_of_read bound, Rule.coversTarget, Bool.or_eq_true,
    Selects]
  refine and_congr_right fun _ => or_congr ?_ ?_
  · rw [Rule.coversUrl, Bool.or_eq_true, decide_eq_true_eq, Rule.covers_of_read covered]
    exact split_off definition.urlPatterns (UrlPattern.Written · path)
  · cases servlet with
    | none => simp [Rule.coversServlet, NamesServlet]
    | some name =>
      have names := split_off definition.servletNames (· = name)
      simpa [Rule.coversServlet, NamesServlet] using names

end RuleDefinition

end Gatehouse
