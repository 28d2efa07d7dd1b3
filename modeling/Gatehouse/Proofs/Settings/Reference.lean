import Gatehouse.Proofs.Settings.Completeness

/-!
# Names as they are written

A rule is about the filter of the name that it gives, without the blanks around it; a filter is
defined under its name as it is written. So a rule may give the name of a filter as it is written,
unless there are blanks around it: then the audit and the builder look for a filter of the trimmed
name, and find none unless another filter happens to bear it (`Settings.named_as_written`).
-/

namespace Gatehouse

namespace Settings

variable {s : Settings} {index : Nat} {definition : RuleDefinition} {name : String}

/-- The filters can be set up under distinct names and the definitions of rules can be read, so that
the builder comes to look up the filters of the rules. -/
structure Prepared (s : Settings) : Prop where
  filters : ∃ filters, Pipeline.initFilters s.filters = .ok filters
  distinct : (s.filters.map FilterDefinition.name).Nodup
  rules : ∀ definition ∈ s.rules, definition.Readable

/-- The names that rules give, without blanks around them. -/
def references (s : Settings) : List String :=
  s.rules.map fun definition => Text.trim definition.filter

/-- The first name that a rule gives, and that no filter bears. -/
def missing? (s : Settings) : Option String :=
  s.references.find? (· ∉ s.filters.map FilterDefinition.name)

theorem pairStages_eq_undefined {known : Registry String BuiltinFilter} {rules : List Rule}
    (set : Pipeline.initFilters s.filters = .ok known.entries)
    (built : Pipeline.buildRules s.rules = .ok rules) :
    Pipeline.pairStages known rules = .error (.undefinedFilter name) ↔ s.missing? = some name := by
  have names : known.keys = s.filters.map FilterDefinition.name :=
    Pipeline.names_of_initFilters set
  rw [← failure?_eq_some, Pipeline.failure?_pairStages, names,
    Pipeline.filters_of_buildRules built]
  simp [missing?, references]

theorem ofSettings_eq_undefined :
    Pipeline.ofSettings s = .error (.undefinedFilter name) ↔
      s.Prepared ∧ s.missing? = some name := by
  simp only [Pipeline.ofSettings, Pipeline.assemble, bind_eq_error]
  constructor
  · rintro (unset | ⟨filters, set, unbuilt | ⟨rules, built, refused | ⟨known, entered, unpaired |
      ⟨stages, -, unmounted | ⟨servlets, -, whole⟩⟩⟩⟩⟩)
    · obtain ⟨reason, other⟩ := Pipeline.initFilters_eq_error unset
      cases other
    · obtain ⟨reason, other⟩ := Pipeline.buildRules_eq_error unbuilt
      cases other
    · obtain ⟨name, other⟩ := Pipeline.enterFilters_eq_error refused
      cases other
    · obtain rfl : known.entries = filters := Pipeline.enterFilters_eq_ok.1 entered
      have distinct := known.distinct
      rw [Pipeline.names_of_initFilters set] at distinct
      exact ⟨⟨⟨_, set⟩, distinct, Pipeline.exists_buildRules.1 ⟨rules, built⟩⟩,
        (pairStages_eq_undefined set built).1 unpaired⟩
    · obtain ⟨servlet, reason, other⟩ := Pipeline.mountServlets_eq_error unmounted
      cases other
    · cases whole
  · rintro ⟨prepared, missing⟩
    obtain ⟨filters, set⟩ := prepared.filters
    obtain ⟨rules, built⟩ := Pipeline.exists_buildRules.2 prepared.rules
    have distinct := prepared.distinct
    rw [← Pipeline.names_of_initFilters set] at distinct
    let known : Registry String BuiltinFilter := ⟨filters, distinct⟩
    have entered : Pipeline.enterFilters .empty filters = .ok known :=
      Pipeline.enterFilters_eq_ok.2 rfl
    have unpaired : Pipeline.pairStages known rules = .error (.undefinedFilter name) :=
      (pairStages_eq_undefined set built).2 missing
    exact .inr ⟨filters, set, .inr ⟨rules, built, .inr ⟨known, entered, .inl unpaired⟩⟩⟩

theorem defines_iff (named : Text.trim name ≠ "") :
    s.Defines name ↔ name ∈ s.filters.map FilterDefinition.name := by
  rw [List.mem_map]
  constructor
  · rintro ⟨f, member, -, same⟩
    exact ⟨f, member, same⟩
  · rintro ⟨f, member, rfl⟩
    exact ⟨f, member, named, rfl⟩

/-! ## Blame -/

/-- The builder fails because it does not find a filter. -/
def Misses (s : Settings) : Prop :=
  ∃ name, Pipeline.ofSettings s = .error (.undefinedFilter name)

/-- Settings with the first few of their rules only. -/
def withRules (s : Settings) (count : Nat) : Settings := { s with rules := s.rules.take count }

/-- It is because of the rule at an index that the builder does not find a filter: it fails so with
the rules up to this one, and does not without it. -/
def Blames (s : Settings) (index : Nat) : Prop :=
  s.Misses ∧ (s.withRules (index + 1)).Misses ∧ ¬ (s.withRules index).Misses

theorem Prepared.withRules (prepared : s.Prepared) (count : Nat) : (s.withRules count).Prepared :=
  { prepared with rules := fun _ member => prepared.rules _ (List.mem_of_mem_take member) }

theorem misses_iff :
    s.Misses ↔ s.Prepared ∧ ∃ definition ∈ s.rules, ¬ s.Defines (Text.trim definition.filter) := by
  simp only [Misses, ofSettings_eq_undefined, exists_and_left]
  refine and_congr_right fun prepared => ?_
  rw [← Option.isSome_iff_exists, missing?, List.find?_isSome]
  simp only [references, List.mem_map, exists_exists_and_eq_and]
  refine exists_congr fun definition => and_congr_right fun member => ?_
  have named := (prepared.rules definition member).filter
  rw [defines_iff (by rwa [Text.trim_trim]), decide_eq_true_eq, List.mem_map]

theorem blames_iff (listed : s.rules[index]? = some definition) :
    s.Blames index ↔ s.Prepared ∧
      (∀ earlier ∈ s.rules.take index, s.Defines (Text.trim earlier.filter)) ∧
        ¬ s.Defines (Text.trim definition.filter) := by
  have upTo : s.rules.take (index + 1) = s.rules.take index ++ [definition] := by
    rw [List.take_add_one, listed]
    rfl
  constructor
  · rintro ⟨fails, fails_with, without⟩
    have prepared := (misses_iff.1 fails).1
    have earlier : ∀ earlier ∈ s.rules.take index, s.Defines (Text.trim earlier.filter) := by
      intro earlier member
      by_contra undefined
      exact without (misses_iff.2 ⟨prepared.withRules index, earlier, member, undefined⟩)
    obtain ⟨-, blamed, member, undefined⟩ := misses_iff.1 fails_with
    rw [withRules, upTo, List.mem_append, List.mem_singleton] at member
    rcases member with front | rfl
    · exact absurd (earlier blamed front) undefined
    · exact ⟨prepared, earlier, undefined⟩
  · rintro ⟨prepared, earlier, undefined⟩
    refine ⟨misses_iff.2 ⟨prepared, definition, List.mem_of_getElem? listed, undefined⟩,
      misses_iff.2 ⟨prepared.withRules _, definition, ?_, undefined⟩, fun fails => ?_⟩
    · rw [withRules, upTo]
      exact List.mem_append_right _ List.mem_cons_self
    · obtain ⟨-, other, member, undefined⟩ := misses_iff.1 fails
      exact undefined (earlier other member)

/-! ## Reports -/

theorem ruleFault?_eq_undefined {names : List String} :
    ruleFault? names index definition = some (.undefinedFilter index name) ↔
      ∃ rule, definition.build = .ok rule ∧ rule.filter ∉ names ∧ rule.filter = name := by
  unfold ruleFault?
  split
  · next text unbuilt => simp [unbuilt]
  · next cause unbuilt => simp [unbuilt]
  · next rule built => simp [built]

theorem exists_undefined_iff (listed : s.rules[index]? = some definition) :
    (∃ name, .undefinedFilter index name ∈ s.faults) ↔
      definition.Readable ∧ ¬ s.Defines (Text.trim definition.filter) := by
  have about : ∀ name, .undefinedFilter index name ∈ s.faults ↔
      ruleFault? s.filterNames index definition = some (.undefinedFilter index name) := by
    intro name
    have own := congrArg (Fault.undefinedFilter index name ∈ ·) (s.filter_index? index)
    simpa [listed, Fault.index?] using own
  simp only [about, ruleFault?_eq_undefined, mem_filterNames, ← RuleDefinition.exists_build]
  constructor
  · rintro ⟨-, rule, built, undefined, -⟩
    exact ⟨⟨rule, built⟩, RuleDefinition.filter_of_build built ▸ undefined⟩
  · rintro ⟨⟨rule, built⟩, undefined⟩
    exact ⟨_, rule, built, RuleDefinition.filter_of_build built ▸ undefined, rfl⟩

/-- **A name is looked up without the blanks around it.** For a rule that gives the name of a filter
as it is written, the audit finds no filter, and it is blamed for that by the builder, just if no
filter bears the trimmed name. So a name without blanks around it can be given as it is written. -/
theorem named_as_written {f : FilterDefinition} (listed : s.rules[index]? = some definition)
    (defined : f ∈ s.filters) (named : Text.trim f.name ≠ "")
    (written : definition.filter = f.name) :
    ((∃ name, .undefinedFilter index name ∈ s.faults) ↔
        definition.Readable ∧ ¬ s.Defines (Text.trim f.name)) ∧
      (s.Blames index ↔ s.Prepared ∧
        (∀ earlier ∈ s.rules.take index, s.Defines (Text.trim earlier.filter)) ∧
          ¬ s.Defines (Text.trim f.name)) ∧
      (Text.trim f.name = f.name → s.Defines (Text.trim f.name)) := by
  rw [← written]
  refine ⟨exists_undefined_iff listed, blames_iff listed, fun trimmed => ?_⟩
  rw [trimmed, written]
  exact ⟨f, defined, named, rfl⟩

/-- The name of the second filter has blanks around it. The rule that gives it so is at fault, and
the builder fails because of it; the rule that gives the name of the first filter is not. -/
theorem named_as_written_padded :
    let screen (name : String) : FilterDefinition := ⟨name, .failedRequest, none, .empty⟩
    let rule (filter : String) : RuleDefinition := ⟨filter, ["/*"], [], []⟩
    let s : Settings :=
      { filters := [screen "forms", screen " uploads "], rules := [rule "forms", rule " uploads "] }
    ((∃ name, .undefinedFilter 1 name ∈ s.faults) ∧ s.Blames 1) ∧
      (¬ ∃ name, .undefinedFilter 0 name ∈ s.faults) ∧ ¬ s.Blames 0 := by
  intro screen rule s
  have undefined : ¬ s.Defines (Text.trim " uploads ") := by decide +kernel
  have readable (name : String) (named : Text.trim name ≠ "") : (rule name).Readable :=
    { dispatchers := nofun
      filter := named
      target := .inl nofun
      urlPatterns := List.forall_mem_singleton.2 (.inr ⟨.tree "", rfl⟩)
      servletNames := nofun }
  have prepared : s.Prepared :=
    { filters := ⟨_, rfl⟩
      distinct := by decide
      rules := by simp [s, readable "forms" (by decide), readable " uploads " (by decide)] }
  obtain ⟨reported, blamed, -⟩ := @named_as_written s 1 (rule " uploads ") (screen " uploads ") rfl
    (by decide) (by decide) rfl
  obtain ⟨reported', blamed', defined⟩ := @named_as_written s 0 (rule "forms") (screen "forms") rfl
    (by decide) (by decide) rfl
  refine ⟨⟨reported.2 ⟨prepared.rules _ (by decide), undefined⟩,
    blamed.2 ⟨prepared, ?_, undefined⟩⟩, fun found => ?_, fun found => ?_⟩
  · decide +kernel
  · exact (reported'.1 found).2 (defined (by decide))
  · exact (blamed'.1 found).2.2 (defined (by decide))

/-- A rule gives the name of a filter just as it is written, and neither the audit nor the builder
finds the filter. -/
theorem padded_name_not_found :
    let f : FilterDefinition := ⟨" screen ", .failedRequest, none, .empty⟩
    let definition : RuleDefinition := ⟨" screen ", ["/*"], [], []⟩
    let s : Settings := { filters := [f], rules := [definition] }
    definition.filter = f.name ∧ Text.trim f.name ≠ "" ∧
      s.faults = [.undefinedFilter 0 "screen"] ∧
      Pipeline.ofSettings s = .error (.undefinedFilter "screen") := by
  refine ⟨rfl, by decide, by decide +kernel, rfl⟩

end Settings

end Gatehouse
