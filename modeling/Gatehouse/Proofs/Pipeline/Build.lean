import Gatehouse.Filter.Pipeline
import Gatehouse.Proofs.Guard.Options
import Gatehouse.Proofs.Routing.Definition

/-!
# What a built pipeline is made of

Settings that build a pipeline define every filter once, and each rule is paired with the filter
of its name. So the stages that apply to a request are known by the names that are resolved for
it.
-/

namespace Gatehouse

namespace Pipeline

variable {φ : Type}

/-! ## Parts -/

theorem enterFilters_eq_ok {known entered : Registry String φ} {filters : List (String × φ)} :
    enterFilters known filters = .ok entered ↔ entered.entries = known.entries ++ filters := by
  induction filters generalizing known with
  | nil =>
    rw [enterFilters, Except.ok.injEq, List.append_nil]
    exact ⟨fun same => same ▸ rfl, fun same => (Registry.ext same).symm⟩
  | cons e rest ih =>
    obtain ⟨name, filter⟩ := e
    rw [enterFilters]
    split
    · next held =>
      refine ⟨nofun, fun same => ?_⟩
      have twice := entered.distinct
      obtain ⟨value, held⟩ := Option.isSome_iff_exists.1 held
      have member := Registry.get?_eq_some_iff.1 held
      rw [same, List.map_append, List.nodup_append] at twice
      exact (twice.2.2 name (List.mem_map.2 ⟨_, member, rfl⟩) name List.mem_cons_self rfl).elim
    · next new =>
      have absent : name ∉ known.keys := by
        rw [← Registry.get?_eq_none_iff]
        simpa [Registry.contains] using new
      rw [ih, Registry.entries_put, if_neg absent, List.append_assoc]
      rfl

theorem pairStages_eq (known : Registry String φ) (rules : List Rule) :
    pairStages known rules = rules.mapM fun rule =>
      (known.get? rule.filter).elim (.error (.undefinedFilter rule.filter))
        fun filter => .ok ⟨rule, filter⟩ := by
  induction rules with
  | nil => rfl
  | cons rule rest ih =>
    rw [pairStages, List.mapM_cons, ← ih]
    cases known.get? rule.filter with
    | none => rfl
    | some filter => cases pairStages known rest <;> rfl

variable {known : Registry String φ} {rules : List Rule} {stages : List (Stage φ)}

theorem stage_eq_ok {rule : Rule} {stage : Stage φ} :
    ((known.get? rule.filter).elim (.error (.undefinedFilter rule.filter))
        fun filter => .ok ⟨rule, filter⟩ : Except PipelineError (Stage φ)) = .ok stage ↔
      stage.rule = rule ∧ known.get? rule.filter = some stage.filter := by
  obtain ⟨rule', filter'⟩ := stage
  cases known.get? rule.filter with
  | none => simp
  | some filter => simp [eq_comm]

theorem exists_pairStages :
    (∃ stages, pairStages known rules = .ok stages) ↔
      ∀ rule ∈ rules, ∃ filter, known.get? rule.filter = some filter := by
  rw [pairStages_eq, exists_mapM_eq_ok]
  simp only [stage_eq_ok]
  refine forall₂_congr fun rule _ => ⟨?_, ?_⟩
  · rintro ⟨stage, -, held⟩
    exact ⟨stage.filter, held⟩
  · rintro ⟨filter, held⟩
    exact ⟨⟨rule, filter⟩, rfl, held⟩

theorem rules_of_pairStages (paired : pairStages known rules = .ok stages) :
    stages.map Stage.rule = rules := by
  rw [pairStages_eq] at paired
  exact (map_mapM (fun _ _ made => (stage_eq_ok.1 made).1) paired).trans (List.map_id _)

theorem filter_of_pairStages (paired : pairStages known rules = .ok stages) :
    ∀ stage ∈ stages, known.get? stage.rule.filter = some stage.filter := by
  rw [pairStages_eq] at paired
  intro stage member
  obtain ⟨rule, -, made⟩ := (mem_mapM paired).1 member
  obtain ⟨rfl, held⟩ := stage_eq_ok.1 made
  exact held

theorem initFilters_eq (definitions : List FilterDefinition) :
    initFilters definitions = definitions.mapM fun definition =>
      ((BuiltinFilter.ofDefinition definition).map (definition.name, ·)).mapError .filterInit := by
  induction definitions with
  | nil => rfl
  | cons definition rest ih =>
    rw [initFilters, List.mapM_cons, ← ih]
    cases BuiltinFilter.ofDefinition definition with
    | error cause => rfl
    | ok filter => cases initFilters rest <;> rfl

theorem names_of_initFilters {definitions : List FilterDefinition}
    {filters : List (String × BuiltinFilter)} (set : initFilters definitions = .ok filters) :
    filters.map Prod.fst = definitions.map FilterDefinition.name := by
  rw [initFilters_eq] at set
  refine map_mapM (fun definition e made => ?_) set
  obtain ⟨filter, -, rfl⟩ := map_eq_ok.1 (mapError_eq_ok.1 made)
  rfl

theorem buildRules_eq (definitions : List RuleDefinition) :
    buildRules definitions = definitions.mapM fun definition =>
      definition.build.mapError .definition := by
  induction definitions with
  | nil => rfl
  | cons definition rest ih =>
    rw [buildRules, List.mapM_cons, ← ih]
    cases definition.build with
    | error cause => rfl
    | ok rule => cases buildRules rest <;> rfl

theorem exists_buildRules {definitions : List RuleDefinition} :
    (∃ rules, buildRules definitions = .ok rules) ↔
      ∀ definition ∈ definitions, definition.Readable := by
  rw [buildRules_eq, exists_mapM_eq_ok]
  simp only [mapError_eq_ok, RuleDefinition.exists_build]

theorem filters_of_buildRules {definitions : List RuleDefinition}
    (built : buildRules definitions = .ok rules) :
    rules.map Rule.filter = definitions.map fun definition => Text.trim definition.filter := by
  rw [buildRules_eq] at built
  exact map_mapM (fun _ _ made => RuleDefinition.filter_of_build (mapError_eq_ok.1 made)) built

/-! ## What parts fail for -/

theorem initFilters_eq_error {definitions : List FilterDefinition} {cause : PipelineError}
    (failed : initFilters definitions = .error cause) : ∃ reason, .filterInit reason = cause := by
  rw [initFilters_eq] at failed
  obtain ⟨definition, -, unset⟩ := mapM_eq_error failed
  obtain ⟨reason, -, same⟩ := mapError_eq_error.1 unset
  exact ⟨reason, same⟩

theorem buildRules_eq_error {definitions : List RuleDefinition} {cause : PipelineError}
    (failed : buildRules definitions = .error cause) : ∃ reason, .definition reason = cause := by
  rw [buildRules_eq] at failed
  obtain ⟨definition, -, unbuilt⟩ := mapM_eq_error failed
  obtain ⟨reason, -, same⟩ := mapError_eq_error.1 unbuilt
  exact ⟨reason, same⟩

theorem enterFilters_eq_error {known : Registry String φ} {filters : List (String × φ)}
    {cause : PipelineError} (failed : enterFilters known filters = .error cause) :
    ∃ name, .duplicateFilter name = cause := by
  induction filters generalizing known with
  | nil => cases failed
  | cons e rest ih =>
    obtain ⟨name, filter⟩ := e
    rw [enterFilters] at failed
    split at failed
    · exact ⟨name, Except.error.inj failed⟩
    · exact ih failed

theorem mountServlets_eq_error {directory : Directory} {servlets : List ServletDefinition}
    {cause : PipelineError} (failed : mountServlets directory servlets = .error cause) :
    ∃ name reason, .servlet name reason = cause := by
  induction servlets generalizing directory with
  | nil => cases failed
  | cons servlet rest ih =>
    rw [mountServlets] at failed
    split at failed
    · exact ⟨_, _, Except.error.inj failed⟩
    · exact ih failed

theorem failure?_pairStages (known : Registry String φ) (rules : List Rule) :
    failure? (pairStages known rules) =
      ((rules.map Rule.filter).find? (· ∉ known.keys)).map .undefinedFilter := by
  induction rules with
  | nil => rfl
  | cons rule rest ih =>
    rw [pairStages, List.map_cons, List.find?_cons]
    cases held : known.get? rule.filter with
    | none => simp [Registry.get?_eq_none_iff.1 held, failure?]
    | some filter =>
      have entered : rule.filter ∈ known.keys := Registry.exists_get?_iff.1 ⟨filter, held⟩
      simp only [entered, not_true_eq_false, decide_false, ← ih]
      cases pairStages known rest <;> rfl

/-! ## The whole -/

theorem filter_of_assemble {filters : List (String × φ)} {rules : List Rule}
    {servlets : List ServletDefinition} {pipeline : Pipeline φ}
    (built : assemble filters rules servlets = .ok pipeline) :
    ∀ stage ∈ pipeline.stages, pipeline.filters.get? stage.rule.filter = some stage.filter := by
  simp only [assemble, bind_eq_ok] at built
  obtain ⟨entered, -, stages, paired, directory, -, whole⟩ := built
  obtain rfl := Except.ok.inj whole
  exact filter_of_pairStages paired

variable {settings : Settings} {pipeline : Pipeline BuiltinFilter}

theorem ofSettings_eq_ok :
    ofSettings settings = .ok pipeline ↔
      initFilters settings.filters = .ok pipeline.filters.entries ∧
        buildRules settings.rules = .ok pipeline.rules ∧
        pairStages pipeline.filters pipeline.rules = .ok pipeline.stages ∧
        mountServlets .empty settings.servlets = .ok pipeline.servlets := by
  simp only [ofSettings, assemble, bind_eq_ok]
  constructor
  · rintro ⟨filters, set, rules, built, known, entered, stages, paired, servlets, mounted, whole⟩
    obtain rfl := Except.ok.inj whole
    obtain rfl : known.entries = filters := enterFilters_eq_ok.1 entered
    obtain rfl := rules_of_pairStages paired
    exact ⟨set, built, paired, mounted⟩
  · rintro ⟨set, built, paired, mounted⟩
    exact ⟨_, set, _, built, _, enterFilters_eq_ok.2 rfl, _, paired, _, mounted, rfl⟩

/-- A pipeline can be built if its filters can be set up under distinct names, its definitions can
be read and are about these filters, and its servlets can be mounted. -/
theorem exists_ofSettings :
    (∃ pipeline, ofSettings settings = .ok pipeline) ↔
      (∃ filters, initFilters settings.filters = .ok filters) ∧
        (settings.filters.map FilterDefinition.name).Nodup ∧
        (∀ definition ∈ settings.rules, definition.Readable) ∧
        (∀ definition ∈ settings.rules,
          Text.trim definition.filter ∈ settings.filters.map FilterDefinition.name) ∧
        ∃ servlets, mountServlets .empty settings.servlets = .ok servlets := by
  have known : ∀ (filters : Registry String BuiltinFilter) (rules : List Rule),
      initFilters settings.filters = .ok filters.entries → buildRules settings.rules = .ok rules →
        ((∃ stages, pairStages filters rules = .ok stages) ↔
          ∀ definition ∈ settings.rules,
            Text.trim definition.filter ∈ settings.filters.map FilterDefinition.name) := by
    intro filters rules set built
    have names : filters.keys = settings.filters.map FilterDefinition.name :=
      names_of_initFilters set
    rw [exists_pairStages, ← names]
    simp only [Registry.exists_get?_iff]
    rw [← List.forall_mem_map (f := Rule.filter) (P := (· ∈ filters.keys)),
      filters_of_buildRules built, List.forall_mem_map]
  constructor
  · rintro ⟨pipeline, built⟩
    obtain ⟨set, built, paired, mounted⟩ := ofSettings_eq_ok.1 built
    refine ⟨⟨_, set⟩, ?_, exists_buildRules.1 ⟨_, built⟩, ?_, _, mounted⟩
    · rw [← names_of_initFilters set]
      exact pipeline.filters.distinct
    · exact (known _ _ set built).1 ⟨_, paired⟩
  · rintro ⟨⟨filters, set⟩, distinct, readable, defined, servlets, mounted⟩
    rw [← names_of_initFilters set] at distinct
    let registry : Registry String BuiltinFilter := ⟨filters, distinct⟩
    obtain ⟨rules, built⟩ := exists_buildRules.2 readable
    obtain ⟨stages, paired⟩ := (known registry rules set built).2 defined
    obtain rfl := rules_of_pairStages paired
    exact ⟨⟨registry, stages, servlets⟩, ofSettings_eq_ok.2 ⟨set, built, paired, mounted⟩⟩

theorem filter_of_stage (built : ofSettings settings = .ok pipeline) :
    ∀ stage ∈ pipeline.stages, pipeline.filters.get? stage.rule.filter = some stage.filter := by
  obtain ⟨-, -, paired, -⟩ := ofSettings_eq_ok.1 built
  exact filter_of_pairStages paired

theorem filter_of_definition (built : ofSettings settings = .ok pipeline) :
    ∀ definition ∈ settings.filters, ∃ filter,
      BuiltinFilter.ofDefinition definition = .ok filter ∧
        pipeline.filters.get? definition.name = some filter := by
  obtain ⟨set, -, -, -⟩ := ofSettings_eq_ok.1 built
  rw [initFilters_eq] at set
  intro definition defined
  obtain ⟨e, made⟩ := exists_mapM_eq_ok.1 ⟨_, set⟩ definition defined
  have entered := (mem_mapM set).2 ⟨definition, defined, made⟩
  obtain ⟨filter, makes, rfl⟩ := map_eq_ok.1 (mapError_eq_ok.1 made)
  exact ⟨filter, makes, Registry.get?_eq_some_iff.2 entered⟩

theorem guard_of_definition {definition : FilterDefinition} {filter : BuiltinFilter}
    (made : BuiltinFilter.ofDefinition definition = .ok filter)
    (kind : definition.kind = .csrfPrevention) : ∃ g, filter = .guard g := by
  rw [BuiltinFilter.ofDefinition, kind] at made
  simp only [bind, Except.bind] at made
  split at made
  · cases made
  · split at made
    · cases made
    · exact ⟨_, (Except.ok.inj made).symm⟩

theorem definition_of_guard {definition : FilterDefinition} {g : Guard}
    (made : BuiltinFilter.ofDefinition definition = .ok (.guard g)) :
    definition.kind = .csrfPrevention ∧ g.options.InRange := by
  rw [BuiltinFilter.ofDefinition] at made
  split at made
  · next kind =>
    obtain ⟨options, read, made⟩ := bind_eq_ok.1 made
    obtain ⟨g', set, made⟩ := bind_eq_ok.1 made
    cases made
    rw [Guard.eq_of_ofOptions set]
    exact ⟨kind, GuardOptions.inRange_of_read read⟩
  · obtain ⟨screen, -, made⟩ := bind_eq_ok.1 made
    cases made

theorem definition_of_stage (built : ofSettings settings = .ok pipeline) :
    ∀ stage ∈ pipeline.stages, ∃ definition ∈ settings.filters,
      definition.name = stage.rule.filter ∧
        BuiltinFilter.ofDefinition definition = .ok stage.filter := by
  obtain ⟨set, -, -, -⟩ := ofSettings_eq_ok.1 built
  rw [initFilters_eq] at set
  intro stage member
  have held := Registry.get?_eq_some_iff.1 (filter_of_stage built stage member)
  obtain ⟨definition, defined, made⟩ := (mem_mapM set).1 held
  obtain ⟨filter, makes, same⟩ := map_eq_ok.1 (mapError_eq_ok.1 made)
  obtain ⟨name, rfl⟩ := Prod.mk.inj same
  exact ⟨definition, defined, name, makes⟩

/-! ## The stages of a request -/

theorem map_stagesFor (pipeline : Pipeline φ) (r : Request) :
    (pipeline.stagesFor r).map (fun stage => stage.rule.filter) = pipeline.resolve r := by
  unfold stagesFor resolve Rule.resolve rules
  rw [List.filter_map, List.map_map]
  rfl

theorem mem_of_stagesFor {pipeline : Pipeline φ} {r : Request} {stage : Stage φ}
    (h : stage ∈ pipeline.stagesFor r) : stage ∈ pipeline.stages :=
  (List.mem_filter.1 h).1

end Pipeline

end Gatehouse
