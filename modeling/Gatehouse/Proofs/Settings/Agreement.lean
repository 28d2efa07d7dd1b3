import Gatehouse.Settings.Audit
import Gatehouse.Proofs.Pipeline.Build
import Gatehouse.Proofs.Routing.Registration

/-!
# The audit and the builder

The audit of settings and the builder of pipelines check the same things, each in its own way.
The builder accepts what the audit has no fault with, up to the init parameters of filters, which
the audit does not look at. In what the builder accepts, the audit finds fault only with addresses,
zeros and blank names, which the builder does not look at (`Fault.Tolerated`).
-/

namespace Gatehouse

/-! ## Mounts -/

theorem Settings.isBadMount_eq_false {text : String} :
    isBadMount text = false ↔ Directory.Mountable text := by
  unfold isBadMount Directory.Mountable
  by_cases default : text = Directory.defaultPattern
  · simp [default]
  · cases UrlPattern.parse text with
    | ok pattern => simp
    | error cause => simp [default]

theorem Pipeline.exists_mountServlets {servlets : List ServletDefinition} (directory : Directory) :
    (∃ mounted, mountServlets directory servlets = .ok mounted) ↔
      ∀ servlet ∈ servlets, ∀ text ∈ servlet.urlPatterns, Settings.isBadMount text = false := by
  simp only [Settings.isBadMount_eq_false]
  induction servlets generalizing directory with
  | nil => exact ⟨fun _ => nofun, fun _ => ⟨directory, rfl⟩⟩
  | cons servlet rest ih =>
    rw [List.forall_mem_cons, ← Directory.exists_register directory servlet.name, mountServlets]
    rcases directory.register servlet.name servlet.urlPatterns with ⟨mounted, cause | ⟨⟩⟩
    · simp
    · simp [ih]

/-! ## Faults -/

namespace Fault

/-- The parts of settings, in the order in which they are audited. -/
inductive Part where
  | values
  | filters
  | rules
  | servlets
  deriving DecidableEq, Repr

/-- The part of settings that a fault is found in. -/
def part : Fault → Part
  | .address .. | .zero _ | .emptyCookieName => .values
  | .duplicateFilter _ | .emptyFilterName => .filters
  | .undefinedFilter .. | .rule .. | .dispatcher .. => .rules
  | .servletPattern .. => .servlets

end Fault

/-- A fault that the builder does not look at. -/
def Fault.Tolerated : Fault → Prop
  | .address .. | .zero _ | .emptyCookieName | .emptyFilterName => True
  | _ => False

instance : (fault : Fault) → Decidable fault.Tolerated
  | .address .. | .zero _ | .emptyCookieName | .emptyFilterName => .isTrue trivial
  | .duplicateFilter _ | .undefinedFilter .. | .rule .. | .dispatcher .. | .servletPattern .. =>
    .isFalse id

namespace Settings

variable {s : Settings}

theorem mem_faultIf {condition : Bool} {fault fault' : Fault}
    (h : fault ∈ faultIf condition fault') : fault = fault' := by
  unfold faultIf at h
  split at h
  · exact List.mem_singleton.1 h
  · cases h

theorem part_of_values {fault : Fault} (found : fault ∈ s.addressFaults ++ s.limitFaults) :
    fault.part = .values := by
  simp only [addressFaults, limitFaults, List.mem_append] at found
  rcases found with (h | h) | ((((h | h) | h) | h) | h) | h <;> exact mem_faultIf h ▸ rfl

theorem tolerated_of_values {fault : Fault} (found : fault ∈ s.addressFaults ++ s.limitFaults) :
    fault.Tolerated := by
  -- the builder looks at no address, no limit and no cookie name
  have part := part_of_values found
  cases fault <;> first | exact trivial | cases part

theorem tolerated_of_distinct {seen : List String} {filters : List FilterDefinition}
    (distinct : (filters.map FilterDefinition.name).Nodup)
    (unseen : ∀ f ∈ filters, f.name ∉ seen) :
    ∀ fault ∈ filterFaults seen filters, fault.Tolerated := by
  induction filters generalizing seen with
  | nil => nofun
  | cons f rest ih =>
    rw [List.map_cons, List.nodup_cons] at distinct
    rw [List.forall_mem_cons] at unseen
    rw [filterFaults, if_neg unseen.1]
    split
    · rw [List.forall_mem_cons]
      exact ⟨trivial, ih distinct.2 unseen.2⟩
    · refine ih distinct.2 fun f' member => ?_
      rw [List.mem_cons]
      rintro (same | held)
      · exact distinct.1 (same ▸ List.mem_map_of_mem member)
      · exact unseen.2 f' member held

theorem distinct_of_filterFaults {seen : List String} {filters : List FilterDefinition}
    (faultless : filterFaults seen filters = []) :
    (filters.map FilterDefinition.name).Nodup ∧ ∀ f ∈ filters, f.name ∉ seen := by
  induction filters generalizing seen with
  | nil => exact ⟨List.nodup_nil, nofun⟩
  | cons f rest ih =>
    rw [filterFaults] at faultless
    split at faultless
    · cases faultless
    · split at faultless
      · cases faultless
      · next new =>
        obtain ⟨distinct, unseen⟩ := ih faultless
        refine ⟨?_, ?_⟩
        · rw [List.map_cons, List.nodup_cons]
          refine ⟨fun again => ?_, distinct⟩
          obtain ⟨f', member, same⟩ := List.mem_map.1 again
          exact unseen f' member (same ▸ List.mem_cons_self)
        · rw [List.forall_mem_cons]
          exact ⟨new, fun f' member held => unseen f' member (List.mem_cons_of_mem _ held)⟩

theorem tolerated_ruleFault? {names : List String} (index : Nat) {definition : RuleDefinition} :
    (∀ fault ∈ ruleFault? names index definition, fault.Tolerated) ↔
      ∃ rule, definition.build = .ok rule ∧ rule.filter ∈ names := by
  unfold ruleFault?
  split
  · next text failed => simp [failed, Fault.Tolerated]
  · next cause failed => simp [failed, Fault.Tolerated]
  · next rule built =>
    split
    · next defined => simp [built, defined]
    · next undefined => simp [built, undefined, Fault.Tolerated]

theorem tolerated_ruleFaults {names : List String} {index : Nat}
    {definitions : List RuleDefinition} :
    (∀ fault ∈ ruleFaults names index definitions, fault.Tolerated) ↔
      ∀ definition ∈ definitions, ∃ rule, definition.build = .ok rule ∧ rule.filter ∈ names := by
  induction definitions generalizing index with
  | nil => exact ⟨fun _ => nofun, fun _ => nofun⟩
  | cons definition rest ih =>
    rw [ruleFaults, List.forall_mem_append, List.forall_mem_cons, ih,
      ← tolerated_ruleFault? index]
    simp only [Option.mem_toList, Option.mem_def]

theorem built_and_defined_iff {definition : RuleDefinition} :
    (∃ rule, definition.build = .ok rule ∧ rule.filter ∈ s.filterNames) ↔
      definition.Readable ∧ Text.trim definition.filter ∈ s.filters.map FilterDefinition.name := by
  rw [← RuleDefinition.exists_build]
  constructor
  · rintro ⟨rule, built, defined⟩
    rw [RuleDefinition.filter_of_build built] at defined
    exact ⟨⟨rule, built⟩, (List.mem_filter.1 defined).1⟩
  · rintro ⟨⟨rule, built⟩, defined⟩
    -- a rule that can be built is about a name that is not blank, so blank names do not count
    have named := (RuleDefinition.exists_build.1 ⟨rule, built⟩).filter
    refine ⟨rule, built, ?_⟩
    rw [RuleDefinition.filter_of_build built]
    exact List.mem_filter.2 ⟨defined, by simpa [Text.trim_trim] using named⟩

theorem tolerated_servletFaults {servlets : List ServletDefinition} :
    (∀ fault ∈ servlets.flatMap servletFaults, fault.Tolerated) ↔
      ∀ servlet ∈ servlets, ∀ text ∈ servlet.urlPatterns, isBadMount text = false := by
  simp only [List.forall_mem_flatMap, servletFaults, List.forall_mem_map, List.mem_filter]
  refine forall₂_congr fun servlet _ => forall_congr' fun text => ?_
  simp [Fault.Tolerated]

/-- The builder accepts settings whose filters can be set up, under distinct names, if the audit
finds no fault with them that the builder looks at. -/
theorem exists_ofSettings_iff_tolerated :
    (∃ p, Pipeline.ofSettings s = .ok p) ↔
      (∃ filters, Pipeline.initFilters s.filters = .ok filters) ∧
        (s.filters.map FilterDefinition.name).Nodup ∧ ∀ fault ∈ s.faults, fault.Tolerated := by
  rw [Pipeline.exists_ofSettings, Pipeline.exists_mountServlets, faults]
  simp only [List.forall_mem_append, tolerated_ruleFaults, tolerated_servletFaults,
    built_and_defined_iff]
  constructor
  · rintro ⟨set, distinct, readable, defined, mounted⟩
    refine ⟨set, distinct, ⟨⟨?_, ?_⟩, ?_⟩, mounted⟩
    · exact List.forall_mem_append.1 fun fault member => tolerated_of_values member
    · exact tolerated_of_distinct distinct nofun
    · exact fun definition member => ⟨readable definition member, defined definition member⟩
  · rintro ⟨set, distinct, ⟨-, rules⟩, mounted⟩
    exact ⟨set, distinct, fun definition member => (rules definition member).1,
      fun definition member => (rules definition member).2, mounted⟩

theorem ofSettings_of_initFilters {cause : PipelineError}
    (failed : Pipeline.initFilters s.filters = .error cause) :
    ∃ reason, Pipeline.ofSettings s = .error (.filterInit reason) := by
  obtain ⟨reason, rfl⟩ := Pipeline.initFilters_eq_error failed
  refine ⟨reason, ?_⟩
  rw [Pipeline.ofSettings, failed]
  rfl

/-- **The audit and the builder agree.** The builder accepts settings without a fault, up to the
init parameters of filters; and in settings that it accepts there is no fault that it looks at. -/
theorem faults_agree (s : Settings) :
    (s.faults = [] →
      (∃ p, Pipeline.ofSettings s = .ok p) ∨
        ∃ cause, Pipeline.ofSettings s = .error (.filterInit cause)) ∧
      ∀ p, Pipeline.ofSettings s = .ok p → ∀ fault ∈ s.faults, fault.Tolerated := by
  constructor
  · intro faultless
    cases set : Pipeline.initFilters s.filters with
    | error cause => exact .inr (ofSettings_of_initFilters set)
    | ok filters =>
      have filters_faultless : filterFaults [] s.filters = [] := by
        simp only [faults, List.append_eq_nil_iff] at faultless
        exact faultless.1.1.2
      refine .inl (exists_ofSettings_iff_tolerated.2 ⟨⟨filters, set⟩, ?_, ?_⟩)
      · exact (distinct_of_filterFaults filters_faultless).1
      · rw [faultless]
        nofun
  · intro p built
    exact (exists_ofSettings_iff_tolerated.1 ⟨p, built⟩).2.2

/-- A guard with an empty window is no fault to the audit, and cannot be set up. A blank filter name
and a limit of zero are faults to the audit, and do not keep the pipeline from being built. -/
theorem faults_agree_guard :
    let guard (size : String) : FilterDefinition :=
      ⟨"guard", .csrfPrevention, none, .ofList [("nonce_cache_size", size)]⟩
    let rule : RuleDefinition := ⟨" guard ", ["/*"], [], ["Request"]⟩
    let windowless : Settings := { filters := [guard "0"], rules := [rule] }
    let careless : Settings :=
      { limits := { maxParameters := 0 }
        filters := [⟨" ", .failedRequest, none, .empty⟩, guard "5"]
        rules := [rule] }
    (windowless.faults = [] ∧
      ∃ cause, Pipeline.ofSettings windowless = .error (.filterInit cause)) ∧
    (∃ p, Pipeline.ofSettings careless = .ok p) ∧
      careless.faults = [.zero "limits.max_parameters", .emptyFilterName] ∧
      ∀ fault ∈ careless.faults, fault.Tolerated := by
  intro guard rule windowless careless
  have faultless : windowless.faults = [] := by decide +kernel
  have faults : careless.faults = [.zero "limits.max_parameters", .emptyFilterName] := by
    decide +kernel
  have accepted : (Pipeline.ofSettings careless).isOk = true := by decide +kernel
  obtain ⟨p, built⟩ : ∃ p, Pipeline.ofSettings careless = .ok p := by
    cases built : Pipeline.ofSettings careless with
    | error cause => exact nomatch built ▸ accepted
    | ok p => exact ⟨p, rfl⟩
  have fails : ¬ ∃ p, Pipeline.ofSettings windowless = .ok p := by
    rintro ⟨p, built⟩
    cases built
  refine ⟨⟨faultless, ?_⟩, ⟨p, built⟩, faults, (faults_agree careless).2 p built⟩
  exact ((faults_agree windowless).1 faultless).resolve_left fails

end Settings

end Gatehouse
