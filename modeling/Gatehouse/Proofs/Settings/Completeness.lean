import Gatehouse.Proofs.Settings.Agreement

/-!
# Every fault once

The audit goes through settings part by part, and the faults of each part are of its own kinds
(`Fault.part`), so they can be counted part by part. A rule has one fault if no rule can be built
from it or its filter is not defined, and else none. A name has one for each filter that bears it
but the first, a blank name one for each filter, and a text that no servlet can be mounted on one
for each time it is written. An item that is added hides no fault of another item
(`Settings.faults_once`).
-/

namespace Gatehouse

namespace Fault

/-- The index of the rule that a fault is about. -/
def index? : Fault → Option Nat
  | .undefinedFilter index _ | .rule index _ | .dispatcher index _ => some index
  | _ => none

/-- The fault, once the rule that it is about has moved to another place. -/
def renumber (place : Nat → Nat) : Fault → Fault
  | .undefinedFilter index filter => .undefinedFilter (place index) filter
  | .rule index cause => .rule (place index) cause
  | .dispatcher index text => .dispatcher (place index) text
  | fault => fault

variable {fault : Fault}

theorem part_of_index? {index : Nat} (about : fault.index? = some index) : fault.part = .rules := by
  cases fault <;> first | rfl | cases about

theorem renumber_id (fault : Fault) : fault.renumber id = fault := by
  cases fault <;> rfl

theorem renumber_of_part (elsewhere : fault.part ≠ .rules) (place : Nat → Nat) :
    fault.renumber place = fault := by
  cases fault <;> first | rfl | exact absurd rfl elsewhere

end Fault

namespace Settings

variable {s s' : Settings} {names : List String} {seen : List String} {start : Nat}
  {filters : List FilterDefinition} {definitions : List RuleDefinition} {fault : Fault}

/-! ## Rules -/

theorem index?_of_ruleFault? {index : Nat} {definition : RuleDefinition}
    (found : ruleFault? names index definition = some fault) : fault.index? = some index := by
  unfold ruleFault? at found
  split at found
  · obtain rfl := Option.some.inj found
    rfl
  · obtain rfl := Option.some.inj found
    rfl
  · split at found
    · cases found
    · obtain rfl := Option.some.inj found
      rfl

theorem index?_of_ruleFaults (found : fault ∈ ruleFaults names start definitions) :
    ∃ index, fault.index? = some (start + index) := by
  induction definitions generalizing start with
  | nil => cases found
  | cons definition rest ih =>
    rw [ruleFaults, List.mem_append, Option.mem_toList] at found
    rcases found with first | later
    · exact ⟨0, index?_of_ruleFault? first⟩
    · obtain ⟨index, about⟩ := ih later
      exact ⟨1 + index, by rw [about, Nat.add_assoc]⟩

theorem filter_ruleFaults (names : List String) (start : Nat) (definitions : List RuleDefinition)
    (index : Nat) :
    (ruleFaults names start definitions).filter (·.index? = some (start + index)) =
      (definitions[index]?.bind (ruleFault? names (start + index))).toList := by
  induction definitions generalizing start index with
  | nil => rfl
  | cons definition rest ih =>
    rw [ruleFaults, List.filter_append]
    cases index with
    | zero =>
      have own : ∀ fault ∈ (ruleFault? names start definition).toList,
          decide (fault.index? = some (start + 0)) = true := by
        intro fault found
        rw [Option.mem_toList] at found
        simp [index?_of_ruleFault? found]
      have others : ∀ fault ∈ ruleFaults names (start + 1) rest,
          ¬ decide (fault.index? = some (start + 0)) = true := by
        intro fault found
        obtain ⟨index, about⟩ := index?_of_ruleFaults found
        rw [about, decide_eq_true_eq, Option.some.injEq]
        omega
      rw [List.filter_eq_self.2 own, List.filter_eq_nil_iff.2 others, List.append_nil]
      rfl
    | succ index =>
      have first : ∀ fault ∈ (ruleFault? names start definition).toList,
          ¬ decide (fault.index? = some (start + (index + 1))) = true := by
        intro fault found
        rw [Option.mem_toList] at found
        rw [index?_of_ruleFault? found, decide_eq_true_eq, Option.some.injEq]
        omega
      have moved : start + (index + 1) = start + 1 + index := by omega
      rw [List.filter_eq_nil_iff.2 first, List.nil_append, moved, ih]
      rfl

theorem ruleFaults_append (before after : List RuleDefinition) :
    ruleFaults names start (before ++ after) =
      ruleFaults names start before ++ ruleFaults names (start + before.length) after := by
  induction before generalizing start with
  | nil => rfl
  | cons definition rest ih =>
    have moved : start + 1 + rest.length = start + (rest.length + 1) := by omega
    rw [List.cons_append, ruleFaults, ruleFaults, ih, List.append_assoc, List.length_cons, moved]

theorem map_ruleFault? (place : Nat → Nat) (index : Nat) (definition : RuleDefinition) :
    (ruleFault? names index definition).map (Fault.renumber place) =
      ruleFault? names (place index) definition := by
  unfold ruleFault?
  split
  · rfl
  · rfl
  · split <;> rfl

theorem map_ruleFaults {place : Nat → Nat} {start' : Nat}
    (moved : ∀ index < definitions.length, place (start + index) = start' + index) :
    (ruleFaults names start definitions).map (Fault.renumber place) =
      ruleFaults names start' definitions := by
  induction definitions generalizing start start' with
  | nil => rfl
  | cons definition rest ih =>
    have first : place start = start' := moved 0 (Nat.succ_pos _)
    have others : ∀ index < rest.length, place (start + 1 + index) = start' + 1 + index := by
      intro index within
      have next := moved (index + 1) (Nat.succ_lt_succ within)
      rw [Nat.add_assoc, Nat.add_assoc, Nat.add_comm 1 index]
      exact next
    rw [ruleFaults, List.map_append, ← Option.toList_map, map_ruleFault?, first, ih others]
    rfl

theorem ruleFaults_congr {names' : List String} (same : ∀ name, name ∈ names ↔ name ∈ names') :
    ruleFaults names start definitions = ruleFaults names' start definitions := by
  induction definitions generalizing start with
  | nil => rfl
  | cons definition rest ih =>
    rw [ruleFaults, ruleFaults, ih]
    unfold ruleFault?
    simp only [same]

/-! ## Filters -/

theorem part_of_filterFaults (found : fault ∈ filterFaults seen filters) :
    fault.part = .filters := by
  induction filters generalizing seen with
  | nil => cases found
  | cons f rest ih =>
    rw [filterFaults] at found
    split at found
    · rcases List.mem_cons.1 found with rfl | later
      · rfl
      · exact ih later
    · split at found
      · rcases List.mem_cons.1 found with rfl | later
        · rfl
        · exact ih later
      · exact ih found

theorem count_duplicateFilter (seen : List String) (filters : List FilterDefinition)
    {name : String} (named : Text.trim name ≠ "") :
    (filterFaults seen filters).count (.duplicateFilter name) =
      filters.countP (·.name = name) - if name ∈ seen then 0 else 1 := by
  induction filters generalizing seen with
  | nil => simp [filterFaults]
  | cons f rest ih =>
    rw [filterFaults]
    by_cases same : f.name = name
    · subst same
      rw [if_neg named, List.countP_cons_of_pos (by simp)]
      by_cases held : f.name ∈ seen
      · rw [if_pos held, if_pos held, List.count_cons_self, ih, if_pos held]
        rfl
      · -- the name is new here, which is no fault, and has been seen from here on
        rw [if_neg held, if_neg held, ih, if_pos List.mem_cons_self]
        rfl
    · rw [List.countP_cons_of_neg (by simpa using same)]
      split
      · have other : Fault.emptyFilterName ≠ .duplicateFilter name := by simp
        rw [List.count_cons_of_ne other, ih]
      · split
        · have other : Fault.duplicateFilter f.name ≠ .duplicateFilter name := by simpa using same
          rw [List.count_cons_of_ne other, ih]
        · have unseen : name ∈ f.name :: seen ↔ name ∈ seen := by simp [Ne.symm same]
          rw [ih]
          simp only [unseen]

theorem count_emptyFilterName (seen : List String) (filters : List FilterDefinition) :
    (filterFaults seen filters).count .emptyFilterName =
      filters.countP fun f => Text.trim f.name = "" := by
  induction filters generalizing seen with
  | nil => rfl
  | cons f rest ih =>
    rw [filterFaults]
    split
    · next blank =>
      rw [List.count_cons_self, ih, List.countP_cons_of_pos (by simpa using blank)]
    · next named =>
      rw [List.countP_cons_of_neg (by simpa using named)]
      split
      · have other : Fault.duplicateFilter f.name ≠ .emptyFilterName := by simp
        rw [List.count_cons_of_ne other, ih]
      · rw [ih]

theorem filterFaults_sublist {seen' : List String} (more : seen ⊆ seen')
    (filters : List FilterDefinition) :
    (filterFaults seen filters).Sublist (filterFaults seen' filters) := by
  induction filters generalizing seen seen' with
  | nil => exact .slnil
  | cons f rest ih =>
    rw [filterFaults, filterFaults]
    by_cases blank : Text.trim f.name = ""
    · rw [if_pos blank, if_pos blank]
      exact (ih more).cons_cons _
    · rw [if_neg blank, if_neg blank]
      by_cases held : f.name ∈ seen
      · rw [if_pos held, if_pos (more held)]
        exact (ih more).cons_cons _
      · rw [if_neg held]
        split
        · -- the filter is at fault only for the names that were seen besides
          next held' => exact (ih (List.cons_subset.2 ⟨held', more⟩)).cons _
        · exact ih (List.cons_subset_cons _ more)

theorem filterFaults_insert (seen : List String) (before : List FilterDefinition)
    (f : FilterDefinition) (after : List FilterDefinition) :
    (filterFaults seen (before ++ after)).Sublist (filterFaults seen (before ++ f :: after)) := by
  induction before generalizing seen with
  | nil =>
    rw [List.nil_append, List.nil_append, filterFaults]
    split
    · exact List.sublist_cons_self ..
    · split
      · exact List.sublist_cons_self ..
      · exact filterFaults_sublist (List.subset_cons_self ..) after
  | cons first rest ih =>
    rw [List.cons_append, List.cons_append, filterFaults, filterFaults]
    split
    · exact (ih seen).cons_cons _
    · split
      · exact (ih seen).cons_cons _
      · exact ih _

/-! ## Servlets -/

theorem count_servletFaults (servlet : ServletDefinition) (name text : String) :
    (servletFaults servlet).count (.servletPattern name text) =
      if servlet.name = name ∧ ¬ Directory.Mountable text then servlet.urlPatterns.count text
      else 0 := by
  rw [servletFaults]
  by_cases own : servlet.name = name
  · subst own
    have apart : Function.Injective (Fault.servletPattern servlet.name) := by
      intro text text' same
      simpa using same
    rw [List.count_map_of_injective _ _ apart]
    by_cases mountable : Directory.Mountable text
    · have unlisted : text ∉ servlet.urlPatterns.filter isBadMount := by
        simp [isBadMount_eq_false.2 mountable]
      rw [List.count_eq_zero.2 unlisted, if_neg (by simp [mountable])]
    · have bad : isBadMount text = true := by
        rwa [← Bool.not_eq_false, isBadMount_eq_false]
      rw [List.count_filter bad, if_pos ⟨rfl, mountable⟩]
  · have unlisted : .servletPattern name text ∉
        (servlet.urlPatterns.filter isBadMount).map (Fault.servletPattern servlet.name) := by
      simp [own]
    rw [List.count_eq_zero.2 unlisted, if_neg (by simp [own])]

theorem count_servletPattern (servlets : List ServletDefinition) (name text : String) :
    (servlets.flatMap servletFaults).count (.servletPattern name text) =
      if Directory.Mountable text then 0
      else ((servlets.filter (·.name = name)).flatMap (·.urlPatterns)).count text := by
  induction servlets with
  | nil => simp
  | cons servlet rest ih =>
    rw [List.flatMap_cons, List.count_append, ih, count_servletFaults, List.filter_cons]
    by_cases mountable : Directory.Mountable text
    · simp [mountable]
    · by_cases own : servlet.name = name <;> simp [mountable, own]

theorem part_of_servletFaults {servlets : List ServletDefinition}
    (found : fault ∈ servlets.flatMap servletFaults) : fault.part = .servlets := by
  obtain ⟨servlet, -, found⟩ := List.mem_flatMap.1 found
  obtain ⟨text, -, rfl⟩ := List.mem_map.1 found
  rfl

theorem servletFaults_sublist {name : String} {texts texts' : List String}
    (more : texts.Sublist texts') :
    (servletFaults ⟨name, texts⟩).Sublist (servletFaults ⟨name, texts'⟩) :=
  (more.filter _).map _

/-! ## All parts together -/

/-- The faults that are found in a part of settings. -/
def faultsOf (s : Settings) : Fault.Part → List Fault
  | .values => s.addressFaults ++ s.limitFaults
  | .filters => filterFaults [] s.filters
  | .rules => ruleFaults s.filterNames 0 s.rules
  | .servlets => s.servlets.flatMap servletFaults

theorem faults_eq (s : Settings) :
    s.faults = s.faultsOf .values ++ s.faultsOf .filters ++ s.faultsOf .rules ++
      s.faultsOf .servlets :=
  rfl

theorem part_of_faultsOf {part : Fault.Part} (found : fault ∈ s.faultsOf part) :
    fault.part = part := by
  cases part with
  | values => exact part_of_values found
  | filters => exact part_of_filterFaults found
  | rules =>
    obtain ⟨index, about⟩ := index?_of_ruleFaults found
    exact Fault.part_of_index? about
  | servlets => exact part_of_servletFaults found

theorem filter_part (s : Settings) (part : Fault.Part) :
    s.faults.filter (·.part = part) = s.faultsOf part := by
  have kept : ∀ other, (s.faultsOf other).filter (·.part = part) =
      if other = part then s.faultsOf part else [] := by
    intro other
    split
    · next same =>
      subst same
      exact List.filter_eq_self.2 fun fault found => by simp [part_of_faultsOf found]
    · next differs =>
      exact List.filter_eq_nil_iff.2 fun fault found => by simp [part_of_faultsOf found, differs]
  rw [faults_eq]
  simp only [List.filter_append, kept]
  cases part <;> simp

theorem filter_faults {test : Fault → Bool} {part : Fault.Part}
    (only : ∀ fault, test fault = true → fault.part = part) :
    s.faults.filter test = (s.faultsOf part).filter test := by
  rw [← filter_part, List.filter_filter]
  refine List.filter_congr fun fault _ => ?_
  cases tested : test fault with
  | false => rfl
  | true => simp [only fault tested]

theorem count_faults (s : Settings) (fault : Fault) :
    s.faults.count fault = (s.faultsOf fault.part).count fault := by
  rw [List.count_eq_length_filter, List.count_eq_length_filter, filter_faults]
  rintro fault' same
  rw [beq_iff_eq.1 same]

/-- The faults about a rule are those that it has by itself, among the names that are defined. -/
theorem filter_index? (s : Settings) (index : Nat) :
    s.faults.filter (·.index? = some index) =
      (s.rules[index]?.bind (ruleFault? s.filterNames index)).toList := by
  have own := filter_ruleFaults s.filterNames 0 s.rules index
  rw [Nat.zero_add] at own
  rw [← own]
  exact filter_faults fun fault about => Fault.part_of_index? (of_decide_eq_true about)

/-! ## What a rule refers to -/

/-- There is a filter of the name, and the name is not blank. -/
def Defines (s : Settings) (name : String) : Prop :=
  ∃ f ∈ s.filters, Text.trim f.name ≠ "" ∧ f.name = name

instance (s : Settings) (name : String) : Decidable (s.Defines name) :=
  inferInstanceAs (Decidable (∃ f ∈ s.filters, _))

/-- A rule can be built from the definition, and the filter that it names is defined. -/
def Sound (s : Settings) (definition : RuleDefinition) : Prop :=
  (∃ rule, definition.build = .ok rule) ∧ s.Defines (Text.trim definition.filter)

instance (s : Settings) (definition : RuleDefinition) : Decidable (s.Sound definition) :=
  match built : definition.build with
  | .ok rule => decidable_of_iff (s.Defines (Text.trim definition.filter)) (by simp [Sound, built])
  | .error _ => .isFalse (by simp [Sound, built])

theorem mem_filterNames {name : String} : name ∈ s.filterNames ↔ s.Defines name := by
  simp only [filterNames, Defines, List.mem_filter, List.mem_map, decide_eq_true_eq]
  constructor
  · rintro ⟨⟨f, member, rfl⟩, named⟩
    exact ⟨f, member, named, rfl⟩
  · rintro ⟨f, member, named, rfl⟩
    exact ⟨⟨f, member, rfl⟩, named⟩

theorem ruleFault?_eq_none (index : Nat) {definition : RuleDefinition} :
    ruleFault? s.filterNames index definition = none ↔ s.Sound definition := by
  unfold ruleFault? Sound
  split
  · next text unbuilt => simp [unbuilt]
  · next cause unbuilt => simp [unbuilt]
  · next rule built =>
    have named := RuleDefinition.filter_of_build built
    simp [built, mem_filterNames, named]

theorem countP_index? (s : Settings) (index : Nat) :
    s.faults.countP (·.index? = some index) =
      if ∃ definition ∈ s.rules[index]?, ¬ s.Sound definition then 1 else 0 := by
  rw [List.countP_eq_length_filter, filter_index?]
  cases s.rules[index]? with
  | none => simp
  | some definition =>
    cases found : ruleFault? s.filterNames index definition with
    | none => simp [found, (ruleFault?_eq_none index).1 found]
    | some fault =>
      have unsound : ¬ s.Sound definition := by
        rw [← ruleFault?_eq_none index, found]
        nofun
      simp [found, unsound]

/-! ## One item more -/

/-- `s'` is `s` with one item more, and `place` is where each rule of `s` stands in `s'`. A filter
that is added is faulty: its name is blank, or defined already. -/
inductive Gains (s : Settings) : (Nat → Nat) → Settings → Prop where
  | filter {before after : List FilterDefinition} {f : FilterDefinition} :
    s.filters = before ++ after →
      (Text.trim f.name = "" ∨ f.name ∈ s.filters.map FilterDefinition.name) →
      Gains s id { s with filters := before ++ f :: after }
  | rule {before after : List RuleDefinition} {definition : RuleDefinition} :
    s.rules = before ++ after →
      Gains s (fun index => if index < before.length then index else index + 1)
        { s with rules := before ++ definition :: after }
  | servlet {before after : List ServletDefinition} {servlet : ServletDefinition} :
    s.servlets = before ++ after → Gains s id { s with servlets := before ++ servlet :: after }
  | pattern {before after : List ServletDefinition} {name : String} {front back : List String}
    {text : String} :
    s.servlets = before ++ ⟨name, front ++ back⟩ :: after →
      Gains s id { s with servlets := before ++ ⟨name, front ++ text :: back⟩ :: after }

theorem map_renumber_id (faults : List Fault) : faults.map (Fault.renumber id) = faults :=
  (List.map_congr_left fun fault _ => fault.renumber_id).trans (List.map_id _)

theorem map_renumber_faultsOf {part : Fault.Part} (elsewhere : part ≠ .rules) (place : Nat → Nat) :
    (s.faultsOf part).map (Fault.renumber place) = s.faultsOf part := by
  refine (List.map_congr_left fun fault found => ?_).trans (List.map_id _)
  exact Fault.renumber_of_part (part_of_faultsOf found ▸ elsewhere) place

theorem sublist_of_parts {place : Nat → Nat}
    (kept : ∀ part, ((s.faultsOf part).map (Fault.renumber place)).Sublist (s'.faultsOf part)) :
    (s.faults.map (Fault.renumber place)).Sublist s'.faults := by
  rw [faults_eq, faults_eq, List.map_append, List.map_append, List.map_append]
  exact (((kept _).append (kept _)).append (kept _)).append (kept _)

theorem mem_filterNames_insert {before after : List FilterDefinition} {f : FilterDefinition}
    (split : s.filters = before ++ after)
    (faulty : Text.trim f.name = "" ∨ f.name ∈ s.filters.map FilterDefinition.name)
    (name : String) :
    name ∈ s.filterNames ↔ name ∈ { s with filters := before ++ f :: after }.filterNames := by
  rw [mem_filterNames, mem_filterNames]
  constructor
  · rintro ⟨g, member, named⟩
    rw [split, List.mem_append] at member
    exact ⟨g, List.mem_append.2 (member.imp_right (List.mem_cons_of_mem f)), named⟩
  · rintro ⟨g, member, named, rfl⟩
    rcases List.mem_append.1 member with front | back
    · exact ⟨g, split ▸ List.mem_append_left _ front, named, rfl⟩
    · rcases List.mem_cons.1 back with rfl | back
      · -- the name of a faulty filter is blank, or is defined without it
        obtain ⟨other, defined, same⟩ := List.mem_map.1 (faulty.resolve_left named)
        exact ⟨other, defined, same ▸ named, same⟩
      · exact ⟨g, split ▸ List.mem_append_right _ back, named, rfl⟩

theorem Gains.sublist {place : Nat → Nat} (gains : s.Gains place s') :
    (s.faults.map (Fault.renumber place)).Sublist s'.faults := by
  refine sublist_of_parts fun part => ?_
  cases gains with
  | @filter before after f split faulty =>
    rw [map_renumber_id]
    cases part with
    | filters =>
      show (filterFaults [] s.filters).Sublist (filterFaults [] (before ++ f :: after))
      rw [split]
      exact filterFaults_insert [] before f after
    | rules =>
      -- the rules refer to the same names as before
      show (ruleFaults s.filterNames 0 s.rules).Sublist (ruleFaults _ 0 s.rules)
      rw [ruleFaults_congr (mem_filterNames_insert split faulty)]
    | values | servlets => exact .refl _
  | @rule before after definition split =>
    cases part with
    | rules =>
      show ((ruleFaults s.filterNames 0 s.rules).map _).Sublist
        (ruleFaults s.filterNames 0 (before ++ definition :: after))
      rw [split, ruleFaults_append, ruleFaults_append, List.map_append, ruleFaults]
      refine .append ?_ ?_
      · rw [map_ruleFaults fun index within => ?_]
        simp [within]
      · rw [map_ruleFaults fun index within => ?_]
        · exact List.sublist_append_right ..
        · rw [if_neg (by omega)]
          omega
    | values | filters | servlets =>
      rw [map_renumber_faultsOf (by decide)]
      exact .refl _
  | @servlet before after servlet split =>
    rw [map_renumber_id]
    cases part with
    | servlets =>
      show (s.servlets.flatMap servletFaults).Sublist
        ((before ++ servlet :: after).flatMap servletFaults)
      rw [split, List.flatMap_append, List.flatMap_append, List.flatMap_cons]
      exact (List.Sublist.refl _).append (List.sublist_append_right ..)
    | values | filters | rules => exact .refl _
  | @pattern before after name front back text split =>
    rw [map_renumber_id]
    cases part with
    | servlets =>
      show (s.servlets.flatMap servletFaults).Sublist
        ((before ++ ⟨name, front ++ text :: back⟩ :: after).flatMap servletFaults)
      rw [split, List.flatMap_append, List.flatMap_append, List.flatMap_cons, List.flatMap_cons]
      have more : (front ++ back).Sublist (front ++ text :: back) :=
        (List.Sublist.refl _).append (List.sublist_cons_self ..)
      exact (List.Sublist.refl _).append ((servletFaults_sublist more).append (.refl _))
    | values | filters | rules => exact .refl _

/-- **Every fault is reported once.** A rule has one fault if none can be built from its definition
or the filter that it names is not defined, and else none. A name that is not blank has one for each
filter that bears it but the first; a filter whose name is blank has one, and so has each text of a
servlet that none can be mounted on. The faults are all there still when an item is added, those of
rules under the new places of the rules. -/
theorem faults_once (s : Settings) :
    (∀ index, s.faults.countP (·.index? = some index) =
        if ∃ definition ∈ s.rules[index]?, ¬ s.Sound definition then 1 else 0) ∧
      (∀ name, Text.trim name ≠ "" →
        s.faults.count (.duplicateFilter name) = s.filters.countP (·.name = name) - 1) ∧
      s.faults.count .emptyFilterName = s.filters.countP (fun f => Text.trim f.name = "") ∧
      (∀ name text, s.faults.count (.servletPattern name text) =
        if Directory.Mountable text then 0
        else ((s.servlets.filter (·.name = name)).flatMap (·.urlPatterns)).count text) ∧
      ∀ place s', s.Gains place s' → (s.faults.map (Fault.renumber place)).Sublist s'.faults := by
  refine ⟨s.countP_index?, fun name named => ?_, ?_, fun name text => ?_, fun place s' => Gains.sublist⟩
  · rw [count_faults]
    exact count_duplicateFilter [] s.filters named
  · rw [count_faults]
    exact count_emptyFilterName [] s.filters
  · rw [count_faults]
    exact count_servletPattern s.servlets name text

/-- Settings with a fault of each kind, some of them twice. A rule without a target is put in the
second place, and the rules behind it keep their faults. -/
theorem faults_once_mixed :
    let filters : List FilterDefinition :=
      ["guard", "guard", " ", "guard"].map fun name => ⟨name, .csrfPrevention, none, .empty⟩
    let rule (filter : String) (urlPatterns dispatchers : List String) : RuleDefinition :=
      ⟨filter, urlPatterns, [], dispatchers⟩
    let first := rule "ghost" ["/*"] []
    let others := [rule "guard" ["bad"] [], rule " guard " ["/*"] [], rule "guard" ["/*"] ["async"]]
    let s : Settings :=
      { filters, rules := [first] ++ others, servlets := [⟨"files", ["/", "bad", "/f", "bad"]⟩] }
    let s' : Settings := { s with rules := [first] ++ rule "guard" [] [] :: others }
    let place (index : Nat) := if index < 1 then index else index + 1
    [0, 1, 2, 3, 4].map (fun index => s.faults.countP (·.index? = some index)) = [1, 1, 0, 1, 0] ∧
      s.faults.count (.duplicateFilter "guard") = 2 ∧ s.faults.count .emptyFilterName = 1 ∧
      s.faults.count (.servletPattern "files" "bad") = 2 ∧ s.Gains place s' ∧
      (s.faults.map (Fault.renumber place)).Sublist s'.faults := by
  intro filters rule first others s s' place
  have gains : s.Gains place s' := @Gains.rule s [first] others (rule "guard" [] []) rfl
  obtain ⟨rules, duplicates, blanks, mounts, kept⟩ := faults_once s
  refine ⟨?_, (duplicates "guard" (by decide)).trans ?_, blanks.trans ?_, (mounts "files" "bad").trans ?_,
    gains, kept place s' gains⟩
  · simp only [rules]
    decide +kernel
  · decide +kernel
  · decide +kernel
  · decide +kernel

end Settings

end Gatehouse
