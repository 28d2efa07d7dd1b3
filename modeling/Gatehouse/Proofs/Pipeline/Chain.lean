import Gatehouse.Filter.Scripted
import Gatehouse.Proofs.Guard.Pass
import Gatehouse.Proofs.Pipeline.Build

/-!
# The chain of calls

A run through a pipeline calls filters one after another, each with the passage that the one before
it left. The calls go by the names that are resolved for the request, up to the first filter that
rejects it (`run_chain`). This holds of filters of any kind.
-/

namespace Gatehouse

/-- A call of a filter: the name it goes by, the filter, and the passage that it is shown. -/
structure FilterCall (φ : Type) where
  name : String
  filter : φ
  shown : Passage

namespace FilterCall

variable {φ : Type} [Filter φ]

def verdict (call : FilterCall φ) : Verdict := (Filter.pass call.filter call.shown).1

/-- The passage that the filter leaves. -/
def left (call : FilterCall φ) : Passage := (Filter.pass call.filter call.shown).2

/-- The filter adds some decorations to the links, behind those that were there. -/
def Installs (call : FilterCall φ) (added : List Decoration) : Prop :=
  call.left.links.decorations = call.shown.links.decorations ++ added

theorem installs_script (call : FilterCall Script) :
    call.Installs call.filter.decoration?.toList := by
  show (Script.pass call.filter call.shown).2.links.decorations = _
  rw [Script.pass]
  cases call.filter.decoration? with
  | none => simp
  | some decoration => simp [Links.wrap]

/-- What a filter that settings can define installs: the stamp of a guard that lets the request
proceed. -/
def installed (call : FilterCall BuiltinFilter) : List Decoration :=
  match call.filter, call.verdict with
  | .guard g, .proceed => [.stamp g.options.parameter call.shown.token]
  | _, _ => []

theorem installs_builtin (call : FilterCall BuiltinFilter) : call.Installs call.installed := by
  obtain ⟨name, filter, shown⟩ := call
  cases filter with
  | screen s => exact (List.append_nil _).symm
  | guard g =>
    have verdict : (FilterCall.mk name (.guard g) shown : FilterCall BuiltinFilter).verdict =
      (g.pass shown).1 := rfl
    show (g.pass shown).2.links.decorations = shown.links.decorations ++ _
    rw [installed, verdict, Guard.pass_eq]
    cases g.reading shown.request shown.site.live? with
    | rejected refusal => exact (List.append_nil _).symm
    | entry | accepted => rfl

end FilterCall

namespace Pipeline

variable {φ : Type}

/-- The passage of a request that has learned its servlet. -/
def informed (pipeline : Pipeline φ) (p : Passage) : Passage :=
  { p with request := { p.request with servlet := pipeline.servletOf p.request } }

theorem filter_of_stagesFor {filters : List (String × φ)} {rules : List Rule}
    {servlets : List ServletDefinition} {pipeline : Pipeline φ}
    (built : assemble filters rules servlets = .ok pipeline) (r : Request) :
    ∀ stage ∈ pipeline.stagesFor r, pipeline.filters.get? stage.rule.filter = some stage.filter :=
  fun stage applies => filter_of_assemble built stage (mem_of_stagesFor applies)

variable [Filter φ]

/-! ## Calls in a row -/

/-- Every call is shown the passage that the one before it left, and is counted. -/
def Threaded : Passage → List (FilterCall φ) → Prop
  | _, [] => True
  | p, call :: rest =>
    call.shown = { p with site := p.site.count (·.invoke call.name) } ∧ Threaded call.left rest

/-- The passage that the last of some calls leaves. -/
def leftBy : Passage → List (FilterCall φ) → Passage
  | p, [] => p
  | _, call :: rest => leftBy call.left rest

/-- What the calls of a run are, and what the run makes of them. -/
structure Chain (names : List String) (p : Passage) (calls : List (FilterCall φ)) (run : Run) :
    Prop where
  visited : run.visited = calls.map FilterCall.name
  among : calls.map FilterCall.name <+: names
  threaded : Threaded p calls
  proceeds : run.outcome = .proceed ↔
    calls.map FilterCall.name = names ∧ ∀ call ∈ calls, call.verdict = .proceed
  halts : ∀ name status reason, run.outcome = .halted name status reason ↔
    ∃ earlier last, calls = earlier ++ [last] ∧ (∀ call ∈ earlier, call.verdict = .proceed) ∧
      last.name = name ∧ last.verdict = .reject status reason
  /-- After the last call nothing changes but the tally. -/
  left : ∃ change, run.passage =
    { leftBy p calls with site := (leftBy p calls).site.count change }

variable {names : List String} {p : Passage} {calls : List (FilterCall φ)} {run : Run}
  {call : FilterCall φ}

theorem chain_nil (p : Passage) : Chain [] p ([] : List (FilterCall φ)) ⟨.proceed, [], p⟩ := by
  refine ⟨rfl, List.prefix_rfl, trivial, by simp, fun name status reason => ?_, id, rfl⟩
  simp

theorem Chain.cons (chain : Chain names call.left calls run)
    (shown : call.shown = { p with site := p.site.count (·.invoke call.name) })
    (proceeds : call.verdict = .proceed) :
    Chain (call.name :: names) p (call :: calls)
      { run with visited := call.name :: run.visited } := by
  refine ⟨?_, ?_, ⟨shown, chain.threaded⟩, ?_, fun name status reason => ?_, chain.left⟩
  · rw [chain.visited, List.map_cons]
  · exact (List.prefix_cons_inj _).2 chain.among
  · simp [chain.proceeds, proceeds]
  · rw [chain.halts]
    constructor
    · rintro ⟨earlier, last, rfl, passed, rest⟩
      refine ⟨call :: earlier, last, rfl, ?_, rest⟩
      exact List.forall_mem_cons.2 ⟨proceeds, passed⟩
    · rintro ⟨earlier, last, same, passed, named, rejects⟩
      rcases List.cons_eq_append_iff.1 same with ⟨-, alone⟩ | ⟨rest, rfl, others⟩
      · -- the call itself would be the last one
        obtain ⟨rfl, -⟩ := List.cons_eq_cons.1 alone
        rw [proceeds] at rejects
        cases rejects
      · exact ⟨rest, last, others, (List.forall_mem_cons.1 passed).2, named, rejects⟩

theorem chain_of_reject (names : List String)
    (shown : call.shown = { p with site := p.site.count (·.invoke call.name) })
    {status : Nat} {reason : String} (rejects : call.verdict = .reject status reason)
    (change : Tally → Tally) :
    Chain (call.name :: names) p [call] ⟨.halted call.name status reason, [call.name],
      { call.left with site := call.left.site.count change }⟩ := by
  refine ⟨rfl, ?_, ⟨shown, trivial⟩, ?_, fun name status' reason' => ?_, change, rfl⟩
  · exact ⟨names, rfl⟩
  · simp [rejects]
  · constructor
    · rintro ⟨rfl, rfl, rfl⟩
      exact ⟨[], call, rfl, by simp, rfl, rejects⟩
    · rintro ⟨earlier, last, same, -, rfl, rejects'⟩
      have same : [] ++ [call] = earlier ++ [last] := same
      obtain rfl : call = last := List.singleton_inj.1 (List.append_inj' same rfl).2
      obtain ⟨rfl, rfl⟩ := Verdict.reject.inj (rejects.symm.trans rejects')
      rfl

/-! ## Runs -/

/-- The call of a filter by a name. -/
def callOf (name : String) (filter : φ) (p : Passage) : FilterCall φ :=
  ⟨name, filter, { p with site := p.site.count (·.invoke name) }⟩

/-- Calls filters by their names, up to the first that rejects. Nothing comes of a name that no
filter is entered under. -/
def runNames (filters : Registry String φ) : List String → Passage → Option Run
  | [], p => some ⟨.proceed, [], p⟩
  | name :: rest, p =>
    match filters.get? name with
    | none => none
    | some filter =>
      let call := callOf name filter p
      match call.verdict with
      | .proceed =>
        (runNames filters rest call.left).map fun run => { run with visited := name :: run.visited }
      | .reject status reason =>
        some ⟨.halted name status reason, [name],
          { call.left with site := call.left.site.count (·.reject name status) }⟩

variable {known : Registry String φ} {stages : List (Stage φ)}

theorem visit_callOf (stage : Stage φ) (p : Passage) :
    visit stage p =
      let call := callOf stage.rule.filter stage.filter p
      match call.verdict with
      | .proceed => (.proceed, call.left)
      | .reject status reason => (.reject status reason,
          { call.left with site := call.left.site.count (·.reject stage.rule.filter status) }) := by
  unfold visit FilterCall.verdict FilterCall.left
  simp only [callOf]
  generalize Filter.pass stage.filter _ = answer
  obtain ⟨verdict, left⟩ := answer
  cases verdict <;> rfl

theorem runNames_stages
    (entered : ∀ stage ∈ stages, known.get? stage.rule.filter = some stage.filter) (p : Passage) :
    runNames known (stages.map fun stage => stage.rule.filter) p = some (runStages stages p) := by
  induction stages generalizing p with
  | nil => rfl
  | cons stage rest ih =>
    obtain ⟨first, others⟩ := List.forall_mem_cons.1 entered
    rw [List.map_cons, runNames, runStages]
    simp only [first, visit_callOf]
    cases (callOf stage.rule.filter stage.filter p).verdict with
    | proceed =>
      simp only [ih others]
      rfl
    | reject status reason => rfl

theorem runNames_chain (done : runNames known names p = some run) :
    ∃ calls : List (FilterCall φ), Chain names p calls run ∧
      ∀ call ∈ calls, known.get? call.name = some call.filter := by
  induction names generalizing p run with
  | nil =>
    obtain rfl := Option.some.inj done
    exact ⟨[], chain_nil p, List.forall_mem_nil _⟩
  | cons name rest ih =>
    rw [runNames] at done
    cases held : known.get? name with
    | none => simp [held] at done
    | some filter =>
      simp only [held] at done
      cases verdict : (callOf name filter p).verdict with
      | proceed =>
        simp only [verdict] at done
        obtain ⟨later, ran, rfl⟩ := Option.map_eq_some_iff.1 done
        obtain ⟨calls, chain, filters⟩ := ih ran
        exact ⟨callOf name filter p :: calls, chain.cons rfl verdict,
          List.forall_mem_cons.2 ⟨held, filters⟩⟩
      | reject status reason =>
        simp only [verdict] at done
        obtain rfl := Option.some.inj done
        exact ⟨[callOf name filter p], chain_of_reject _ rfl verdict _,
          List.forall_mem_singleton.2 held⟩

theorem decorations_leftBy {added : FilterCall φ → List Decoration} (threaded : Threaded p calls)
    (installs : ∀ call ∈ calls, call.Installs (added call)) :
    (leftBy p calls).links.decorations = p.links.decorations ++ calls.flatMap added := by
  induction calls generalizing p with
  | nil => simp [leftBy]
  | cons call rest ih =>
    obtain ⟨shown, threaded⟩ := threaded
    obtain ⟨first, others⟩ := List.forall_mem_cons.1 installs
    have links : call.shown.links = p.links := by rw [shown]
    rw [leftBy, ih threaded others, first, links, List.append_assoc, List.flatMap_cons]

theorem Chain.decorations {added : FilterCall φ → List Decoration} (chain : Chain names p calls run)
    (installs : ∀ call ∈ calls, call.Installs (added call)) :
    run.passage.links.decorations = p.links.decorations ++ calls.flatMap added := by
  obtain ⟨change, left⟩ := chain.left
  rw [left]
  exact decorations_leftBy chain.threaded installs

theorem runNames_resolve {filters : List (String × φ)} {rules : List Rule}
    {servlets : List ServletDefinition} {pipeline : Pipeline φ}
    (built : assemble filters rules servlets = .ok pipeline) (p : Passage) :
    runNames pipeline.filters (pipeline.resolve p.request) (pipeline.informed p) =
      some (pipeline.run p) :=
  map_stagesFor pipeline p.request ▸
    runNames_stages (filter_of_stagesFor built p.request) (pipeline.informed p)

/-- **A run calls the filters that are resolved for the request**, one after another up to the first
that rejects it. Each name is one that a filter is entered under, and that filter is called. What
the calls install on the links, and do not take away, stands there in the order of the calls. -/
theorem run_chain {filters : List (String × φ)} {rules : List Rule}
    {servlets : List ServletDefinition} {pipeline : Pipeline φ}
    (built : assemble filters rules servlets = .ok pipeline) (p : Passage) :
    (∀ name ∈ pipeline.resolve p.request, ∃ filter, pipeline.filters.get? name = some filter) ∧
      runNames pipeline.filters (pipeline.resolve p.request) (pipeline.informed p) =
        some (pipeline.run p) ∧
      ∃ calls : List (FilterCall φ),
        Chain (pipeline.resolve p.request) (pipeline.informed p) calls (pipeline.run p) ∧
          (∀ call ∈ calls, pipeline.filters.get? call.name = some call.filter) ∧
          ∀ added : FilterCall φ → List Decoration, (∀ call ∈ calls, call.Installs (added call)) →
            (pipeline.run p).passage.links.decorations =
              p.links.decorations ++ calls.flatMap added := by
  have done := runNames_resolve built p
  obtain ⟨calls, chain, called⟩ := runNames_chain done
  refine ⟨fun name resolved => ?_, done, calls, chain, called, fun _ => chain.decorations⟩
  rw [← map_stagesFor pipeline p.request] at resolved
  obtain ⟨stage, applies, rfl⟩ := List.mem_map.1 resolved
  exact ⟨stage.filter, filter_of_stagesFor built p.request stage applies⟩

/-- A rule that binds a filter to every path. -/
def always (filter : String) : Rule := ⟨filter, [.tree ""], [], false, false, .ofList []⟩

/-- A filter that comes three times, with one that rejects between its second and its third call. -/
theorem run_chain_rehearsal :
    let suffix : Script := { suffix := some "!" }
    let refusal : Script := { suffix := some "?", rejection := some 403, reason := "no" }
    let rules := [always "a", always "a", always "b", always "a"]
    let pipeline : Pipeline Script := ⟨.ofList [("b", refusal), ("a", suffix)],
      [⟨always "a", suffix⟩, ⟨always "a", suffix⟩, ⟨always "b", refusal⟩, ⟨always "a", suffix⟩],
      .empty⟩
    let p : Passage := ⟨{ path := "/" }, ⟨[.affix "#" "#"]⟩,
      .start (.start .full 10) ⟨fun _ => ⟨"a"⟩, fun _ => .replicate 16 7, 0, 0⟩⟩
    assemble [("b", refusal), ("a", suffix)] rules [] = .ok pipeline ∧
      pipeline.resolve p.request = ["a", "a", "b", "a"] ∧
      (pipeline.run p).outcome = .halted "b" 403 "no" ∧
      ∃ calls : List (FilterCall Script),
        Chain ["a", "a", "b", "a"] (pipeline.informed p) calls (pipeline.run p) ∧
        calls.map FilterCall.name = ["a", "a", "b"] ∧
        (pipeline.run p).passage.links.decorations =
          p.links.decorations ++ calls.flatMap fun call => call.filter.decoration?.toList := by
  intro suffix refusal rules pipeline p
  have built : assemble [("b", refusal), ("a", suffix)] rules [] = .ok pipeline := rfl
  have resolved : pipeline.resolve p.request = ["a", "a", "b", "a"] := by decide
  have visited : (pipeline.run p).visited = ["a", "a", "b"] := by decide
  have outcome : (pipeline.run p).outcome = .halted "b" 403 "no" := by decide
  obtain ⟨-, -, calls, chain, -, installed⟩ := run_chain built p
  rw [resolved] at chain
  have names := chain.visited.symm.trans visited
  exact ⟨built, resolved, outcome, calls, chain, names,
    installed _ fun call _ => call.installs_script⟩

/-- A run through filters that settings can define leaves the links as they were, behind them the
stamp of each guard that let the request proceed, in the order of the calls. -/
theorem decorations_builtin {filters : List (String × BuiltinFilter)} {rules : List Rule}
    {servlets : List ServletDefinition} {pipeline : Pipeline BuiltinFilter}
    (built : assemble filters rules servlets = .ok pipeline) (p : Passage) :
    ∃ calls : List (FilterCall BuiltinFilter),
      Chain (pipeline.resolve p.request) (pipeline.informed p) calls (pipeline.run p) ∧
        (pipeline.run p).passage.links.decorations =
          p.links.decorations ++ calls.flatMap FilterCall.installed := by
  obtain ⟨calls, chain, -⟩ := runNames_chain (runNames_resolve built p)
  exact ⟨calls, chain, chain.decorations fun call _ => call.installs_builtin⟩

end Pipeline

end Gatehouse
