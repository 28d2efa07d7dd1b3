import Mathlib.Algebra.GroupWithZero.Nat
import Mathlib.Data.List.Nodup
import Gatehouse.Proofs.Pipeline.Turns

/-!
# The tally balances

What the filters count goes together (`Balanced`): every invocation of a guard is one decision,
every request that a guard lets pass is one nonce and one block drawn for it, and every rejection
ends one run. One visit to a stage counts in one of four ways (`Stage.Counts`), each of which keeps
the balance. So it holds after any number of calls, whatever sessions they meet
(`Pipeline.balanced_after`).
-/

namespace Gatehouse

/-! ## Counts -/

namespace Tally

variable {κ : Type}

/-- The sum of the counts whose keys pass a test. -/
def total (counts : Registry κ Nat) (p : κ → Bool) : Nat :=
  ((counts.entries.filter fun e => p e.1).map Prod.snd).sum

/-- How often guards have decided so. -/
def decided (t : Tally) (label : DecisionLabel) : Nat := (t.decisions.get? label).getD 0

variable [DecidableEq κ]

theorem total_increment (counts : Registry κ Nat) (key : κ) (p : κ → Bool) :
    total (increment counts key) p = total counts p + if p key then 1 else 0 := by
  rw [total, total, increment, Registry.entries_put]
  split
  · next held =>
    obtain ⟨⟨key', n⟩, member, rfl⟩ := List.mem_map.1 held
    have value : counts.get? key' = some n := Registry.get?_eq_some_iff.2 member
    obtain ⟨before, after, whole⟩ := List.append_of_mem member
    have distinct := counts.distinct
    rw [whole, List.map_append, List.map_cons, List.nodup_middle, List.nodup_cons] at distinct
    -- no other entry has this key, so all others stay
    have others : ∀ e ∈ before ++ after, (if e.1 = key' then (e.1, n + 1) else e) = e := by
      refine fun e he => if_neg fun same => distinct.1 ?_
      rw [← List.map_append]
      exact List.mem_map.2 ⟨e, he, same⟩
    have same : ∀ es ⊆ before ++ after,
        es.map (fun e => if e.1 = key' then (e.1, n + 1) else e) = es := fun es part =>
      (List.map_congr_left fun e he => others e (part he)).trans (List.map_id _)
    rw [value, Option.getD_some, whole, List.map_append, List.map_cons, if_pos rfl,
      same before (List.subset_append_left ..), same after (List.subset_append_right ..)]
    cases h : p key' <;> simp [List.filter_append, h]
    omega
  · next new =>
    have none : counts.get? key = none := Registry.get?_eq_none_iff.2 new
    rw [none, Option.getD_none, List.filter_append, List.map_append, List.sum_append]
    cases h : p key <;> simp [h]

theorem mem_keys_increment {counts : Registry κ Nat} {key key' : κ}
    (h : key' ∈ (increment counts key).keys) : key' = key ∨ key' ∈ counts.keys := by
  rw [← Registry.exists_get?_iff, increment] at h
  simp only [Registry.get?_put] at h
  split at h
  · next same => exact .inl same
  · exact .inr (Registry.exists_get?_iff.1 h)

theorem decided_decide (t : Tally) (label label' : DecisionLabel) :
    (t.decide label).decided label' = t.decided label' + if label' = label then 1 else 0 := by
  rw [decided, decide, increment]
  simp only [Registry.get?_put]
  split
  · next same => rw [same, decided, Option.getD_some]
  · rfl

end Tally

/-! ## One visit -/

/-- Nothing is counted, and no block is drawn. -/
structure Site.Silent (site site' : Site) : Prop where
  tally : site'.tally = site.tally
  drawn : site'.supply.blocksDrawn = site.supply.blocksDrawn

theorem Site.Silent.trans {site site' site'' : Site} (first : site.Silent site')
    (second : site'.Silent site'') : site.Silent site'' :=
  ⟨second.tally.trans first.tally, second.drawn.trans first.drawn⟩

namespace Guard

theorem silent_windowIn (g : Guard) (id : SessionId) (mark : Nat) (site : Site) :
    site.Silent (g.windowIn id mark site).2 := by
  rw [windowIn_sessions]
  exact ⟨rfl, rfl⟩

theorem silent_placeFor (g : Guard) (mark : Nat) (r : Request) (site : Site) :
    site.Silent (g.placeFor mark r site).2.2 := by
  have own : site.Silent (g.placeInOwn mark r site).2 := by
    unfold placeInOwn
    split
    · exact ⟨rfl, rfl⟩
    · exact g.silent_windowIn ..
  unfold placeFor
  split
  · next same => rwa [same] at own
  · next site' same =>
    rw [same] at own
    have opened : site'.Silent site'.openSession.2 := ⟨rfl, rfl⟩
    exact (own.trans opened).trans (g.silent_windowIn ..)

theorem tally_issue (g : Guard) (p : Passage) :
    (g.issue p).site.tally = p.site.tally.issue ∧
      (g.issue p).site.supply.blocksDrawn = p.site.supply.blocksDrawn + 1 := by
  have placed := g.silent_placeFor p.site.supply.blocksDrawn p.request p.site.drawBlock.2
  rw [issue_eq]
  exact ⟨congrArg Tally.issue placed.tally, placed.drawn⟩

theorem counts_pass (g : Guard) (p : Passage) :
    ((g.pass p).1 = .proceed ∧
        (∃ label ≠ .rejected, (g.pass p).2.site.tally = (p.site.tally.decide label).issue) ∧
        (g.pass p).2.site.supply.blocksDrawn = p.site.supply.blocksDrawn + 1) ∨
      ((∃ reason, (g.pass p).1 = .reject g.options.denyStatus reason) ∧
        (g.pass p).2.site.tally = p.site.tally.decide .rejected ∧
        (g.pass p).2.site.supply.blocksDrawn = p.site.supply.blocksDrawn) := by
  let checked (label : DecisionLabel) : Passage :=
    { p with site := (p.site.access (g.check p.request)).2.count (·.decide label) }
  rw [pass_eq]
  cases g.reading p.request p.site.live? with
  | entry =>
    obtain ⟨tally, drawn⟩ := g.tally_issue (checked .entry)
    exact .inl ⟨rfl, ⟨.entry, nofun, tally⟩, drawn⟩
  | accepted =>
    obtain ⟨tally, drawn⟩ := g.tally_issue (checked .accepted)
    exact .inl ⟨rfl, ⟨.accepted, nofun, tally⟩, drawn⟩
  | rejected refusal => exact .inr ⟨⟨refusal.message, rfl⟩, rfl, rfl⟩

end Guard

/-- How the tally changes at a visit to a stage, and how many blocks are drawn. -/
inductive Stage.Counts (stage : Stage BuiltinFilter) (t : Tally) : Verdict → Tally → Nat → Prop where
  /-- A guard lets the request pass, and gives it a nonce. -/
  | granted (g : Guard) (guard : stage.filter = .guard g) (label : DecisionLabel)
      (passes : label ≠ .rejected) :
      stage.Counts t .proceed ((t.invoke stage.rule.filter).decide label).issue 1
  /-- A guard rejects the request. -/
  | refused (g : Guard) (guard : stage.filter = .guard g) (reason : String) :
      stage.Counts t (.reject g.options.denyStatus reason)
        (((t.invoke stage.rule.filter).decide .rejected).reject stage.rule.filter
          g.options.denyStatus) 0
  /-- A screen lets the request pass. -/
  | cleared (s : Screen) (screen : stage.filter = .screen s) :
      stage.Counts t .proceed (t.invoke stage.rule.filter) 0
  /-- A screen rejects the request. -/
  | stopped (s : Screen) (screen : stage.filter = .screen s) (status : Nat) (reason : String) :
      stage.Counts t (.reject status reason)
        ((t.invoke stage.rule.filter).reject stage.rule.filter status) 0

namespace Pipeline

theorem counts_visit (stage : Stage BuiltinFilter) (p : Passage) :
    ∃ drawn, stage.Counts p.site.tally (visit stage p).1 (visit stage p).2.site.tally drawn ∧
      (visit stage p).2.site.supply.blocksDrawn = p.site.supply.blocksDrawn + drawn := by
  cases filter : stage.filter with
  | guard g =>
    have result := firstTurn_guard filter p
    rcases g.counts_pass (firstTurn stage p).passage with
      ⟨proceeds, ⟨label, passes, tally⟩, drawn⟩ | ⟨⟨reason, rejects⟩, tally, drawn⟩
    · rw [← result] at proceeds tally drawn
      rw [visit_of_proceed proceeds, proceeds]
      refine ⟨1, ?_, drawn⟩
      rw [tally]
      exact .granted g filter label passes
    · rw [← result] at rejects tally drawn
      rw [visit_of_reject rejects]
      refine ⟨0, ?_, drawn⟩
      show stage.Counts _ _ ((firstTurn stage p).result.2.site.tally.reject _ _) 0
      rw [tally]
      exact .refused g filter reason
  | screen s =>
    have result := firstTurn_screen filter p
    cases failed : p.request.paramsFailed with
    | false =>
      rw [failed] at result
      rw [visit_of_proceed (by rw [result]; rfl), result]
      exact ⟨0, .cleared s filter, rfl⟩
    | true =>
      rw [failed] at result
      rw [visit_of_reject (by rw [result]; rfl), result]
      exact ⟨0, .stopped s filter 400 _, rfl⟩

end Pipeline

/-! ## The balance -/

/-- The names under which settings define guards. -/
def Settings.guardNames (s : Settings) : List String :=
  (s.filters.filter fun definition => definition.kind = .csrfPrevention).map FilterDefinition.name

/-- The counts are in balance, after `halts` runs that were halted and `drawn` blocks that were
drawn. -/
structure Tally.Balanced (settings : Settings) (halts drawn : Nat) (t : Tally) : Prop where
  /-- The invocations of guards are their decisions. -/
  invoked : total t.invocations (· ∈ settings.guardNames) =
    t.decided .entry + t.decided .accepted + t.decided .rejected
  issued : t.issued = t.decided .entry + t.decided .accepted
  drawn : t.issued = drawn
  /-- The rejections of guards are their decisions to reject. -/
  rejected : t.decided .rejected = total t.rejections (·.1 ∈ settings.guardNames)
  /-- A guard rejects with its own status. -/
  status : ∀ definition ∈ settings.filters, ∀ g,
    BuiltinFilter.ofDefinition definition = .ok (.guard g) →
      ∀ key ∈ t.rejections.keys, key.1 = definition.name → key.2 = g.options.denyStatus
  halted : total t.rejections (fun _ => true) = halts

variable {settings : Settings} {pipeline : Pipeline BuiltinFilter} {halts drawn : Nat}

theorem Settings.mem_guardNames {definition : FilterDefinition} {g : Guard}
    (defined : definition ∈ settings.filters)
    (made : BuiltinFilter.ofDefinition definition = .ok (.guard g)) :
    definition.name ∈ settings.guardNames :=
  List.mem_map_of_mem (List.mem_filter.2
    ⟨defined, decide_eq_true (Pipeline.definition_of_guard made).1⟩)

namespace Tally

theorem balanced_zero (settings : Settings) : zero.Balanced settings 0 0 :=
  ⟨rfl, rfl, rfl, rfl, fun _ _ _ _ _ h => (by cases h), rfl⟩

variable {t : Tally} {name : String} {status : Nat}

theorem Balanced.granted (balanced : t.Balanced settings halts drawn)
    (mine : name ∈ settings.guardNames) {label : DecisionLabel} (passes : label ≠ .rejected) :
    (((t.invoke name).decide label).issue).Balanced settings halts (drawn + 1) := by
  obtain ⟨invoked, issued, drew, rejected, status, halted⟩ := balanced
  refine ⟨?_, ?_, congrArg (· + 1) drew, ?_, status, halted⟩
  · show total (increment t.invocations name) _ = (t.decide label).decided .entry +
      (t.decide label).decided .accepted + (t.decide label).decided .rejected
    rw [total_increment, invoked, decided_decide, decided_decide, decided_decide]
    cases label <;> simp [mine] <;> omega
  · show t.issued + 1 = (t.decide label).decided .entry + (t.decide label).decided .accepted
    rw [issued, decided_decide, decided_decide]
    cases label with
    | entry => simp; omega
    | accepted => simp; omega
    | rejected => exact (passes rfl).elim
  · show (t.decide label).decided .rejected = total t.rejections _
    rw [decided_decide, if_neg passes.symm, rejected]
    rfl

theorem Balanced.refused (balanced : t.Balanced settings halts drawn)
    (mine : name ∈ settings.guardNames)
    (own : ∀ definition ∈ settings.filters, ∀ g,
      BuiltinFilter.ofDefinition definition = .ok (.guard g) → definition.name = name →
        g.options.denyStatus = status) :
    (((t.invoke name).decide .rejected).reject name status).Balanced settings (halts + 1) drawn := by
  obtain ⟨invoked, issued, drew, rejected, statuses, halted⟩ := balanced
  refine ⟨?_, ?_, drew, ?_, ?_, ?_⟩
  · show total (increment t.invocations name) _ = (t.decide .rejected).decided .entry +
      (t.decide .rejected).decided .accepted + (t.decide .rejected).decided .rejected
    rw [total_increment, invoked, decided_decide, decided_decide, decided_decide]
    simp [mine]
    omega
  · show t.issued = (t.decide .rejected).decided .entry + (t.decide .rejected).decided .accepted
    rw [issued, decided_decide, decided_decide]
    simp
  · show (t.decide .rejected).decided .rejected = total (increment t.rejections (name, status)) _
    rw [decided_decide, rejected, total_increment]
    simp [mine]
  · -- the new rejection bears the status of the guard that goes by this name
    intro definition defined g made key member same
    rcases mem_keys_increment member with rfl | before
    · exact (own definition defined g made same.symm).symm
    · exact statuses definition defined g made key before same
  · show total (increment t.rejections (name, status)) _ = _
    rw [total_increment, halted]
    rfl

theorem Balanced.cleared (balanced : t.Balanced settings halts drawn)
    (other : name ∉ settings.guardNames) : (t.invoke name).Balanced settings halts drawn := by
  refine { balanced with invoked := ?_ }
  show total (increment t.invocations name) _ = _
  rw [total_increment, balanced.invoked]
  simp [other]
  rfl

theorem Balanced.stopped (balanced : t.Balanced settings halts drawn)
    (other : name ∉ settings.guardNames) (status : Nat) :
    (t.reject name status).Balanced settings (halts + 1) drawn := by
  refine { balanced with rejected := ?_, status := ?_, halted := ?_ }
  · show _ = total (increment t.rejections (name, status)) _
    rw [total_increment, ← balanced.rejected]
    simp [other]
    rfl
  · intro definition defined g made key member same
    rcases mem_keys_increment member with rfl | before
    · have same : name = definition.name := same
      exact (other (same ▸ Settings.mem_guardNames defined made)).elim
    · exact balanced.status definition defined g made key before same
  · show total (increment t.rejections (name, status)) _ = _
    rw [total_increment, balanced.halted]
    rfl

end Tally

/-! ## Runs -/

namespace Pipeline

theorem ofDefinition_of_name (built : ofSettings settings = .ok pipeline)
    {stage : Stage BuiltinFilter} (staged : stage ∈ pipeline.stages)
    {definition : FilterDefinition} (defined : definition ∈ settings.filters)
    (name : definition.name = stage.rule.filter) :
    BuiltinFilter.ofDefinition definition = .ok stage.filter := by
  obtain ⟨filter, made, held⟩ := filter_of_definition built definition defined
  rw [name, filter_of_stage built stage staged, Option.some.injEq] at held
  rw [made, held]

theorem mem_guardNames_iff (built : ofSettings settings = .ok pipeline)
    {stage : Stage BuiltinFilter} (staged : stage ∈ pipeline.stages) :
    stage.rule.filter ∈ settings.guardNames ↔ ∃ g, stage.filter = .guard g := by
  rw [Settings.guardNames, List.mem_map]
  constructor
  · rintro ⟨definition, defined, name⟩
    obtain ⟨defined, kind⟩ := List.mem_filter.1 defined
    exact guard_of_definition (ofDefinition_of_name built staged defined name)
      (of_decide_eq_true kind)
  · rintro ⟨g, guard⟩
    obtain ⟨definition, defined, name, made⟩ := definition_of_stage built stage staged
    rw [guard] at made
    exact name ▸ List.mem_map.1 (Settings.mem_guardNames defined made)

end Pipeline

/-- How many rejections a verdict is. -/
def Verdict.rejections : Verdict → Nat
  | .proceed => 0
  | .reject .. => 1

theorem Tally.Balanced.visit {t t' : Tally} {verdict : Verdict} {more : Nat}
    (balanced : t.Balanced settings halts drawn)
    (built : Pipeline.ofSettings settings = .ok pipeline) {stage : Stage BuiltinFilter}
    (staged : stage ∈ pipeline.stages) (counts : stage.Counts t verdict t' more) :
    t'.Balanced settings (halts + verdict.rejections) (drawn + more) := by
  have named := Pipeline.mem_guardNames_iff built staged
  have screened : ∀ s, stage.filter = .screen s → stage.rule.filter ∉ settings.guardNames := by
    intro s screen mine
    obtain ⟨g, guard⟩ := named.1 mine
    rw [screen] at guard
    cases guard
  cases counts with
  | granted g guard label passes => exact balanced.granted (named.2 ⟨g, guard⟩) passes
  | refused g guard reason =>
    refine balanced.refused (named.2 ⟨g, guard⟩) fun definition defined g' made name => ?_
    have same := Pipeline.ofDefinition_of_name built staged defined name
    rw [made, guard] at same
    rw [BuiltinFilter.guard.inj (Except.ok.inj same)]
  | cleared s screen => exact balanced.cleared (screened s screen)
  | stopped s screen status reason =>
    exact (balanced.cleared (screened s screen)).stopped (screened s screen) status

/-- The tally of a site is in balance with the blocks that were drawn there since `start`. -/
def Site.Balanced (settings : Settings) (start halts : Nat) (site : Site) : Prop :=
  ∃ drawn, site.supply.blocksDrawn = start + drawn ∧ site.tally.Balanced settings halts drawn

theorem Site.Balanced.visit {start : Nat} {p : Passage}
    (balanced : p.site.Balanced settings start halts)
    (built : Pipeline.ofSettings settings = .ok pipeline) {stage : Stage BuiltinFilter}
    (staged : stage ∈ pipeline.stages) :
    (Pipeline.visit stage p).2.site.Balanced settings start
      (halts + (Pipeline.visit stage p).1.rejections) := by
  obtain ⟨drawn, blocks, tally⟩ := balanced
  obtain ⟨more, counts, drew⟩ := Pipeline.counts_visit stage p
  refine ⟨drawn + more, ?_, tally.visit built staged counts⟩
  rw [drew, blocks, Nat.add_assoc]

def Outcome.isHalted : Outcome → Bool
  | .proceed => false
  | .halted .. => true

namespace Pipeline

theorem balanced_runStages {start : Nat} (built : ofSettings settings = .ok pipeline)
    {stages : List (Stage BuiltinFilter)} (staged : stages ⊆ pipeline.stages) {p : Passage}
    (balanced : p.site.Balanced settings start halts) :
    (runStages stages p).passage.site.Balanced settings start
      (halts + if (runStages stages p).outcome.isHalted then 1 else 0) := by
  induction stages generalizing p halts with
  | nil => exact balanced
  | cons stage rest ih =>
    obtain ⟨here, later⟩ := List.cons_subset.1 staged
    have stepped := balanced.visit built here
    rw [runStages]
    generalize visit stage p = result at stepped ⊢
    rcases result with ⟨_ | ⟨status, reason⟩, p'⟩
    · exact ih later stepped
    · exact stepped

/-! ## Any number of calls -/

end Pipeline

/-- A request that comes to a pipeline with the links of its response, the sessions that it meets
there, and the time. -/
structure Arrival where
  request : Request
  links : Links
  sessions : Sessions
  now : Nat

namespace Pipeline

/-- The run of a request. The sessions may have changed in any way since the last run, which leaves
no more than the tally and the supply. -/
def receive (pipeline : Pipeline BuiltinFilter) (site : Site) (a : Arrival) : Run :=
  pipeline.run ⟨a.request, a.links, { site with sessions := a.sessions, now := a.now }⟩

/-- What becomes of requests, one after another, and the site that the last one leaves. -/
def receiveAll (pipeline : Pipeline BuiltinFilter) (site : Site) :
    List Arrival → List Outcome × Site
  | [] => ([], site)
  | a :: rest =>
    let run := pipeline.receive site a
    let (outcomes, site) := receiveAll pipeline run.passage.site rest
    (run.outcome :: outcomes, site)

theorem balanced_receiveAll {start : Nat} (built : ofSettings settings = .ok pipeline) {site : Site}
    (balanced : site.Balanced settings start halts) (arrivals : List Arrival) :
    (pipeline.receiveAll site arrivals).2.Balanced settings start
      (halts + (pipeline.receiveAll site arrivals).1.countP Outcome.isHalted) := by
  induction arrivals generalizing site halts with
  | nil => exact balanced
  | cons a rest ih =>
    have first : (pipeline.receive site a).passage.site.Balanced settings start
        (halts + if (pipeline.receive site a).outcome.isHalted then 1 else 0) :=
      balanced_runStages built (fun stage h => mem_of_stagesFor h) balanced
    have others := ih first
    rw [Nat.add_assoc, Nat.add_comm (ite ..)] at others
    rw [receiveAll]
    simp only [List.countP_cons]
    exact others

/-- **The counts of a pipeline are in balance after any number of calls**, whatever the sessions
that each of them meets. -/
theorem balanced_after (settings : Settings) (pipeline : Pipeline BuiltinFilter)
    (built : ofSettings settings = .ok pipeline) (sessions : Sessions) (supply : Supply)
    (arrivals : List Arrival) :
    let result := pipeline.receiveAll (.start sessions supply) arrivals
    result.2.Balanced settings supply.blocksDrawn (result.1.countP Outcome.isHalted) := by
  have start : (Site.start sessions supply).Balanced settings supply.blocksDrawn 0 :=
    ⟨0, rfl, Tally.balanced_zero settings⟩
  have after := balanced_receiveAll built start arrivals
  rwa [Nat.zero_add] at after

/-- An entry, a stranger and a request that cannot be read: two nonces are drawn, and two runs are
halted. -/
theorem balanced_after_three :
    let guard : Guard := ⟨{ entryPoints := ["/"] }⟩
    let settings : Settings :=
      { filters := [{ name := "csrf", kind := .csrfPrevention
                      params := .ofList [("entry_points", "/")] },
                    { name := "failed", kind := .failedRequest }]
        rules := [⟨"csrf", ["/*"], [], []⟩, ⟨"failed", ["*"], [], []⟩] }
    let pipeline : Pipeline BuiltinFilter :=
      ⟨.ofList [("csrf", .guard guard), ("failed", .screen {})],
        [⟨⟨"csrf", [.tree ""], [], false, false, .ofList []⟩, .guard guard⟩,
          ⟨⟨"failed", [], [], true, false, .ofList []⟩, .screen {}⟩], .empty⟩
    let supply : Supply := ⟨fun n => ⟨if n = 0 then "a" else "b"⟩, fun n => .replicate 16 n.toUInt8, 0, 0⟩
    let arrival (r : Request) (now : Nat) : Arrival := ⟨r, .plain, .start .full 10, now⟩
    let result := pipeline.receiveAll (.start (.start .full 10) supply)
      [arrival { path := "/" } 0, arrival { method := "POST", path := "/pay" } 5,
        arrival { path := "/", paramsFailed := true } 9]
    ofSettings settings = .ok pipeline ∧
      result.1 = [.proceed, .halted "csrf" 403 "no session",
        .halted "failed" 400 "request parameters could not be parsed"] ∧
      result.2.Balanced settings 0 2 ∧ result.2.tally.issued = 2 := by
  intro guard settings pipeline supply arrival result
  have built : ofSettings settings = .ok pipeline := rfl
  have outcomes : result.1 = [.proceed, .halted "csrf" 403 "no session",
    .halted "failed" 400 "request parameters could not be parsed"] := by decide
  have balanced : result.2.Balanced settings 0 (result.1.countP Outcome.isHalted) :=
    balanced_after settings pipeline built (.start .full 10) supply _
  rw [outcomes] at balanced
  exact ⟨built, outcomes, balanced, by decide⟩

end Pipeline

end Gatehouse
