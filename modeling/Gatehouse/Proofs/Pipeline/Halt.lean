import Gatehouse.Proofs.Pipeline.Build
import Gatehouse.Proofs.Pipeline.Course
import Gatehouse.Proofs.Pipeline.Home

/-!
# Windows after a run that halts

A run halts at the first filter that rejects the request. That filter leaves all windows as they
are, and so do those of other sessions than the request's own. Yet the guards that stand before it
have let the request pass, and each of them has entered a token into the window of its session;
these tokens stay (`Pipeline.windows_of_halted`).
-/

namespace Gatehouse

/-- What the tokens of guards make of the window of a session, if they are drawn one after another
from the `n`-th on. The first guard brings a window if there is none. -/
def windowWith (supply : Supply) (n : Nat) (guards : List Guard) (window : Option Window) :
    Option Window :=
  match guards with
  | [] => window
  | g :: rest =>
    some ((supply.tokens n (rest.length + 1)).foldl Window.add (window.getD g.freshWindow))

namespace Pipeline

variable {stages : List (Stage BuiltinFilter)} {stage : Stage BuiltinFilter} {p : Passage}
  {name : String} {status : Nat} {reason : String}

theorem exists_halt (halted : (runStages stages p).outcome = .halted name status reason) :
    ∃ before stage later, stages = before ++ stage :: later ∧ stage.rule.filter = name ∧
      (runStages before p).outcome = .proceed ∧
      (firstTurn stage (runStages before p).passage).result.1 = .reject status reason ∧
      (runStages stages p).passage = (visit stage (runStages before p).passage).2 := by
  induction stages generalizing p with
  | nil => cases halted
  | cons first rest ih =>
    cases verdict : (firstTurn first p).result.1 with
    | proceed =>
      rw [runStages_of_proceed verdict] at halted ⊢
      obtain ⟨before, stage, later, split, named, proceeds, rejects, left⟩ := ih halted
      refine ⟨first :: before, stage, later, by rw [split]; rfl, named, ?_⟩
      rw [runStages_of_proceed verdict]
      exact ⟨proceeds, rejects, left⟩
    | reject status' reason' =>
      rw [runStages_of_reject verdict] at halted ⊢
      obtain ⟨rfl, rfl, rfl⟩ := Outcome.halted.inj halted
      exact ⟨[], first, rest, rfl, rfl, rfl, verdict, rfl⟩

theorem window?_of_reject (full : p.site.sessions.backing = .full)
    (rejects : (firstTurn stage p).result.1 = .reject status reason) (id : SessionId) :
    (visit stage p).2.site.window? id = p.site.window? id := by
  obtain ⟨change, left⟩ := visit_eq stage p
  rw [left]
  show (firstTurn stage p).result.2.site.window? id = (firstTurn stage p).passage.site.window? id
  cases filter : stage.filter with
  | guard g =>
    rw [firstTurn_guard filter] at rejects ⊢
    rcases Guard.pass_cases g (p := (firstTurn stage p).passage) full with
      ⟨proceeds, -⟩ | ⟨_, -, -, refused, -⟩
    · rw [proceeds] at rejects
      cases rejects
    · exact refused.visited.window? id
  | screen s => rw [firstTurn_screen filter]

theorem window?_of_proceed (full : p.site.sessions.backing = .full)
    (fresh : p.site.live? (p.site.supply.handle p.site.supply.handlesDrawn) = none)
    (proceeds : (runStages stages p).outcome = .proceed) {id : SessionId} {entry : SessionEntry}
    (live : p.site.live? id = some entry) :
    (runStages stages p).passage.site.window? id =
      if p.request.session = some id then
        windowWith p.site.supply p.site.supply.blocksDrawn (guardsOf stages) (p.site.window? id)
      else p.site.window? id := by
  have course := run_course stages p full proceeds
  have steady := steady_run full stages (p := p)
  split
  · next own =>
    have home : p.home = ⟨id, entry, p.request, 0⟩ := Request.home_of_live own live
    cases guards : guardsOf stages with
    | nil =>
      rw [Site.window?, Site.live?, course.now, (course.untouched guards).2]
      rfl
    | cons g rest =>
      have entered := course.window g rest guards
      have held : p.site.window? id = entry.window? := by
        rw [Site.window?, live]
        rfl
      rw [home, guards] at entered
      rw [windowWith, held]
      exact entered
  · next other =>
    have elsewhere : id ≠ p.home.session := by
      intro same
      by_cases housed : p.Housed
      · exact other (by rw [same]; exact housed.home.1)
      · rw [same, Passage.home_of_not_housed housed, fresh] at live
        cases live
    rw [Site.window?, steady.others id elsewhere]
    rfl

/-- **A run that halts leaves all windows as they were, but for the tokens of the guards before the
filter that halts it.** These go, in the order of the guards, into the window of the session that
the request carries. -/
theorem windows_of_halted (pipeline : Pipeline BuiltinFilter) (p : Passage)
    (full : p.site.sessions.backing = .full)
    (fresh : p.site.live? (p.site.supply.handle p.site.supply.handlesDrawn) = none)
    (halted : (pipeline.run p).outcome = .halted name status reason) :
    ∃ before stage later, pipeline.stagesFor p.request = before ++ stage :: later ∧
      stage.rule.filter = name ∧ (runStages before (pipeline.entering p)).outcome = .proceed ∧
      ∀ id, (p.site.live? id).isSome →
        (pipeline.run p).passage.site.window? id =
          if p.request.session = some id then
            windowWith p.site.supply p.site.supply.blocksDrawn (guardsOf before)
              (p.site.window? id)
          else p.site.window? id := by
  obtain ⟨before, stage, later, split, named, proceeds, rejects, left⟩ :=
    exists_halt (p := pipeline.entering p) halted
  refine ⟨before, stage, later, split, named, proceeds, fun id alive => ?_⟩
  obtain ⟨entry, live⟩ := Option.isSome_iff_exists.1 alive
  have reached : (runStages before (pipeline.entering p)).passage.site.sessions.backing = .full :=
    (steady_run full before (p := pipeline.entering p)).backing.trans full
  have entered := window?_of_proceed (p := pipeline.entering p) full fresh proceeds live
  have unchanged := window?_of_reject reached rejects id
  rw [← left] at unchanged
  exact unchanged.trans entered

/-- Settings in which a guard comes before a screen. -/
def screenedLastSettings (size : String) : Settings where
  filters := [{ name := "csrf", kind := .csrfPrevention
                params := .ofList [("entry_points", "/"), ("nonce_cache_size", size)] },
              { name := "failed", kind := .failedRequest }]
  rules := [⟨"csrf", ["/*"], [], []⟩, ⟨"failed", ["*"], [], []⟩]

def screenedLast (size : Nat) : Pipeline BuiltinFilter :=
  let guard : BuiltinFilter := .guard ⟨{ entryPoints := ["/"], windowSize := size }⟩
  let screen : BuiltinFilter := .screen {}
  ⟨.ofList [("csrf", guard), ("failed", screen)],
    [⟨⟨"csrf", [.tree ""], [], false, false, .ofList []⟩, guard⟩,
      ⟨⟨"failed", [], [], true, false, .ofList []⟩, screen⟩], .empty⟩

/-- Two visitors have been given a session and a token each. -/
def afterTwoVisits (pipeline : Pipeline BuiltinFilter) : Site :=
  let supply : Supply :=
    { handle := fun n => ⟨if n = 0 then "a" else if n = 1 then "b" else "c"⟩
      block := fun n => .replicate 16 n.toUInt8 }
  let visit (site : Site) : Site := (pipeline.run ⟨{ path := "/" }, .plain, site⟩).passage.site
  visit (visit (.start (.start .full 10) supply))

/-- A request of the first visitor that cannot be read. -/
def unreadable : Request where
  path := "/"
  paramsFailed := true
  session := some ⟨"a"⟩

/-- The token of a request that is rejected in the end goes into its own window, and into no
other. -/
theorem windows_of_halted_own :
    let pipeline := screenedLast 2
    let site := afterTwoVisits pipeline
    let run := pipeline.run ⟨unreadable, .plain, site⟩
    ofSettings (screenedLastSettings "2") = .ok pipeline ∧ site.sessions.backing = .full ∧
      site.live? (site.supply.handle site.supply.handlesDrawn) = none ∧
      run.outcome = .halted "failed" 400 "request parameters could not be parsed" ∧
      run.passage.site.window? ⟨"a"⟩ =
        some ((((Window.ofCapacity 2).add (site.supply.token 0)).add (site.supply.token 2))) ∧
      run.passage.site.window? ⟨"b"⟩ = some ((Window.ofCapacity 2).add (site.supply.token 1)) := by
  intro pipeline site run
  have full : site.sessions.backing = .full := by decide
  have fresh : site.live? (site.supply.handle site.supply.handlesDrawn) = none := by decide
  have halted : run.outcome = .halted "failed" 400 "request parameters could not be parsed" := by
    decide
  obtain ⟨before, stage, later, split, named, -, windows⟩ :=
    windows_of_halted pipeline ⟨unreadable, .plain, site⟩ full fresh halted
  have own := (windows ⟨"a"⟩ (by decide)).trans (if_pos rfl)
  have other := (windows ⟨"b"⟩ (by decide)).trans (if_neg (by decide))
  have guards : guardsOf before = [⟨{ entryPoints := ["/"], windowSize := 2 }⟩] := by
    -- the screen is the second stage of two, so that the guard alone stands before it
    have every : pipeline.stagesFor unreadable = pipeline.stages :=
      List.filter_eq_self.2 (by decide)
    have both : pipeline.stages = before ++ stage :: later := every.symm.trans split
    rcases before with _ | ⟨first, _ | ⟨second, rest⟩⟩
    · obtain ⟨rfl, -⟩ := List.cons.inj (show _ :: _ = _ :: _ from both)
      exact absurd named (by decide)
    · obtain ⟨rfl, -⟩ := List.cons.inj (show _ :: _ = _ :: _ from both)
      rfl
    · have two := congrArg List.length both
      simp [pipeline, screenedLast] at two
  rw [guards] at own
  exact ⟨rfl, full, fresh, halted, own.trans (by decide), other.trans (by decide)⟩

/-- With room for one token, the token of a request that is rejected in the end pushes out the one
that the visitor has been given. -/
theorem rejected_request_evicts :
    let pipeline := screenedLast 1
    let site := afterTwoVisits pipeline
    let run := pipeline.run ⟨unreadable, .plain, site⟩
    ofSettings (screenedLastSettings "1") = .ok pipeline ∧ site.sessions.backing = .full ∧
      site.live? (site.supply.handle site.supply.handlesDrawn) = none ∧
      run.outcome = .halted "failed" 400 "request parameters could not be parsed" ∧
      (site.live? ⟨"a"⟩).isSome ∧
      (site.window? ⟨"a"⟩).map Window.tokens = some [site.supply.token 0] ∧
      (run.passage.site.window? ⟨"a"⟩).map Window.tokens = some [site.supply.token 2] ∧
      site.supply.token 0 ≠ site.supply.token 2 :=
  ⟨rfl, by decide, by decide, by decide, by decide, by decide, by decide, by decide⟩

end Pipeline

end Gatehouse
