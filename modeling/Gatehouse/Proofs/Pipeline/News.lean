import Gatehouse.Proofs.Pipeline.Turns

/-!
# News of windows

A change at a site is no news if it brings no session a window (`Site.NoNews`): time passes,
sessions are accessed, ended or purged. What is kept by every such change and by every turn of a
filter is kept by a run of a pipeline, and holds at each turn of it (`TurnInvariant.run`). So it is
kept by any number of runs, with such changes in between (`TurnInvariant.after`).
-/

namespace Gatehouse

/-! ## Windows that are no news -/

/-- Every window that a live session holds at `site'` it held at `site`. -/
structure Site.NoNews (site site' : Site) : Prop where
  backing : site'.sessions.backing = site.sessions.backing
  window : ∀ id window, site'.window? id = some window → site.window? id = some window

namespace Site

variable {site site' : Site}

theorem noNews_refl (site : Site) : site.NoNews site := ⟨rfl, fun _ _ h => h⟩

theorem Keeps.noNews (keeps : site.Keeps site')
    (backing : site'.sessions.backing = site.sessions.backing) : site.NoNews site' := by
  refine ⟨backing, fun id window held => ?_⟩
  obtain ⟨entry', live', holds⟩ := Option.bind_eq_some_iff.1 held
  obtain ⟨entry, before, same⟩ := keeps id entry' live'
  exact Option.bind_eq_some_iff.2 ⟨entry, before, same ▸ holds⟩

theorem noNews_elapse (site : Site) (milliseconds : Nat) :
    site.NoNews (site.elapse milliseconds) :=
  (site.keeps_elapse milliseconds).noNews rfl

theorem noNews_invalidate (site : Site) (id : SessionId) : site.NoNews (site.invalidate id) :=
  (site.keeps_invalidate id).noNews rfl

theorem noNews_purge (site : Site) :
    site.NoNews (site.access fun now s => s.purge now).2 := by
  refine site.keeps_purge.noNews ?_
  simp only [access, Sessions.purge]
  split <;> rfl

theorem Visited.noNews {session : Option SessionId} (visited : site.Visited session site') :
    site.NoNews site' :=
  visited.keeps.noNews visited.backing

end Site

theorem Turn.passed_or_noNews {turn : Turn} (full : turn.passage.site.sessions.backing = .full) :
    (∃ g, turn.stage.filter = .guard g ∧ g.Passed turn.passage turn.result.2 ∧
        turn.issued? = some (turn.passage.home.session, turn.passage.token)) ∨
      turn.passage.site.NoNews turn.result.2.site ∧ turn.issued? = none := by
  cases filter : turn.stage.filter with
  | guard g =>
    rw [Turn.result_guard filter, Turn.issued?_guard filter]
    rcases g.pass_cases full with ⟨-, passed, issued⟩ | ⟨_, -, -, refused, issued⟩
    · exact .inl ⟨g, rfl, passed, issued⟩
    · exact .inr ⟨refused.visited.noNews, issued⟩
  | screen s =>
    rw [Turn.result_screen filter]
    exact .inr ⟨Site.noNews_refl _, Turn.issued?_screen filter⟩

/-! ## What turns keep -/

/-- What is known of the turns so far and of the site is kept by every turn, and by whatever brings
no window. -/
structure TurnInvariant (inv : List Turn → Site → Prop) : Prop where
  noNews : ∀ {turns site site'}, inv turns site → site.NoNews site' → inv turns site'
  turn : ∀ {turns} {turn : Turn}, inv turns turn.passage.site →
    inv (turns ++ [turn]) turn.result.2.site

namespace TurnInvariant

variable {inv : List Turn → Site → Prop} {past : List Turn} {p : Passage}

theorem visit (kept : TurnInvariant inv) (holds : inv past p.site) (stage : Stage BuiltinFilter) :
    inv (past ++ [Pipeline.firstTurn stage p]) (Pipeline.visit stage p).2.site := by
  obtain ⟨change, left⟩ := Pipeline.visit_eq stage p
  -- to count an invocation or a rejection is no news
  have shown : inv past (Pipeline.firstTurn stage p).passage.site :=
    kept.noNews holds ⟨rfl, fun _ _ h => h⟩
  rw [left]
  exact kept.noNews (kept.turn shown) ⟨rfl, fun _ _ h => h⟩

theorem run (kept : TurnInvariant inv) (holds : inv past p.site)
    (pipeline : Pipeline BuiltinFilter) :
    inv (past ++ pipeline.turns p) (pipeline.run p).passage.site ∧
      ∀ earlier turn later, pipeline.turns p = earlier ++ turn :: later →
        inv (past ++ earlier) turn.passage.site := by
  let known (before : List Turn) (p : Passage) : Prop := inv (past ++ before) p.site
  have step : ∀ stage before p, known before p →
      known (before ++ [Pipeline.firstTurn stage p]) (Pipeline.visit stage p).2 := by
    intro stage before p holds
    show inv (past ++ (before ++ [Pipeline.firstTurn stage p])) _
    rw [← List.append_assoc]
    exact kept.visit holds stage
  have start : known [] (pipeline.entering p) := by
    show inv (past ++ []) p.site
    rwa [List.append_nil]
  obtain ⟨after, during⟩ := Pipeline.forall_turns step (pipeline.stagesFor p.request) [] start
  refine ⟨after, fun earlier turn later h => ?_⟩
  obtain ⟨q, shown, holds⟩ := during earlier turn later h
  rw [shown]
  exact kept.noNews holds ⟨rfl, fun _ _ h => h⟩

end TurnInvariant

/-! ## Traces -/

/-- The turns that the filters have had, in their order, and the site that they left. -/
structure Trace where
  turns : List Turn
  site : Site

namespace Trace

/-- A request runs through the pipeline, or the site changes otherwise. -/
inductive Step where
  | request (r : Request) (links : Links)
  | meanwhile (change : Site → Site)

/-- Only a request brings a window. -/
def Step.Discreet : Step → Prop
  | .request .. => True
  | .meanwhile change => ∀ site : Site, site.NoNews (change site)

/-- The trace of a site where nothing has happened yet. -/
def start (idleLimit : Nat) (supply : Supply) : Trace :=
  ⟨[], .start (.start .full idleLimit) supply⟩

def advance (pipeline : Pipeline BuiltinFilter) (trace : Trace) : Step → Trace
  | .request r links =>
    let p : Passage := ⟨r, links, trace.site⟩
    ⟨trace.turns ++ pipeline.turns p, (pipeline.run p).passage.site⟩
  | .meanwhile change => { trace with site := change trace.site }

def after (pipeline : Pipeline BuiltinFilter) (trace : Trace) : List Step → Trace
  | [] => trace
  | step :: rest => after pipeline (trace.advance pipeline step) rest

variable {pipeline : Pipeline BuiltinFilter} {trace : Trace}

theorem stage_of_after (staged : ∀ turn ∈ trace.turns, turn.stage ∈ pipeline.stages)
    (steps : List Step) :
    ∀ turn ∈ (trace.after pipeline steps).turns, turn.stage ∈ pipeline.stages := by
  induction steps generalizing trace with
  | nil => exact staged
  | cons step rest ih =>
    refine ih fun turn h => ?_
    cases step with
    | request r links =>
      rcases List.mem_append.1 h with before | now
      · exact staged turn before
      · exact Pipeline.stage_of_turns now
    | meanwhile change => exact staged turn h

end Trace

theorem TurnInvariant.after {inv : List Turn → Site → Prop} (kept : TurnInvariant inv)
    {pipeline : Pipeline BuiltinFilter} {trace : Trace} (holds : inv trace.turns trace.site)
    {steps : List Trace.Step} (discreet : ∀ step ∈ steps, step.Discreet) :
    inv (trace.after pipeline steps).turns (trace.after pipeline steps).site := by
  induction steps generalizing trace with
  | nil => exact holds
  | cons step rest ih =>
    have first := discreet step List.mem_cons_self
    refine ih ?_ fun later h => discreet later (List.mem_cons_of_mem _ h)
    cases step with
    | request r links => exact (kept.run holds pipeline).1
    | meanwhile change => exact kept.noNews holds (first _)

end Gatehouse
