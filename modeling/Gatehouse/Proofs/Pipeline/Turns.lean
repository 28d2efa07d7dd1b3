import Gatehouse.Proofs.Guard.Pass
import Gatehouse.Proofs.Pipeline.Build

/-!
# Turns

A run through stages is a sequence of turns, at each of which one filter is shown a passage. Up to
the session it carries, the request stays the same. What holds of the sites that the filters are
shown is kept from turn to turn (`forall_turns`).
-/

namespace Gatehouse

/-- A turn of a filter: its stage, and the passage that it is shown. -/
structure Turn where
  stage : Stage BuiltinFilter
  passage : Passage

namespace Turn

/-- What the filter decides, and the passage that it leaves. -/
def result (turn : Turn) : Verdict × Passage := Filter.pass turn.stage.filter turn.passage

/-- The session into which a token is issued at the turn, and the token. -/
def issued? (turn : Turn) : Option (SessionId × String) :=
  match turn.stage.filter with
  | .guard g => g.issued? turn.passage
  | .screen _ => none

variable {turn : Turn}

theorem result_guard {g : Guard} (h : turn.stage.filter = .guard g) :
    turn.result = g.pass turn.passage := by
  rw [result, h]
  rfl

theorem issued?_guard {g : Guard} (h : turn.stage.filter = .guard g) :
    turn.issued? = g.issued? turn.passage := by
  rw [issued?, h]

theorem result_screen {s : Screen} (h : turn.stage.filter = .screen s) :
    turn.result =
      (if turn.passage.request.paramsFailed then
        .reject 400 "request parameters could not be parsed" else .proceed, turn.passage) := by
  rw [result, h]
  rfl

theorem issued?_screen {s : Screen} (h : turn.stage.filter = .screen s) :
    turn.issued? = none := by
  rw [issued?, h]

end Turn

namespace Pipeline

def firstTurn (stage : Stage BuiltinFilter) (p : Passage) : Turn :=
  ⟨stage, { p with site := p.site.count (·.invoke stage.rule.filter) }⟩

/-- The turns of a run through stages. -/
def turnsOver : List (Stage BuiltinFilter) → Passage → List Turn
  | [], _ => []
  | stage :: rest, p =>
    firstTurn stage p :: match (firstTurn stage p).result with
      | (.proceed, p) => turnsOver rest p
      | (.reject .., _) => []

/-- The passage as it enters a pipeline. -/
def entering (pipeline : Pipeline BuiltinFilter) (p : Passage) : Passage :=
  { p with request := { p.request with servlet := pipeline.servletOf p.request } }

def turns (pipeline : Pipeline BuiltinFilter) (p : Passage) : List Turn :=
  turnsOver (pipeline.stagesFor p.request) (pipeline.entering p)

variable {stage : Stage BuiltinFilter} {stages rest : List (Stage BuiltinFilter)} {p : Passage}

/-! ## One turn -/

theorem firstTurn_guard {g : Guard} (h : stage.filter = .guard g) (p : Passage) :
    (firstTurn stage p).result = g.pass (firstTurn stage p).passage :=
  Turn.result_guard h

theorem firstTurn_screen {s : Screen} (h : stage.filter = .screen s) (p : Passage) :
    (firstTurn stage p).result =
      (if p.request.paramsFailed then .reject 400 "request parameters could not be parsed"
        else .proceed, (firstTurn stage p).passage) :=
  Turn.result_screen h

theorem visit_fst (stage : Stage BuiltinFilter) (p : Passage) :
    (visit stage p).1 = (firstTurn stage p).result.1 := by
  unfold visit Turn.result firstTurn
  simp only
  split <;> simp_all

theorem visit_of_proceed (h : (firstTurn stage p).result.1 = .proceed) :
    visit stage p = (firstTurn stage p).result := by
  unfold visit Turn.result firstTurn at *
  simp only at h ⊢
  split <;> simp_all

theorem visit_of_reject {status : Nat} {reason : String}
    (h : (firstTurn stage p).result.1 = .reject status reason) :
    visit stage p = (.reject status reason, { (firstTurn stage p).result.2 with
      site := (firstTurn stage p).result.2.site.count (·.reject stage.rule.filter status) }) := by
  unfold visit Turn.result firstTurn at *
  simp only at h ⊢
  split <;> simp_all

theorem runStages_of_proceed (h : (firstTurn stage p).result.1 = .proceed) :
    runStages (stage :: rest) p =
      let run := runStages rest (firstTurn stage p).result.2
      { run with visited := stage.rule.filter :: run.visited } := by
  rw [runStages]
  simp only [visit_of_proceed h]
  split <;> simp_all

theorem turnsOver_of_proceed (h : (firstTurn stage p).result.1 = .proceed) :
    turnsOver (stage :: rest) p =
      firstTurn stage p :: turnsOver rest (firstTurn stage p).result.2 := by
  rw [turnsOver]
  split <;> simp_all

theorem runStages_of_reject {status : Nat} {reason : String}
    (h : (firstTurn stage p).result.1 = .reject status reason) :
    runStages (stage :: rest) p =
      ⟨.halted stage.rule.filter status reason, [stage.rule.filter], (visit stage p).2⟩ := by
  rw [runStages]
  have verdict := (visit_fst stage p).trans h
  simp only
  split <;> simp_all

theorem turnsOver_of_reject {status : Nat} {reason : String}
    (h : (firstTurn stage p).result.1 = .reject status reason) :
    turnsOver (stage :: rest) p = [firstTurn stage p] := by
  rw [turnsOver]
  split <;> simp_all

/-! ## All turns -/

theorem turnsOver_of_run (h : (runStages stages p).outcome = .proceed) :
    (turnsOver stages p).map Turn.stage = stages ∧
      ∀ turn ∈ turnsOver stages p, turn.result.1 = .proceed := by
  induction stages generalizing p with
  | nil => exact ⟨rfl, fun turn h => by cases h⟩
  | cons stage rest ih =>
    cases verdict : (firstTurn stage p).result.1 with
    | proceed =>
      rw [runStages_of_proceed verdict] at h
      obtain ⟨same, passed⟩ := ih h
      rw [turnsOver_of_proceed verdict]
      refine ⟨by rw [List.map_cons, same]; rfl, ?_⟩
      rintro turn (_ | ⟨_, later⟩)
      · exact verdict
      · exact passed turn later
    | reject status reason =>
      rw [runStages_of_reject verdict] at h
      cases h

theorem exists_turn_of_run (h : (runStages stages p).outcome = .proceed) (member : stage ∈ stages) :
    ∃ turn ∈ turnsOver stages p, turn.stage = stage ∧ turn.result.1 = .proceed := by
  obtain ⟨every, passed⟩ := turnsOver_of_run h
  rw [← every] at member
  obtain ⟨turn, taken, same⟩ := List.mem_map.1 member
  exact ⟨turn, taken, same, passed turn taken⟩

theorem stage_of_turnsOver {turn : Turn} (h : turn ∈ turnsOver stages p) : turn.stage ∈ stages := by
  induction stages generalizing p with
  | nil => cases h
  | cons stage rest ih =>
    cases verdict : (firstTurn stage p).result.1 with
    | proceed =>
      rw [turnsOver_of_proceed verdict] at h
      rcases List.mem_cons.1 h with rfl | later
      · exact List.mem_cons_self
      · exact List.mem_cons_of_mem _ (ih later)
    | reject status reason =>
      rw [turnsOver_of_reject verdict] at h
      rw [List.mem_singleton.1 h]
      exact List.mem_cons_self

theorem stage_of_turns {pipeline : Pipeline BuiltinFilter} {turn : Turn}
    (h : turn ∈ pipeline.turns p) : turn.stage ∈ pipeline.stages :=
  mem_of_stagesFor (stage_of_turnsOver h)

/-! ## From turn to turn -/

theorem visit_eq (stage : Stage BuiltinFilter) (p : Passage) :
    ∃ change, (visit stage p).2 = { (firstTurn stage p).result.2 with
      site := (firstTurn stage p).result.2.site.count change } := by
  unfold visit
  simp only
  split
  · next p' same =>
    refine ⟨id, ?_⟩
    rw [show (firstTurn stage p).result = (.proceed, p') from same]
    rfl
  · next status reason p' same =>
    refine ⟨(·.reject stage.rule.filter status), ?_⟩
    rw [show (firstTurn stage p).result = (.reject status reason, p') from same]

theorem forall_turns {inv : List Turn → Passage → Prop}
    (step : ∀ stage before p, inv before p → inv (before ++ [firstTurn stage p]) (visit stage p).2)
    (stages : List (Stage BuiltinFilter)) (before : List Turn) (start : inv before p) :
    inv (before ++ turnsOver stages p) (runStages stages p).passage ∧
      ∀ earlier turn later, turnsOver stages p = earlier ++ turn :: later →
        ∃ q, turn = firstTurn turn.stage q ∧ inv (before ++ earlier) q := by
  -- the turns so far grow with each stage, while those that come are a tail of the run
  induction stages generalizing before p with
  | nil =>
    refine ⟨by simpa [turnsOver, runStages] using start, fun earlier turn later h => ?_⟩
    simp [turnsOver] at h
  | cons stage rest ih =>
    have stepped := step stage before p start
    cases verdict : (firstTurn stage p).result.1 with
    | proceed =>
      rw [turnsOver_of_proceed verdict, runStages_of_proceed verdict]
      rw [visit_of_proceed verdict] at stepped
      obtain ⟨after, during⟩ := ih _ stepped
      refine ⟨by simpa using after, fun earlier turn later h => ?_⟩
      rcases List.cons_eq_append_iff.1 h with ⟨rfl, same⟩ | ⟨earlier', rfl, same⟩
      · obtain ⟨rfl, -⟩ := List.cons_eq_cons.1 same
        exact ⟨p, rfl, by simpa using start⟩
      · obtain ⟨q, shown, holds⟩ := during earlier' turn later same
        exact ⟨q, shown, by simpa using holds⟩
    | reject status reason =>
      rw [turnsOver_of_reject verdict, runStages_of_reject verdict]
      refine ⟨stepped, fun earlier turn later h => ?_⟩
      rcases List.cons_eq_append_iff.1 h with ⟨rfl, same⟩ | ⟨earlier', rfl, same⟩
      · obtain ⟨rfl, -⟩ := List.cons_eq_cons.1 same
        exact ⟨p, rfl, by simpa using start⟩
      · simp at same

theorem resembles_visit (stage : Stage BuiltinFilter) (p : Passage) :
    (visit stage p).2.request.Resembles p.request := by
  obtain ⟨change, left⟩ := visit_eq stage p
  rw [left]
  show (firstTurn stage p).result.2.request.Resembles p.request
  cases filter : stage.filter with
  | guard g =>
    rw [firstTurn_guard filter]
    exact g.resembles_pass (firstTurn stage p).passage
  | screen s =>
    rw [firstTurn_screen filter]
    exact ⟨_, _, rfl⟩

theorem resembles_turns {pipeline : Pipeline BuiltinFilter} {turn : Turn}
    (h : turn ∈ pipeline.turns p) :
    turn.passage.request.Resembles (pipeline.entering p).request := by
  let same (_ : List Turn) (q : Passage) : Prop :=
    q.request.Resembles (pipeline.entering p).request
  have step : ∀ stage before q, same before q →
      same (before ++ [firstTurn stage q]) (visit stage q).2 :=
    fun stage _ q h => h.trans (resembles_visit stage q)
  obtain ⟨earlier, later, split⟩ := List.append_of_mem h
  obtain ⟨q, shown, held⟩ :=
    (forall_turns step (pipeline.stagesFor p.request) [] ⟨_, _, rfl⟩).2 earlier turn later split
  rw [shown]
  exact held

end Pipeline

end Gatehouse
