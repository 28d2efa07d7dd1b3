import Gatehouse.Proofs.Pipeline.Turns

/-!
# The session of a request on its way

The tokens of a request all go into one session: its own if that is live, and otherwise one that
the first guard to let the request pass begins, and that the request carries from then on. No turn
of a run changes that, and none changes any other session (`Passage.Steady`). Until a guard lets the
request pass, no session is begun for it (`Passage.Underway`).
-/

namespace Gatehouse

namespace Passage

/-- What happens on the way from `p` to `p'` leaves the home of the request where it was, and all
other sessions as they were. A session may be begun, so that the request is at home there. -/
structure Steady (p p' : Passage) : Prop where
  backing : p'.site.sessions.backing = p.site.sessions.backing
  now : p'.site.now = p.site.now
  idleLimit : p'.site.sessions.store.idleLimit = p.site.sessions.store.idleLimit
  handle : p'.site.supply.handle = p.site.supply.handle
  drawn : p.site.supply.handlesDrawn ≤ p'.site.supply.handlesDrawn
  session : p'.home.session = p.home.session
  request : p'.home.request = p.home.request
  begun : p'.site.supply.handlesDrawn + p'.home.begun = p.site.supply.handlesDrawn + p.home.begun
  housed : p.Housed → p'.Housed
  others : ∀ id, id ≠ p.home.session → p'.site.live? id = p.site.live? id

variable {p p' p'' : Passage}

theorem steady_refl (p : Passage) : p.Steady p :=
  ⟨rfl, rfl, rfl, rfl, Nat.le_refl _, rfl, rfl, rfl, fun h => h, fun _ _ => rfl⟩

theorem Steady.trans (first : p.Steady p') (second : p'.Steady p'') : p.Steady p'' where
  backing := second.backing.trans first.backing
  now := second.now.trans first.now
  idleLimit := second.idleLimit.trans first.idleLimit
  handle := second.handle.trans first.handle
  drawn := Nat.le_trans first.drawn second.drawn
  session := second.session.trans first.session
  request := second.request.trans first.request
  begun := second.begun.trans first.begun
  housed := fun h => second.housed (first.housed h)
  others := fun id h =>
    (second.others id (by rw [first.session]; exact h)).trans (first.others id h)

theorem steady_count (p : Passage) (change : Tally → Tally) :
    p.Steady { p with site := p.site.count change } :=
  ⟨rfl, rfl, rfl, rfl, Nat.le_refl _, rfl, rfl, rfl, fun h => h, fun _ _ => rfl⟩

end Passage

/-! ## One turn -/

namespace Guard

variable {g : Guard} {p p' : Passage}

theorem Passed.steady (passed : g.Passed p p') :
    p.Steady p' ∧ p'.Housed ∧ p'.request = p.home.request := by
  have own : p'.request.session = some p.home.session := by
    rw [passed.request]
    exact Request.session_home ..
  have live := passed.becomes.self
  have home : p'.home = _ := Request.home_of_live own live
  refine ⟨⟨passed.becomes.backing, passed.becomes.now, passed.becomes.store.idleLimit, ?_, ?_, ?_,
    ?_, ?_, fun _ => ⟨_, _, own, live⟩, fun id => passed.becomes.other⟩, ⟨_, _, own, live⟩,
    passed.request⟩
  · rw [passed.supply]
  · rw [passed.supply]
    exact Nat.le_add_right ..
  · rw [home]
  · rw [home]
    exact passed.request
  · rw [home, passed.supply]
    rfl

theorem Refused.steady (refused : Refused p p') : p.Steady p' := by
  obtain ⟨request, -, supply, visited⟩ := refused
  have home : p'.home.session = p.home.session ∧ p'.home.request = p.home.request ∧
      p'.home.begun = p.home.begun := by
    rw [Passage.home, request]
    rcases p.request.home_visited visited supply with same | same <;> rw [same] <;>
      exact ⟨rfl, rfl, rfl⟩
  refine ⟨visited.backing, visited.now, visited.idleLimit, by rw [supply],
    Nat.le_of_eq (by rw [supply]), home.1, home.2.1,
    by rw [supply, home.2.2], ?_, fun id other => ?_⟩
  · rintro ⟨id, entry, own, live⟩
    refine ⟨id, entry.accessed p.site.now, by rw [request, own], ?_⟩
    rw [visited.live?, if_pos own, live]
    rfl
  · rw [visited.live?]
    split
    · next own =>
      -- the request's own session is its home, or it is gone
      rcases Request.home_or_gone own p.site with same | gone
      · exact (other same).elim
      · rw [gone]
        rfl
    · rfl

end Guard

namespace Turn

/-- The filter is a guard, and it lets the request pass. -/
def Granted (turn : Turn) : Prop :=
  (∃ g, turn.stage.filter = .guard g) ∧ turn.result.1 = .proceed

theorem steady_result (turn : Turn) (full : turn.passage.site.sessions.backing = .full) :
    turn.passage.Steady turn.result.2 ∧
      (turn.Granted → turn.result.2.Housed ∧ turn.result.2.request = turn.passage.home.request) ∧
      (¬ turn.Granted → turn.result.2.request = turn.passage.request ∧
        turn.result.2.site.supply = turn.passage.site.supply) := by
  cases filter : turn.stage.filter with
  | guard g =>
    rw [result_guard filter]
    rcases Guard.pass_cases g full with ⟨proceeds, passed, -⟩ | ⟨refusal, -, verdict, refused, -⟩
    · obtain ⟨steady, home⟩ := passed.steady
      refine ⟨steady, fun _ => home, fun held => (held ⟨⟨g, filter⟩, ?_⟩).elim⟩
      rw [result_guard filter, proceeds]
    · refine ⟨refused.steady, fun granted => ?_, fun _ => ⟨refused.request, refused.supply⟩⟩
      have proceeds := granted.2
      rw [result_guard filter, verdict] at proceeds
      cases proceeds
  | screen s =>
    rw [result_screen filter]
    refine ⟨turn.passage.steady_refl, fun granted => ?_, fun _ => ⟨rfl, rfl⟩⟩
    obtain ⟨g, guard⟩ := granted.1
    rw [filter] at guard
    cases guard

end Turn

/-! ## A run -/

/-- What is reached from `p` after some turns. Until a guard lets the request pass, the request is
still that of `p`, and no session has been begun for it; from then on it is at home. -/
structure Passage.Underway (p : Passage) (before : List Turn) (q : Passage) : Prop where
  steady : p.Steady q
  granted : (∃ turn ∈ before, turn.Granted) → q.Housed ∧ q.request = p.home.request
  waiting : (∀ turn ∈ before, ¬ turn.Granted) →
    q.request = p.request ∧ q.site.supply.handlesDrawn = p.site.supply.handlesDrawn

namespace Passage

variable {p q : Passage} {before : List Turn}

theorem underway_refl (p : Passage) : p.Underway [] p :=
  ⟨p.steady_refl, fun ⟨_, h, _⟩ => (by cases h), fun _ => ⟨rfl, rfl⟩⟩

theorem Underway.count (underway : p.Underway before q) (change : Tally → Tally) :
    p.Underway before { q with site := q.site.count change } :=
  ⟨underway.steady.trans (q.steady_count change), underway.granted, underway.waiting⟩

theorem Underway.result {turn : Turn} (underway : p.Underway before turn.passage)
    (full : p.site.sessions.backing = .full) :
    p.Underway (before ++ [turn]) turn.result.2 := by
  obtain ⟨steady, home, kept⟩ := turn.steady_result (underway.steady.backing.trans full)
  refine ⟨underway.steady.trans steady, fun granted => ?_, fun waiting => ?_⟩
  · by_cases now : turn.Granted
    · obtain ⟨housed, request⟩ := home now
      exact ⟨housed, request.trans underway.steady.request⟩
    · have earlier : ∃ turn ∈ before, turn.Granted := by
        obtain ⟨turn', member, granted⟩ := granted
        rcases List.mem_append.1 member with member | last
        · exact ⟨turn', member, granted⟩
        · rw [List.mem_singleton.1 last] at granted
          exact (now granted).elim
      obtain ⟨housed, request⟩ := underway.granted earlier
      exact ⟨steady.housed housed, (kept now).1.trans request⟩
  · obtain ⟨request, supply⟩ := kept (waiting turn (by simp))
    obtain ⟨same, drawn⟩ := underway.waiting fun turn' member =>
      waiting turn' (List.mem_append_left _ member)
    exact ⟨request.trans same, by rw [supply, drawn]⟩

theorem Underway.visit (underway : p.Underway before q) (full : p.site.sessions.backing = .full)
    (stage : Stage BuiltinFilter) :
    p.Underway (before ++ [Pipeline.firstTurn stage q]) (Pipeline.visit stage q).2 := by
  obtain ⟨change, left⟩ := Pipeline.visit_eq stage q
  have shown : p.Underway before (Pipeline.firstTurn stage q).passage := underway.count _
  rw [left]
  exact (shown.result full).count change

theorem Underway.home (underway : p.Underway before q)
    (granted : ∃ turn ∈ before, turn.Granted) :
    q.request.session = some p.home.session ∧ (q.site.live? p.home.session).isSome := by
  obtain ⟨own, -, -, entry, live⟩ := (underway.granted granted).1.home
  rw [← underway.steady.session]
  exact ⟨own, by rw [live]; rfl⟩

end Passage

namespace Pipeline

variable {p : Passage}

theorem underway_turns (full : p.site.sessions.backing = .full)
    (stages : List (Stage BuiltinFilter)) :
    p.Underway (turnsOver stages p) (runStages stages p).passage ∧
      ∀ earlier turn later, turnsOver stages p = earlier ++ turn :: later →
        p.Underway earlier turn.passage := by
  have step : ∀ stage before q, p.Underway before q →
      p.Underway (before ++ [firstTurn stage q]) (visit stage q).2 := fun stage _ _ underway =>
    underway.visit full stage
  obtain ⟨after, during⟩ := forall_turns step stages [] p.underway_refl
  refine ⟨after, fun earlier turn later h => ?_⟩
  obtain ⟨q, shown, underway⟩ := during earlier turn later h
  rw [shown]
  exact underway.count _

theorem steady_run (full : p.site.sessions.backing = .full) (stages : List (Stage BuiltinFilter)) :
    p.Steady (runStages stages p).passage :=
  (underway_turns full stages).1.steady

end Pipeline

end Gatehouse
