import Gatehouse.Proofs.Pipeline.RoundTrip

/-!
# Screens around a guard

A screen only looks at a request, and a guard leaves the parameters as they are. So a guard with
screens before and behind it lets a request pass just if the guard and a screen would each do so by
itself, and leaves what the guard alone leaves. Where the guard stands matters only to requests that
are rejected, and to the counts (`Pipeline.run_of_reordered`).
-/

namespace Gatehouse

/-! ## What is counted on the way -/

/-- The passage without its counts. -/
def Passage.uncounted (p : Passage) : Passage := { p with site := p.site.count fun _ => .zero }

variable {g : Guard} {p q : Passage}

namespace Guard

variable {id : SessionId} {mark : Nat} {r : Request} {site : Site}

theorem windowIn_count (change : Tally → Tally) :
    g.windowIn id mark (site.count change) =
      ((g.windowIn id mark site).1, (g.windowIn id mark site).2.count change) := by
  have access : ∀ {α : Type} (site : Site) (run : Nat → Sessions → α × Sessions),
      (site.count change).access run =
        ((site.access run).1, (site.access run).2.count change) := fun _ _ => rfl
  simp only [windowIn_eq, access]
  cases (site.access (g.offerWindow id mark)).1 <;> rfl

theorem placeInOwn_count (change : Tally → Tally) :
    g.placeInOwn mark r (site.count change) =
      ((g.placeInOwn mark r site).1, (g.placeInOwn mark r site).2.count change) := by
  cases own : r.session with
  | none => rw [placeInOwn, placeInOwn, own]
  | some id => rw [placeInOwn_of_own own, placeInOwn_of_own own, windowIn_count]

theorem placeFor_count (change : Tally → Tally) :
    g.placeFor mark r (site.count change) =
      ((g.placeFor mark r site).1, (g.placeFor mark r site).2.1,
        (g.placeFor mark r site).2.2.count change) := by
  have counted : g.placeInOwn mark r (site.count change) = _ := placeInOwn_count change
  rcases found : g.placeInOwn mark r site with ⟨place | place, looked⟩
  · rw [found] at counted
    have opened : (looked.count change).openSession =
        (looked.openSession.1, looked.openSession.2.count change) := rfl
    rw [placeFor_of_gone found, placeFor_of_gone counted]
    simp only [opened, windowIn_count]
  · rw [found] at counted
    rw [placeFor, placeFor, found, counted]

theorem uncounted_issue (change : Tally → Tally) :
    (g.issue { p with site := p.site.count change }).uncounted = (g.issue p).uncounted := by
  have drawn : (p.site.count change).drawBlock.2 = p.site.drawBlock.2.count change := rfl
  simp only [issue_eq, drawn, placeFor_count]
  rfl

end Guard

theorem Passage.exists_count (same : q.uncounted = p.uncounted) :
    ∃ change, q = { p with site := p.site.count change } := by
  obtain ⟨request, links, sessions, now, supply, tally⟩ := q
  obtain ⟨rfl, rfl, site⟩ := Passage.mk.inj same
  obtain ⟨rfl, rfl, rfl, -⟩ := Site.mk.inj site
  exact ⟨fun _ => tally, rfl⟩

theorem Guard.pass_uncounted (same : q.uncounted = p.uncounted) :
    (g.pass q).1 = (g.pass p).1 ∧ (g.pass q).2.uncounted = (g.pass p).2.uncounted := by
  obtain ⟨change, rfl⟩ := Passage.exists_count same
  -- both passages are checked alike, and counted differently on the way
  let checked : Passage := { p with site := (p.site.access (g.check p.request)).2 }
  have issued (label : DecisionLabel) :
      (g.issue { checked with site := checked.site.count ((·.decide label) ∘ change) }).uncounted =
        (g.issue { checked with site := checked.site.count (·.decide label) }).uncounted :=
    (uncounted_issue _).trans (uncounted_issue _).symm
  have reading : g.reading p.request (p.site.count change).live? =
      g.reading p.request p.site.live? := rfl
  rw [pass_eq, pass_eq]
  simp only [reading]
  cases g.reading p.request p.site.live? with
  | rejected refusal => exact ⟨rfl, rfl⟩
  | entry => exact ⟨rfl, issued .entry⟩
  | accepted => exact ⟨rfl, issued .accepted⟩

namespace Pipeline

variable {stage : Stage BuiltinFilter} {stages rest : List (Stage BuiltinFilter)}

/-! ## One stage -/

/-- There is a screen among the stages. -/
def Screened (stages : List (Stage BuiltinFilter)) : Prop :=
  ∃ stage ∈ stages, ∃ s, stage.filter = .screen s

theorem screened_iff_of_screen {s : Screen} (filter : stage.filter = .screen s)
    (rest : List (Stage BuiltinFilter)) {readable : Prop} :
    (readable ∨ ¬ Screened (stage :: rest)) ↔ readable :=
  or_iff_left (not_not_intro ⟨stage, List.mem_cons_self, s, filter⟩)

theorem screened_cons_guard (filter : stage.filter = .guard g) :
    Screened (stage :: rest) ↔ Screened rest := by
  simp [Screened, filter]

/-- Stages let a passage proceed on a condition, and leave then what is known but for the counts. -/
structure Settles (stages : List (Stage BuiltinFilter)) (p : Passage) (condition : Prop)
    (left : Passage) : Prop where
  proceeds : (runStages stages p).outcome = .proceed ↔ condition
  left : (runStages stages p).outcome = .proceed →
    (runStages stages p).passage.uncounted = left.uncounted

variable {condition : Prop} {left : Passage}

theorem settles_of_reject {status : Nat} {reason : String}
    (rejects : (firstTurn stage p).result.1 = .reject status reason) (fails : ¬ condition) :
    Settles (stage :: rest) p condition left := by
  have halted : (runStages (stage :: rest) p).outcome = .halted stage.rule.filter status reason :=
    congrArg Run.outcome (runStages_of_reject rejects)
  refine ⟨?_, fun proceeds => ?_⟩
  · rw [halted]
    exact ⟨nofun, fun holds => (fails holds).elim⟩
  · rw [halted] at proceeds
    cases proceeds

theorem settles_of_proceed (proceeds : (firstTurn stage p).result.1 = .proceed)
    (settles : Settles rest (firstTurn stage p).result.2 condition left) :
    Settles (stage :: rest) p condition left := by
  have run : runStages (stage :: rest) p = _ := runStages_of_proceed proceeds
  refine ⟨?_, ?_⟩
  · rw [run]
    exact settles.proceeds
  · rw [run]
    exact settles.left

theorem settles_screen {s : Screen} (filter : stage.filter = .screen s)
    (settles : Settles rest (firstTurn stage p).passage condition left) :
    Settles (stage :: rest) p (p.request.paramsFailed = false ∧ condition) left := by
  have turn := firstTurn_screen filter p
  cases failed : p.request.paramsFailed with
  | true =>
    rw [failed, if_pos rfl] at turn
    exact settles_of_reject (congrArg Prod.fst turn) (by simp)
  | false =>
    rw [failed, if_neg Bool.false_ne_true] at turn
    refine settles_of_proceed (congrArg Prod.fst turn) ?_
    rw [turn]
    exact ⟨settles.proceeds.trans (and_iff_right rfl).symm, settles.left⟩

/-! ## All stages -/

theorem settles_screens (none : guardsOf stages = []) (p : Passage) :
    Settles stages p (p.request.paramsFailed = false ∨ ¬ Screened stages) p := by
  induction stages generalizing p with
  | nil => exact ⟨iff_of_true rfl (.inr (by simp [Screened])), fun _ => rfl⟩
  | cons stage rest ih =>
    cases filter : stage.filter with
    | guard g =>
      rw [guardsOf_guard filter] at none
      cases none
    | screen s =>
      rw [guardsOf_screen filter] at none
      have settles := settles_screen filter (ih none (firstTurn stage p).passage)
      rw [screened_iff_of_screen filter rest]
      exact ⟨settles.proceeds.trans (and_iff_left_of_imp .inl), settles.left⟩

/-- A guard among screens lets pass what it and they would each let pass, and leaves what it would
leave by itself. -/
theorem settles_lone (alone : guardsOf stages = [g]) (p : Passage) :
    Settles stages p
      ((p.request.paramsFailed = false ∨ ¬ Screened stages) ∧ (g.pass p).1 = .proceed)
      (g.pass p).2 := by
  induction stages generalizing p with
  | nil => cases alone
  | cons stage rest ih =>
    have counted : (g.pass (firstTurn stage p).passage).1 = (g.pass p).1 ∧
        (g.pass (firstTurn stage p).passage).2.uncounted = (g.pass p).2.uncounted :=
      Guard.pass_uncounted rfl
    cases filter : stage.filter with
    | guard g' =>
      rw [guardsOf_guard filter] at alone
      obtain ⟨rfl, none⟩ := List.cons.inj alone
      have turn := firstTurn_guard filter p
      cases verdict : (g'.pass p).1 with
      | reject status reason =>
        rw [← turn, verdict] at counted
        exact settles_of_reject counted.1 (by simp)
      | proceed =>
        -- the guard leaves the parameters to the screens behind it as they are
        obtain ⟨session, created, same⟩ := g'.resembles_pass (firstTurn stage p).passage
        have kept : (g'.pass (firstTurn stage p).passage).2.request.paramsFailed =
            p.request.paramsFailed := by
          rw [same]
          rfl
        rw [← turn] at counted kept
        rw [verdict] at counted
        have later := settles_screens none (firstTurn stage p).result.2
        refine settles_of_proceed counted.1 ⟨?_, fun proceeds => ?_⟩
        · rw [later.proceeds, kept, screened_cons_guard filter]
          simp
        · rw [later.left proceeds, counted.2]
    | screen s =>
      rw [guardsOf_screen filter] at alone
      have settles := settles_screen filter (ih alone (firstTurn stage p).passage)
      rw [counted.1, ← and_assoc] at settles
      rw [screened_iff_of_screen filter rest]
      refine ⟨settles.proceeds.trans (and_congr_left' (and_iff_left_of_imp .inl)), ?_⟩
      exact fun proceeds => (settles.left proceeds).trans counted.2

theorem guardsOf_perm {stages' : List (Stage BuiltinFilter)} (reordered : stages.Perm stages') :
    (guardsOf stages).Perm (guardsOf stages') :=
  (reordered.map _).filterMap _

/-- **Where a guard stands among screens does not matter to the requests that proceed.** They
proceed if the guard does not reject them, and no screen finds their parameters unread; and then
they leave the same request, links, sessions and supply behind. -/
theorem run_of_reordered {pipeline pipeline' : Pipeline BuiltinFilter}
    (alone : pipeline.guardsFor p.request = [g])
    (reordered : (pipeline.stagesFor p.request).Perm (pipeline'.stagesFor p.request))
    (servlets : pipeline'.servlets = pipeline.servlets) :
    ((pipeline.run p).outcome = .proceed ↔
        (p.request.paramsFailed = false ∨ ¬ Screened (pipeline.stagesFor p.request)) ∧
          ∀ refusal, (g.check p.request p.site.now p.site.sessions).1 ≠ .rejected refusal) ∧
      ((pipeline'.run p).outcome = .proceed ↔ (pipeline.run p).outcome = .proceed) ∧
      ((pipeline.run p).outcome = .proceed →
        (pipeline'.run p).passage.uncounted = (pipeline.run p).passage.uncounted) := by
  have entering : pipeline'.entering p = pipeline.entering p := by
    rw [Pipeline.entering, Pipeline.entering, servletOf, servletOf, servlets]
  have run : pipeline'.run p = runStages (pipeline'.stagesFor p.request) (pipeline.entering p) :=
    entering ▸ rfl
  have alone' : pipeline'.guardsFor p.request = [g] := by
    have guards := guardsOf_perm reordered
    rw [show guardsOf (pipeline.stagesFor p.request) = [g] from alone] at guards
    exact (List.singleton_perm.1 guards).symm
  have screened : Screened (pipeline'.stagesFor p.request) ↔
      Screened (pipeline.stagesFor p.request) := by
    simp only [Screened, reordered.mem_iff]
  have passes : (g.pass (pipeline.entering p)).1 = .proceed ↔
      ∀ refusal, (g.check p.request p.site.now p.site.sessions).1 ≠ .rejected refusal := by
    rw [Guard.pass_proceed_iff, Guard.check_eq_reading]
    rfl
  have settles := settles_lone alone (pipeline.entering p)
  have settles' := settles_lone alone' (pipeline.entering p)
  rw [passes] at settles settles'
  rw [screened] at settles'
  rw [run]
  refine ⟨settles.proceeds, settles'.proceeds.trans settles.proceeds.symm, fun proceeds => ?_⟩
  have proceeds' := settles'.proceeds.2 (settles.proceeds.1 proceeds)
  exact (settles'.left proceeds').trans (settles.left proceeds).symm

/-- A guard stands before two screens or behind them. It lets an entry in alike. What cannot be read
is rejected in either case, but the guard that comes first has begun a session for it. -/
theorem run_of_reordered_two_screens :
    let guard : Stage BuiltinFilter :=
      ⟨⟨"csrf", [.tree ""], [], false, false, .ofList []⟩, .guard ⟨{ entryPoints := ["/"] }⟩⟩
    let screen : Stage BuiltinFilter :=
      ⟨⟨"failed", [], [], true, false, .ofList []⟩, .screen {}⟩
    let filters : Registry String BuiltinFilter :=
      .ofList [("csrf", guard.filter), ("failed", screen.filter)]
    let first : Pipeline BuiltinFilter := ⟨filters, [guard, screen, screen], .empty⟩
    let last : Pipeline BuiltinFilter := ⟨filters, [screen, screen, guard], .empty⟩
    let supply : Supply := { handle := fun _ => ⟨"a"⟩, block := fun _ => .replicate 16 7 }
    let visit (failed : Bool) : Passage :=
      ⟨{ path := "/", paramsFailed := failed }, .plain, .start (.start .full 10) supply⟩
    (first.run (visit false)).outcome = .proceed ∧ (last.run (visit false)).outcome = .proceed ∧
      (last.run (visit false)).passage.uncounted = (first.run (visit false)).passage.uncounted ∧
      (first.run (visit true)).outcome ≠ .proceed ∧ (last.run (visit true)).outcome ≠ .proceed ∧
      (first.run (visit true)).passage.site.sessions.size = 1 ∧
      (last.run (visit true)).passage.site.sessions.size = 0 := by
  intro guard screen filters first last supply visit
  have proceeds : (first.run (visit false)).outcome = .proceed := by decide
  have applied : first.stagesFor (visit false).request = [guard, screen, screen] :=
    List.filter_eq_self.2 (by decide)
  have applied' : last.stagesFor (visit false).request = [screen, screen, guard] :=
    List.filter_eq_self.2 (by decide)
  have reordered : (first.stagesFor (visit false).request).Perm
      (last.stagesFor (visit false).request) := by
    rw [applied, applied']
    exact (List.perm_append_comm : ([guard] ++ [screen, screen]).Perm ([screen, screen] ++ [guard]))
  have alone : first.guardsFor (visit false).request = [⟨{ entryPoints := ["/"] }⟩] := by
    rw [guardsFor, applied]
    rfl
  have servlets : last.servlets = first.servlets := rfl
  obtain ⟨-, alike, left⟩ := run_of_reordered alone reordered servlets
  exact ⟨proceeds, alike.2 proceeds, left proceeds, by decide, by decide, by decide, by decide⟩

end Pipeline

end Gatehouse
