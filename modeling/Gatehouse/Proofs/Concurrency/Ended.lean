import Gatehouse.Proofs.Concurrency.Calls
import Gatehouse.Proofs.Guard.Place

/-!
# Sessions that have ended

Calls may be in flight when their session ends, and may have its window in hand. Still nothing that
they do brings the session back (`Site.Lost`): only the beginning of a session makes the store hold
one that it did not hold, and that goes by a handle never used before. A call that looks for its
window once the session has ended is refused; one that has hold of the window by then is judged by
that window (`Stage.Classed`), although no session holds it any longer.
-/

namespace Gatehouse

/-! ## A store without a session -/

/-- The store does not hold a session, not even an expired one. -/
def Store.Lacks (st : Store) (id : SessionId) : Prop := st.sessions.get? id = none

namespace Store

variable {st : Store} {id : SessionId}

theorem lacks_invalidate (st : Store) (id : SessionId) : (st.invalidate id).Lacks id := by
  simp [Lacks, invalidate]

theorem Lacks.live? (lacks : st.Lacks id) (now : Nat) : st.live? now id = none := by
  rw [Store.live?, show st.sessions.get? id = none from lacks]
  rfl

theorem Lacks.invalidate (lacks : st.Lacks id) (id' : SessionId) :
    (st.invalidate id').Lacks id := by
  rw [Lacks, Store.invalidate, Registry.get?_erase]
  split
  · rfl
  · exact lacks

theorem Lacks.update (lacks : st.Lacks id) {id' : SessionId} (other : id ≠ id')
    (entry : SessionEntry) : (st.update id' entry).Lacks id := by
  rw [Lacks, Store.update, Registry.get?_put, if_neg other]
  exact lacks

theorem touch_of_lacks (lacks : st.Lacks id) (now : Nat) : st.touch now id = (none, st) :=
  touch_of_absent lacks now

theorem Lacks.touch (lacks : st.Lacks id) (now : Nat) (id' : SessionId) :
    (st.touch now id').2.Lacks id := by
  by_cases same : id = id'
  · rw [← same, touch_of_lacks lacks]
    exact lacks
  · unfold Store.touch
    split
    · exact lacks
    · split
      · exact lacks.invalidate id'
      · exact lacks.update same _

theorem Lacks.touches (lacks : st.Lacks id) {now : Nat} {id' : SessionId} {st' : Store}
    (touches : st.Touches now id' st') : st'.Lacks id := by
  have touched := lacks.touch now id'
  cases touches with
  | visited => exact touched
  | changed found entry =>
    -- no entry of the lost session is found to be replaced
    have other : id ≠ id' := by
      rintro rfl
      rw [touch_of_lacks lacks] at found
      cases found
    exact touched.update other entry

theorem Lacks.purge (lacks : st.Lacks id) (now : Nat) : (st.purge now).2.Lacks id := by
  simp [Lacks, Store.purge, show st.sessions.get? id = none from lacks]

theorem Lacks.addToken (lacks : st.Lacks id) (id' : SessionId) (key : String) (mark : Nat)
    (token : String) : (st.addToken id' key mark token).Lacks id := by
  unfold Store.addToken
  split
  · exact lacks
  · next entry held =>
    have other : id ≠ id' := by
      rintro rfl
      exact nomatch held.symm.trans lacks
    split
    · split
      · exact lacks.update other _
      · exact lacks
    · exact lacks

end Store

/-! ## A site that has lost a session -/

/-- A session is held no longer, and will not be begun again. -/
structure Site.Lost (site : Site) (id : SessionId) : Prop where
  lacks : site.sessions.store.Lacks id
  fresh : ∀ n, site.supply.handlesDrawn ≤ n → site.supply.handle n ≠ id

namespace Site

variable {site : Site} {id : SessionId}

theorem Lost.access {α : Type} (lost : site.Lost id) {run : Nat → Sessions → α × Sessions}
    (lacks : (run site.now site.sessions).2.store.Lacks id) : (site.access run).2.Lost id :=
  ⟨lacks, lost.fresh⟩

theorem Lost.offerWindow (lost : site.Lost id) (g : Guard) (id' : SessionId) (mark : Nat) :
    (site.access (g.offerWindow id' mark)).2.Lost id := by
  refine lost.access ?_
  rw [Guard.offerWindow_snd, Sessions.getOrInsert_eq]
  exact lost.lacks.touches (Store.getOrInsert_touches ..)

theorem Lost.openSession (lost : site.Lost id) : site.openSession.2.Lost id := by
  have other : id ≠ site.supply.handle site.supply.handlesDrawn :=
    (lost.fresh _ (Nat.le_refl _)).symm
  refine ⟨?_, fun n drawn => lost.fresh n (Nat.le_of_succ_le drawn)⟩
  simp only [Site.openSession, Sessions.create]
  have created := lost.lacks.update other ⟨.empty, site.now⟩
  split
  · exact created.invalidate _
  · exact created

end Site

namespace Guard

variable {id : SessionId} {call : Call} {commons : Commons} {scene : Scene}

theorem Call.lost_step (call : Call) (lost : commons.site.Lost id) :
    (call.step commons).2.site.Lost id := by
  have classed : ∀ (commons : Commons) (decision : Decision), commons.site.Lost id →
      (call.classed decision commons).2.site.Lost id := fun _ _ lost => ⟨lost.lacks, lost.fresh⟩
  cases at_ : call.stage with
  | arrived =>
    simp only [Call.step, at_]
    split
    · exact classed _ _ lost
    · split
      · exact classed _ _ lost
      · next id' _ =>
        have looked : (commons.site.access fun now s => s.get now id' windowKey).2.Lost id :=
          lost.access (lost.lacks.touch commons.site.now id')
        unfold Call.look
        split
        · exact looked
        · exact classed _ _ looked
  | holding place window seen =>
    simp only [Call.step, at_]
    exact classed _ _ lost
  | cleared =>
    simp only [Call.step, at_]
    exact ⟨lost.lacks, lost.fresh⟩
  | offering ticket id' own =>
    simp only [Call.step, at_]
    exact lost.offerWindow call.guard id' ticket.mark
  | replacing ticket id' own =>
    simp only [Call.step, at_]
    exact lost.access (lost.lacks.touches (Store.set_touches ..))
  | opening ticket =>
    simp only [Call.step, at_]
    exact lost.openSession
  | entering ticket place =>
    simp only [Call.step, at_]
    cases place with
    | none => exact ⟨lost.lacks, lost.fresh⟩
    | some place => exact ⟨lost.lacks.addToken .., lost.fresh⟩
  | passed ticket place | refused refusal =>
    simp only [Call.step, at_]
    exact lost

theorem Scene.lost_apply (lost : scene.site.Lost id) (move : Move) :
    (scene.apply move).site.Lost id := by
  cases move with
  | step index =>
    simp only [Scene.apply, Scene.stepAt]
    split
    · exact lost
    · next call _ => exact call.lost_step lost
  | elapse milliseconds => exact ⟨lost.lacks, lost.fresh⟩
  | purge =>
    have purged : (scene.site.sessions.purge scene.site.now).2.store.Lacks id := by
      unfold Sessions.purge
      split
      · exact lost.lacks.purge scene.site.now
      · exact lost.lacks
    exact ⟨purged, lost.fresh⟩
  | create => exact lost.openSession
  | invalidate id' => exact ⟨lost.lacks.invalidate id', lost.fresh⟩
  | write id' key value => exact ⟨lost.lacks.touches (Store.set_touches ..), lost.fresh⟩

theorem Scene.lost_run (lost : scene.site.Lost id) (moves : List Move) :
    (scene.run moves).site.Lost id := by
  induction moves generalizing scene with
  | nil => exact lost
  | cons move rest ih => exact ih (scene.lost_apply lost move)

/-! ## Calls that are checked -/

/-- The stages of a call that has passed its check. -/
def Stage.Cleared : Stage → Prop
  | .arrived | .holding .. | .refused _ => False
  | _ => True

/-- The stages of a call whose check has classed it. -/
def Stage.Classed (stage : Stage) : Decision → Prop
  | .rejected refusal => stage = .refused refusal
  | .entry | .accepted => stage.Cleared

theorem Call.classed_fst (call : Call) (decision : Decision) (commons : Commons) :
    (call.classed decision commons).1.stage.Classed decision := by
  cases decision with
  | entry | accepted => trivial
  | rejected refusal => rfl

theorem Ticket.cleared_missed (ticket : Ticket) (own : Bool) : (ticket.missed own).Cleared := by
  cases own <;> trivial

theorem Call.cleared_step {call : Call} (cleared : call.stage.Cleared) (commons : Commons) :
    (call.step commons).1.stage.Cleared := by
  cases at_ : call.stage with
  | arrived | holding place window seen | refused refusal =>
    rw [at_] at cleared
    exact cleared.elim
  | cleared =>
    simp only [Call.step, at_, Call.inStage]
    unfold Ticket.start
    split <;> trivial
  | offering ticket id own =>
    simp only [Call.step, at_, Call.inStage]
    unfold Ticket.onOffer
    split
    · exact ticket.cleared_missed own
    · trivial
    · trivial
  | replacing ticket id own =>
    simp only [Call.step, at_, Call.inStage]
    unfold Ticket.onReplace
    split
    · trivial
    · exact ticket.cleared_missed own
  | opening ticket | entering ticket place | passed ticket place =>
    simp only [Call.step, at_]
    trivial

theorem Call.classed_step {call : Call} {decision : Decision}
    (classed : call.stage.Classed decision) (commons : Commons) :
    (call.step commons).1.stage.Classed decision := by
  cases decision with
  | entry | accepted => exact cleared_step classed commons
  | rejected refusal =>
    have refused : call.stage = .refused refusal := classed
    rw [Call.step, refused]
    exact refused

theorem Scene.classed_run (scene : Scene) (moves : List Move) {index : Nat} {decision : Decision}
    (classed : ∃ call, scene.calls[index]? = some call ∧ call.stage.Classed decision) :
    ∃ call, (scene.run moves).calls[index]? = some call ∧ call.stage.Classed decision := by
  induction moves generalizing scene with
  | nil => exact classed
  | cons move rest ih =>
    obtain ⟨call, here, classed⟩ := classed
    have there := scene.getElem?_apply move index
    rw [here] at there
    split at there
    · exact ih _ ⟨_, there, call.classed_step classed scene.commons⟩
    · exact ih _ ⟨call, there, classed⟩

theorem Scene.classed_of_step (scene : Scene) {earlier later : List Move} {index : Nat}
    {call : Call} {decision : Decision} (rests : .step index ∉ earlier)
    (here : scene.calls[index]? = some call)
    (classed : (call.step (scene.run earlier).commons).1.stage.Classed decision) :
    ∃ call', (scene.run (earlier ++ .step index :: later)).calls[index]? = some call' ∧
      call'.stage.Classed decision := by
  have before := (Scene.getElem?_run_of_notMem rests).trans here
  have stepped := (scene.run earlier).getElem?_apply (.step index) index
  rw [if_pos rfl, before] at stepped
  rw [Scene.run_append]
  exact Scene.classed_run _ later ⟨_, stepped, classed⟩

theorem Call.classed_of_holding {call : Call} {place : Place} {window : Window} {seen : Nat}
    (holding : call.stage = .holding place window seen) (commons : Commons) :
    (call.step commons).1.stage.Classed
      (judge (some (place.grown window (commons.entered.drop seen)))
        (call.request.parameter? call.guard.options.parameter)) := by
  simp only [Call.step, holding]
  exact call.classed_fst _ commons

/-! ## Requests with a lost session -/

theorem Call.classed_of_lost {call : Call} (lost : commons.site.Lost id)
    (session : call.request.session = some id) (notEntry : call.guard.isEntry call.request = false)
    (arrived : call.stage = .arrived) :
    (call.step commons).1.stage.Classed (.rejected .noWindow) := by
  have found : (commons.site.sessions.store.get commons.site.now id windowKey).1 = none := by
    rw [Store.get_fst, lost.lacks.live?]
    rfl
  have nothing : (commons.site.access fun now s => s.get now id windowKey).1 = none := found
  simp only [Call.step, arrived, session, notEntry, nothing]
  rfl

theorem check_of_lost {site : Site} (lost : site.Lost id) (g : Guard) {r : Request}
    (session : r.session = some id) :
    (g.check r site.now site.sessions).1 =
      if g.isEntry r then .entry else .rejected .noWindow := by
  rw [check_fst, reading, session]
  simp only [lost.lacks.live?]
  rfl

/-- **A session that has ended never comes back.** Whatever calls are in flight when it ends, and
whatever they and others do from then on, the session is not held, and a check that looks for its
window from then on refuses the request, also if it carries a nonce that a call in flight issues. A
check that has hold of the window by then is judged by that window and by what calls in flight have
entered into it. -/
theorem Scene.ended_never_returns (scene : Scene) (id : SessionId) (moves : List Move)
    (fresh : ∀ n, scene.site.supply.handlesDrawn ≤ n → scene.site.supply.handle n ≠ id) :
    let ended := scene.apply (.invalidate id)
    let after := ended.run moves
    after.site.sessions.store.sessions.contains id = false ∧
      (after.site.access fun now s => s.isLive now id).1 = false ∧
      (∀ (g : Guard) (r : Request), r.session = some id → g.isEntry r = false →
        (g.check r after.site.now after.site.sessions).1 = .rejected .noWindow) ∧
      (∀ (index : Nat) (call : Call), scene.calls[index]? = some call →
        call.request.session = some id → call.guard.isEntry call.request = false →
        call.stage = .arrived →
        ∃ call' : Call, after.calls[index]? = some call' ∧
          call'.stage = if .step index ∈ moves then .refused .noWindow else .arrived) ∧
      ∀ (index : Nat) (call : Call) (place : Place) (window : Window) (seen : Nat),
        scene.calls[index]? = some call → call.stage = .holding place window seen →
        (.step index ∉ moves → after.calls[index]? = some call) ∧
          ∀ earlier later, moves = earlier ++ .step index :: later → .step index ∉ earlier →
            ∃ call' : Call, after.calls[index]? = some call' ∧
              call'.stage.Classed (judge
                (some (place.grown window ((ended.run earlier).commons.entered.drop seen)))
                (call.request.parameter? call.guard.options.parameter)) := by
  intro ended after
  have lost : ∀ moves, (ended.run moves).site.Lost id := Scene.lost_run
    ⟨Store.lacks_invalidate scene.site.sessions.store id, fresh⟩
  refine ⟨?_, ?_, ?_, ?_, ?_⟩
  · rw [Registry.contains,
      show after.site.sessions.store.sessions.get? id = none from (lost moves).lacks]
    rfl
  · have answer : (after.site.sessions.store.isLive after.site.now id).1 = false := by
      rw [Store.isLive_fst, (lost moves).lacks.live?]
      rfl
    exact answer
  · intro g r session notEntry
    rw [check_of_lost (lost moves) g session, if_neg (by simp [notEntry])]
  · intro index call here session notEntry arrived
    by_cases steps : .step index ∈ moves
    · -- the first step of the call finds the session gone
      obtain ⟨earlier, later, rfl, rests⟩ := List.eq_append_cons_of_mem steps
      have refused := Call.classed_of_lost (lost earlier) session notEntry arrived
      rw [if_pos steps]
      exact ended.classed_of_step rests here refused
    · rw [if_neg steps]
      exact ⟨call, (Scene.getElem?_run_of_notMem steps).trans here, arrived⟩
  · intro index call place window seen here holding
    refine ⟨fun rests => (Scene.getElem?_run_of_notMem rests).trans here, ?_⟩
    rintro earlier later rfl rests
    exact ended.classed_of_step rests here
      (Call.classed_of_holding holding (ended.run earlier).commons)

/-- A session ends while two payments have hold of its window, one with a nonce that was entered
before and one with a nonce that a visitor has yet to enter. Both are accepted, and let past into
other sessions. -/
theorem Scene.straddling_payments_accepted :
    let g : Guard := ⟨{ entryPoints := ["/"] }⟩
    let supply : Supply :=
      { handle := fun n => ⟨if n = 0 then "b" else "c"⟩, block := fun n => .replicate 16 n.toUInt8 }
    let token (n : Nat) : String := (supply.block n).token
    let a : SessionId := ⟨"a"⟩
    let site : Site := .start ((Sessions.start .full 10).create 0 a) supply
    let enter : Call := ⟨g, { path := "/", session := some a }, .plain, .arrived⟩
    let paying (nonce : String) : Request :=
      { method := "POST", path := "/pay", session := some a, params := [("csrfToken", nonce)] }
    let pay (nonce : String) : Call := ⟨g, paying nonce, .plain, .arrived⟩
    let start : Scene := .start [enter, enter, pay (token 0), pay (token 1)] site
    let scene := start.run [.step 0, .step 0, .step 0, .step 0, .step 1, .step 1, .step 1,
      .step 2, .step 3]
    let window := g.freshWindow.add (token 0)
    let ended := scene.apply (.invalidate a)
    let judged := ended.run [.step 2, .step 1, .step 3]
    let after := judged.run
      [.step 2, .step 2, .step 2, .step 2, .step 2, .step 3, .step 3, .step 3, .step 3, .step 3]
    (∀ n, scene.site.supply.handlesDrawn ≤ n → scene.site.supply.handle n ≠ a) ∧
      (g.isEntry (paying (token 0)) = false ∧ g.isEntry (paying (token 1)) = false) ∧
      scene.calls.map Call.stage = [.passed ⟨0, token 0⟩ (some ⟨a, 0⟩),
        .entering ⟨1, token 1⟩ (some ⟨a, 0⟩), .holding ⟨a, 0⟩ window 1, .holding ⟨a, 0⟩ window 1] ∧
      scene.commons.entered = [(⟨a, 0⟩, token 0)] ∧
      ended.site.sessions.store.sessions.contains a = false ∧
      judged.calls.map Call.stage = [.passed ⟨0, token 0⟩ (some ⟨a, 0⟩),
        .passed ⟨1, token 1⟩ (some ⟨a, 0⟩), .cleared, .cleared] ∧
      after.calls.map Call.verdict? = [some .proceed, some .proceed, some .proceed, some .proceed] ∧
      after.site.sessions.store.sessions.contains a = false := by
  intro g supply token a site enter paying pay start scene window ended judged after
  have fresh : ∀ n, scene.site.supply.handlesDrawn ≤ n → scene.site.supply.handle n ≠ a := by
    intro n _
    simp only [scene, Scene.handle_run]
    change supply.handle n ≠ a
    simp only [supply, a]
    split <;> decide
  refine ⟨fresh, by decide +kernel, by decide +kernel, by decide +kernel, by decide +kernel,
    by decide +kernel, by decide +kernel, by decide +kernel⟩

/-- A session ends after a payment has found its window, before another looks for it, and while a
visitor is about to replace what the session holds by then. The visitor is let past into another
session, the first payment is judged by the window that it found, and the second is refused. -/
theorem Scene.ended_never_returns_replacing :
    let g : Guard := ⟨{ entryPoints := ["/"] }⟩
    let supply : Supply :=
      { handle := fun n => ⟨if n = 0 then "b" else "c"⟩, block := fun n => .replicate 16 n.toUInt8 }
    let token : String := (supply.block 0).token
    let a : SessionId := ⟨"a"⟩
    let sessions :=
      ((Sessions.start .full 10).create 0 a).set 0 a windowKey (.nonces 7 g.freshWindow)
    let enter : Call := ⟨g, { path := "/", session := some a }, .plain, .arrived⟩
    let paying : Request :=
      { method := "POST", path := "/pay", session := some a, params := [("csrfToken", token)] }
    let pay : Call := ⟨g, paying, .plain, .arrived⟩
    let start : Scene := .start [enter, pay, pay] (.start sessions.2 supply)
    let scene := start.run
      [.step 1, .write a windowKey (.text "taken"), .step 0, .step 0, .step 0]
    let held : Call := pay.inStage (.holding ⟨a, 7⟩ g.freshWindow 0)
    let earlier : List Move := [.step 0, .step 0, .step 0, .step 0]
    let after := (scene.apply (.invalidate a)).run (earlier ++ [.step 1, .step 2])
    (∀ n, scene.site.supply.handlesDrawn ≤ n → scene.site.supply.handle n ≠ a) ∧
      scene.calls = [enter.inStage (.replacing ⟨0, token⟩ a true), held, pay] ∧
      after.calls[0]?.bind Call.verdict? = some .proceed ∧
      after.site.sessions.store.sessions.contains a = false ∧
      (g.check paying after.site.now after.site.sessions).1 = .rejected .noWindow ∧
      (∃ early, after.calls[1]? = some early ∧ early.stage = .refused .unknownNonce) ∧
      ∃ late, after.calls[2]? = some late ∧ late.stage = .refused .noWindow := by
  intro g supply token a sessions enter paying pay start scene held earlier
  have fresh : ∀ n, scene.site.supply.handlesDrawn ≤ n → scene.site.supply.handle n ≠ a := by
    intro n _
    simp only [scene, Scene.handle_run]
    change supply.handle n ≠ a
    simp only [supply, a]
    split <;> decide
  obtain ⟨gone, -, rejected, late, early⟩ :=
    Scene.ended_never_returns scene a (earlier ++ [.step 1, .step 2]) fresh
  refine ⟨fresh, by decide +kernel, by decide +kernel, gone,
    rejected g paying rfl (by decide +kernel), ?_, ?_⟩
  · have unknown : judge (some (Place.grown ⟨a, 7⟩ g.freshWindow
        (((scene.apply (.invalidate a)).run earlier).commons.entered.drop 0)))
        (held.request.parameter? held.guard.options.parameter) = .rejected .unknownNonce := by
      decide +kernel
    have judged := (early 1 held ⟨a, 7⟩ g.freshWindow 0 (by decide +kernel) rfl).2 earlier [.step 2]
      rfl (by decide +kernel)
    rw [unknown] at judged
    exact judged
  · exact late 2 pay (by decide +kernel) rfl (by decide +kernel) rfl

end Guard

end Gatehouse
