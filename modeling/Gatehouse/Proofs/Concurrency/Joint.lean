import Gatehouse.Proofs.Concurrency.Calls
import Gatehouse.Proofs.Guard.Place

/-!
# Calls that share a session

While a session lives and nobody else meddles with its window, all calls of a guard that carry it
meet at one window, however their steps are mixed, and none of them begins a session
(`Scene.Joint`). So the window takes the token of every call that passes, in the order in which
the tokens are entered.
-/

namespace Gatehouse

/-! ## The window of a live session -/

/-- A session is live, and holds a window with its mark, or nothing in the place of a window. -/
def Site.HoldsWindow (site : Site) (id : SessionId) (held : Option (Nat × Window)) : Prop :=
  ∃ entry, site.live? id = some entry ∧
    entry.attributes.get? Guard.windowKey = held.map fun h => .nonces h.1 h.2

namespace Site

variable {site site' : Site} {id id' : SessionId} {held : Option (Nat × Window)} {mark : Nat}

theorem HoldsWindow.other {entry : Option SessionEntry} (holds : site.HoldsWindow id held)
    (becomes : site.Becomes id' entry site') (h : id ≠ id') : site'.HoldsWindow id held := by
  obtain ⟨entry, live, holds⟩ := holds
  exact ⟨entry, (becomes.other h).trans live, holds⟩

theorem HoldsWindow.visited {session : Option SessionId} (holds : site.HoldsWindow id held)
    (visited : site.Visited session site') : site'.HoldsWindow id held := by
  obtain ⟨entry, live, holds⟩ := holds
  have live' := visited.live? id
  rw [live] at live'
  split at live'
  · exact ⟨_, live', holds⟩
  · exact ⟨entry, live', holds⟩

theorem HoldsWindow.offered (holds : site.HoldsWindow id held)
    (full : site.sessions.backing = .full) (g : Guard) (mark : Nat) :
    (site.access (g.offerWindow id mark)).1 = .held (held.getD (mark, g.freshWindow)).1 ∧
      (site.access (g.offerWindow id mark)).2.HoldsWindow id
        (some (held.getD (mark, g.freshWindow))) := by
  obtain ⟨entry, live, holds⟩ := holds
  have answer : (site.access (g.offerWindow id mark)).1 = _ :=
    Guard.offerWindow_fst full id mark site.now
  have becomes := Guard.offerWindow_becomes (g := g) full id mark
  have found : entry.getD Guard.windowKey (.nonces mark g.freshWindow) =
      .nonces (held.getD (mark, g.freshWindow)).1 (held.getD (mark, g.freshWindow)).2 := by
    rw [SessionEntry.getD, holds]
    cases held <;> rfl
  rw [show site.sessions.store.live? site.now id = some entry from live, Option.map_some,
    found] at answer
  refine ⟨answer,
    (entry.accessed site.now).ensure Guard.windowKey (.nonces mark g.freshWindow), ?_, ?_⟩
  · rw [becomes.self, live]
    rfl
  · rw [SessionEntry.get?_attributes_ensure, if_pos rfl]
    exact congrArg some found

theorem HoldsWindow.recorded {window : Window} (holds : site.HoldsWindow id (some (mark, window)))
    (token : String) :
    Site.HoldsWindow { site with sessions := Guard.record (some ⟨id, mark⟩) token site.sessions }
      id (some (mark, window.add token)) := by
  obtain ⟨entry, live, holds⟩ := holds
  have becomes := Store.addToken_becomes site.sessions.store site.now id Guard.windowKey mark token
  have entered : entry.enter Guard.windowKey mark token =
      entry.put Guard.windowKey (.nonces mark (window.add token)) := by
    simp [SessionEntry.enter, holds]
  refine ⟨entry.put Guard.windowKey (.nonces mark (window.add token)), ?_, ?_⟩
  · rw [show site.sessions.store.live? site.now id = some entry from live, Option.map_some,
      entered] at becomes
    exact becomes.self
  · simp

theorem HoldsWindow.elapsed (holds : site.HoldsWindow id held) {milliseconds : Nat}
    (lives : ((site.elapse milliseconds).live? id).isSome) :
    (site.elapse milliseconds).HoldsWindow id held := by
  obtain ⟨entry, live, holds⟩ := holds
  obtain ⟨entry', live'⟩ := Option.isSome_iff_exists.1 lives
  have later : site.now ≤ (site.elapse milliseconds).now := Nat.le_add_right ..
  have before := live'
  rw [Site.live?, Store.live?_later later, Option.filter_eq_some_iff] at before
  have same : entry' = entry := Option.some.inj (before.1.symm.trans live)
  exact ⟨entry, same ▸ live', holds⟩

theorem HoldsWindow.purged (holds : site.HoldsWindow id held) :
    (site.access fun now s => s.purge now).2.HoldsWindow id held := by
  obtain ⟨entry, live, holds⟩ := holds
  exact ⟨entry, (site.live?_purge id).trans live, holds⟩

theorem HoldsWindow.written (holds : site.HoldsWindow id held) {key : String} {value : Attribute}
    (aside : id' ≠ id ∨ key ≠ Guard.windowKey) :
    (site.access fun now s => s.set now id' key value).2.HoldsWindow id held := by
  have becomes : site.Becomes id'
      ((site.live? id').map fun entry => (entry.accessed site.now).put key value)
      (site.access fun now s => s.set now id' key value).2 :=
    ⟨rfl, rfl, Store.set_becomes ..⟩
  by_cases h : id = id'
  · subst h
    have otherKey : Guard.windowKey ≠ key := fun same => aside.elim (· rfl) (· same.symm)
    obtain ⟨entry, live, holds⟩ := holds
    refine ⟨(entry.accessed site.now).put key value, ?_, ?_⟩
    · rw [becomes.self, live]
      rfl
    · rw [SessionEntry.get?_attributes_put, if_neg otherKey]
      exact holds
  · exact holds.other becomes h

end Site

namespace Guard

/-- The tokens entered so far, oldest first. -/
def Commons.tokens (commons : Commons) : List String := commons.entered.map Prod.snd

/-! ## Calls at home -/

/-- The stages of a call that finds its own session live. Its place, once it has one, is that of the
one window of the session. -/
def Stage.AtHome (id : SessionId) (mark : Option Nat) : Stage → Prop
  | .arrived | .holding .. | .cleared | .refused _ => True
  | .offering _ id' own => id' = id ∧ own = true
  | .replacing .. | .opening _ => False
  | .entering _ place | .passed _ place => ∃ m, mark = some m ∧ place = some ⟨id, m⟩

/-- A call of a guard that carries a session, and finds it live. -/
structure Call.AtHome (g : Guard) (id : SessionId) (mark : Option Nat) (call : Call) : Prop where
  guard : call.guard = g
  session : call.request.session = some id
  stage : call.stage.AtHome id mark

/-- What calls of a guard that meet in a session share: the session holds the first window with
the tokens entered so far. If there is none yet, the first will be a fresh one. -/
structure Commons.Meets (g : Guard) (id : SessionId) (first : Window) (mark : Option Nat)
    (commons : Commons) : Prop where
  full : commons.site.sessions.backing = .full
  holds : commons.site.HoldsWindow id (mark.map (·, commons.tokens.foldl Window.add first))
  begin : mark = none → commons.entered = [] ∧ first = g.freshWindow

variable {g : Guard} {id : SessionId} {first : Window} {mark mark' : Option Nat} {call : Call}
  {commons : Commons}

theorem Stage.AtHome.mono {stage : Stage} (home : stage.AtHome id mark)
    (kept : ∀ m, mark = some m → mark' = some m) : stage.AtHome id mark' := by
  cases stage with
  | entering ticket place | passed ticket place =>
    obtain ⟨m, rfl, rfl⟩ := home
    exact ⟨m, kept m rfl, rfl⟩
  | _ => exact home

theorem Call.AtHome.mono (home : call.AtHome g id mark)
    (kept : ∀ m, mark = some m → mark' = some m) : call.AtHome g id mark' :=
  ⟨home.guard, home.session, home.stage.mono kept⟩

theorem Commons.Meets.withSite (meets : commons.Meets g id first mark) {site : Site}
    (full : site.sessions.backing = .full)
    (holds : ∀ held, commons.site.HoldsWindow id held → site.HoldsWindow id held) :
    Commons.Meets g id first mark { commons with site } :=
  ⟨full, holds _ meets.holds, meets.begin⟩

/-- What a step leaves of a call at home and of what it shares. -/
structure Call.Advances (g : Guard) (id : SessionId) (first : Window) (mark : Option Nat)
    (before : Call × Commons) (mark' : Option Nat) (after : Call × Commons) : Prop where
  kept : ∀ m, mark = some m → mark' = some m
  home : after.1.AtHome g id mark'
  meets : after.2.Meets g id first mark'
  handles : after.2.site.supply.handlesDrawn = before.2.site.supply.handlesDrawn
  tokens : ∃ new, after.2.tokens = before.2.tokens ++ new ∧
    after.1.token?.toList = before.1.token?.toList ++ new

theorem Call.advances_of_same {call' : Call} {commons' : Commons}
    (home : call'.AtHome g id mark) (meets : commons'.Meets g id first mark)
    (handles : commons'.site.supply.handlesDrawn = commons.site.supply.handlesDrawn)
    (entered : commons'.entered = commons.entered) (token : call'.token? = call.token?) :
    Call.Advances g id first mark (call, commons) mark (call', commons') :=
  ⟨fun _ h => h, home, meets, handles, [], by simp [Commons.tokens, entered], by simp [token]⟩

theorem Call.AtHome.classed (home : call.AtHome g id mark) (unfinished : call.token? = none)
    (meets : commons.Meets g id first mark) {site : Site} (full : site.sessions.backing = .full)
    (holds : ∀ held, commons.site.HoldsWindow id held → site.HoldsWindow id held)
    (supply : site.supply = commons.site.supply) (decision : Decision) :
    Call.Advances g id first mark (call, commons) mark
      (call.classed decision { commons with site }) := by
  refine advances_of_same ⟨home.guard, home.session, ?_⟩ (meets.withSite full holds)
    (congrArg Supply.handlesDrawn supply) rfl ?_
  · cases decision <;> trivial
  · rw [unfinished]
    cases decision <;> rfl

theorem Call.AtHome.step_arrived (home : call.AtHome g id mark) (arrived : call.stage = .arrived)
    (meets : commons.Meets g id first mark) :
    Call.Advances g id first mark (call, commons) mark (call.step commons) := by
  have unfinished : call.token? = none := by rw [Call.token?, arrived]
  simp only [Call.step, arrived, home.session]
  split
  · exact home.classed unfinished meets meets.full (fun _ h => h) rfl _
  · have looked : commons.site.Visited (some id)
        (commons.site.access fun now s => s.get now id windowKey).2 :=
      Site.Becomes.visited ⟨rfl, rfl, Store.get_becomes _ _ _ windowKey⟩
    have full := looked.backing.trans meets.full
    unfold Call.look
    split
    · exact advances_of_same ⟨home.guard, home.session, trivial⟩
        (meets.withSite full fun _ h => h.visited looked) rfl rfl unfinished.symm
    · exact home.classed unfinished meets full (fun _ h => h.visited looked) rfl _

theorem Commons.Meets.seat (meets : commons.Meets g id first mark) (bring : Nat) :
    (mark.map (·, commons.tokens.foldl Window.add first)).getD (bring, g.freshWindow) =
      (mark.getD bring, commons.tokens.foldl Window.add first) := by
  cases mark with
  | none =>
    obtain ⟨nothing, rfl⟩ := meets.begin rfl
    rw [Commons.tokens, nothing]
    rfl
  | some m => rfl

theorem Call.AtHome.step_offering (home : call.AtHome g id mark) {ticket : Ticket}
    {id' : SessionId} {own : Bool} (offering : call.stage = .offering ticket id' own)
    (meets : commons.Meets g id first mark) :
    ∃ mark', Call.Advances g id first mark (call, commons) mark' (call.step commons) := by
  obtain ⟨rfl, session, stage⟩ := home
  rw [offering] at stage
  obtain ⟨rfl, rfl⟩ := stage
  obtain ⟨answer, holds⟩ := meets.holds.offered meets.full call.guard ticket.mark
  rw [meets.seat] at answer holds
  refine ⟨some (mark.getD ticket.mark), ?_⟩
  simp only [Call.step, offering, answer]
  refine ⟨?_, ⟨rfl, session, _, rfl, rfl⟩, ⟨?_, holds, ?_⟩, rfl, [], ?_, ?_⟩
  · rintro m rfl
    rfl
  · exact (offerWindow_becomes meets.full ..).backing.trans meets.full
  · rintro ⟨⟩
  · exact (List.append_nil _).symm
  · simp [Call.token?, Call.inStage, Ticket.onOffer, offering]

theorem Call.AtHome.step_entering (home : call.AtHome g id mark) {ticket : Ticket}
    {place : Option Place} (entering : call.stage = .entering ticket place)
    (meets : commons.Meets g id first mark) :
    Call.Advances g id first mark (call, commons) mark (call.step commons) := by
  obtain ⟨rfl, session, stage⟩ := home
  rw [entering] at stage
  obtain ⟨m, rfl, rfl⟩ := stage
  have holds := meets.holds.recorded ticket.token
  simp only [Call.step, entering]
  refine ⟨fun _ h => h, ⟨rfl, session, m, rfl, rfl⟩, ⟨meets.full, ?_, ?_⟩, rfl,
    [ticket.token], ?_, ?_⟩
  · rw [Commons.tokens, List.map_append, List.foldl_append]
    exact holds
  · rintro ⟨⟩
  · simp [Commons.tokens]
  · simp [Call.token?, entering]

/-- **A call at home stays there,** and all such calls meet at one window. -/
theorem Call.AtHome.step (home : call.AtHome g id mark) (meets : commons.Meets g id first mark) :
    ∃ mark', Call.Advances g id first mark (call, commons) mark' (call.step commons) := by
  have stage := home.stage
  cases at_ : call.stage with
  | arrived => exact ⟨mark, home.step_arrived at_ meets⟩
  | holding place window seen =>
    have unfinished : call.token? = none := by rw [Call.token?, at_]
    simp only [Call.step, at_]
    exact ⟨mark, home.classed unfinished meets meets.full (fun _ h => h) rfl _⟩
  | cleared =>
    refine ⟨mark, ?_⟩
    simp only [Call.step, at_, Ticket.start, home.session]
    exact advances_of_same ⟨home.guard, home.session, rfl, rfl⟩
      (meets.withSite meets.full fun _ h => h) rfl rfl (by simp [Call.token?, Call.inStage, at_])
  | offering ticket id' own => exact home.step_offering at_ meets
  | replacing ticket id' own | opening ticket =>
    rw [at_] at stage
    exact stage.elim
  | entering ticket place => exact ⟨mark, home.step_entering at_ meets⟩
  | passed ticket place | refused refusal =>
    simp only [Call.step, at_]
    exact ⟨mark, advances_of_same home meets rfl rfl rfl⟩

/-! ## Scenes -/

/-- A move that does not end a session, let it expire, or set its window from elsewhere. -/
def Scene.Spares (scene : Scene) (id : SessionId) : Move → Prop
  | .step _ | .purge => True
  | .elapse milliseconds => ((scene.site.elapse milliseconds).live? id).isSome
  | .create => scene.site.supply.handle scene.site.supply.handlesDrawn ≠ id
  | .invalidate id' => id' ≠ id
  | .write id' key _ => id' ≠ id ∨ key ≠ windowKey

/-- All moves, each at its turn, spare a session. -/
def Scene.SparesAll (scene : Scene) (id : SessionId) : List Move → Prop
  | [] => True
  | move :: rest => scene.Spares id move ∧ (scene.apply move).SparesAll id rest

instance (scene : Scene) (id : SessionId) : (move : Move) → Decidable (scene.Spares id move)
  | .step _ | .purge => .isTrue trivial
  | .elapse milliseconds =>
    inferInstanceAs (Decidable ((scene.site.elapse milliseconds).live? id).isSome)
  | .create =>
    inferInstanceAs (Decidable (scene.site.supply.handle scene.site.supply.handlesDrawn ≠ id))
  | .invalidate id' => inferInstanceAs (Decidable (id' ≠ id))
  | .write id' key _ => inferInstanceAs (Decidable (id' ≠ id ∨ key ≠ windowKey))

def Scene.decideSparesAll (id : SessionId) :
    (moves : List Move) → (scene : Scene) → Decidable (scene.SparesAll id moves)
  | [], _ => .isTrue trivial
  | move :: rest, scene =>
    have := Scene.decideSparesAll id rest (scene.apply move)
    inferInstanceAs (Decidable (scene.Spares id move ∧ (scene.apply move).SparesAll id rest))

instance (scene : Scene) (id : SessionId) (moves : List Move) :
    Decidable (scene.SparesAll id moves) := Scene.decideSparesAll id moves scene

/-- The calls of a scene meet at the window of a session, and it has taken the tokens of those that
have passed. -/
structure Scene.Joint (g : Guard) (id : SessionId) (first : Window) (mark : Option Nat)
    (scene : Scene) : Prop where
  meets : scene.commons.Meets g id first mark
  home : ∀ call ∈ scene.calls, call.AtHome g id mark
  issued : (scene.calls.filterMap Call.token?).Perm scene.commons.tokens

variable {scene : Scene}

theorem filterMap_set_perm {α β : Type} (f : α → Option β) {xs : List α} {i : Nat} {x y : α}
    {new : List β} (at_ : xs[i]? = some x) (more : (f y).toList = (f x).toList ++ new) :
    ((xs.set i y).filterMap f).Perm (xs.filterMap f ++ new) := by
  induction xs generalizing i with
  | nil => cases at_
  | cons head rest ih =>
    have split : ∀ z zs, (z :: zs).filterMap f = (f z).toList ++ zs.filterMap f := by
      intro z zs
      cases h : f z <;> simp [h]
    cases i with
    | zero =>
      obtain rfl : head = x := by simpa using at_
      rw [List.set_cons_zero, split, split, more, List.append_assoc, List.append_assoc]
      exact List.perm_append_comm.append_left _
    | succ i =>
      rw [List.set_cons_succ, split, split, List.append_assoc]
      exact (ih (by simpa using at_)).append_left _

theorem Scene.Joint.stepAt (joint : scene.Joint g id first mark) (index : Nat) :
    ∃ mark', (∀ m, mark = some m → mark' = some m) ∧
      (scene.stepAt index).Joint g id first mark' ∧
      (scene.stepAt index).site.supply.handlesDrawn = scene.site.supply.handlesDrawn := by
  unfold Scene.stepAt
  cases at_ : scene.calls[index]? with
  | none => exact ⟨mark, fun _ h => h, joint, rfl⟩
  | some call =>
    obtain ⟨mark', kept, home, meets, handles, new, tokens, token⟩ :=
      (joint.home call (List.mem_of_getElem? at_)).step joint.meets
    refine ⟨mark', kept, ⟨meets, fun other member => ?_, ?_⟩, handles⟩
    · rcases List.mem_or_eq_of_mem_set member with member | rfl
      · exact (joint.home other member).mono kept
      · exact home
    · rw [tokens]
      exact (filterMap_set_perm _ at_ token).trans (joint.issued.append_right new)

theorem Scene.Joint.withSite (joint : scene.Joint g id first mark) {site : Site}
    (full : site.sessions.backing = .full)
    (holds : ∀ held, scene.site.HoldsWindow id held → site.HoldsWindow id held) :
    (scene.withSite site).Joint g id first mark :=
  ⟨joint.meets.withSite full holds, joint.home, joint.issued⟩

theorem Scene.Joint.apply (joint : scene.Joint g id first mark) (move : Move)
    (spares : scene.Spares id move) :
    ∃ mark', (∀ m, mark = some m → mark' = some m) ∧ (scene.apply move).Joint g id first mark' ∧
      (scene.apply move).site.supply.handlesDrawn =
        scene.site.supply.handlesDrawn + if move == .create then 1 else 0 := by
  have full := joint.meets.full
  cases move with
  | step index => exact joint.stepAt index
  | elapse milliseconds =>
    exact ⟨mark, fun _ h => h, joint.withSite full fun _ h => h.elapsed spares, rfl⟩
  | purge =>
    refine ⟨mark, fun _ h => h, joint.withSite ?_ fun _ h => h.purged, rfl⟩
    simp only [Site.access, Sessions.purge]
    split <;> exact full
  | create =>
    have opened := Site.openSession_becomes full
    exact ⟨mark, fun _ h => h, joint.withSite (opened.backing.trans full)
      fun _ h => h.other opened (Ne.symm spares), rfl⟩
  | invalidate id' =>
    exact ⟨mark, fun _ h => h, joint.withSite full
      fun _ h => h.other (scene.site.invalidate_becomes id') (Ne.symm spares), rfl⟩
  | write id' key value =>
    exact ⟨mark, fun _ h => h, joint.withSite full fun _ h => h.written spares, rfl⟩

theorem Scene.Joint.run (joint : scene.Joint g id first mark) (moves : List Move)
    (spares : scene.SparesAll id moves) :
    ∃ mark', (∀ m, mark = some m → mark' = some m) ∧ (scene.run moves).Joint g id first mark' ∧
      (scene.run moves).site.supply.handlesDrawn =
        scene.site.supply.handlesDrawn + moves.count .create := by
  induction moves generalizing scene mark with
  | nil => exact ⟨mark, fun _ h => h, joint, rfl⟩
  | cons move rest ih =>
    obtain ⟨next, kept, joint, handles⟩ := joint.apply move spares.1
    obtain ⟨last, kept', joint, handles'⟩ := ih joint spares.2
    refine ⟨last, fun m h => kept' m (kept m h), joint, ?_⟩
    rw [Scene.run, List.foldl_cons, List.count_cons, Nat.add_comm (rest.count _), ← Nat.add_assoc,
      ← handles]
    exact handles'

theorem windowOf_ne_none {held : Option Attribute} (some_window : windowOf held ≠ none) :
    ∃ mark window, held = some (.nonces mark window) := by
  rcases held with _ | (text | ⟨mark, window⟩)
  · exact (some_window rfl).elim
  · exact (some_window rfl).elim
  · exact ⟨mark, window, rfl⟩

theorem joint_start {calls : List Call} {site : Site} {entry : SessionEntry}
    (full : site.sessions.backing = .full) (live : site.live? id = some entry)
    (own : ∀ text, entry.attributes.get? windowKey ≠ some (.text text))
    (arrived : ∀ call ∈ calls,
      call.guard = g ∧ call.request.session = some id ∧ call.stage = .arrived) :
    ∃ mark,
      (∀ m window, entry.attributes.get? windowKey = some (.nonces m window) → mark = some m) ∧
        (Scene.start calls site).Joint g id (entry.window?.getD g.freshWindow) mark := by
  have home : ∀ mark, ∀ call ∈ calls, call.AtHome g id mark := by
    intro mark call member
    obtain ⟨guard, session, stage⟩ := arrived call member
    exact ⟨guard, session, stage ▸ trivial⟩
  have issued : calls.filterMap Call.token? = [] := by
    refine List.filterMap_eq_nil_iff.2 fun call member => ?_
    rw [Call.token?, (arrived call member).2.2]
  have nothing : (calls.filterMap Call.token?).Perm [] := by rw [issued]
  rw [SessionEntry.window?]
  rcases held : entry.attributes.get? windowKey with _ | (text | ⟨m, window⟩)
  · refine ⟨none, ?_, ⟨full, ⟨entry, live, held⟩, fun _ => ⟨rfl, rfl⟩⟩, home none, nothing⟩
    rintro _ _ ⟨⟩
  · exact (own text held).elim
  · refine ⟨some m, ?_, ⟨full, ⟨entry, live, held⟩, ?_⟩, home (some m), nothing⟩
    · rintro _ _ ⟨⟩
      rfl
    · rintro ⟨⟩

/-- **No token is lost between calls that share a session.** However their steps are mixed, all calls
that pass enter their tokens into one and the same window, and none begins a session. The window
holds the last tokens, as many as there is room for, of those it held at first and those entered
since, in the order in which they were entered. -/
theorem Scene.no_token_lost (g : Guard) (id : SessionId) (calls : List Call) (site : Site)
    (entry : SessionEntry) (moves : List Move) (full : site.sessions.backing = .full)
    (live : site.live? id = some entry)
    (own : ∀ text, entry.attributes.get? windowKey ≠ some (.text text))
    (arrived : ∀ call ∈ calls,
      call.guard = g ∧ call.request.session = some id ∧ call.stage = .arrived)
    (spares : (Scene.start calls site).SparesAll id moves)
    (distinct : ((entry.window?.getD g.freshWindow).tokens ++
      ((Scene.start calls site).run moves).commons.tokens).Nodup) :
    let first := entry.window?.getD g.freshWindow
    let after := (Scene.start calls site).run moves
    let issued := after.commons.tokens
    (∃ mark,
      (∀ m window, entry.attributes.get? windowKey = some (.nonces m window) → mark = m) ∧
      (∀ call ∈ after.calls, ∀ ticket place, call.stage = .passed ticket place →
        place = some ⟨id, mark⟩) ∧
      (entry.window? ≠ none ∨ issued ≠ [] →
        ∃ window, after.site.HoldsWindow id (some (mark, window)) ∧
          window.tokens = lastOf first.capacity (first.tokens ++ issued))) ∧
      (after.calls.filterMap Call.token?).Perm issued ∧
      (∀ call ∈ after.calls, call.request.session = some id) ∧
      after.site.supply.handlesDrawn = site.supply.handlesDrawn + moves.count .create := by
  intro first after issued
  obtain ⟨mark, begun, joint⟩ := joint_start full live own arrived
  obtain ⟨mark', kept, joint, handles⟩ := joint.run moves spares
  refine ⟨⟨mark'.getD 0, ?_, ?_, ?_⟩, joint.issued,
    fun call member => (joint.home call member).session, handles⟩
  · intro m window held
    rw [kept m (begun m window held)]
    rfl
  · intro call member ticket place passed
    have stage := (joint.home call member).stage
    rw [passed] at stage
    obtain ⟨m, rfl, rfl⟩ := stage
    rfl
  · intro some_window
    obtain ⟨m, rfl⟩ : ∃ m, mark' = some m := by
      rcases some_window with held | entered
      · obtain ⟨m, window, held⟩ := windowOf_ne_none held
        exact ⟨m, kept m (begun m window held)⟩
      · cases mark' with
        | some m => exact ⟨m, rfl⟩
        | none => exact (entered (congrArg _ (joint.meets.begin rfl).1)).elim
    exact ⟨_, joint.meets.holds, first.tokens_foldl_add _ distinct⟩

/-- Two visitors race for the first window of a session, and a payment with the token of one of them
is let past while the other still waits. -/
theorem Scene.no_token_lost_race :
    let g : Guard := ⟨{ entryPoints := ["/"], windowSize := 2 }⟩
    let supply : Supply :=
      { handle := fun _ => ⟨"b"⟩, block := fun n => .replicate 16 n.toUInt8 }
    let token (n : Nat) : String := (supply.block n).token
    let a : SessionId := ⟨"a"⟩
    let site : Site := .start ((Sessions.start .full 10).create 0 a) supply
    let enter : Call := ⟨g, { path := "/", session := some a }, .plain, .arrived⟩
    let paying : Request :=
      { method := "POST", path := "/pay", session := some a, params := [("csrfToken", token 1)] }
    let pay : Call := ⟨g, paying, .plain, .arrived⟩
    let calls := [enter, enter, pay]
    let moves : List Move := [.step 0, .step 0, .step 1, .step 1, .step 1, .step 0, .elapse 10,
      .step 1, .step 2, .step 0, .step 2, .step 2, .step 2, .step 2]
    let after := (Scene.start calls site).run moves
    (Scene.start calls site).SparesAll a moves ∧
      after.calls.map Call.verdict? = [some .proceed, some .proceed, some .proceed] ∧
      after.commons.tokens = [token 1, token 0, token 2] ∧
      ∃ mark window, after.site.HoldsWindow a (some (mark, window)) ∧
        window.tokens = [token 0, token 2] := by
  intro g supply token a site enter paying pay calls moves after
  have spares : (Scene.start calls site).SparesAll a moves := by decide +kernel
  have issued : after.commons.tokens = [token 1, token 0, token 2] := by decide +kernel
  have arrived : ∀ call ∈ calls,
      call.guard = g ∧ call.request.session = some a ∧ call.stage = .arrived := by
    have waiting : ∀ (r : Request), r.session = some a →
        (Call.mk g r .plain .arrived).guard = g ∧ r.session = some a ∧
          (Call.mk g r .plain .arrived).stage = .arrived := fun _ session => ⟨rfl, session, rfl⟩
    simp only [calls, List.forall_mem_cons]
    refine ⟨waiting _ rfl, waiting _ rfl, waiting paying rfl, ?_⟩
    exact List.forall_mem_nil _
  refine ⟨spares, by decide +kernel, issued, ?_⟩
  have all := Scene.no_token_lost g a calls site ⟨.empty, 0⟩ moves rfl rfl nofun arrived spares
    (by decide +kernel)
  obtain ⟨⟨mark, -, -, held⟩, -⟩ := all
  obtain ⟨window, holds, tokens⟩ := held (.inr (by decide +kernel))
  exact ⟨mark, window, holds, tokens.trans (by decide +kernel)⟩

end Guard

end Gatehouse
