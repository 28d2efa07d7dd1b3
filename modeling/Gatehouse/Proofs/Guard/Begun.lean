import Gatehouse.Proofs.Guard.Pass
import Gatehouse.Proofs.Session.Held

/-!
# Which sessions a guard begins

For every session that it begins a guard draws a handle. So the sessions that are held after a pass
are those that were held before, and those that were begun under the handles drawn meanwhile
(`Guard.begins_pass`). The service behind the site does not matter for that. Where no handle is drawn
twice, the next session is a new one (`Site.Supplied.next_new`).
-/

namespace Gatehouse

namespace Site

/-- A session is held at a site, expired or not. -/
def Holds (site : Site) (id : SessionId) : Prop := site.sessions.store.Holds id

instance (site : Site) (id : SessionId) : Decidable (site.Holds id) :=
  inferInstanceAs (Decidable (site.sessions.store.Holds id))

/-- The handle under which the next session is begun. -/
def nextSession (site : Site) : SessionId := site.supply.handle site.supply.handlesDrawn

/-- Every session that is held at `site'` was held at `site`, or its handle was drawn since. -/
structure Begins (site site' : Site) : Prop where
  handle : site'.supply.handle = site.supply.handle
  drawn : site.supply.handlesDrawn ≤ site'.supply.handlesDrawn
  held : ∀ id, site'.Holds id → site.Holds id ∨ ∃ n, site.supply.handlesDrawn ≤ n ∧
    n < site'.supply.handlesDrawn ∧ id = site.supply.handle n

variable {site site' site'' : Site}

theorem begins_of_noMore (noMore : site.sessions.store.NoMore site'.sessions.store)
    (handle : site'.supply.handle = site.supply.handle)
    (drawn : site'.supply.handlesDrawn = site.supply.handlesDrawn) : site.Begins site' :=
  ⟨handle, Nat.le_of_eq drawn.symm, fun id h => .inl (noMore.held id h)⟩

theorem begins_refl (site : Site) : site.Begins site :=
  begins_of_noMore (Store.noMore_refl _) rfl rfl

theorem begins_elapse (site : Site) (milliseconds : Nat) :
    site.Begins (site.elapse milliseconds) :=
  begins_of_noMore (Store.noMore_refl _) rfl rfl

theorem begins_drawBlock (site : Site) : site.Begins site.drawBlock.2 :=
  begins_of_noMore (Store.noMore_refl _) rfl rfl

theorem begins_count (site : Site) (change : Tally → Tally) : site.Begins (site.count change) :=
  begins_of_noMore (Store.noMore_refl _) rfl rfl

theorem begins_access {α : Type} (site : Site) (run : Nat → Sessions → α × Sessions)
    (noMore : ∀ now (s : Sessions), s.store.NoMore (run now s).2.store) :
    site.Begins (site.access run).2 :=
  begins_of_noMore (noMore site.now site.sessions) rfl rfl

theorem Begins.trans (first : site.Begins site') (second : site'.Begins site'') :
    site.Begins site'' := by
  refine ⟨second.handle.trans first.handle, Nat.le_trans first.drawn second.drawn, fun id h => ?_⟩
  rcases second.held id h with before | ⟨n, above, below, rfl⟩
  · rcases first.held id before with before | ⟨n, above, below, rfl⟩
    · exact .inl before
    · exact .inr ⟨n, above, Nat.lt_of_lt_of_le below second.drawn, rfl⟩
  · exact .inr ⟨n, Nat.le_trans first.drawn above, below, by rw [first.handle]⟩

theorem begins_openSession (site : Site) : site.Begins site.openSession.2 := by
  refine ⟨rfl, Nat.le_succ _, fun id h => ?_⟩
  have held : id = site.supply.handle site.supply.handlesDrawn ∨ site.Holds id := by
    simp only [Holds, openSession, Sessions.create] at h
    split at h
    · -- a service that refuses sessions ends the new one at once
      exact .inr (Or.resolve_left ((Store.holds_create ..).1 ((Store.holds_invalidate ..).1 h).2)
        ((Store.holds_invalidate ..).1 h).1)
    · exact (Store.holds_create ..).1 h
  rcases held with rfl | before
  · exact .inr ⟨site.supply.handlesDrawn, Nat.le_refl _, Nat.lt_succ_self _, rfl⟩
  · exact .inl before

/-- No handle is drawn twice, and every session that is held was begun under one that was drawn. -/
structure Supplied (site : Site) : Prop where
  distinct : Function.Injective site.supply.handle
  drawn : ∀ id, site.Holds id → ∃ n, n < site.supply.handlesDrawn ∧ id = site.supply.handle n

theorem supplied_start {supply : Supply} (distinct : Function.Injective supply.handle)
    (backing : Backing) (idleLimit : Nat) :
    (Site.start (.start backing idleLimit) supply).Supplied :=
  ⟨distinct, fun _ held => absurd held Bool.false_ne_true⟩

theorem Supplied.begins (supplied : site.Supplied) (begins : site.Begins site') : site'.Supplied := by
  refine ⟨begins.handle ▸ supplied.distinct, fun id held => ?_⟩
  rw [begins.handle]
  rcases begins.held id held with before | ⟨n, -, below, rfl⟩
  · obtain ⟨n, below, rfl⟩ := supplied.drawn id before
    exact ⟨n, Nat.lt_of_lt_of_le below begins.drawn, rfl⟩
  · exact ⟨n, below, rfl⟩

theorem Supplied.next_new (supplied : site.Supplied) : ¬ site.Holds site.nextSession := by
  intro held
  -- every session that the site holds, expired or not, goes by a handle that was drawn before
  obtain ⟨n, below, same⟩ := supplied.drawn _ held
  have drawn : site.supply.handlesDrawn = n := supplied.distinct same
  omega

end Site

namespace Guard

variable {g : Guard}

theorem begins_check (g : Guard) (r : Request) (site : Site) :
    site.Begins (site.access (g.check r)).2 := by
  refine site.begins_access _ fun now s => ?_
  unfold check
  split
  · exact Store.noMore_refl _
  · split
    · exact Store.noMore_refl _
    · next id _ => exact s.store.noMore_get now id windowKey

theorem begins_windowIn (g : Guard) (id : SessionId) (mark : Nat) (site : Site) :
    site.Begins (g.windowIn id mark site).2 := by
  have offered : site.Begins (site.access (g.offerWindow id mark)).2 := by
    refine site.begins_access _ fun now s => ?_
    rw [offerWindow_snd]
    exact s.noMore_getOrInsert ..
  rw [windowIn_eq]
  split
  · exact offered
  · exact offered
  · refine offered.trans (Site.begins_access _ (g.replaceWindow id mark) fun now s => ?_)
    exact s.store.noMore_set now id windowKey (.nonces mark g.freshWindow)

theorem begins_placeInOwn (g : Guard) (mark : Nat) (r : Request) (site : Site) :
    site.Begins (g.placeInOwn mark r site).2 := by
  unfold placeInOwn
  split
  · exact site.begins_refl
  · exact g.begins_windowIn ..

theorem begins_placeFor (g : Guard) (mark : Nat) (r : Request) (site : Site) :
    site.Begins (g.placeFor mark r site).2.2 := by
  have own := g.begins_placeInOwn mark r site
  unfold placeFor
  split
  · next same => rwa [same] at own
  · next site' same =>
    rw [same] at own
    exact (own.trans site'.begins_openSession).trans (g.begins_windowIn ..)

theorem noMore_record (place : Option Place) (token : String) (s : Sessions) :
    s.store.NoMore (record place token s).store := by
  cases place with
  | none => exact Store.noMore_refl _
  | some place => exact Store.noMore_addToken ..

theorem begins_issue (g : Guard) (p : Passage) : p.site.Begins (g.issue p).site := by
  rw [issue_eq]
  have placed := p.site.begins_drawBlock.trans
    (g.begins_placeFor p.site.supply.blocksDrawn p.request p.site.drawBlock.2)
  exact placed.trans (Site.begins_of_noMore (noMore_record ..) rfl rfl)

theorem begins_pass (g : Guard) (p : Passage) : p.site.Begins (g.pass p).2.site := by
  let change : Tally → Tally := (·.decide (g.reading p.request p.site.live?).label)
  have looked := (g.begins_check p.request p.site).trans (Site.begins_count _ change)
  rw [pass_eq]
  simp only
  split
  · exact looked
  · let checked := (p.site.access (g.check p.request)).2.count change
    exact looked.trans (g.begins_issue { p with site := checked })

end Guard

end Gatehouse
