import Gatehouse.Proofs.Guard.Pass
import Gatehouse.Proofs.Session.Diary

/-!
# A guard and its history

One guard works at a site where sessions come and go. A log keeps the diary of the sessions and
the tokens that the guard has issued into each. The guard itself only knows the windows that the
live sessions hold; still its check tells of each request what the log tells (`Log.classify`): a
nonce is accepted just if it is one of the last that were issued into a session that is alive.
-/

namespace Gatehouse

namespace Guard

inductive Step where
  | filter (r : Request) (links : Links)
  | check (r : Request)
  | create
  | invalidate (id : SessionId)
  | elapse (milliseconds : Nat)
  | purge

/-- A site, the diary of its sessions, and the tokens that were issued with the sessions that they
were issued into, oldest first. -/
structure Log where
  site : Site
  diary : Diary
  issued : List (SessionId × String)

/-- The log of a site where nothing has happened yet. -/
def Log.start (idleLimit : Nat) (supply : Supply) : Log :=
  ⟨.start (.start .full idleLimit) supply, [], []⟩

/-- What a diary notes of an access to a session, if one is given. -/
def visits (now : Nat) (session : Option SessionId) : Diary :=
  (session.map fun id => (now, .accessed id)).toList

/-- What a diary notes of a passage: the session of the request is accessed, and one is begun if a
handle is drawn. -/
def notes (p : Passage) (after : Site) : Diary :=
  let accessed := visits p.site.now p.request.session
  if p.site.supply.handlesDrawn < after.supply.handlesDrawn then
    (p.site.now, .begun (p.site.supply.handle p.site.supply.handlesDrawn)) :: accessed
  else accessed

/-- Takes one step, and notes it. -/
def advance (g : Guard) (log : Log) : Step → Log
  | .filter r links =>
    let p : Passage := ⟨r, links, log.site⟩
    let after := (g.pass p).2.site
    ⟨after, notes p after ++ log.diary, log.issued ++ (g.issued? p).toList⟩
  | .check r =>
    let session := if g.isEntry r then none else r.session
    ⟨(log.site.access (g.check r)).2, visits log.site.now session ++ log.diary, log.issued⟩
  | .create =>
    let (id, site) := log.site.openSession
    ⟨site, (log.site.now, .begun id) :: log.diary, log.issued⟩
  | .invalidate id =>
    ⟨log.site.invalidate id, (log.site.now, .ended id) :: log.diary, log.issued⟩
  | .elapse milliseconds => { log with site := log.site.elapse milliseconds }
  | .purge => { log with site := (log.site.access fun now s => s.purge now).2 }

def run (g : Guard) (log : Log) : List Step → Log
  | [] => log
  | step :: rest => g.run (g.advance log step) rest

/-- The tokens that were issued into a session, oldest first. -/
def tokensOf (id : SessionId) (issued : List (SessionId × String)) : List String :=
  (issued.filter fun e => e.1 = id).map Prod.snd

/-- How the log classes a request that is no entry. -/
def Log.classify (g : Guard) (idleLimit : Nat) (log : Log) (r : Request) : Decision :=
  match r.session with
  | none => .rejected .noSession
  | some id =>
    if ¬ log.diary.Alive idleLimit log.site.now id ∨ tokensOf id log.issued = [] then
      .rejected .noWindow
    else
      match r.parameter? g.options.parameter with
      | none => .rejected .noNonce
      | some nonce =>
        if nonce ∈ lastOf (max 1 g.options.windowSize) (tokensOf id log.issued) then .accepted
        else .rejected .unknownNonce

/-! ## The windows of a history -/

/-- The window into which tokens were entered, of which the first brought it about. -/
def windowAfter (g : Guard) (tokens : List String) : Option Window :=
  if tokens = [] then none else some (tokens.foldl Window.add g.freshWindow)

variable {g : Guard} {log : Log} {id : SessionId} {idleLimit : Nat}

theorem windowAfter_append (tokens : List String) (token : String) :
    g.windowAfter (tokens ++ [token]) =
      some (((g.windowAfter tokens).getD g.freshWindow).add token) := by
  rw [windowAfter, windowAfter, if_neg (by simp), List.foldl_append]
  split
  · next h => rw [h]; rfl
  · rfl

theorem tokensOf_append_self (issued : List (SessionId × String)) (token : String) :
    tokensOf id (issued ++ [(id, token)]) = tokensOf id issued ++ [token] := by
  simp [tokensOf]

theorem tokensOf_append_other {id' : SessionId} (h : id' ≠ id) (issued : List (SessionId × String))
    (token : String) : tokensOf id' (issued ++ [(id, token)]) = tokensOf id' issued := by
  simp [tokensOf, Ne.symm h]

theorem tokensOf_eq_nil {issued : List (SessionId × String)} (h : ∀ e ∈ issued, e.1 ≠ id) :
    tokensOf id issued = [] := by
  rw [tokensOf, List.map_eq_nil_iff, List.filter_eq_nil_iff]
  intro e he same
  exact h e he (of_decide_eq_true same)

theorem tokensOf_sublist (id : SessionId) (issued : List (SessionId × String)) :
    (tokensOf id issued).Sublist (issued.map Prod.snd) :=
  List.filter_sublist.map _

/-- A site is as its log tells. -/
structure Faithful (g : Guard) (idleLimit : Nat) (log : Log) : Prop where
  backing : log.site.sessions.backing = .full
  limit : log.site.sessions.store.idleLimit = idleLimit
  mirrors : log.site.sessions.store.Mirrors log.site.now log.diary
  issued : ∀ e ∈ log.issued, e.1 ∈ log.diary.begun
  window : ∀ id entry, log.site.live? id = some entry →
    entry.window? = g.windowAfter (tokensOf id log.issued)

theorem faithful_start (g : Guard) (idleLimit : Nat) (supply : Supply) :
    Faithful g idleLimit (.start idleLimit supply) := by
  refine ⟨rfl, rfl, Store.mirrors_empty idleLimit 0, nofun, fun id entry live => ?_⟩
  simp [Site.live?, Log.start, Site.start, Sessions.start] at live

/-! ## Steps -/

@[simp] theorem begun_visits (now : Nat) (session : Option SessionId) (diary : Diary) :
    (visits now session ++ diary).begun = diary.begun := by
  cases session <;> rfl

theorem Faithful.keep (faithful : Faithful g idleLimit log) {site' : Site} {diary' : Diary}
    (backing : site'.sessions.backing = log.site.sessions.backing)
    (limit : site'.sessions.store.idleLimit = log.site.sessions.store.idleLimit)
    (mirrors : site'.sessions.store.Mirrors site'.now diary')
    (begun : ∀ id ∈ log.diary.begun, id ∈ diary'.begun) (windows : log.site.Keeps site') :
    Faithful g idleLimit ⟨site', diary', log.issued⟩ := by
  refine ⟨backing.trans faithful.backing, limit.trans faithful.limit, mirrors, ?_, ?_⟩
  · exact fun e he => begun _ (faithful.issued e he)
  · intro id entry' live'
    obtain ⟨entry, live, same⟩ := windows id entry' live'
    rw [same, faithful.window id entry live]

theorem Faithful.visited (faithful : Faithful g idleLimit log) {session : Option SessionId}
    {site' : Site} (visited : log.site.Visited session site') :
    Faithful g idleLimit ⟨site', visits log.site.now session ++ log.diary, log.issued⟩ := by
  refine faithful.keep visited.backing visited.idleLimit ?_ (by simp) visited.keeps
  rw [visited.now]
  cases session with
  | none =>
    rw [visited.untouched rfl]
    exact faithful.mirrors
  | some id => exact faithful.mirrors.access (visited.touched id rfl) fun _ => rfl

theorem mirrors_visits {site : Site} {diary : Diary} {session : Option SessionId}
    (mirrors : site.sessions.store.Mirrors site.now diary)
    (gone : ∀ id, session = some id → site.live? id = none) :
    site.sessions.store.Mirrors site.now (visits site.now session ++ diary) := by
  cases session with
  | none => exact mirrors
  | some id =>
    -- a session that is gone may be looked for, and the store stays as it is
    have dead : site.sessions.store.live? site.now id = none := gone id rfl
    have same := (Store.becomes_refl site.sessions.store site.now id).of_none dead rfl
    refine mirrors.access (f := fun entry => entry.accessed site.now) ?_ fun _ => rfl
    rwa [dead]

theorem Faithful.granted (faithful : Faithful g idleLimit log) {mark now : Nat} {token : String}
    {entry : SessionEntry} {site' : Site} {diary' : Diary}
    (becomes : log.site.Becomes id (some (g.granted mark now token entry)) site')
    (known : entry.window? = g.windowAfter (tokensOf id log.issued))
    (mirrors : site'.sessions.store.Mirrors log.site.now diary')
    (begun : ∀ id ∈ log.diary.begun, id ∈ diary'.begun) (here : id ∈ diary'.begun) :
    Faithful g idleLimit ⟨site', diary', log.issued ++ [(id, token)]⟩ := by
  refine ⟨becomes.backing.trans faithful.backing, becomes.store.idleLimit.trans faithful.limit,
    ?_, ?_, ?_⟩
  · rw [becomes.now]
    exact mirrors
  · intro e he
    rcases List.mem_append.1 he with he | he
    · exact begun _ (faithful.issued e he)
    · rw [List.mem_singleton.1 he]
      exact here
  · intro id' entry' live
    by_cases h : id' = id
    · subst h
      rw [becomes.self, Option.some.injEq] at live
      rw [← live, window?_granted, known, tokensOf_append_self, windowAfter_append]
    · rw [becomes.other h] at live
      rw [tokensOf_append_other h]
      exact faithful.window id' entry' live

theorem Faithful.passed_own (faithful : Faithful g idleLimit log) {p p' : Passage}
    (here : p.site = log.site) (passed : g.Passed p p') {entry : SessionEntry}
    (own : p.request.session = some id) (live : p.site.live? id = some entry) :
    Faithful g idleLimit
      ⟨p'.site, notes p p'.site ++ log.diary, log.issued ++ [(p.home.session, p.token)]⟩ := by
  obtain ⟨-, -, supply, becomes⟩ := passed
  have noted : notes p p'.site = [(p.site.now, .accessed id)] := by
    simp [notes, visits, supply, Passage.home, Request.home_of_live own live, own]
  rw [Passage.home, Request.home_of_live own live] at becomes ⊢
  rw [noted]
  rw [here] at becomes live ⊢
  have alive := (faithful.mirrors.alive id).1 (Option.isSome_of_eq_some live)
  have access : log.site.sessions.store.Becomes log.site.now id
      ((log.site.live? id).map (g.granted log.site.supply.blocksDrawn log.site.now p.token))
      p'.site.sessions.store := by
    rw [live]
    exact becomes.store
  exact faithful.granted becomes (faithful.window id entry live)
    (faithful.mirrors.access access fun _ => rfl) (fun _ h => h) alive.begun

theorem Faithful.passed_new (faithful : Faithful g idleLimit log) {p p' : Passage}
    (here : p.site = log.site) (passed : g.Passed p p')
    (gone : ∀ id, p.request.session = some id → p.site.live? id = none)
    (fresh : (notes p p'.site ++ log.diary).begun.Nodup) :
    Faithful g idleLimit
      ⟨p'.site, notes p p'.site ++ log.diary, log.issued ++ [(p.home.session, p.token)]⟩ := by
  obtain ⟨-, -, supply, becomes⟩ := passed
  have home : p.home = _ := Request.home_of_gone gone
  have noted : notes p p'.site = (p.site.now, .begun p.home.session) ::
      visits p.site.now p.request.session := by
    simp [notes, supply, home]
  rw [noted, here] at fresh ⊢
  have begun : Diary.begun ((log.site.now, .begun p.home.session) ::
      visits log.site.now p.request.session ++ log.diary) = p.home.session :: log.diary.begun := by
    rw [List.cons_append, Diary.begun, List.filterMap_cons]
    exact congrArg _ (begun_visits ..)
  -- nothing was issued into the session before, as nothing is issued into one not yet begun
  have new : p.home.session ∉ log.diary.begun := by
    rw [begun] at fresh
    exact (List.nodup_cons.1 fresh).1
  have nothing : tokensOf p.home.session log.issued = [] :=
    tokensOf_eq_nil fun e he same => new (same ▸ faithful.issued e he)
  have known : p.home.entry.window? = g.windowAfter (tokensOf p.home.session log.issued) := by
    rw [nothing, home]
    rfl
  rw [here] at becomes gone
  refine faithful.granted becomes known
    ((mirrors_visits faithful.mirrors gone).begin becomes.store rfl) (fun id' h => ?_) ?_
  · rw [begun]
    exact List.mem_cons_of_mem _ h
  · rw [begun]
    exact List.mem_cons_self

theorem Faithful.filter (faithful : Faithful g idleLimit log) (r : Request) (links : Links)
    (fresh : (g.advance log (.filter r links)).diary.begun.Nodup) :
    Faithful g idleLimit (g.advance log (.filter r links)) := by
  rw [advance] at fresh ⊢
  rcases pass_cases g (p := ⟨r, links, log.site⟩) faithful.backing with
    ⟨-, passed, issued⟩ | ⟨refusal, -, -, refused, issued⟩
  · rw [issued]
    rcases r.live_or_gone log.site with ⟨id, entry, own, live⟩ | gone
    · exact faithful.passed_own rfl passed own live
    · exact faithful.passed_new rfl passed gone fresh
  · have noted : notes ⟨r, links, log.site⟩ (g.pass ⟨r, links, log.site⟩).2.site =
        visits log.site.now r.session := by
      simp [notes, refused.supply]
    rw [issued, noted, Option.toList_none, List.append_nil]
    exact faithful.visited refused.visited

theorem Faithful.create (faithful : Faithful g idleLimit log)
    (fresh : (g.advance log .create).diary.begun.Nodup) :
    Faithful g idleLimit (g.advance log .create) := by
  have becomes := Site.openSession_becomes faithful.backing
  have new : log.site.openSession.1 ∉ log.diary.begun := (List.nodup_cons.1 fresh).1
  have nothing : tokensOf log.site.openSession.1 log.issued = [] :=
    tokensOf_eq_nil fun e he same => new (same ▸ faithful.issued e he)
  refine ⟨becomes.backing.trans faithful.backing, becomes.store.idleLimit.trans faithful.limit,
    faithful.mirrors.begin becomes.store rfl, ?_, fun id entry live => ?_⟩
  · exact fun e he => List.mem_cons_of_mem _ (faithful.issued e he)
  · rw [Guard.advance] at live ⊢
    rw [becomes.live?] at live
    split at live
    · next h =>
      rw [h, ← Option.some.inj live]
      show none = g.windowAfter (tokensOf log.site.openSession.1 log.issued)
      rw [nothing]
      rfl
    · exact faithful.window id entry live

theorem Faithful.advance (faithful : Faithful g idleLimit log) (step : Step)
    (fresh : (g.advance log step).diary.begun.Nodup) :
    Faithful g idleLimit (g.advance log step) := by
  cases step with
  | filter r links => exact faithful.filter r links fresh
  | check r => exact faithful.visited (check_visited g r log.site)
  | create => exact faithful.create fresh
  | invalidate id =>
    exact faithful.keep rfl rfl (faithful.mirrors.end (log.site.invalidate_becomes id).store)
      (fun _ h => h) (log.site.keeps_invalidate id)
  | elapse milliseconds =>
    have later : log.site.now ≤ (log.site.elapse milliseconds).now := Nat.le_add_right ..
    exact faithful.keep rfl rfl (faithful.mirrors.later later) (fun _ h => h)
      (log.site.keeps_elapse milliseconds)
  | purge =>
    have purged : (log.site.access fun now s => s.purge now).2.sessions =
        ⟨.full, (log.site.sessions.store.purge log.site.now).2⟩ := by
      simp [Site.access, Sessions.purge, faithful.backing, Sessions.via]
    refine faithful.keep (by rw [purged, faithful.backing]) (by rw [purged]; rfl) ?_
      (fun _ h => h) log.site.keeps_purge
    rw [purged]
    exact faithful.mirrors.purge

/-! ## Runs -/

theorem diary_advance (g : Guard) (log : Log) (step : Step) :
    log.diary.Sublist (g.advance log step).diary := by
  cases step with
  | filter r links => exact List.sublist_append_right ..
  | check r => exact List.sublist_append_right ..
  | create => exact List.sublist_cons_self ..
  | invalidate id => exact List.sublist_cons_self ..
  | elapse milliseconds => exact List.Sublist.refl _
  | purge => exact List.Sublist.refl _

theorem diary_run (g : Guard) (log : Log) (steps : List Step) :
    log.diary.Sublist (g.run log steps).diary := by
  induction steps generalizing log with
  | nil => exact List.Sublist.refl _
  | cons step rest ih => exact (diary_advance g log step).trans (ih _)

theorem Faithful.run (faithful : Faithful g idleLimit log) (steps : List Step)
    (fresh : (g.run log steps).diary.begun.Nodup) : Faithful g idleLimit (g.run log steps) := by
  induction steps generalizing log with
  | nil => exact faithful
  | cons step rest ih =>
    -- a diary only grows, so handles that are distinct in the end are so all along
    have begun : (g.advance log step).diary.begun.Nodup :=
      fresh.sublist ((diary_run g (g.advance log step) rest).filterMap _)
    exact ih (faithful.advance step begun) fresh

/-! ## The check tells what the log tells -/

theorem mem_windowAfter {tokens : List String} {window : Window} (distinct : tokens.Nodup)
    (held : g.windowAfter tokens = some window) (nonce : String) :
    window.contains nonce = true ↔ nonce ∈ lastOf (max 1 g.options.windowSize) tokens := by
  rw [windowAfter] at held
  split at held
  · cases held
  · have entered := g.freshWindow.tokens_foldl_add tokens (by simpa [freshWindow] using distinct)
    rw [← Option.some.inj held, Window.contains_iff, entered]
    simp [freshWindow, Nat.max_comm]

/-- A session that is alive holds the window of the tokens that were issued into it. -/
theorem Faithful.window? (faithful : Faithful g idleLimit log) (id : SessionId) :
    log.site.window? id =
      if log.diary.Alive idleLimit log.site.now id then g.windowAfter (tokensOf id log.issued)
      else none := by
  have alive : (log.site.live? id).isSome ↔ log.diary.Alive idleLimit log.site.now id :=
    faithful.limit ▸ faithful.mirrors.alive id
  rw [Site.window?]
  cases live : log.site.live? id with
  | none =>
    rw [if_neg (by simp [← alive, live])]
    rfl
  | some entry =>
    rw [if_pos (by simp [← alive, live])]
    exact faithful.window id entry live

theorem Faithful.reading (faithful : Faithful g idleLimit log) {r : Request}
    (distinct : (log.issued.map Prod.snd).Nodup) (notEntry : g.isEntry r = false) :
    g.reading r log.site.live? = log.classify g idleLimit r := by
  rw [Log.classify]
  cases session : r.session with
  | none => exact reading_of_no_session notEntry session _
  | some id =>
    rw [reading_of_session notEntry session, faithful.window? id]
    simp only
    by_cases alive : log.diary.Alive idleLimit log.site.now id
    · rw [if_pos alive]
      by_cases nothing : tokensOf id log.issued = []
      · rw [if_pos (.inr nothing), windowAfter, if_pos nothing]
        rfl
      · obtain ⟨window, held⟩ : ∃ window, g.windowAfter (tokensOf id log.issued) = some window :=
          ⟨_, if_neg nothing⟩
        have contains := mem_windowAfter (distinct.sublist (tokensOf_sublist id log.issued)) held
        rw [if_neg (by simp [alive, nothing]), held]
        cases r.parameter? g.options.parameter with
        | none => rfl
        | some nonce =>
          simp only [judge]
          by_cases known : nonce ∈ lastOf (max 1 g.options.windowSize) (tokensOf id log.issued)
          · rw [if_pos ((contains nonce).2 known), if_pos known]
          · rw [if_neg fun h => known ((contains nonce).1 h), if_neg known]
    · rw [if_neg alive, if_pos (.inl alive)]
      rfl

/-- **A check tells of a request what the whole history tells.** -/
theorem check_eq_classify (g : Guard) (idleLimit : Nat) (supply : Supply) (steps : List Step)
    (r : Request) (fresh : (g.run (.start idleLimit supply) steps).diary.begun.Nodup)
    (distinct : ((g.run (.start idleLimit supply) steps).issued.map Prod.snd).Nodup)
    (notEntry : g.isEntry r = false) :
    let log := g.run (.start idleLimit supply) steps
    (g.check r log.site.now log.site.sessions).1 = log.classify g idleLimit r := by
  intro log
  have faithful : Faithful g idleLimit log := (faithful_start g idleLimit supply).run steps fresh
  rw [check_fst]
  exact faithful.reading distinct notEntry

/-- A window of size zero honours one token: the second one that a session was given, and not the
first, as long as the session is alive. -/
theorem check_eq_classify_last_token :
    let g : Guard := ⟨{ entryPoints := ["/"], windowSize := 0 }⟩
    let supply : Supply :=
      { handle := fun n => ⟨if n = 0 then "a" else "b"⟩, block := fun n => .replicate 16 n.toUInt8 }
    let own : Option SessionId := some ⟨"a"⟩
    let steps : List Step := [.filter { path := "/" } .plain, .create, .elapse 10,
      .filter { path := "/", session := own } .plain, .elapse 10, .purge]
    let log := g.run (.start 10 supply) steps
    let later (n : Nat) : Request :=
      { method := "POST", path := "/pay", session := own
        params := [("csrfToken", (supply.block n).token)] }
    log.diary.begun.Nodup ∧ (log.issued.map Prod.snd).Nodup ∧
      (g.isEntry (later 0) = false ∧
        (g.check (later 0) log.site.now log.site.sessions).1 = .rejected .unknownNonce) ∧
      g.isEntry (later 1) = false ∧
        (g.check (later 1) log.site.now log.site.sessions).1 = .accepted := by
  intro g supply own steps log later
  have fresh : log.diary.begun.Nodup := by decide
  have distinct : (log.issued.map Prod.snd).Nodup := by decide
  refine ⟨fresh, distinct, ⟨by decide, ?_⟩, by decide, ?_⟩
  · exact (check_eq_classify g 10 supply steps (later 0) fresh distinct (by decide)).trans
      (by decide)
  · exact (check_eq_classify g 10 supply steps (later 1) fresh distinct (by decide)).trans
      (by decide)

end Guard

end Gatehouse
