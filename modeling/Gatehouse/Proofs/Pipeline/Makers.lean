import Gatehouse.Proofs.Guard.History
import Gatehouse.Proofs.Pipeline.News

/-!
# Who made the window of a session

The guards of a pipeline share the one window of a session, though they may be set up with windows
of different sizes. The guard that gives the session its window settles the size (`MadeBy`): from
then on the window holds the last tokens that any guard has issued into the session, as many as
this first guard keeps (`Windowed`). So whichever guard accepts a nonce, its own size is of no
account (`accepts_within_window`).
-/

namespace Gatehouse

/-- The tokens that were issued into a session at the turns, oldest first. -/
def issuedInto (id : SessionId) (turns : List Turn) : List String :=
  Guard.tokensOf id (turns.filterMap Turn.issued?)

/-- A guard gives a session its window: it issues a token into the session, and the request did not
come with that session and a window in it. -/
structure Turn.Makes (turn : Turn) (id : SessionId) (g : Guard) : Prop where
  filter : turn.stage.filter = .guard g
  issues : ∃ token, turn.issued? = some (id, token)
  without : turn.passage.request.session = some id → turn.passage.site.window? id = none

/-- The last of the turns at which the session was given a window, and the turns since. -/
structure MadeBy (turns : List Turn) (id : SessionId) (g : Guard) (maker : Turn)
    (since : List Turn) : Prop where
  split : ∃ before, turns = before ++ maker :: since
  makes : maker.Makes id g
  lasts : ∀ turn ∈ since, ∀ g', ¬ turn.Makes id g'

/-- The window of a live session is that of its maker, with the tokens issued since. -/
structure Windowed (turns : List Turn) (site : Site) : Prop where
  backing : site.sessions.backing = .full
  made : ∀ id window, site.window? id = some window → ∃ g maker since,
    MadeBy turns id g maker since ∧ g.windowAfter (issuedInto id (maker :: since)) = some window

variable {turns : List Turn} {turn maker : Turn} {since : List Turn} {site site' : Site}
  {id : SessionId} {g : Guard} {window : Window}

/-! ## The tokens of a session -/

theorem issuedInto_append (id : SessionId) (turns more : List Turn) :
    issuedInto id (turns ++ more) = issuedInto id turns ++ issuedInto id more := by
  simp [issuedInto, Guard.tokensOf]

theorem issuedInto_self {token : String} (issued : turn.issued? = some (id, token)) :
    issuedInto id [turn] = [token] := by
  simp [issuedInto, Guard.tokensOf, issued]

theorem issuedInto_other (other : ∀ token, turn.issued? ≠ some (id, token)) :
    issuedInto id [turn] = [] := by
  cases issued : turn.issued? with
  | none => simp [issuedInto, Guard.tokensOf, issued]
  | some e =>
    obtain ⟨id', token⟩ := e
    have different : id' ≠ id := fun same => other token (same ▸ issued)
    simp [issuedInto, Guard.tokensOf, issued, different]

theorem MadeBy.append (made : MadeBy turns id g maker since) (not : ∀ g', ¬ turn.Makes id g') :
    MadeBy (turns ++ [turn]) id g maker (since ++ [turn]) := by
  obtain ⟨before, rfl⟩ := made.split
  refine ⟨⟨before, by simp⟩, made.makes, fun later h => ?_⟩
  rcases List.mem_append.1 h with old | new
  · exact made.lasts later old
  · rw [List.mem_singleton.1 new]
    exact not

theorem MadeBy.issuedInto_suffix (made : MadeBy turns id g maker since) :
    ∃ before, issuedInto id turns = before ++ issuedInto id (maker :: since) := by
  obtain ⟨before, rfl⟩ := made.split
  exact ⟨_, issuedInto_append ..⟩

/-! ## Turns -/

theorem Windowed.other (windowed : Windowed turns site)
    (other : ∀ token, turn.issued? ≠ some (id, token)) (held : site.window? id = some window) :
    ∃ g maker since, MadeBy (turns ++ [turn]) id g maker since ∧
      g.windowAfter (issuedInto id (maker :: since)) = some window := by
  obtain ⟨g, maker, since, made, holds⟩ := windowed.made id window held
  refine ⟨g, maker, since ++ [turn], made.append ?_, ?_⟩
  · rintro g' ⟨-, ⟨token, issues⟩, -⟩
    exact other token issues
  · rw [← List.cons_append, issuedInto_append, issuedInto_other other, List.append_nil]
    exact holds

theorem Windowed.own (windowed : Windowed turns turn.passage.site)
    (filter : turn.stage.filter = .guard g)
    (issued : turn.issued? = some (turn.passage.home.session, turn.passage.token)) :
    ∃ g₀ maker since, MadeBy (turns ++ [turn]) turn.passage.home.session g₀ maker since ∧
      g₀.windowAfter (issuedInto turn.passage.home.session (maker :: since)) =
        some ((turn.passage.home.entry.window?.getD g.freshWindow).add turn.passage.token) := by
  cases found : turn.passage.home.entry.window? with
  | some window =>
    have held : turn.passage.site.window? turn.passage.home.session = some window :=
      Request.window?_home found
    obtain ⟨g₀, maker, since, made, holds⟩ := windowed.made _ window held
    refine ⟨g₀, maker, since ++ [turn], made.append ?_, ?_⟩
    · rintro g' ⟨-, -, without⟩
      have missing := without (Request.own_of_window found)
      rw [held] at missing
      cases missing
    · rw [← List.cons_append, issuedInto_append, issuedInto_self issued,
        Guard.windowAfter_append, holds]
      rfl
  | none =>
    refine ⟨g, turn, [], ⟨⟨turns, rfl⟩, ⟨filter, ⟨_, issued⟩, fun own => ?_⟩,
      fun _ h => by cases h⟩, ?_⟩
    · exact (Request.window?_of_own own).trans found
    · rw [issuedInto_self issued]
      exact g.windowAfter_append [] _

theorem Windowed.next (windowed : Windowed turns turn.passage.site) :
    Windowed (turns ++ [turn]) turn.result.2.site := by
  rcases Turn.passed_or_noNews windowed.backing with ⟨g, filter, passed, issued⟩ | ⟨news, none⟩
  · refine ⟨passed.becomes.backing.trans windowed.backing, fun id window held => ?_⟩
    rw [passed.window?] at held
    split at held
    · next own =>
      rw [own, ← held]
      exact windowed.own filter issued
    · next other =>
      refine windowed.other (fun token same => other ?_) held
      rw [issued] at same
      exact (congrArg Prod.fst (Option.some.inj same)).symm
  · refine ⟨news.backing.trans windowed.backing, fun id window held => ?_⟩
    exact windowed.other (by simp [none]) (news.window id window held)

theorem turnInvariant_windowed : TurnInvariant Windowed where
  noNews windowed news := ⟨news.backing.trans windowed.backing, fun id window held =>
    windowed.made id window (news.window id window held)⟩
  turn := Windowed.next

theorem windowed_start (idleLimit : Nat) (supply : Supply) :
    Windowed [] (.start (.start .full idleLimit) supply) := by
  refine ⟨rfl, fun id window held => ?_⟩
  rw [Site.window?_start] at held
  cases held

/-! ## Acceptance -/

/-- What a window honours are the last tokens of the session, as many as its maker keeps. -/
theorem Windowed.mem_lastOf (windowed : Windowed turns site)
    (distinct : ((turns.filterMap Turn.issued?).map Prod.snd).Nodup)
    (held : site.window? id = some window) :
    ∃ g maker since, MadeBy turns id g maker since ∧
      ∀ nonce ∈ window.tokens,
        nonce ∈ lastOf (max 1 g.options.windowSize) (issuedInto id turns) := by
  obtain ⟨g, maker, since, made, holds⟩ := windowed.made id window held
  refine ⟨g, maker, since, made, fun nonce known => ?_⟩
  obtain ⟨before, whole⟩ := made.issuedInto_suffix
  have all : (issuedInto id turns).Nodup := distinct.sublist (Guard.tokensOf_sublist id _)
  rw [whole] at all ⊢
  have last := (Guard.mem_windowAfter (List.nodup_append.1 all).2.1 holds nonce).1
    (Window.contains_iff.2 known)
  exact lastOf_subset_append _ _ _ last

namespace Pipeline

/-- **A guard only accepts a nonce that is among the last ones issued into the session, as many as
the guard keeps that gave the session its window.** -/
theorem accepts_within_window (settings : Settings) (pipeline : Pipeline BuiltinFilter)
    (built : Pipeline.ofSettings settings = .ok pipeline) (idleLimit : Nat) (supply : Supply)
    (past : List Trace.Step) (discreet : ∀ step ∈ past, step.Discreet) (r : Request) (links : Links) :
    let trace := (Trace.start idleLimit supply).after pipeline past
    ∀ earlier turn later, pipeline.turns ⟨r, links, trace.site⟩ = earlier ++ turn :: later →
      let turns := trace.turns ++ earlier
      ((turns.filterMap Turn.issued?).map Prod.snd).Nodup →
        ∀ g, turn.stage.filter = .guard g → turn.result.1 = .proceed → g.isEntry r = false →
          ∃ id nonce, turn.passage.request.session = some id ∧
            r.parameter? g.options.parameter = some nonce ∧
            ∃ g₀ maker since, MadeBy turns id g₀ maker since ∧
              maker.stage ∈ pipeline.stages ∧
              nonce ∈ lastOf g₀.options.windowSize (issuedInto id turns) := by
  intro trace earlier turn later h turns distinct g filter proceeds notEntry
  have windowed : Windowed trace.turns trace.site :=
    turnInvariant_windowed.after (windowed_start idleLimit supply) discreet
  have here := (turnInvariant_windowed.run (p := ⟨r, links, trace.site⟩) windowed pipeline).2
    earlier turn later h
  have among : turn ∈ pipeline.turns ⟨r, links, trace.site⟩ := by rw [h]; simp
  obtain ⟨session, created, same⟩ := resembles_turns among
  rw [Turn.result_guard filter] at proceeds
  obtain ⟨id, nonce, window, carries, given, held, known⟩ :=
    Guard.holds_of_proceed proceeds (by rw [same]; exact notEntry)
  rw [same] at given
  obtain ⟨g₀, maker, since, made, honours⟩ := here.mem_lastOf distinct held
  have staged : maker.stage ∈ pipeline.stages := by
    obtain ⟨before, whole⟩ := made.split
    rcases List.mem_append.1 (whole ▸ by simp : maker ∈ trace.turns ++ earlier) with before | now
    · exact Trace.stage_of_after (fun _ h => by cases h) past maker before
    · exact stage_of_turns (h ▸ List.mem_append_left _ now)
  -- the maker was set up from settings, so it keeps at least one token
  obtain ⟨definition, -, -, setUp⟩ := definition_of_stage built maker.stage staged
  rw [made.makes.filter] at setUp
  have atLeastOne := (definition_of_guard setUp).2.windowSize.1
  refine ⟨id, nonce, carries, given, g₀, maker, since, made, staged, ?_⟩
  rw [← Nat.max_eq_right atLeastOne]
  exact honours nonce known

/-- Settings in which a guard that keeps two tokens lets visitors in, and one that keeps a single
token stands before the payment. -/
def wideAndNarrowSettings : Settings where
  filters := [{ name := "wide", kind := .csrfPrevention
                params := .ofList [("entry_points", "/"), ("nonce_cache_size", "2")] },
              { name := "narrow", kind := .csrfPrevention
                params := .ofList [("nonce_cache_size", "1")] }]
  rules := [⟨"wide", ["/"], [], []⟩, ⟨"narrow", ["/pay"], [], []⟩]

def wide : Guard := ⟨{ entryPoints := ["/"], windowSize := 2 }⟩

def narrow : Guard := ⟨{ windowSize := 1 }⟩

def wideAndNarrow : Pipeline BuiltinFilter :=
  ⟨.ofList [("wide", .guard wide), ("narrow", .guard narrow)],
    [⟨⟨"wide", [.path "/"], [], false, false, .ofList []⟩, .guard wide⟩,
      ⟨⟨"narrow", [.path "/pay"], [], false, false, .ofList []⟩, .guard narrow⟩], .empty⟩

def countedBlocks : Supply where
  handle n := ⟨if n = 0 then "a" else "b"⟩
  block n := .replicate 16 n.toUInt8

/-- A visitor is given a session and a token, and a second token some time later. -/
def enterTwice : List Trace.Step :=
  [.request { path := "/" } .plain, .meanwhile (·.elapse 5),
    .request { path := "/", session := some ⟨"a"⟩ } .plain]

def twoEntries : Trace := (Trace.start 10 countedBlocks).after wideAndNarrow enterTwice

/-- The visitor pays with the first of the tokens. -/
def firstTokenPays : Request where
  method := "POST"
  path := "/pay"
  session := some ⟨"a"⟩
  params := [("csrfToken", (countedBlocks.block 0).token)]

/-- The first of two tokens is accepted, as the session was given its window by the guard that
keeps two. -/
theorem accepts_within_window_wide :
    ofSettings wideAndNarrowSettings = .ok wideAndNarrow ∧
      (∀ step ∈ enterTwice, step.Discreet) ∧
      ((twoEntries.turns.filterMap Turn.issued?).map Prod.snd).Nodup ∧
      ∃ turn maker since, wideAndNarrow.turns ⟨firstTokenPays, .plain, twoEntries.site⟩ = [turn] ∧
        turn.stage.filter = .guard narrow ∧ turn.result.1 = .proceed ∧
        narrow.isEntry firstTokenPays = false ∧ MadeBy twoEntries.turns ⟨"a"⟩ wide maker since ∧
        (countedBlocks.block 0).token ∈
          lastOf wide.options.windowSize (issuedInto ⟨"a"⟩ twoEntries.turns) := by
  have built : ofSettings wideAndNarrowSettings = .ok wideAndNarrow := rfl
  have discreet : ∀ step ∈ enterTwice, step.Discreet := by
    simp [enterTwice, Trace.Step.Discreet, Site.noNews_elapse]
  have distinct : ((twoEntries.turns.filterMap Turn.issued?).map Prod.snd).Nodup := by decide
  obtain ⟨turn, only⟩ : ∃ turn,
      wideAndNarrow.turns ⟨firstTokenPays, .plain, twoEntries.site⟩ = [turn] :=
    List.length_eq_one_iff.1 (by decide)
  have told : [turn].map (fun turn => (turn.stage.filter, turn.result.1,
      turn.passage.request.session)) = [(.guard narrow, .proceed, some ⟨"a"⟩)] := by
    rw [← only]
    decide
  simp only [List.map_cons, List.map_nil, List.cons.injEq, Prod.mk.injEq, and_true] at told
  obtain ⟨filter, proceeds, session⟩ := told
  have notEntry : narrow.isEntry firstTokenPays = false := by decide
  obtain ⟨id, nonce, carries, given, g, maker, since, made, -, among⟩ :=
    accepts_within_window wideAndNarrowSettings wideAndNarrow built 10 countedBlocks enterTwice
      discreet firstTokenPays .plain [] turn [] only (by rwa [List.append_nil]) narrow filter
      proceeds notEntry
  rw [List.append_nil] at made among
  obtain rfl : ⟨"a"⟩ = id := Option.some.inj (session.symm.trans carries)
  obtain rfl : (countedBlocks.block 0).token = nonce :=
    Option.some.inj ((show _ = some _ by decide).symm.trans given)
  -- only the guard with the wide window has had turns so far
  have wideOnly : ∀ turn ∈ twoEntries.turns, turn.stage.filter = .guard wide := by decide
  obtain rfl : g = wide := by
    obtain ⟨before, whole⟩ := made.split
    have same := made.makes.filter.symm.trans (wideOnly maker (whole ▸ by simp))
    exact BuiltinFilter.guard.inj same
  exact ⟨built, discreet, distinct, turn, maker, since, only, filter, proceeds, notEntry, made,
    among⟩

/-- The guard before the payment keeps one token, and accepts the last but one. -/
theorem narrow_accepts_older_token :
    ofSettings wideAndNarrowSettings = .ok wideAndNarrow ∧
      ((twoEntries.turns.filterMap Turn.issued?).map Prod.snd).Nodup ∧
      narrow.isEntry firstTokenPays = false ∧
      (wideAndNarrow.turns ⟨firstTokenPays, .plain, twoEntries.site⟩).map
          (fun turn => (turn.stage.filter, turn.result.1, turn.passage.request.session)) =
        [(.guard narrow, .proceed, some ⟨"a"⟩)] ∧
      firstTokenPays.parameter? narrow.options.parameter =
        some (countedBlocks.block 0).token ∧
      (countedBlocks.block 0).token ∉
        lastOf narrow.options.windowSize (issuedInto ⟨"a"⟩ twoEntries.turns) :=
  ⟨rfl, by decide, by decide, by decide, by decide, by decide⟩

end Pipeline

end Gatehouse
