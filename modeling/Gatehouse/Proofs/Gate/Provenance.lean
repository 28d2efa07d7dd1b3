import Gatehouse.Http.Demo
import Gatehouse.Proofs.Pipeline.News

/-!
# Where the nonces of admitted requests come from

A gate serves requests one after another while time passes and sessions come and go. Every token
that a live session holds was issued into it at an earlier turn of a guard (`Vouched`): this is
kept by every turn, by what the gate does around the turns, and by everything that brings no window
of its own. So a guard never lets a request pass but as an entry, or for a nonce that was issued
into the session that the request carries.
-/

namespace Gatehouse

/-! ## Windows that turns vouch for -/

/-- Every token that a live session holds was issued into it at one of the turns. -/
structure Vouched (turns : List Turn) (site : Site) : Prop where
  backing : site.sessions.backing = .full
  issued : ∀ id window, site.window? id = some window → ∀ token ∈ window.tokens,
    ∃ turn ∈ turns, turn.issued? = some (id, token)

variable {turns : List Turn} {site site' : Site}

theorem vouched_start (idleLimit : Nat) (supply : Supply) :
    Vouched [] (.start (.start .full idleLimit) supply) := by
  refine ⟨rfl, fun id window held => ?_⟩
  rw [Site.window?_start] at held
  cases held

theorem Vouched.noNews (vouched : Vouched turns site) (news : site.NoNews site') :
    Vouched turns site' :=
  ⟨news.backing.trans vouched.backing, fun id window held =>
    vouched.issued id window (news.window id window held)⟩

theorem Vouched.append (vouched : Vouched turns site) (more : List Turn) :
    Vouched (turns ++ more) site := by
  refine ⟨vouched.backing, fun id window held token h => ?_⟩
  obtain ⟨turn, hturn, issued⟩ := vouched.issued id window held token h
  exact ⟨turn, List.mem_append_left _ hturn, issued⟩

theorem mem_tokens_add {window : Window} {token other : String}
    (h : token ∈ (window.add other).tokens) : token ∈ window.tokens ∨ token = other := by
  rw [Window.tokens_add] at h
  split at h
  · exact .inl h
  · have := (lastOf_sublist ..).subset h
    simpa using this

theorem Vouched.passed {g : Guard} {turn : Turn} {p' : Passage}
    (vouched : Vouched turns turn.passage.site) (passed : g.Passed turn.passage p')
    (issued : turn.issued? = some (turn.passage.home.session, turn.passage.token)) :
    Vouched (turns ++ [turn]) p'.site := by
  have here : turn ∈ turns ++ [turn] := by simp
  refine ⟨passed.becomes.backing.trans vouched.backing, fun id window held token h => ?_⟩
  rw [passed.window?] at held
  split at held
  · next own =>
    rw [← Option.some.inj held] at h
    rcases mem_tokens_add h with before | rfl
    · -- what the session held before is vouched for already; a new session held nothing
      cases found : turn.passage.home.entry.window? with
      | none =>
        rw [found] at before
        cases before
      | some window' =>
        rw [found] at before
        have held' := Request.window?_home found
        rw [own]
        exact (vouched.append [turn]).issued _ window' held' token before
    · exact ⟨turn, here, by rw [issued, own]⟩
  · exact (vouched.append [turn]).issued id window held token h

theorem Vouched.turn {turn : Turn} (vouched : Vouched turns turn.passage.site) :
    Vouched (turns ++ [turn]) turn.result.2.site := by
  rcases Turn.passed_or_noNews vouched.backing with ⟨g, -, passed, issued⟩ | ⟨news, -⟩
  · exact vouched.passed passed issued
  · exact (vouched.noNews news).append _

theorem turnInvariant_vouched : TurnInvariant Vouched := ⟨Vouched.noNews, Vouched.turn⟩

/-! ## The gate -/

/-- A handler that gives no session a window. -/
def Handler.Discreet (handler : Handler) : Prop :=
  ∀ admission (site : Site), site.NoNews (handler admission site).2

namespace Gate

inductive Event where
  | arrival (m : Incoming) (handler : Handler)
  | elapse (milliseconds : Nat)
  | purge
  | invalidate (id : SessionId)

/-- The handlers of the event are discreet. -/
def Event.Discreet : Event → Prop
  | .arrival _ handler => handler.Discreet
  | _ => True

/-- A site, and the turns that the filters have had there, in their order. -/
structure Log where
  site : Site
  turns : List Turn

def Log.start (idleLimit : Nat) (supply : Supply) : Log :=
  ⟨.start (.start .full idleLimit) supply, []⟩

variable (gate : Gate)

/-- A request as the gate shows it to the pipeline. -/
def arriving (m : Incoming) (site : Site) : Passage :=
  { request := (gate.describe m).1, links := .plain, site }

/-- No filter rejects the request, so that its handler runs. -/
def Admits (m : Incoming) (site : Site) : Prop :=
  (gate.pipeline.run (gate.arriving m site)).outcome = .proceed

/-- The turns that the filters have for a request. -/
def turnsFor (m : Incoming) (site : Site) : List Turn :=
  gate.pipeline.turns (gate.arriving m site)

/-- The site and the turns after one more event. -/
def advance (log : Log) : Event → Log
  | .arrival m handler =>
    ⟨(gate.serve handler m log.site).2, log.turns ++ gate.turnsFor m log.site⟩
  | .elapse milliseconds => { log with site := log.site.elapse milliseconds }
  | .purge => { log with site := (log.site.access fun now s => s.purge now).2 }
  | .invalidate id => { log with site := log.site.invalidate id }

/-- The site and the turns after events, one after another. -/
def after (log : Log) : List Event → Log
  | [] => log
  | e :: rest => after (gate.advance log e) rest

variable {gate}

theorem serve_eq (handler : Handler) (m : Incoming) (site : Site) :
    let run := gate.pipeline.run (gate.arriving m site)
    gate.serve handler m site =
      match run.outcome with
      | .halted _ status reason =>
        (.text status reason, retract run.passage.request run.passage.site)
      | .proceed =>
        let admission := ⟨(gate.describe m).2, run.passage.links, run.passage.request.session⟩
        (gate.announce run.passage.request (handler admission run.passage.site).1,
          (handler admission run.passage.site).2) :=
  rfl

theorem serve_of_rejected {m : Incoming} {site : Site} (rejected : ¬ gate.Admits m site)
    (handler handler' : Handler) : gate.serve handler m site = gate.serve handler' m site := by
  rw [serve_eq, serve_eq]
  rw [Admits] at rejected
  split
  · rfl
  · next proceeds => exact (rejected proceeds).elim

theorem serve_of_admitted {m : Incoming} {site : Site} (admitted : gate.Admits m site)
    (handler : Handler) :
    let p := (gate.pipeline.run (gate.arriving m site)).passage
    let given := handler ⟨(gate.describe m).2, p.links, p.request.session⟩ p.site
    gate.serve handler m site = (gate.announce p.request given.1, given.2) := by
  rw [Admits] at admitted
  rw [serve_eq]
  simp only [admitted]

theorem noNews_retract (r : Request) (site : Site) : site.NoNews (retract r site) := by
  unfold retract
  split
  · exact site.noNews_refl
  · exact site.noNews_invalidate _

variable {inv : List Turn → Site → Prop}

theorem invariant_advance (kept : TurnInvariant inv) {log : Log}
    (holds : inv log.turns log.site) {e : Event} (discreet : e.Discreet) :
    inv (gate.advance log e).turns (gate.advance log e).site := by
  cases e with
  | arrival m handler =>
    refine kept.noNews (kept.run (p := gate.arriving m log.site) holds gate.pipeline).1 ?_
    show Site.NoNews _ (gate.serve handler m log.site).2
    rw [serve_eq]
    simp only
    split
    · exact noNews_retract ..
    · exact discreet _ _
  | elapse milliseconds => exact kept.noNews holds (Site.noNews_elapse ..)
  | purge => exact kept.noNews holds (Site.noNews_purge _)
  | invalidate id => exact kept.noNews holds (Site.noNews_invalidate ..)

/-- What turns keep holds after all events. -/
theorem invariant_after (kept : TurnInvariant inv) {log : Log}
    (holds : inv log.turns log.site) {events : List Event} (discreet : ∀ e ∈ events, e.Discreet) :
    inv (gate.after log events).turns (gate.after log events).site := by
  induction events generalizing log with
  | nil => exact holds
  | cons e rest ih =>
    exact ih (invariant_advance kept holds (discreet e List.mem_cons_self))
      fun e' h => discreet e' (List.mem_cons_of_mem _ h)

/-- The turns of a gate are of its stages, and vouch for what the sessions hold. -/
structure Sound (gate : Gate) (log : Log) : Prop where
  vouched : Vouched log.turns log.site
  stages : ∀ turn ∈ log.turns, turn.stage ∈ gate.pipeline.stages

theorem stage_of_after {log : Log} (staged : ∀ turn ∈ log.turns, turn.stage ∈ gate.pipeline.stages)
    (events : List Event) :
    ∀ turn ∈ (gate.after log events).turns, turn.stage ∈ gate.pipeline.stages := by
  induction events generalizing log with
  | nil => exact staged
  | cons e rest ih =>
    refine ih fun turn h => ?_
    cases e with
    | arrival m handler =>
      rcases List.mem_append.1 h with before | now
      · exact staged turn before
      · exact Pipeline.stage_of_turns now
    | elapse milliseconds => exact staged turn h
    | purge => exact staged turn h
    | invalidate id => exact staged turn h

theorem Sound.after {log : Log} (sound : Sound gate log) {events : List Event}
    (discreet : ∀ e ∈ events, e.Discreet) : Sound gate (gate.after log events) :=
  ⟨invariant_after turnInvariant_vouched sound.vouched discreet, stage_of_after sound.stages events⟩

/-! ## Admission -/

/-- What lets a request pass at the turn of a guard: it is an entry, or its session is live and
holds the nonce that it presents, which a stage of the pipeline issued into that session at one of
the turns before. -/
def Entitled (gate : Gate) (g : Guard) (r : Request) (past : List Turn) (turn : Turn) : Prop :=
  r.method = "GET" ∧ r.path ∈ g.options.entryPoints ∨
    ∃ id nonce window, turn.passage.request.session = some id ∧
      (turn.passage.site.sessions.isLive turn.passage.site.now id).1 = true ∧
      r.parameter? g.options.parameter = some nonce ∧
      turn.passage.site.window? id = some window ∧ nonce ∈ window.tokens ∧
      ∃ issue ∈ past, issue.stage ∈ gate.pipeline.stages ∧ issue.issued? = some (id, nonce)

theorem Sound.entitled {log : Log} (sound : Sound gate log) {m : Incoming} {g : Guard}
    {earlier later : List Turn} {turn : Turn}
    (h : gate.turnsFor m log.site = earlier ++ turn :: later)
    (filter : turn.stage.filter = .guard g) (proceeds : turn.result.1 = .proceed) :
    gate.Entitled g (gate.describe m).1 (log.turns ++ earlier) turn := by
  have vouched := (turnInvariant_vouched.run (p := gate.arriving m log.site) sound.vouched
    gate.pipeline).2 earlier turn later h
  have here : turn ∈ gate.turnsFor m log.site := by rw [h]; simp
  obtain ⟨session, created, same⟩ := Pipeline.resembles_turns here
  have isEntry : g.isEntry turn.passage.request = g.isEntry (gate.describe m).1 := by
    rw [same]; rfl
  have parameter : turn.passage.request.parameter? g.options.parameter =
      (gate.describe m).1.parameter? g.options.parameter := by
    rw [same]; rfl
  rw [Turn.result_guard filter] at proceeds
  by_cases entry : g.isEntry turn.passage.request = true
  · rw [isEntry, Guard.isEntry] at entry
    exact .inl (by simpa using entry)
  · obtain ⟨id, nonce, window, carries, given, held, known⟩ :=
      Guard.holds_of_proceed proceeds (by simpa using entry)
    obtain ⟨issue, before, issued⟩ := vouched.issued id window held nonce known
    have live : (turn.passage.site.sessions.isLive turn.passage.site.now id).1 = true := by
      obtain ⟨entry, live, -⟩ := Option.bind_eq_some_iff.1 held
      show (turn.passage.site.sessions.store.isLive _ _).1 = true
      rw [Store.isLive_fst, show Store.live? _ _ _ = _ from live]
      rfl
    refine .inr ⟨id, nonce, window, carries, live, parameter ▸ given, held, known, issue, before,
      ?_, issued⟩
    rcases List.mem_append.1 before with past | now
    · exact sound.stages issue past
    · exact Pipeline.stage_of_turns (h ▸ List.mem_append_left _ now)

/-- **A request is only admitted if it is entitled to pass every guard that is resolved for
it.** -/
theorem admits_only_entitled (gate : Gate) (settings : Settings)
    (built : Pipeline.ofSettings settings = .ok gate.pipeline) (idleLimit : Nat) (supply : Supply)
    (past : List Event) (discreet : ∀ e ∈ past, e.Discreet) (m : Incoming)
    (admitted : gate.Admits m (gate.after (.start idleLimit supply) past).site) :
    let log := gate.after (.start idleLimit supply) past
    let turns := gate.turnsFor m log.site
    turns.map (fun turn => turn.stage.rule.filter) = gate.pipeline.resolve (gate.describe m).1 ∧
      ∀ earlier turn later, turns = earlier ++ turn :: later →
        ∀ definition ∈ settings.filters, definition.kind = .csrfPrevention →
          definition.name = turn.stage.rule.filter →
          ∃ g, BuiltinFilter.ofDefinition definition = .ok (.guard g) ∧
            turn.stage.filter = .guard g ∧
            gate.Entitled g (gate.describe m).1 (log.turns ++ earlier) turn := by
  intro log turns
  have start : Sound gate (.start idleLimit supply) :=
    ⟨vouched_start idleLimit supply, fun turn h => by cases h⟩
  have sound : Sound gate log := start.after discreet
  obtain ⟨stages, proceed⟩ := Pipeline.turnsOver_of_run admitted
  refine ⟨?_, fun earlier turn later h definition defined kind name => ?_⟩
  · have names := congrArg (List.map fun stage : Stage BuiltinFilter => stage.rule.filter) stages
    rw [List.map_map] at names
    exact names.trans (Pipeline.map_stagesFor ..)
  · have here : turn ∈ turns := by rw [h]; simp
    obtain ⟨filter, made, held⟩ := Pipeline.filter_of_definition built definition defined
    obtain ⟨g, rfl⟩ := Pipeline.guard_of_definition made kind
    have staged := Pipeline.filter_of_stage built turn.stage (Pipeline.stage_of_turns here)
    rw [← name, held, Option.some.injEq] at staged
    exact ⟨g, made, staged.symm, sound.entitled h staged.symm (proceed turn here)⟩

end Gate

/-! ## The demo application -/

namespace Handler

theorem discreet_of_idle {handler : Handler}
    (idle : ∀ admission site, (handler admission site).2 = site) : handler.Discreet := by
  intro admission site
  rw [idle]
  exact site.noNews_refl

theorem discreet_transfer : Discreet Demo.transfer := by
  apply discreet_of_idle
  intro admission site
  unfold Demo.transfer
  split
  · rfl
  · split <;> rfl

theorem discreet_logout : Discreet Demo.logout := by
  intro admission site
  unfold Demo.logout
  cases admission.session with
  | none => exact site.noNews_refl
  | some id => exact site.noNews_invalidate id

theorem discreet_fixed (status : Nat) : Discreet (Service.fixed status) :=
  discreet_of_idle fun _ _ => rfl

/-- Every handler of the demo application is discreet. -/
theorem discreet_application (method path : String) :
    (Demo.application method path).handler.Discreet := by
  have welcome : Discreet Demo.welcome := discreet_of_idle fun _ _ => rfl
  have account : Discreet Demo.account := discreet_of_idle fun _ _ => rfl
  have transfer := discreet_transfer
  have logout := discreet_logout
  have fixed := discreet_fixed
  unfold Demo.application Demo.asking Demo.posting
  repeat' split
  all_goals first | exact fixed _ | assumption

end Handler

namespace Gate

/-- A visitor of the demo application is given a token and may pay with it. -/
theorem admits_only_entitled_payment :
    let g : Guard := ⟨{ entryPoints := ["/"] }⟩
    let settings : Settings :=
      { filters := [{ name := "csrf", kind := .csrfPrevention,
                      params := .ofList [("entry_points", "/")] }]
        rules := [⟨"csrf", ["/*"], [], []⟩] }
    let rule : Rule := ⟨"csrf", [.tree ""], [], false, false, .ofList []⟩
    let gate : Gate :=
      { pipeline := ⟨.ofList [("csrf", .guard g)], [⟨rule, .guard g⟩], .empty⟩
        cookieName := "SID", maxBodySize := 100, maxParameters := 10 }
    let supply : Supply :=
      { handle := fun n => ⟨if n = 0 then "a" else "b"⟩, block := fun n => .replicate 16 n.toUInt8 }
    let token := (supply.block 0).token
    let past := [.arrival ⟨"GET", ⟨none, "", "/", none⟩, [], .free [], .request⟩
      (Demo.application "GET" "/").handler, .elapse 5]
    let log := gate.after (.start 10 supply) past
    let m : Incoming := ⟨"POST", ⟨none, "", "/transfer", some ("csrfToken=" ++ token)⟩,
      [("cookie", Text.utf8 "SID=a")], .free [], .request⟩
    Pipeline.ofSettings settings = .ok gate.pipeline ∧ (∀ e ∈ past, e.Discreet) ∧
      gate.Admits m log.site ∧ ∃ issue ∈ log.turns, issue.issued? = some (⟨"a"⟩, token) := by
  intro g settings rule gate supply token past log m
  have built : Pipeline.ofSettings settings = .ok gate.pipeline := rfl
  have discreet : ∀ e ∈ past, e.Discreet := by
    simp [past, Event.Discreet, Handler.discreet_application]
  have admitted : gate.Admits m log.site := by unfold Admits; decide
  refine ⟨built, discreet, admitted, ?_⟩
  obtain ⟨turn, only⟩ : ∃ turn, gate.turnsFor m log.site = [turn] :=
    List.length_eq_one_iff.1 (by decide)
  have session : [turn.passage.request.session] = [some ⟨"a"⟩] := by
    show List.map (fun turn : Turn => turn.passage.request.session) [turn] = _
    rw [← only]
    decide
  obtain ⟨names, entitled⟩ := admits_only_entitled gate settings built 10 supply past discreet m
    admitted
  have name : "csrf" = turn.stage.rule.filter := by
    rw [show gate.turnsFor m _ = [turn] from only] at names
    exact (List.cons.inj (names.trans (show _ = ["csrf"] by decide))).1.symm
  obtain ⟨g', made, -, entitled⟩ := entitled [] turn [] only _ List.mem_cons_self rfl name
  have same : BuiltinFilter.guard g' = .guard g := Except.ok.inj (made.symm.trans rfl)
  rw [List.append_nil, BuiltinFilter.guard.inj same] at entitled
  rcases entitled with ⟨get, -⟩ | ⟨id, nonce, -, carries, -, given, -, -, issue, before, -, issued⟩
  · exact absurd get (by decide)
  · have own : id = ⟨"a"⟩ := Option.some.inj (carries.symm.trans (List.cons.inj session).1)
    have presented : nonce = token := Option.some.inj (given.symm.trans (by decide))
    exact ⟨issue, before, by rw [issued, own, presented]⟩

end Gate

end Gatehouse
