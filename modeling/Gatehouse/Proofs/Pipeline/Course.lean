import Gatehouse.Proofs.Pipeline.Turns

/-!
# Guards in a row

In a run that proceeds, each guard stamps the links with a token of its own and enters it into the
window of one and the same session (`run_course`). Once a request carries a session that is live,
its guards let it pass just if each of them finds an entry, or a nonce that the window still holds
after the tokens of the guards before (`turns_clear`).
-/

namespace Gatehouse

/-- The token of a block that the supply holds in store. -/
def Supply.token (supply : Supply) (n : Nat) : String := (supply.block n).token

/-- Some tokens in a row, from a given one on. -/
def Supply.tokens (supply : Supply) (n count : Nat) : List String :=
  (List.range' n count).map supply.token

/-- The guards among the filters of stages. -/
def guardsOf (stages : List (Stage BuiltinFilter)) : List Guard :=
  (stages.map Stage.filter).filterMap fun filter => match filter with
    | .guard g => some g
    | .screen _ => none

/-- The pairs that guards stamp on links. -/
def stampsOf (supply : Supply) (n : Nat) (guards : List Guard) : List Link.Pair :=
  (guards.map fun g => g.options.parameter).zip (supply.tokens n guards.length)

theorem tokens_succ (supply : Supply) (n count : Nat) :
    supply.tokens n (count + 1) = supply.token n :: supply.tokens (n + 1) count := by
  rw [Supply.tokens, List.range'_succ]
  rfl

theorem tokens_append (supply : Supply) (n count more : Nat) :
    supply.tokens n (count + more) =
      supply.tokens n count ++ supply.tokens (n + count) more := by
  rw [Supply.tokens, ← List.range'_append_1, List.map_append]
  rfl

theorem tokens_congr {supply supply' : Supply} (same : supply'.block = supply.block)
    (n count : Nat) : supply'.tokens n count = supply.tokens n count := by
  have token : supply'.token = supply.token := by
    funext n
    rw [Supply.token, Supply.token, same]
  rw [Supply.tokens, Supply.tokens, token]

@[simp] theorem length_tokens (supply : Supply) (n count : Nat) :
    (supply.tokens n count).length = count := by
  simp [Supply.tokens]

theorem guardsOf_guard {stage : Stage BuiltinFilter} {g : Guard} (h : stage.filter = .guard g)
    (rest : List (Stage BuiltinFilter)) : guardsOf (stage :: rest) = g :: guardsOf rest := by
  simp [guardsOf, h]

theorem guardsOf_screen {stage : Stage BuiltinFilter} {s : Screen} (h : stage.filter = .screen s)
    (rest : List (Stage BuiltinFilter)) : guardsOf (stage :: rest) = guardsOf rest := by
  simp [guardsOf, h]

theorem stampsOf_cons (supply : Supply) (n : Nat) (g : Guard) (rest : List Guard) :
    stampsOf supply n (g :: rest) =
      (g.options.parameter, supply.token n) :: stampsOf supply (n + 1) rest := by
  rw [stampsOf, List.length_cons, tokens_succ]
  rfl

namespace Pipeline

variable {stages : List (Stage BuiltinFilter)} {p : Passage}

/-- What a run through stages with some guards leaves of a passage. -/
structure Course (guards : List Guard) (p p' : Passage) : Prop where
  backing : p'.site.sessions.backing = .full
  now : p'.site.now = p.site.now
  block : p'.site.supply.block = p.site.supply.block
  drawn : p'.site.supply.blocksDrawn = p.site.supply.blocksDrawn + guards.length
  links : p'.links.decorations = p.links.decorations ++
    (stampsOf p.site.supply p.site.supply.blocksDrawn guards).map fun pair => .stamp pair.1 pair.2
  untouched : guards = [] → p'.request = p.request ∧ p'.site.sessions = p.site.sessions
  session : ∀ g rest, guards = g :: rest → p'.request.session = some p.home.session
  window : ∀ g rest, guards = g :: rest → p'.site.window? p.home.session =
    some ((p.site.supply.tokens p.site.supply.blocksDrawn guards.length).foldl Window.add
      (p.home.entry.window?.getD g.freshWindow))

theorem home_of_window {id : SessionId} {window : Window} (own : p.request.session = some id)
    (held : p.site.window? id = some window) :
    p.home.session = id ∧ p.home.entry.window? = some window ∧ p.home.request = p.request := by
  obtain ⟨entry, live, holds⟩ := Option.bind_eq_some_iff.1 held
  rw [Passage.home, Request.home_of_live own live]
  exact ⟨rfl, holds, rfl⟩

end Pipeline

theorem Guard.Passed.settled {g : Guard} {p p' : Passage} (passed : g.Passed p p') :
    p'.request.session = some p.home.session ∧
      p'.site.window? p.home.session =
        some ((p.home.entry.window?.getD g.freshWindow).add p.token) := by
  refine ⟨by rw [passed.request]; exact Request.session_home .., ?_⟩
  rw [passed.window?, if_pos rfl]

namespace Pipeline

variable {stages : List (Stage BuiltinFilter)} {p p' : Passage}

theorem course_nil (full : p.site.sessions.backing = .full) : Course [] p p := by
  refine ⟨full, rfl, rfl, rfl, ?_, fun _ => ⟨rfl, rfl⟩, ?_, ?_⟩
  · simp [stampsOf]
  · intro g rest h; cases h
  · intro g rest h; cases h

theorem Course.cons {g : Guard} {guards : List Guard} {p₁ : Passage} (passed : g.Passed p p₁)
    (course : Course guards p₁ p') : Course (g :: guards) p p' := by
  obtain ⟨session, window⟩ := passed.settled
  obtain ⟨homeSession, homeWindow, -⟩ := home_of_window session window
  have block : p₁.site.supply.block = p.site.supply.block := by rw [passed.supply]
  have drawn : p₁.site.supply.blocksDrawn = p.site.supply.blocksDrawn + 1 := by rw [passed.supply]
  have later := tokens_congr block
  have laterStamps : stampsOf p₁.site.supply (p.site.supply.blocksDrawn + 1) guards =
      stampsOf p.site.supply (p.site.supply.blocksDrawn + 1) guards := by
    rw [stampsOf, stampsOf, later]
  refine ⟨course.backing, course.now.trans passed.becomes.now, course.block.trans block, ?_, ?_,
    (fun h => by cases h), ?_, ?_⟩
  · rw [course.drawn, drawn, List.length_cons]
    omega
  · rw [course.links, passed.links, drawn, laterStamps, stampsOf_cons, List.map_cons]
    simp [Links.wrap, Passage.token, Supply.token]
  · intro g' rest same
    cases guards with
    | nil => rw [(course.untouched rfl).1, session]
    | cons next others => rw [course.session next others rfl, homeSession]
  · rintro g' rest same
    obtain ⟨rfl, rfl⟩ := List.cons.inj same
    rw [List.length_cons, tokens_succ, List.foldl_cons]
    -- the guards behind find the window where this one has left it
    cases guards with
    | nil =>
      have same : p'.site.window? p.home.session = p₁.site.window? p.home.session := by
        rw [Site.window?, Site.live?, course.now, (course.untouched rfl).2]
        rfl
      rw [same, window]
      rfl
    | cons next others =>
      have held := course.window next others rfl
      rw [homeSession, homeWindow, Option.getD_some, drawn, later] at held
      exact held

/-- **A run that proceeds leaves a token of each guard on the links, and in one session.** -/
theorem run_course (stages : List (Stage BuiltinFilter)) (p : Passage)
    (full : p.site.sessions.backing = .full)
    (proceeds : (runStages stages p).outcome = .proceed) :
    Course (guardsOf stages) p (runStages stages p).passage := by
  induction stages generalizing p with
  | nil => exact course_nil full
  | cons stage rest ih =>
    cases verdict : (firstTurn stage p).result.1 with
    | reject status reason =>
      rw [runStages_of_reject verdict] at proceeds
      cases proceeds
    | proceed =>
      rw [runStages_of_proceed verdict] at proceeds ⊢
      cases filter : stage.filter with
      | guard g =>
        rw [firstTurn_guard filter] at verdict proceeds ⊢
        have passed := (Guard.pass_of_passes (p := (firstTurn stage p).passage) full
          ((Guard.pass_proceed_iff g _).1 verdict)).2
        have course := ih _ (passed.becomes.backing.trans full) proceeds
        obtain ⟨request, links, supply, becomes⟩ := passed
        rw [guardsOf_guard filter]
        exact Course.cons ⟨request, links, supply, becomes.backing, becomes.now, becomes.store⟩ course
      | screen s =>
        rw [firstTurn_screen filter] at proceeds ⊢
        obtain ⟨backing, now, block, drawn, links, untouched, session, window⟩ :=
          ih (firstTurn stage p).passage full proceeds
        rw [guardsOf_screen filter]
        exact ⟨backing, now, block, drawn, links, untouched, session, window⟩

end Pipeline

/-! ## When guards let a request pass -/

/-- The request is an entry, or presents a nonce that the window holds. -/
def Guard.Clears (g : Guard) (r : Request) (window : Window) : Prop :=
  g.isEntry r = true ∨ ∃ nonce, r.parameter? g.options.parameter = some nonce ∧
    nonce ∈ window.tokens

/-- Every guard that has a turn lets the request pass. -/
def GuardsPass (turns : List Turn) : Prop :=
  ∀ turn ∈ turns, ∀ g, turn.stage.filter = .guard g → turn.result.1 = .proceed

/-- Each of some guards finds what it needs in the window, as the tokens of the guards before leave
it. -/
def AllClear (r : Request) (supply : Supply) (n : Nat) (window : Window) (guards : List Guard) :
    Prop :=
  ∀ j (h : j < guards.length), guards[j].Clears r ((supply.tokens n j).foldl Window.add window)

theorem allClear_congr {r : Request} {supply supply' : Supply} {n : Nat} {window : Window}
    {guards : List Guard} (same : supply'.block = supply.block) :
    AllClear r supply' n window guards ↔ AllClear r supply n window guards := by
  simp only [AllClear, tokens_congr same]

theorem allClear_cons {r : Request} {supply : Supply} {n : Nat} {window : Window} {g : Guard}
    {guards : List Guard} :
    AllClear r supply n window (g :: guards) ↔
      g.Clears r window ∧ AllClear r supply (n + 1) (window.add (supply.token n)) guards := by
  constructor
  · intro clear
    refine ⟨clear 0 (by simp), fun j h => ?_⟩
    have := clear (j + 1) (by simpa using h)
    rw [tokens_succ] at this
    exact this
  · rintro ⟨first, others⟩ j h
    cases j with
    | zero => exact first
    | succ j =>
      rw [tokens_succ]
      exact others j (by simpa using h)

namespace Pipeline

variable {id : SessionId} {window : Window}

theorem pass_proceed_iff_clears (g : Guard) (own : p.request.session = some id)
    (held : p.site.window? id = some window) :
    (g.pass p).1 = .proceed ↔ g.Clears p.request window := by
  by_cases entry : g.isEntry p.request = true
  · refine ⟨fun _ => .inl entry, fun _ => (Guard.pass_proceed_iff g p).2 fun refusal h => ?_⟩
    rw [Guard.reading, if_pos entry] at h
    cases h
  · have notEntry : g.isEntry p.request = false := by simpa using entry
    constructor
    · intro proceeds
      obtain ⟨id', nonce, window', own', given, held', known⟩ :=
        Guard.holds_of_proceed proceeds notEntry
      obtain rfl : id = id' := Option.some.inj (own.symm.trans own')
      obtain rfl : window = window' := Option.some.inj (held.symm.trans held')
      exact .inr ⟨nonce, given, known⟩
    · rintro (h | ⟨nonce, given, known⟩)
      · exact absurd h entry
      · refine (Guard.pass_proceed_iff g p).2 fun refusal h => ?_
        rw [Guard.reading_of_held notEntry own given held known] at h
        cases h

theorem pass_of_held {g : Guard} (full : p.site.sessions.backing = .full)
    (own : p.request.session = some id) (held : p.site.window? id = some window)
    (proceeds : (g.pass p).1 = .proceed) :
    let p' := (g.pass p).2
    p'.site.sessions.backing = .full ∧ p'.request = p.request ∧
      p'.site.window? id = some (window.add p.token) ∧
      p'.site.supply.blocksDrawn = p.site.supply.blocksDrawn + 1 ∧
      p'.site.supply.block = p.site.supply.block := by
  have passed := (Guard.pass_of_passes full ((Guard.pass_proceed_iff g p).1 proceeds)).2
  obtain ⟨session, found, request⟩ := home_of_window own held
  have entered := passed.settled.2
  rw [session, found] at entered
  refine ⟨passed.becomes.backing.trans full, passed.request.trans request, entered, ?_, ?_⟩
  · rw [passed.supply]
  · rw [passed.supply]

theorem guardsPass_cons {turn : Turn} {turns : List Turn} :
    GuardsPass (turn :: turns) ↔
      (∀ g, turn.stage.filter = .guard g → turn.result.1 = .proceed) ∧ GuardsPass turns :=
  List.forall_mem_cons

/-- Guards in a row let a request pass just if each of them finds what it needs. Only a screen may
keep the request from them. -/
structure TurnsClear (stages : List (Stage BuiltinFilter)) (p : Passage) (window : Window) :
    Prop where
  enough : AllClear p.request p.site.supply p.site.supply.blocksDrawn window (guardsOf stages) →
    GuardsPass (turnsOver stages p)
  needed : p.request.paramsFailed = false → GuardsPass (turnsOver stages p) →
    AllClear p.request p.site.supply p.site.supply.blocksDrawn window (guardsOf stages)

variable {stage : Stage BuiltinFilter} {rest : List (Stage BuiltinFilter)}

theorem turnsClear_guard {g : Guard} (filter : stage.filter = .guard g)
    (full : p.site.sessions.backing = .full) (own : p.request.session = some id)
    (held : p.site.window? id = some window)
    (behind : ∀ p' window', p'.site.sessions.backing = .full → p'.request.session = some id →
      p'.site.window? id = some window' → TurnsClear rest p' window') :
    TurnsClear (stage :: rest) p window := by
  have result := firstTurn_guard filter p
  have passes : (firstTurn stage p).result.1 = .proceed ↔ g.Clears p.request window := by
    rw [result]
    exact pass_proceed_iff_clears g own held
  cases verdict : (firstTurn stage p).result.1 with
  | reject status reason =>
    have blocked : ¬ g.Clears p.request window := by
      rw [← passes, verdict]
      exact fun h => by cases h
    refine ⟨fun clear => ?_, fun _ pass => ?_⟩
    · rw [guardsOf_guard filter, allClear_cons] at clear
      exact absurd clear.1 blocked
    · rw [turnsOver_of_reject verdict, guardsPass_cons] at pass
      exact absurd (passes.1 (pass.1 g filter)) blocked
  | proceed =>
    obtain ⟨full', same, held', drawn, block⟩ :=
      pass_of_held (p := (firstTurn stage p).passage) full own held (result ▸ verdict)
    obtain ⟨enough, needed⟩ :=
      behind (g.pass (firstTurn stage p).passage).2 _ full' (same ▸ own) held'
    rw [same, drawn, allClear_congr block] at enough needed
    constructor
    · intro clear
      rw [guardsOf_guard filter, allClear_cons] at clear
      rw [turnsOver_of_proceed verdict, guardsPass_cons, result]
      exact ⟨fun _ _ => by rw [← result]; exact verdict, enough clear.2⟩
    · intro read pass
      rw [turnsOver_of_proceed verdict, guardsPass_cons, result] at pass
      rw [guardsOf_guard filter, allClear_cons]
      exact ⟨passes.1 verdict, needed read pass.2⟩

theorem turnsClear_screen {s : Screen} (filter : stage.filter = .screen s)
    (behind : TurnsClear rest (firstTurn stage p).passage window) :
    TurnsClear (stage :: rest) p window := by
  have result := firstTurn_screen filter p
  have other : ∀ g, stage.filter = .guard g → (firstTurn stage p).result.1 = .proceed := by
    intro g h
    rw [filter] at h
    cases h
  cases verdict : (firstTurn stage p).result.1 with
  | reject status reason =>
    refine ⟨fun _ => ?_, fun read => ?_⟩
    · rw [turnsOver_of_reject verdict, guardsPass_cons]
      exact ⟨other, fun turn h => by cases h⟩
    · have passes : (firstTurn stage p).result.1 = .proceed := by
        rw [result, read]
        rfl
      rw [passes] at verdict
      cases verdict
  | proceed =>
    have left : (firstTurn stage p).result.2 = (firstTurn stage p).passage := by rw [result]
    constructor
    · intro clear
      rw [guardsOf_screen filter] at clear
      rw [turnsOver_of_proceed verdict, guardsPass_cons, left]
      exact ⟨other, behind.enough clear⟩
    · intro read pass
      rw [turnsOver_of_proceed verdict, guardsPass_cons, left] at pass
      rw [guardsOf_screen filter]
      exact behind.needed read pass.2

/-- **Guards in a row let a request pass just if each finds what it needs.** -/
theorem turns_clear (stages : List (Stage BuiltinFilter)) (p : Passage)
    (full : p.site.sessions.backing = .full) (own : p.request.session = some id)
    (held : p.site.window? id = some window) : TurnsClear stages p window := by
  -- a guard that lets the request pass adds its token to the window, so the window is generalized
  induction stages generalizing p window with
  | nil =>
    refine ⟨fun _ turn h => (by cases h), fun _ _ j h => ?_⟩
    simp [guardsOf] at h
  | cons stage rest ih =>
    cases filter : stage.filter with
    | guard g => exact turnsClear_guard filter full own held fun p' _ => ih p'
    | screen s => exact turnsClear_screen filter (ih (firstTurn stage p).passage full own held)

end Pipeline

end Gatehouse
