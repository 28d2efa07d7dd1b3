import Gatehouse.Proofs.Link.Encoding
import Gatehouse.Proofs.Pipeline.Build
import Gatehouse.Proofs.Pipeline.Course

/-!
# From an answer to the next request

A request that the guards let pass is answered with links that bear a token of each guard. The next
request comes by such a link, and passes the same guards. Each of them reads the first token under
its parameter, while the guards before have already entered tokens of their own: the token is
honoured just if the window is large enough to hold it until then (`Pipeline.Fits`).
-/

namespace Gatehouse

namespace Pipeline

/-- The guards that apply to a request, in the order of their turns. -/
def guardsFor (pipeline : Pipeline BuiltinFilter) (r : Request) : List Guard :=
  guardsOf (pipeline.stagesFor r)

variable {pipeline : Pipeline BuiltinFilter} {settings : Settings}

theorem guardsFor_congr (built : ofSettings settings = .ok pipeline) {r r' : Request}
    (same : pipeline.resolve r' = pipeline.resolve r) :
    pipeline.guardsFor r' = pipeline.guardsFor r := by
  have named : ∀ r, ((pipeline.stagesFor r).map Stage.filter).map some =
      (pipeline.resolve r).map pipeline.filters.get? := by
    intro r
    rw [← map_stagesFor, List.map_map, List.map_map]
    exact List.map_congr_left fun stage h =>
      (filter_of_stage built stage (mem_of_stagesFor h)).symm
  have filters := (named r').trans ((congrArg _ same).trans (named r).symm)
  rw [List.map_inj_right fun _ _ => Option.some.inj] at filters
  rw [guardsFor, guardsOf, filters]
  rfl

/-! ## Which token a guard reads -/

/-- The place of the first guard that stamps links under a name. -/
def firstWith (name : String) (guards : List Guard) : Nat :=
  guards.findIdx fun g => g.options.parameter = name

theorem find?_stampsOf (supply : Supply) (n : Nat) {guards : List Guard} {g : Guard}
    (h : g ∈ guards) :
    ((stampsOf supply n guards).find? fun pair => pair.1 = g.options.parameter).map Prod.snd =
      some (supply.token (n + firstWith g.options.parameter guards)) := by
  induction guards generalizing n with
  | nil => cases h
  | cons first rest ih =>
    rw [stampsOf_cons, firstWith, List.findIdx_cons, List.find?_cons]
    by_cases same : first.options.parameter = g.options.parameter
    · simp [same]
    · have later : g ∈ rest := by
        rcases List.mem_cons.1 h with rfl | later
        · exact absurd rfl same
        · exact later
      have found := ih (n + 1) later
      simp only [same, decide_false, cond_false]
      rw [found, firstWith, Nat.add_assoc, Nat.add_comm 1]

theorem firstWith_lt {guards : List Guard} {g : Guard} (h : g ∈ guards) :
    firstWith g.options.parameter guards < guards.length :=
  List.findIdx_lt_length_of_exists ⟨g, h, by simp⟩

theorem clears_iff {r : Request} {supply : Supply} {n j : Nat} {guards : List Guard} {g : Guard}
    {start : Window} (params : r.params = stampsOf supply n guards) (member : g ∈ guards)
    (distinct : (start.tokens ++ supply.tokens n (guards.length + j)).Nodup) :
    g.Clears r ((supply.tokens n (guards.length + j)).foldl Window.add start) ↔
      g.isEntry r = true ∨
        guards.length + j ≤ start.capacity + firstWith g.options.parameter guards := by
  have given : r.parameter? g.options.parameter =
      some (supply.token (n + firstWith g.options.parameter guards)) := by
    rw [Request.parameter?, params]
    exact find?_stampsOf supply n member
  have place := firstWith_lt member
  -- among the old tokens and the new ones it stands `i` places behind the old ones
  generalize firstWith g.options.parameter guards = i at given place ⊢
  have bound : start.tokens.length + i <
      (start.tokens ++ supply.tokens n (guards.length + j)).length := by
    rw [List.length_append, length_tokens]
    omega
  have found : (start.tokens ++ supply.tokens n (guards.length + j))[start.tokens.length + i] =
      supply.token (n + i) := by
    rw [List.getElem_append_right (by omega)]
    simp [Supply.tokens]
  have held : supply.token (n + i) ∈
      ((supply.tokens n (guards.length + j)).foldl Window.add start).tokens ↔
        guards.length + j ≤ start.capacity + i := by
    rw [start.tokens_foldl_add _ distinct, ← found, getElem_mem_lastOf distinct bound,
      List.length_append, length_tokens]
    omega
  rw [Guard.Clears, given]
  constructor
  · rintro (entry | ⟨nonce, same, known⟩)
    · exact .inl entry
    · rw [← Option.some.inj same] at known
      exact .inr (held.1 known)
  · rintro (entry | fits)
    · exact .inl entry
    · exact .inr ⟨_, rfl, held.2 fits⟩

/-! ## The next request -/

/-- Each guard that finds no entry is reached while the window still holds the token that it
reads. -/
def Fits (r : Request) (capacity : Nat) (guards : List Guard) : Prop :=
  ∀ j (h : j < guards.length), guards[j].isEntry r = true ∨
    guards.length + j ≤ capacity + firstWith guards[j].options.parameter guards

theorem allClear_iff_fits {r : Request} {supply : Supply} {n : Nat} {guards : List Guard}
    {start : Window} (params : r.params = stampsOf supply n guards)
    (distinct : (start.tokens ++ supply.tokens n (guards.length + guards.length)).Nodup) :
    AllClear r supply (n + guards.length)
        ((supply.tokens n guards.length).foldl Window.add start) guards ↔
      Fits r start.capacity guards := by
  refine forall₂_congr fun j h => ?_
  have earlier : (start.tokens ++ supply.tokens n (guards.length + j)).Nodup := by
    refine distinct.sublist (List.Sublist.append_left ?_ _)
    have split : guards.length + guards.length = guards.length + j + (guards.length - j) := by omega
    rw [split, tokens_append supply n (guards.length + j)]
    exact List.sublist_append_left ..
  rw [← List.foldl_append, ← tokens_append]
  exact clears_iff params (List.getElem_mem h) earlier

theorem plain_stampsOf {guards : List Guard} (supply : Supply) (n : Nat)
    (plain : ∀ g ∈ guards, Link.Plain g.options.parameter.toList) :
    ∀ pair ∈ stampsOf supply n guards,
      Link.Plain pair.1.toList ∧ Link.Plain pair.2.toList := by
  intro pair h
  obtain ⟨name, token⟩ := pair
  obtain ⟨named, drawn⟩ := List.of_mem_zip h
  obtain ⟨g, member, rfl⟩ := List.mem_map.1 named
  obtain ⟨m, -, rfl⟩ := List.mem_map.1 drawn
  exact ⟨plain g member, Link.plain_token _⟩

theorem nodup_start {p : Passage} {g : Guard} {count : Nat}
    (distinct : (p.site.supply.tokens p.site.supply.blocksDrawn count).Nodup)
    (new : ∀ id window, p.request.session = some id → p.site.window? id = some window →
      ∀ token ∈ window.tokens, token ∉ p.site.supply.tokens p.site.supply.blocksDrawn count) :
    ((p.home.entry.window?.getD g.freshWindow).tokens ++
      p.site.supply.tokens p.site.supply.blocksDrawn count).Nodup := by
  rw [List.nodup_append]
  refine ⟨Window.distinct _, distinct, ?_⟩
  rintro token held other drawn rfl
  cases found : p.home.entry.window? with
  | none =>
    rw [found] at held
    cases held
  | some window =>
    rw [found] at held
    rcases p.request.live_or_gone p.site with ⟨id, entry, own, live⟩ | gone
    · rw [Passage.home, Request.home_of_live own live] at found
      exact new id window own (Option.bind_eq_some_iff.2 ⟨entry, live, found⟩) token held drawn
    · -- a session that is yet to begin holds no window
      rw [Passage.home, Request.home_of_gone gone] at found
      cases found

/-- What a request without links of its own leaves behind. -/
def left (pipeline : Pipeline BuiltinFilter) (site : Site) (r : Request) : Passage :=
  (pipeline.run ⟨r, .plain, site⟩).passage

/-- A request that guards let pass was answered, and another one comes at once by the link of a URL
from that answer: in the same session, with the parameters of the link, to the same filters. -/
structure ByLink (pipeline : Pipeline BuiltinFilter) (site : Site) (r r' : Request)
    (url : String) : Prop where
  full : site.sessions.backing = .full
  proceeds : (pipeline.run ⟨r, .plain, site⟩).outcome = .proceed
  guarded : pipeline.guardsFor r ≠ []
  plain : ∀ g ∈ pipeline.guardsFor r, Link.Plain g.options.parameter.toList
  bare : '?' ∉ url.toList
  session : r'.session = (pipeline.left site r).request.session
  params : r'.params = Link.parametersOf ((pipeline.left site r).links.encodeUrl url)
  filters : pipeline.resolve r' = pipeline.resolve r

theorem ByLink.course {site : Site} {r r' : Request} {url : String}
    (link : pipeline.ByLink site r r' url) :
    Course (pipeline.guardsFor r) (pipeline.entering ⟨r, .plain, site⟩) (pipeline.left site r) :=
  run_course _ _ link.full link.proceeds

theorem ByLink.stamped {site : Site} {r r' : Request} {url : String}
    (link : pipeline.ByLink site r r' url) :
    r'.params = stampsOf site.supply site.supply.blocksDrawn (pipeline.guardsFor r) := by
  have links : (pipeline.left site r).links =
      ⟨(stampsOf site.supply site.supply.blocksDrawn (pipeline.guardsFor r)).map
        fun pair => .stamp pair.1 pair.2⟩ := congrArg Links.mk link.course.links
  rw [link.params, links, Link.parametersOf_encodeUrl _ _ (plain_stampsOf _ _ link.plain),
    Link.parametersOf_bare link.bare, List.nil_append]

/-- The tokens that the guards draw for a request, and for another one right after it. -/
def upcoming (pipeline : Pipeline BuiltinFilter) (site : Site) (r : Request) : List String :=
  site.supply.tokens site.supply.blocksDrawn
    ((pipeline.guardsFor r).length + (pipeline.guardsFor r).length)

/-- **The links of an answer carry the next request past every guard just if the tokens that they
bear fit into the window of the session.** Only a screen may keep the request from the guards. -/
theorem guardsPass_iff_fits (built : ofSettings settings = .ok pipeline) {site : Site}
    {r r' : Request} {url : String} (link : pipeline.ByLink site r r' url)
    (distinct : (pipeline.upcoming site r).Nodup)
    (new : ∀ id window, r.session = some id → site.window? id = some window →
      ∀ token ∈ window.tokens, token ∉ pipeline.upcoming site r) :
    ∃ id window, r'.session = some id ∧ (pipeline.left site r).site.window? id = some window ∧
      (Fits r' window.capacity (pipeline.guardsFor r) →
        GuardsPass (pipeline.turns ⟨r', .plain, (pipeline.left site r).site⟩)) ∧
      (r'.paramsFailed = false →
        GuardsPass (pipeline.turns ⟨r', .plain, (pipeline.left site r).site⟩) →
        Fits r' window.capacity (pipeline.guardsFor r)) := by
  let guards := pipeline.guardsFor r
  let entering := pipeline.entering ⟨r, .plain, site⟩
  have course := link.course
  obtain ⟨g, rest, first⟩ := List.exists_cons_of_ne_nil link.guarded
  have own := course.session g rest first
  have held : (pipeline.left site r).site.window? entering.home.session =
      some ((site.supply.tokens site.supply.blocksDrawn guards.length).foldl Window.add
        (entering.home.entry.window?.getD g.freshWindow)) := course.window g rest first
  generalize start_eq : entering.home.entry.window?.getD g.freshWindow = start at held
  have disjoint : (start.tokens ++ pipeline.upcoming site r).Nodup := by
    rw [← start_eq]
    exact nodup_start (p := entering) distinct new
  have sameGuards : guardsOf (pipeline.stagesFor r') = guards := guardsFor_congr built link.filters
  obtain ⟨enough, needed⟩ := turns_clear (pipeline.stagesFor r')
    (pipeline.entering ⟨r', .plain, (pipeline.left site r).site⟩) course.backing
    (link.session.trans own) held
  have fits : AllClear r' (pipeline.left site r).site.supply
      (pipeline.left site r).site.supply.blocksDrawn
      ((site.supply.tokens site.supply.blocksDrawn guards.length).foldl Window.add start) guards ↔
      Fits r' start.capacity guards := by
    rw [course.drawn, allClear_congr course.block]
    exact allClear_iff_fits link.stamped disjoint
  rw [sameGuards] at enough needed
  refine ⟨_, _, link.session.trans own, held, fun fit => enough ?_, fun read pass => ?_⟩
  · rw [Window.capacity_foldl_add] at fit
    exact fits.2 fit
  · rw [Window.capacity_foldl_add]
    exact fits.1 (needed read pass)

theorem not_guardsPass {turns : List Turn} (g : Guard) (status : Nat) (reason : String)
    (h : (.guard g, .reject status reason) ∈
      turns.map fun turn => (turn.stage.filter, turn.result.1)) : ¬ GuardsPass turns := by
  intro pass
  obtain ⟨turn, member, same⟩ := List.mem_map.1 h
  obtain ⟨filter, verdict⟩ := Prod.mk.inj same
  rw [pass turn member g filter] at verdict
  cases verdict

/-! ## One guard, twice -/

/-- Settings in which two rules bind one guard to every path. -/
def twiceSettings (size : String) : Settings where
  filters := [{ name := "csrf", kind := .csrfPrevention
                params := .ofList [("entry_points", "/"), ("nonce_cache_size", size)] }]
  rules := [⟨"csrf", ["/*"], [], []⟩, ⟨"csrf", ["/*"], [], []⟩]

def twice (size : Nat) : Pipeline BuiltinFilter :=
  let guard : BuiltinFilter := .guard ⟨{ entryPoints := ["/"], windowSize := size }⟩
  let rule : Rule := ⟨"csrf", [.tree ""], [], false, false, .ofList []⟩
  ⟨.ofList [("csrf", guard)], [⟨rule, guard⟩, ⟨rule, guard⟩], .empty⟩

theorem plain_twice (size : Nat) (r : Request) :
    ∀ g ∈ (twice size).guardsFor r, Link.Plain g.options.parameter.toList := by
  have plain : Link.Plain "csrfToken".toList := by decide
  intro g h
  obtain ⟨filter, among, found⟩ := List.mem_filterMap.1 h
  obtain ⟨stage, applies, rfl⟩ := List.mem_map.1 among
  have staged := mem_of_stagesFor applies
  simp only [twice, List.mem_cons, List.not_mem_nil, or_false, or_self] at staged
  subst staged
  obtain rfl := Option.some.inj found
  exact plain

/-- A supply whose first handles and blocks differ. -/
def countingSupply : Supply where
  handle n := ⟨if n = 0 then "a" else "b"⟩
  block n := .replicate 16 n.toUInt8

/-- The request that follows the link of the first answer. -/
def payment : Request where
  method := "POST"
  path := "/pay"
  session := some ⟨"a"⟩
  params := [("csrfToken", countingSupply.token 0), ("csrfToken", countingSupply.token 1)]

/-- Two tokens fit into a window of three. -/
theorem guardsPass_iff_fits_three :
    let site : Site := .start (.start .full 10) countingSupply
    let r : Request := { path := "/" }
    ofSettings (twiceSettings "3") = .ok (twice 3) ∧
      (twice 3).ByLink site r payment "/pay" ∧ ((twice 3).upcoming site r).Nodup ∧
      r.session = none ∧
      GuardsPass ((twice 3).turns ⟨payment, .plain, ((twice 3).left site r).site⟩) := by
  intro site r
  have built : ofSettings (twiceSettings "3") = .ok (twice 3) := rfl
  have link : (twice 3).ByLink site r payment "/pay" := ⟨rfl, by decide, by decide,
    plain_twice _ _, by decide, by decide, by decide, by decide⟩
  have distinct : ((twice 3).upcoming site r).Nodup := by decide
  obtain ⟨id, window, session, held, enough, -⟩ :=
    guardsPass_iff_fits built link distinct fun id window h => nomatch h
  refine ⟨built, link, distinct, rfl, enough ?_⟩
  obtain rfl : id = ⟨"a"⟩ := (Option.some.inj session).symm
  have capacity : (((twice 3).left site r).site.window? ⟨"a"⟩).map Window.capacity = some 3 := by
    decide
  rw [held] at capacity
  rw [show window.capacity = 3 from Option.some.inj capacity]
  unfold Fits
  decide

/-- With room for one token, the first of the two on a link is gone before the link is followed.
With room for three it is gone, too, if the window held it before: it is not entered again, and
remains the oldest one. -/
theorem twice_refuses_links :
    let site : Site := .start (.start .full 10) countingSupply
    let window := (((Window.ofCapacity 3).add (countingSupply.token 0)).add "x").add "y"
    let sessions := (site.sessions.create 0 ⟨"a"⟩).set 0 ⟨"a"⟩ Guard.windowKey (.nonces 7 window)
    let held : Site := { site with sessions := sessions.2 }
    let r : Request := { path := "/" }
    let own : Request := { path := "/", session := some ⟨"a"⟩ }
    (ofSettings (twiceSettings "1") = .ok (twice 1) ∧ (twice 1).ByLink site r payment "/pay" ∧
      ¬ GuardsPass ((twice 1).turns ⟨payment, .plain, ((twice 1).left site r).site⟩)) ∧
    ofSettings (twiceSettings "3") = .ok (twice 3) ∧ (twice 3).ByLink held own payment "/pay" ∧
      Fits payment 3 ((twice 3).guardsFor own) ∧
      ¬ GuardsPass ((twice 3).turns ⟨payment, .plain, ((twice 3).left held own).site⟩) := by
  intro site window sessions held r own
  have gone : ¬ GuardsPass ((twice 1).turns ⟨payment, .plain, ((twice 1).left site r).site⟩) :=
    not_guardsPass ⟨{ entryPoints := ["/"], windowSize := 1 }⟩ 403 "nonce not recognised" (by decide)
  have oldest : ¬ GuardsPass ((twice 3).turns ⟨payment, .plain, ((twice 3).left held own).site⟩) :=
    not_guardsPass ⟨{ entryPoints := ["/"], windowSize := 3 }⟩ 403 "nonce not recognised" (by decide)
  have fits : Fits payment 3 ((twice 3).guardsFor own) := by unfold Fits; decide
  refine ⟨⟨rfl, ?_, gone⟩, rfl, ?_, fits, oldest⟩
  · exact ⟨rfl, by decide, by decide, plain_twice _ _, by decide, by decide, by decide, by decide⟩
  · exact ⟨rfl, by decide, by decide, plain_twice _ _, by decide, by decide, by decide, by decide⟩

end Pipeline

end Gatehouse
