import Gatehouse.Proofs.Guard.Options
import Gatehouse.Proofs.Guard.Pass
import Gatehouse.Proofs.Link.Limit
import Gatehouse.Proofs.Link.Names

/-!
# The nonce behind a link

A request that comes by a link of an answer presents the first value under the name of the nonce
parameter. That is the fresh nonce, unless the URL had a value of its own under this name
(`parameter?_of_link`). Of the names that a guard may be given, the legible ones can be read back
(`parameter?_of_accepted`).
-/

namespace Gatehouse

/-- A request that comes by a URL has the parameters of its query, and none was left out. -/
def Request.ComesBy (r : Request) (url : String) : Prop :=
  ∃ limit, Link.Parameters.read (some (Text.utf8 (Link.writtenQuery url))) none limit =
    ⟨r.params, false⟩

theorem Request.ComesBy.parameter? {r : Request} {url : String} (comes : r.ComesBy url)
    (name : String) :
    r.parameter? name =
      Link.firstUnder name (Link.decode (Text.utf8 (Link.writtenQuery url))) := by
  obtain ⟨limit, read⟩ := comes
  simp only [Link.Parameters.read_eq_collect, Link.Parameters.collect, Option.getD_some,
    Option.getD_none, Link.Parameters.mk.injEq, decide_eq_false_iff_not, Nat.not_lt] at read
  have none : Link.decode [] = [] := rfl
  rw [none, List.append_nil] at read
  rw [Request.parameter?, ← read.1, List.take_of_length_le read.2]
  rfl

/-! ## Links of an answer -/

namespace Guard

variable {g : Guard} {p : Passage}

theorem links_of_proceed (proceeds : (g.pass p).1 = .proceed) :
    (g.pass p).2.links = p.links.wrap (.stamp g.options.parameter p.token) := by
  rw [pass_eq] at proceeds ⊢
  cases decision : g.reading p.request p.site.live? with
  | rejected refusal =>
    rw [decision] at proceeds
    cases proceeds
  | entry => rfl
  | accepted => rfl

/-- **A request that comes by a link presents the fresh nonce, unless the URL has a value of its own
under that name.** It is judged by what it presents. -/
theorem parameter?_of_link (alphanumeric : ∀ c ∈ g.options.parameter.toList, c.isAlphanum)
    (fresh : p.links = .plain) (proceeds : (g.pass p).1 = .proceed) (url : String) {r : Request}
    (comes : r.ComesBy ((g.pass p).2.links.encodeUrl url)) :
    let own := Link.firstUnder g.options.parameter
      (Link.decode (Text.utf8 (Link.writtenQuery url)))
    r.parameter? g.options.parameter = some (own.getD p.token) ∧
      ∀ id now s, g.isEntry r = false → r.session = some id →
        (g.check r now s).1 = judge (window? now id s).1 (some (own.getD p.token)) := by
  intro own
  have legible : Link.Legible g.options.parameter.toList :=
    Link.legible_of_plain fun c h => .inl (alphanumeric c h)
  have stamped : Link.Extends [(g.options.parameter, p.token)] url
      (Link.stamp url g.options.parameter p.token) :=
    Link.extends_stamp url legible (Link.legible_of_plain (Link.plain_token _))
  rw [links_of_proceed proceeds, fresh, Links.encodeUrl_wrap, Links.encodeUrl_plain] at comes
  have presented : r.parameter? g.options.parameter = some (own.getD p.token) := by
    rw [comes.parameter?]
    exact (congrArg _ stamped.query).trans (Link.firstUnder_append ..)
  refine ⟨presented, fun id now s notEntry session => ?_⟩
  rw [check, if_neg (by simp [notEntry]), session, presented]

/-- A guard that all may enter by the root. -/
def atRoot : Guard := ⟨{ entryPoints := ["/"] }⟩

/-- The first request that this guard lets enter, which is given the nonce `0707…`. -/
def entering : Passage :=
  let supply : Supply := ⟨fun _ => ⟨"a"⟩, fun _ => .replicate 16 7, 0, 0⟩
  ⟨{ path := "/" }, .plain, .start (.start .full 10) supply⟩

/-- A query with other names leaves room for the nonce. -/
theorem parameter?_of_link_other_name :
    let r : Request := { method := "POST", path := "/p", session := some ⟨"a"⟩
                         params := [("csrftoken", "OLD"), ("csrfToken", entering.token)] }
    (∀ c ∈ atRoot.options.parameter.toList, c.isAlphanum) ∧ entering.links = .plain ∧
      (atRoot.pass entering).1 = .proceed ∧
      r.ComesBy ((atRoot.pass entering).2.links.encodeUrl "/p?csrftoken=OLD#top") ∧
      r.parameter? "csrfToken" = some entering.token := by
  intro r
  have alphanumeric : ∀ c ∈ atRoot.options.parameter.toList, c.isAlphanum :=
    List.all_eq_true.1 (by decide)
  have proceeds : (atRoot.pass entering).1 = .proceed := by decide
  have comes : r.ComesBy ((atRoot.pass entering).2.links.encodeUrl "/p?csrftoken=OLD#top") :=
    ⟨2, by decide⟩
  refine ⟨alphanumeric, rfl, proceeds, comes, ?_⟩
  exact (parameter?_of_link alphanumeric rfl proceeds _ comes).1

/-- A nonce that stands in a URL already, however its name is written, is presented in place of the
fresh one, and is refused. -/
theorem own_nonce_presented :
    let r : Request := { method := "POST", path := "/p", session := some ⟨"a"⟩
                         params := [("csrfToken", "OLD"), ("csrfToken", entering.token)] }
    (∀ c ∈ atRoot.options.parameter.toList, c.isAlphanum) ∧ entering.links = .plain ∧
      (atRoot.pass entering).1 = .proceed ∧
      r.ComesBy ((atRoot.pass entering).2.links.encodeUrl "/p?csrf%54oken=OLD") ∧
      r.parameter? "csrfToken" ≠ some entering.token ∧
      (atRoot.check r 0 (atRoot.pass entering).2.site.sessions).1 = .rejected .unknownNonce := by
  intro r
  exact ⟨List.all_eq_true.1 (by decide), rfl, by decide, ⟨2, by decide⟩, by decide, by decide⟩

end Guard

/-! ## Names that a guard may be given -/

namespace Guard

/-- **Of the names that a guard may be given, those can be read back that are legible.** Under any
other one a request that comes by a link has no nonce. -/
theorem parameter?_of_accepted (name : String) :
    (GuardOptions.Accepts name ↔ name ≠ "" ∧ Text.trim name = name) ∧
      ∀ (url : String) (block : Block) (r : Request), '?' ∉ url.toList → '#' ∉ url.toList →
        r.ComesBy (Link.stamp url name block.token) →
          r.parameter? name = if Link.Legible name.toList then some block.token else none := by
  refine ⟨GuardOptions.accepts_iff, fun url block r noMark noHash comes => ?_⟩
  rw [comes.parameter?]
  exact Link.firstUnder_stamp noMark noHash (Link.legible_of_plain (Link.plain_token block))

/-- A percent sign alone, a question mark and letters beyond ASCII do no harm. -/
theorem parameter?_of_accepted_percent :
    let block : Block := .replicate 16 7
    let r : Request := { path := "/p", params := [("maß%?", block.token)] }
    GuardOptions.Accepts "maß%?" ∧ r.ComesBy (Link.stamp "/p" "maß%?" block.token) ∧
      r.parameter? "maß%?" = some block.token := by
  intro block r
  have comes : r.ComesBy (Link.stamp "/p" "maß%?" block.token) := ⟨1, by decide⟩
  obtain ⟨accepts, reads⟩ := parameter?_of_accepted "maß%?"
  refine ⟨accepts.2 (by decide), comes, ?_⟩
  rw [reads "/p" block r (by decide) (by decide) comes, if_pos (by decide)]

/-- The settings may name the parameter so that no nonce is ever found. -/
theorem ampersand_not_read_back :
    let block : Block := .replicate 16 7
    let r : Request := { path := "/p", params := [("a", ""), ("b", block.token)] }
    GuardOptions.read (.start "csrf" (.ofList [("nonce_request_parameter", "a&b")]) true) =
        .ok { parameter := "a&b" } ∧
      r.ComesBy (Link.stamp "/p" "a&b" block.token) ∧
      r.parameter? "a&b" ≠ some block.token := by
  intro block r
  exact ⟨rfl, ⟨2, by decide⟩, by decide⟩

end Guard

end Gatehouse
