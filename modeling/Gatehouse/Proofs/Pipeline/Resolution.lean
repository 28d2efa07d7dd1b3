import Mathlib.Data.List.Forall2
import Gatehouse.Proofs.Pipeline.Build
import Gatehouse.Proofs.Routing.Definition

/-!
# From settings to resolution

The filters that a built pipeline resolves for a request can be told from its settings alone:
they are those of the definitions that select the request. So settings whose definitions are alike
build pipelines that resolve alike.
-/

namespace Gatehouse

namespace Settings

/-- The filters of the definitions that select a target in a phase, in the order in which they are
written, once for every such definition. -/
def selected (s : Settings) (path : String) (servlet : Option String) (phase : Phase) :
    List String :=
  (s.rules.filter fun definition => definition.Selects path servlet phase).map
    fun definition => Text.trim definition.filter

/-- Two settings define the same filters and servlets, and rules that are alike one by one. -/
structure Alike (s s' : Settings) : Prop where
  filters : s.filters = s'.filters
  servlets : s.servlets = s'.servlets
  rules : List.Forall₂ RuleDefinition.Alike s.rules s'.rules

variable {s s' : Settings}

theorem Alike.selected (alike : s.Alike s') (path : String) (servlet : Option String)
    (phase : Phase) : s.selected path servlet phase = s'.selected path servlet phase := by
  obtain ⟨-, -, rules⟩ := alike
  unfold Settings.selected
  generalize s.rules = definitions, s'.rules = others at rules ⊢
  induction rules with
  | nil => rfl
  | cons first _ ih =>
    rw [List.filter_cons, List.filter_cons]
    simp only [first.selects path servlet phase]
    split
    · rw [List.map_cons, List.map_cons, first.filter, ih]
    · exact ih

theorem Alike.forall_rules (alike : s.Alike s') {holds : RuleDefinition → Prop}
    (kept : ∀ definition other, definition.Alike other → holds definition → holds other)
    (all : ∀ definition ∈ s.rules, holds definition) :
    ∀ definition ∈ s'.rules, holds definition := by
  obtain ⟨-, -, rules⟩ := alike
  generalize s.rules = definitions, s'.rules = others at rules all ⊢
  induction rules with
  | nil => nofun
  | cons first _ ih =>
    rw [List.forall_mem_cons] at all ⊢
    exact ⟨kept _ _ first all.1, ih all.2⟩

end Settings

namespace Pipeline

variable {s s' : Settings} {p p' : Pipeline BuiltinFilter}

theorem resolve_of_settings (built : ofSettings s = .ok p) (r : Request) :
    p.resolve r = s.selected r.path (p.servletOf r) r.phase := by
  obtain ⟨-, ruled, -, -⟩ := ofSettings_eq_ok.1 built
  rw [buildRules_eq] at ruled
  refine map_filter_mapM (fun definition rule made => ?_) ruled
  rw [mapError_eq_ok] at made
  exact ⟨RuleDefinition.filter_of_build made,
    by rw [Bool.eq_iff_iff, RuleDefinition.applies_of_build made, decide_eq_true_eq]⟩

theorem exists_of_alike (built : ofSettings s = .ok p) (alike : s.Alike s') :
    ∃ p', ofSettings s' = .ok p' := by
  obtain ⟨set, distinct, readable, defined, mounted⟩ := exists_ofSettings.1 ⟨p, built⟩
  rw [alike.filters] at set distinct defined
  rw [alike.servlets] at mounted
  refine exists_ofSettings.2 ⟨set, distinct, ?_, ?_, mounted⟩
  · exact alike.forall_rules (fun _ _ alike readable => alike.readable readable) readable
  · exact alike.forall_rules (fun _ _ alike defined => alike.filter ▸ defined) defined

theorem servletOf_of_alike (built : ofSettings s = .ok p) (alike : s.Alike s')
    (built' : ofSettings s' = .ok p') (r : Request) : p'.servletOf r = p.servletOf r := by
  obtain ⟨-, -, -, mounted⟩ := ofSettings_eq_ok.1 built
  obtain ⟨-, -, -, mounted'⟩ := ofSettings_eq_ok.1 built'
  rw [alike.servlets, mounted', Except.ok.injEq] at mounted
  rw [servletOf, servletOf, mounted]

/-- **A pipeline resolves what is written in its settings:** the filters of the definitions that
name the phase of a request, or no phase where that is the request phase, and its path or its
servlet. The order and the repetition of texts within a definition do not matter. -/
theorem resolve_eq_selected (built : ofSettings s = .ok p) :
    (∀ r : Request, p.resolve r =
      (s.rules.filter fun definition =>
          definition.Selects r.path (r.servlet.or (p.servlets.resolve r.path)) r.phase).map
        fun definition => Text.trim definition.filter) ∧
      ∀ s' : Settings, s.Alike s' →
        ∃ p', ofSettings s' = .ok p' ∧ ∀ r : Request, p'.resolve r = p.resolve r := by
  refine ⟨resolve_of_settings built, fun s' alike => ?_⟩
  obtain ⟨p', built'⟩ := exists_of_alike built alike
  refine ⟨p', built', fun r => ?_⟩
  rw [resolve_of_settings built', resolve_of_settings built, servletOf_of_alike built alike built',
    alike.selected]

/-- The servlet of the path selects the second definition, and nothing the third one, which is bound
to errors. The definitions may as well be written with their texts turned round and repeated. -/
theorem resolve_eq_selected_shop :
    let settings (rules : List RuleDefinition) : Settings :=
      { filters := [⟨"log", .failedRequest, none, .empty⟩, ⟨"screen", .failedRequest, none, .empty⟩]
        rules, servlets := [⟨"shop", ["/cart", "/"]⟩] }
    let s := settings [⟨" log ", ["/cart/*", "*.do"], [], []⟩,
      ⟨"screen", [], ["shop", "bank"], ["forward", " Request"]⟩, ⟨"log", ["*"], [], ["ERROR"]⟩]
    let turned := settings [⟨" log ", ["*.do", "/cart/*", "*.do"], [], []⟩,
      ⟨"screen", [], ["bank", "shop", "bank"], [" Request", "forward"]⟩,
      ⟨"log", ["*", "*"], [], ["ERROR"]⟩]
    let r : Request := { path := "/cart/pay.do" }
    ∃ p p', ofSettings s = .ok p ∧ ofSettings turned = .ok p' ∧ p.resolve r = ["log", "screen"] ∧
      p'.resolve r = ["log", "screen"] := by
  intro settings s turned r
  obtain ⟨p, built, servlets⟩ : ∃ p, ofSettings s = .ok p ∧
      p.servlets = ⟨[⟨"shop", [.path "/cart"]⟩], some "shop"⟩ := ⟨_, rfl, rfl⟩
  have alike : s.Alike turned := by
    have texts : List.Forall₂ RuleDefinition.Alike s.rules turned.rules := by
      refine .cons ⟨rfl, ?_, ?_, ?_⟩ (.cons ⟨rfl, ?_, ?_, ?_⟩ (.cons ⟨rfl, ?_, ?_, ?_⟩ .nil))
      all_goals grind
    exact ⟨rfl, rfl, texts⟩
  obtain ⟨selected, reordered⟩ := resolve_eq_selected built
  have resolved : p.resolve r = ["log", "screen"] := by
    rw [selected, servlets]
    decide +kernel
  obtain ⟨p', built', same⟩ := reordered turned alike
  exact ⟨p, p', built, built', resolved, (same r).trans resolved⟩

end Pipeline

end Gatehouse
