import Mathlib.Data.List.Forall2
import Mathlib.Data.List.Pairwise
import Gatehouse.Proofs.Routing.BestMatch
import Gatehouse.Proofs.Routing.Coverage

/-!
# The order of registration

Patterns that serve one path with one rank are one pattern: a path has one extension, and stems
above it that are equally long are equal. So the order of registration decides only between
servlets that share a pattern, and where none do, it does not matter
(`Directory.resolve_of_reordered`).
-/

namespace Gatehouse

namespace UrlPattern

variable {pattern pattern' : UrlPattern} {path : String}

theorem prefix_of_covers {stem : String} (covered : (tree stem).covers path = true) :
    stem.toList <+: path.toList := by
  rcases (covers_tree stem path).1 covered with rfl | ⟨rest, rfl⟩
  · exact List.prefix_rfl
  · rw [String.append_assoc, String.toList_append]
    exact List.prefix_append ..

theorem stem_unique {stem stem' : String} (covered : (tree stem).covers path = true)
    (covered' : (tree stem').covers path = true) (same : stem.length = stem'.length) :
    stem = stem' := by
  -- both stems are prefixes of the path, so that one is a prefix of the other
  have nested : stem.toList <+: stem'.toList :=
    List.prefix_of_prefix_length_le (prefix_of_covers covered) (prefix_of_covers covered') same.le
  exact String.toList_inj.1 (nested.eq_of_length same)

theorem eq_of_rank (covered : pattern.covers path = true) (covered' : pattern'.covers path = true)
    (same : pattern.rank = pattern'.rank) : pattern = pattern' := by
  cases pattern with
  | path text =>
    cases pattern' with
    | path text' => rw [← (covers_path ..).1 covered, ← (covers_path ..).1 covered']
    | tree stem' => cases same
    | extension ext' => cases same
  | tree stem =>
    cases pattern' with
    | path text' => cases same
    | tree stem' => rw [stem_unique covered covered' (Rank.tree.inj same)]
    | extension ext' => cases same
  | extension ext =>
    cases pattern' with
    | path text' => cases same
    | tree stem' => cases same
    | extension ext' =>
      have found := of_decide_eq_true covered
      have found' := of_decide_eq_true covered'
      rw [found, Option.some.injEq, String.toList_inj] at found'
      rw [found']

end UrlPattern

namespace Directory

variable {servlets servlets' : List ServletDefinition} {d d' : Directory} {path : String}

theorem rank?_injective {text text' : String} {rank : Rank} (ranked : rank? text path = some rank)
    (ranked' : rank? text' path = some rank) : text = text' := by
  by_cases default : rank = .default
  · rw [default, rank?_eq_default] at ranked ranked'
    rw [ranked, ranked']
  · have proper : ∀ text, rank? text path = some rank → text ≠ defaultPattern := by
      rintro text served rfl
      rw [rank?_default, Option.some.injEq] at served
      exact default served.symm
    obtain ⟨pattern, read, served⟩ := exists_parse_of_rank? (proper text ranked) ranked
    obtain ⟨pattern', read', served'⟩ := exists_parse_of_rank? (proper text' ranked') ranked'
    rw [UrlPattern.rankOn?_eq_some] at served served'
    obtain rfl := UrlPattern.eq_of_rank served.1 served'.1 (served.2.trans served'.2.symm)
    rw [← (UrlPattern.parse_eq_ok.1 read).1, (UrlPattern.parse_eq_ok.1 read').1]

/-! ## Registrations in any order -/

/-- A servlet of this name is registered for the text. -/
def Registers (servlets : List ServletDefinition) (name text : String) : Prop :=
  ∃ servlet ∈ servlets, servlet.name = name ∧ text ∈ servlet.urlPatterns

/-- No text is registered by two entries. -/
def Apart (servlets : List ServletDefinition) : Prop :=
  servlets.Pairwise fun servlet servlet' => servlet.urlPatterns.Disjoint servlet'.urlPatterns

/-- The same registrations in some order, each with its patterns in some order. -/
def Reordered (servlets servlets' : List ServletDefinition) : Prop :=
  ∃ shuffled, servlets.Perm shuffled ∧
    List.Forall₂ (fun servlet servlet' =>
      servlet.name = servlet'.name ∧ servlet.urlPatterns.Perm servlet'.urlPatterns)
      shuffled servlets'

theorem mem_contenders {rank : Rank} {name : String} :
    (rank, name) ∈ contenders servlets path ↔
      ∃ text, Registers servlets name text ∧ rank? text path = some rank := by
  simp only [contenders, List.mem_flatMap, List.mem_map, List.mem_filterMap, Prod.mk.injEq]
  constructor
  · rintro ⟨servlet, member, _, ⟨text, listed, ranked⟩, rfl, rfl⟩
    exact ⟨text, ⟨servlet, member, rfl, listed⟩, ranked⟩
  · rintro ⟨text, ⟨servlet, member, rfl, listed⟩, ranked⟩
    exact ⟨servlet, member, rank, ⟨text, listed, ranked⟩, rfl, rfl⟩

theorem Apart.name_unique (apart : Apart servlets) {name name' text : String}
    (registers : Registers servlets name text) (registers' : Registers servlets name' text) :
    name = name' := by
  obtain ⟨servlet, member, rfl, listed⟩ := registers
  obtain ⟨servlet', member', rfl, listed'⟩ := registers'
  by_contra other
  have distinct : servlet ≠ servlet' := fun same => other (congrArg _ same)
  have : Std.Symm fun servlet servlet' : ServletDefinition =>
      servlet.urlPatterns.Disjoint servlet'.urlPatterns :=
    ⟨fun _ _ => List.disjoint_symm⟩
  exact List.Pairwise.forall apart member member' distinct listed listed'

theorem Reordered.registers (reordered : Reordered servlets servlets') (name text : String) :
    Registers servlets name text ↔ Registers servlets' name text := by
  obtain ⟨shuffled, permuted, alike⟩ := reordered
  unfold Registers
  simp only [permuted.mem_iff]
  clear permuted
  induction alike with
  | nil => simp
  | cons first _ ih => simp only [List.exists_mem_cons_iff, first.1, first.2.mem_iff, ih]

theorem Reordered.mem_contenders (reordered : Reordered servlets servlets') {x : Rank × String} :
    x ∈ contenders servlets path ↔ x ∈ contenders servlets' path := by
  obtain ⟨rank, name⟩ := x
  simp only [Directory.mem_contenders, reordered.registers]

theorem Reordered.exists_built (reordered : Reordered servlets servlets')
    (built : Built servlets d) : ∃ d', Built servlets' d' := by
  have mountable := Directory.exists_built.1 ⟨d, built⟩
  rw [Directory.exists_built]
  intro servlet' member' text listed'
  obtain ⟨servlet, member, -, listed⟩ :=
    (reordered.registers servlet'.name text).2 ⟨servlet', member', rfl, listed'⟩
  exact mountable servlet member text listed

theorem Apart.best_unique (apart : Apart servlets) {x x' : Rank × String}
    (member : x ∈ contenders servlets path) (member' : x' ∈ contenders servlets path)
    (same : x.1 = x'.1) : x = x' := by
  obtain ⟨rank, name⟩ := x
  obtain ⟨rank', name'⟩ := x'
  obtain rfl : rank = rank' := same
  obtain ⟨text, registers, ranked⟩ := mem_contenders.1 member
  obtain ⟨text', registers', ranked'⟩ := mem_contenders.1 member'
  obtain rfl := rank?_injective ranked ranked'
  rw [apart.name_unique registers registers']

/-- **The order of registration does not matter where no two entries share a pattern.** The
registrations succeed in any other order as well, and in any order of the patterns within them, and
each path is served by the same servlet. -/
theorem resolve_of_reordered (built : Built servlets d) (apart : Apart servlets)
    (reordered : Reordered servlets servlets') :
    (∃ d', Built servlets' d') ∧
      ∀ d', Built servlets' d' → ∀ path, d'.resolve path = d.resolve path := by
  refine ⟨reordered.exists_built built, fun d' built' path => ?_⟩
  have reflects := built.reflects path
  have reflects' := built'.reflects path
  cases resolved : d.resolve path with
  | none =>
    rw [resolve_eq_none reflects] at resolved
    rw [resolve_eq_none reflects', List.eq_nil_iff_forall_not_mem]
    intro x member
    rw [← reordered.mem_contenders, resolved] at member
    exact absurd member List.not_mem_nil
  | some servlet =>
    obtain ⟨rank, best⟩ := isFirstBest_of_resolve reflects resolved
    cases resolved' : d'.resolve path with
    | none =>
      have member := reordered.mem_contenders.1 best.mem
      rw [(resolve_eq_none reflects').1 resolved'] at member
      exact absurd member List.not_mem_nil
    | some servlet' =>
      obtain ⟨rank', best'⟩ := isFirstBest_of_resolve reflects' resolved'
      have same : rank' = rank := by
        refine le_antisymm ?_ ?_
        · exact best.best _ (reordered.mem_contenders.2 best'.mem)
        · exact best'.best _ (reordered.mem_contenders.1 best.mem)
      have one := apart.best_unique (reordered.mem_contenders.2 best'.mem) best.mem same
      exact congrArg some (Prod.ext_iff.1 one).2

/-- Two entries of one name and the default pattern change their places. -/
theorem resolve_of_reordered_admin :
    let servlets : List ServletDefinition :=
      [⟨"pages", ["/", "*.jsp"]⟩, ⟨"api", ["/api/*", "/api"]⟩, ⟨"pages", ["/api/admin/*"]⟩]
    let servlets' : List ServletDefinition :=
      [⟨"pages", ["/api/admin/*"]⟩, ⟨"pages", ["*.jsp", "/"]⟩, ⟨"api", ["/api", "/api/*"]⟩]
    ∃ d d', Built servlets d ∧ Built servlets' d' ∧ ∀ path, d'.resolve path = d.resolve path := by
  intro servlets servlets'
  obtain ⟨d, built⟩ : ∃ d, Built servlets d := exists_built.2 (by decide)
  have apart : Apart servlets := by
    simp [Apart, servlets, List.Disjoint]
  have reordered : Reordered servlets servlets' := by
    refine ⟨[⟨"pages", ["/api/admin/*"]⟩, ⟨"pages", ["/", "*.jsp"]⟩,
      ⟨"api", ["/api/*", "/api"]⟩], by decide, ?_⟩
    exact .cons ⟨rfl, by decide⟩ (.cons ⟨rfl, by decide⟩ (.cons ⟨rfl, by decide⟩ .nil))
  obtain ⟨⟨d', built'⟩, same⟩ := resolve_of_reordered built apart reordered
  exact ⟨d, d', built, built', same d' built'⟩

end Directory

end Gatehouse
