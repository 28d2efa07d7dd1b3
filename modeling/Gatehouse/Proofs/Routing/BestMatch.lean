import Mathlib.Data.Prod.Lex
import Gatehouse.Proofs.Routing.Definition
import Gatehouse.Proofs.Routing.Registration

/-!
# The best match

Each pattern that serves a path does so with a rank: a path ranks above a tree, a longer stem above
a shorter one, a tree above an extension, and an extension above the default. The directory answers
with the servlet of the highest rank, and with the first of several that have it
(`Directory.resolve_eq_best`). Its four searches are four parts of the one list of contenders
(`Directory.Reflects`).
-/

namespace Gatehouse

/-! ## The first of the best -/

section FirstBest

variable {α β : Type} [LinearOrder β] {rank : α → β} {xs : List α} {x y : α}

/-- An item has the highest rank in a list, and is the first that has it. -/
structure IsFirstBest (rank : α → β) (xs : List α) (x : α) : Prop where
  best : ∀ y ∈ xs, rank y ≤ rank x
  first : xs.find? (fun y => rank y = rank x) = some x

namespace IsFirstBest

theorem mem (h : IsFirstBest rank xs x) : x ∈ xs := List.mem_of_find?_eq_some h.first

theorem unique (h : IsFirstBest rank xs x) (h' : IsFirstBest rank xs y) : x = y := by
  have same : rank x = rank y := le_antisymm (h'.best x h.mem) (h.best y h'.mem)
  have first := h.first
  rw [same, h'.first] at first
  exact (Option.some.inj first).symm

theorem singleton (rank : α → β) (x : α) : IsFirstBest rank [x] x where
  best y member := by rw [List.mem_singleton.1 member]
  first := by simp

theorem snoc_of_le (h : IsFirstBest rank xs x) (le : rank y ≤ rank x) :
    IsFirstBest rank (xs ++ [y]) x where
  best z member := by
    rcases List.mem_append.1 member with member | member
    · exact h.best z member
    · rwa [List.mem_singleton.1 member]
  first := by rw [List.find?_append, h.first, Option.some_or]

theorem snoc_of_lt (h : IsFirstBest rank xs x) (lt : rank x < rank y) :
    IsFirstBest rank (xs ++ [y]) y where
  best z member := by
    rcases List.mem_append.1 member with member | member
    · exact (h.best z member).trans lt.le
    · rw [List.mem_singleton.1 member]
  first := by
    have below : xs.find? (fun z => rank z = rank y) = none := by
      rw [List.find?_eq_none]
      intro z member
      simpa using ((h.best z member).trans_lt lt).ne
    rw [List.find?_append, below]
    simp

end IsFirstBest

end FirstBest

/-! ## Ranks -/

/-- How closely a pattern fits a path that it serves. -/
inductive Rank where
  | default
  | extension
  | tree (length : Nat)
  | path

namespace Rank

/-- The place of a rank among the others: by its kind, then by the length of the stem. -/
def level : Rank → ℕ ×ₗ ℕ
  | .default => toLex (0, 0)
  | .extension => toLex (1, 0)
  | .tree length => toLex (2, length)
  | .path => toLex (3, 0)

theorem level_injective : Function.Injective level := by
  intro rank other same
  cases rank <;> cases other <;> simp_all [level]

instance : LinearOrder Rank := LinearOrder.lift' level level_injective

theorem le_iff_level {rank other : Rank} : rank ≤ other ↔ rank.level ≤ other.level := Iff.rfl

theorem tree_le_tree {length length' : Nat} :
    tree length ≤ tree length' ↔ length ≤ length' := by
  simp [le_iff_level, level, Prod.Lex.toLex_le_toLex]

theorem le_path (rank : Rank) : rank ≤ .path := by
  cases rank <;> simp [le_iff_level, level, Prod.Lex.toLex_le_toLex]

theorem default_le (rank : Rank) : .default ≤ rank := by
  cases rank <;> simp [le_iff_level, level, Prod.Lex.toLex_le_toLex]

def isTree : Rank → Bool
  | .tree _ => true
  | _ => false

theorem le_extension {rank : Rank} (notPath : rank ≠ .path) (notTree : rank.isTree = false) :
    rank ≤ .extension := by
  rw [le_iff_level]
  cases rank <;> simp_all [isTree, level, Prod.Lex.toLex_le_toLex]

theorem le_tree {rank : Rank} (notPath : rank ≠ .path) (notTree : rank.isTree = false)
    (length : Nat) : rank ≤ .tree length := by
  refine (le_extension notPath notTree).trans ?_
  simp [le_iff_level, level, Prod.Lex.toLex_le_toLex]

theorem le_default {rank : Rank} (notPath : rank ≠ .path) (notTree : rank.isTree = false)
    (notExtension : rank ≠ .extension) : rank ≤ .default := by
  rw [le_iff_level]
  cases rank <;> simp_all [isTree]

end Rank

namespace UrlPattern

def rank : UrlPattern → Rank
  | .path _ => .path
  | .tree stem => .tree stem.length
  | .extension _ => .extension

/-- The rank with which a pattern serves a path, if it covers the path. -/
def rankOn? (pattern : UrlPattern) (path : String) : Option Rank :=
  if pattern.covers path then some pattern.rank else none

theorem rankOn?_eq_some {pattern : UrlPattern} {path : String} {rank : Rank} :
    pattern.rankOn? path = some rank ↔ pattern.covers path = true ∧ pattern.rank = rank := by
  unfold rankOn?
  split
  · next covered => simp [covered]
  · next uncovered => simp [uncovered]

theorem rankOn?_ne_default (pattern : UrlPattern) (path : String) :
    pattern.rankOn? path ≠ some .default := by
  rw [ne_eq, rankOn?_eq_some]
  rintro ⟨-, ranked⟩
  cases pattern <;> cases ranked

end UrlPattern

namespace Directory

/-! ## Contenders -/

/-- The rank with which a pattern text serves a path, if it does. The default pattern serves every
path. -/
def rank? (text path : String) : Option Rank :=
  if text = defaultPattern then some .default
  else (UrlPattern.parse text).toOption.bind (·.rankOn? path)

/-- The servlets that may serve a path, in the order of registration, once for each pattern that
does, with its rank. -/
def contenders (servlets : List ServletDefinition) (path : String) : List (Rank × String) :=
  servlets.flatMap fun servlet =>
    (servlet.urlPatterns.filterMap (rank? · path)).map (·, servlet.name)

variable {servlets : List ServletDefinition} {servlet : ServletDefinition} {d d' : Directory}
  {path : String}

/-! ## Contenders of one registration -/

@[simp] theorem rank?_default (path : String) : rank? defaultPattern path = some .default :=
  if_pos rfl

theorem rank?_of_parse {text : String} {pattern : UrlPattern} (proper : text ≠ defaultPattern)
    (parsed : UrlPattern.parse text = .ok pattern) (path : String) :
    rank? text path = pattern.rankOn? path := by
  rw [rank?, if_neg proper, parsed]
  rfl

theorem ranks_of_read {texts : List String} {patterns : List UrlPattern}
    (read : (texts.filter (· ≠ defaultPattern)).mapM UrlPattern.parse = .ok patterns)
    (path : String) :
    (texts.filterMap (rank? · path)).filter (· ≠ .default) =
      patterns.filterMap (·.rankOn? path) := by
  induction texts generalizing patterns with
  | nil =>
    obtain rfl : [] = patterns := Except.ok.inj read
    rfl
  | cons text rest ih =>
    rw [List.filter_cons] at read
    by_cases default : text = defaultPattern
    · rw [if_neg (by simpa using default)] at read
      rw [default, List.filterMap_cons, rank?_default]
      dsimp only
      rw [List.filter_cons, if_neg (by simp), ih read]
    · rw [if_pos (by simpa using default)] at read
      obtain ⟨pattern, others, parsed, readRest, rfl⟩ := mapM_cons_eq_ok.1 read
      rw [List.filterMap_cons, List.filterMap_cons, rank?_of_parse default parsed]
      cases ranked : pattern.rankOn? path with
      | none => exact ih readRest
      | some rank =>
        have proper : rank ≠ .default := by
          rintro rfl
          exact pattern.rankOn?_ne_default path ranked
        dsimp only
        rw [List.filter_cons, if_pos (by simpa using proper), ih readRest]

theorem exists_parse_of_rank? {text : String} {rank : Rank} (proper : text ≠ defaultPattern)
    (ranked : rank? text path = some rank) :
    ∃ pattern, UrlPattern.parse text = .ok pattern ∧ pattern.rankOn? path = some rank := by
  rw [rank?, if_neg proper] at ranked
  obtain ⟨pattern, read, covered⟩ := Option.bind_eq_some_iff.1 ranked
  cases parsed : UrlPattern.parse text with
  | error cause =>
    rw [parsed] at read
    cases read
  | ok pattern' =>
    rw [parsed] at read
    obtain rfl : pattern' = pattern := Option.some.inj read
    exact ⟨pattern', rfl, covered⟩

theorem rank?_eq_default {text : String} :
    rank? text path = some .default ↔ text = defaultPattern := by
  constructor
  · intro ranked
    by_contra proper
    obtain ⟨pattern, -, covered⟩ := exists_parse_of_rank? proper ranked
    exact pattern.rankOn?_ne_default path covered
  · rintro rfl
    exact rank?_default path

theorem default_mem_ranks {texts : List String} :
    Rank.default ∈ texts.filterMap (rank? · path) ↔ defaultPattern ∈ texts := by
  simp only [List.mem_filterMap, rank?_eq_default, exists_eq_right]

theorem mem_ranks_of_read {texts : List String} {patterns : List UrlPattern}
    (read : (texts.filter (· ≠ defaultPattern)).mapM UrlPattern.parse = .ok patterns)
    {rank : Rank} (proper : rank ≠ .default) :
    rank ∈ texts.filterMap (rank? · path) ↔
      ∃ pattern ∈ patterns, pattern.rankOn? path = some rank := by
  rw [← List.mem_filterMap, ← ranks_of_read read, List.mem_filter]
  simp [proper]

/-! ## The four searches -/

/-- The first contender with a rank. -/
def foremost (xs : List (Rank × String)) (rank : Rank) : Option String :=
  (xs.find? fun x => x.1 = rank).map Prod.snd

theorem foremost_append (xs ys : List (Rank × String)) (rank : Rank) :
    foremost (xs ++ ys) rank = (foremost xs rank).or (foremost ys rank) := by
  rw [foremost, List.find?_append, Option.map_or]
  rfl

theorem foremost_named (ranks : List Rank) (name : String) (rank : Rank) :
    foremost (ranks.map (·, name)) rank = if rank ∈ ranks then some name else none := by
  induction ranks with
  | nil => rfl
  | cons first rest ih =>
    rw [List.map_cons, foremost, List.find?_cons]
    by_cases same : first = rank
    · simp [same]
    · have other : rank ≠ first := Ne.symm same
      simpa [same, other, foremost] using ih

theorem foremost_eq_none {xs : List (Rank × String)} {rank : Rank} :
    foremost xs rank = none ↔ ∀ x ∈ xs, x.1 ≠ rank := by
  simp [foremost]

theorem isFirstBest_of_foremost {xs : List (Rank × String)} {rank : Rank} {servlet : String}
    (found : foremost xs rank = some servlet) (highest : ∀ x ∈ xs, x.1 ≤ rank) :
    IsFirstBest Prod.fst xs (rank, servlet) := by
  obtain ⟨⟨rank', servlet'⟩, first, rfl⟩ := Option.map_eq_some_iff.1 found
  obtain rfl : rank' = rank := by simpa using List.find?_some first
  exact ⟨highest, first⟩

theorem longest?_snoc (stems : List (String × String)) (stem : String × String) :
    longest? (stems ++ [stem]) =
      match longest? stems with
      | none => some stem
      | some held => if held.1.length < stem.1.length then some stem else longest? stems := by
  rw [longest?, List.foldl_append]
  rfl

theorem longest?_eq_none {stems : List (String × String)} :
    longest? stems = none ↔ stems = [] := by
  constructor
  · intro none
    rcases List.eq_nil_or_concat' stems with nil | ⟨front, last, rfl⟩
    · exact nil
    · rw [longest?_snoc] at none
      split at none
      · cases none
      · next held longest =>
        split at none
        · cases none
        · rw [longest] at none
          cases none
  · rintro rfl
    rfl

theorem isFirstBest_of_longest {stems : List (String × String)} {stem : String × String}
    (found : longest? stems = some stem) :
    IsFirstBest (fun stem => stem.1.length) stems stem := by
  induction stems using List.reverseRecOn generalizing stem with
  | nil => cases found
  | append_singleton front last ih =>
    rw [longest?_snoc] at found
    split at found
    · next none =>
      obtain rfl : last = stem := Option.some.inj found
      rw [longest?_eq_none.1 none]
      exact .singleton _ last
    · next held longest =>
      split at found
      · next longer =>
        obtain rfl : last = stem := Option.some.inj found
        exact (ih longest).snoc_of_lt longer
      · next notLonger =>
        obtain rfl : held = stem := Option.some.inj (longest.symm.trans found)
        exact (ih longest).snoc_of_le (Nat.le_of_not_lt notLonger)

/-- The searches of a directory for a path look through one list of contenders. -/
structure Reflects (d : Directory) (path : String) (xs : List (Rank × String)) : Prop where
  paths : (d.first? fun pattern => pattern matches .path _ && pattern.covers path) =
    foremost xs .path
  trees : (d.stemsAbove path).map (fun stem => (Rank.tree stem.1.length, stem.2)) =
    xs.filter (·.1.isTree)
  extensions : (d.first? fun pattern => pattern matches .extension _ && pattern.covers path) =
    foremost xs .extension
  default : d.default = foremost xs .default

theorem reflects_empty (path : String) : Reflects .empty path [] := ⟨rfl, rfl, rfl, rfl⟩

theorem first?_snoc (d : Directory) (mount : Mount) (default : Option String)
    (test : UrlPattern → Bool) :
    first? ⟨d.mounts ++ [mount], default⟩ test =
      (d.first? test).or (if mount.patterns.any test then some mount.servlet else none) := by
  rw [first?, List.find?_append, Option.map_or, List.find?_singleton]
  congr 1
  split <;> rfl

theorem stemsAbove_snoc (d : Directory) (mount : Mount) (default : Option String) (path : String) :
    stemsAbove ⟨d.mounts ++ [mount], default⟩ path =
      d.stemsAbove path ++ stemsAbove ⟨[mount], none⟩ path := by
  rw [stemsAbove, List.flatMap_append]
  rfl

theorem trees_of_mount (patterns : List UrlPattern) (name path : String) :
    (stemsAbove ⟨[⟨name, patterns⟩], none⟩ path).map
        (fun stem => (Rank.tree stem.1.length, stem.2)) =
      ((patterns.filterMap (·.rankOn? path)).map (·, name)).filter (·.1.isTree) := by
  rw [stemsAbove, List.flatMap_singleton, List.map_filterMap, List.map_filterMap,
    List.filter_filterMap]
  refine congrArg (List.filterMap · patterns) (funext fun pattern => ?_)
  unfold UrlPattern.rankOn?
  cases pattern <;> dsimp only <;> split <;> rfl

theorem trees_of_ranks (ranks : List Rank) (name : String) :
    ((ranks.filter (· ≠ .default)).map (·, name)).filter (·.1.isTree) =
      (ranks.map (·, name)).filter (·.1.isTree) := by
  rw [List.filter_map, List.filter_map, List.filter_filter]
  congr 2
  funext rank
  -- the default pattern, which is passed over on the one side, is no tree
  cases rank <;> simp [Rank.isTree]

theorem test_path (pattern : UrlPattern) (path : String) :
    (pattern matches .path _ && pattern.covers path) = true ↔ pattern.rankOn? path = some .path := by
  rw [UrlPattern.rankOn?_eq_some]
  cases pattern <;> simp [UrlPattern.rank]

theorem test_extension (pattern : UrlPattern) (path : String) :
    (pattern matches .extension _ && pattern.covers path) = true ↔
      pattern.rankOn? path = some .extension := by
  rw [UrlPattern.rankOn?_eq_some]
  cases pattern <;> simp [UrlPattern.rank]

theorem first?_register {test : UrlPattern → Bool} {rank : Rank} {xs : List (Rank × String)}
    {texts : List String} {patterns : List UrlPattern} {default : Option String} (name : String)
    (tests : ∀ pattern, test pattern = true ↔ pattern.rankOn? path = some rank)
    (proper : rank ≠ .default) (searched : d.first? test = foremost xs rank)
    (read : (texts.filter (· ≠ defaultPattern)).mapM UrlPattern.parse = .ok patterns) :
    first? ⟨d.mounts ++ [⟨name, patterns⟩], default⟩ test =
      foremost (xs ++ (texts.filterMap (rank? · path)).map (·, name)) rank := by
  have taken : patterns.any test = true ↔ rank ∈ texts.filterMap (rank? · path) := by
    rw [List.any_eq_true, mem_ranks_of_read read proper]
    simp only [tests]
  rw [first?_snoc, foremost_append, foremost_named, searched]
  simp only [taken]

theorem Reflects.register {xs : List (Rank × String)} (h : Reflects d path xs)
    (registered : d.register servlet.name servlet.urlPatterns = (d', .ok ())) :
    Reflects d' path
      (xs ++ (servlet.urlPatterns.filterMap (rank? · path)).map (·, servlet.name)) := by
  obtain ⟨patterns, read, rfl⟩ := register_eq_ok.1 registered
  exact
    { paths := first?_register _ (test_path · path) nofun h.paths read
      trees := by
        rw [stemsAbove_snoc, List.map_append, trees_of_mount, List.filter_append, h.trees,
          ← ranks_of_read read, trees_of_ranks]
      extensions := first?_register _ (test_extension · path) nofun h.extensions read
      default := by
        rw [foremost_append, foremost_named, h.default]
        simp only [default_mem_ranks] }

/-- The searches of a directory look through the contenders of its registrations. -/
theorem Built.reflects (built : Built servlets d) (path : String) :
    Reflects d path (contenders servlets path) := by
  induction built with
  | empty => exact reflects_empty path
  | register built registered ih =>
    rw [contenders, List.flatMap_append, List.flatMap_singleton]
    exact ih.register registered

/-! ## The answer -/

theorem isFirstBest_of_tree {stem : String × String} {xs : List (Rank × String)}
    (reflects : Reflects d path xs) (found : longest? (d.stemsAbove path) = some stem)
    (pathless : ∀ x ∈ xs, x.1 ≠ .path) :
    IsFirstBest Prod.fst xs (.tree stem.1.length, stem.2) where
  best x member := by
    obtain ⟨longest, -⟩ := isFirstBest_of_longest found
    cases tree : x.1.isTree with
    | false => exact Rank.le_tree (pathless x member) tree _
    | true =>
      have kept : x ∈ xs.filter (·.1.isTree) := List.mem_filter.2 ⟨member, tree⟩
      rw [← reflects.trees] at kept
      obtain ⟨other, above, rfl⟩ := List.mem_map.1 kept
      exact Rank.tree_le_tree.2 (longest other above)
  first := by
    obtain ⟨-, first⟩ := isFirstBest_of_longest found
    have searched : (xs.filter (·.1.isTree)).find? (fun x => x.1 = .tree stem.1.length) =
        xs.find? fun x => x.1 = .tree stem.1.length := by
      rw [List.find?_filter]
      refine congrArg (List.find? · xs) (funext fun x => ?_)
      obtain ⟨rank, servlet⟩ := x
      cases rank <;> simp [Rank.isTree]
    rw [← searched, ← reflects.trees, List.find?_map]
    simp only [Function.comp_def, Rank.tree.injEq]
    rw [first]
    rfl

theorem Reflects.resolve_eq {xs : List (Rank × String)} (h : Reflects d path xs) :
    d.resolve path =
      (((foremost xs .path).or ((longest? (d.stemsAbove path)).map Prod.snd)).or
        (foremost xs .extension)).or (foremost xs .default) := by
  rw [← h.paths, ← h.extensions, ← h.default]
  rfl

theorem Reflects.treeless {xs : List (Rank × String)} (h : Reflects d path xs)
    (stemless : d.stemsAbove path = []) : ∀ x ∈ xs, x.1.isTree = false := by
  have none_kept : xs.filter (·.1.isTree) = [] := by rw [← h.trees, stemless, List.map_nil]
  simpa using none_kept

theorem isFirstBest_of_resolve {xs : List (Rank × String)} {servlet : String}
    (reflects : Reflects d path xs) (resolved : d.resolve path = some servlet) :
    ∃ rank, IsFirstBest Prod.fst xs (rank, servlet) := by
  rw [reflects.resolve_eq] at resolved
  simp only [Option.or_eq_some_iff, Option.or_eq_none_iff, Option.map_eq_none_iff,
    foremost_eq_none, longest?_eq_none] at resolved
  -- a search that finds nothing leaves the highest rank to the next one
  rcases resolved with ((path | ⟨pathless, tree⟩) | ⟨⟨pathless, stemless⟩, extension⟩) |
    ⟨⟨⟨pathless, stemless⟩, plain⟩, default⟩
  · exact ⟨_, isFirstBest_of_foremost path fun x _ => Rank.le_path x.1⟩
  · obtain ⟨stem, found, rfl⟩ := Option.map_eq_some_iff.1 tree
    exact ⟨_, isFirstBest_of_tree reflects found pathless⟩
  · refine ⟨_, isFirstBest_of_foremost extension fun x member => ?_⟩
    exact Rank.le_extension (pathless x member) (reflects.treeless stemless x member)
  · refine ⟨_, isFirstBest_of_foremost default fun x member => ?_⟩
    exact Rank.le_default (pathless x member) (reflects.treeless stemless x member) (plain x member)

theorem resolve_eq_none {xs : List (Rank × String)} (reflects : Reflects d path xs) :
    d.resolve path = none ↔ xs = [] := by
  constructor
  · intro unresolved
    rw [reflects.resolve_eq] at unresolved
    simp only [Option.or_eq_none_iff, Option.map_eq_none_iff, foremost_eq_none,
      longest?_eq_none] at unresolved
    obtain ⟨⟨⟨pathless, stemless⟩, plain⟩, defaultless⟩ := unresolved
    refine List.eq_nil_iff_forall_not_mem.2 fun x member => defaultless x member ?_
    have least := Rank.le_default (pathless x member) (reflects.treeless stemless x member)
      (plain x member)
    exact le_antisymm least (Rank.default_le x.1)
  · rintro rfl
    cases resolved : d.resolve path with
    | none => rfl
    | some servlet =>
      obtain ⟨rank, best⟩ := isFirstBest_of_resolve reflects resolved
      exact absurd best.mem List.not_mem_nil

/-! ## What serves a path -/

theorem rank?_eq_none {text : String} :
    rank? text path = none ↔ text ≠ defaultPattern ∧ ¬ UrlPattern.Written text path := by
  unfold rank? UrlPattern.Written UrlPattern.rankOn?
  by_cases default : text = defaultPattern
  · simp [default]
  · cases UrlPattern.parse text with
    | error cause => simp [default, Except.toOption]
    | ok pattern => simp [default, Except.toOption]

theorem contenders_eq_nil :
    contenders servlets path = [] ↔
      ∀ servlet ∈ servlets, ∀ text ∈ servlet.urlPatterns,
        text ≠ defaultPattern ∧ ¬ UrlPattern.Written text path := by
  simp only [contenders, List.flatMap_eq_nil_iff, List.map_eq_nil_iff, List.filterMap_eq_nil_iff,
    rank?_eq_none]

/-- **A path is served by the best match.** The directory answers with a servlet just if one of its
patterns has the highest rank of all that serve the path, and is the first of these that was
registered. It has no answer just if no pattern covers the path, and no servlet is the default. -/
theorem resolve_eq_best (built : Built servlets d) (path : String) :
    (∀ servlet, d.resolve path = some servlet ↔
        ∃ rank, IsFirstBest Prod.fst (contenders servlets path) (rank, servlet)) ∧
      (d.resolve path = none ↔
        ∀ servlet ∈ servlets, ∀ text ∈ servlet.urlPatterns,
          text ≠ defaultPattern ∧ ¬ UrlPattern.Written text path) := by
  have reflects := built.reflects path
  refine ⟨fun servlet => ⟨isFirstBest_of_resolve reflects, ?_⟩, ?_⟩
  · rintro ⟨rank, best⟩
    cases resolved : d.resolve path with
    | none =>
      rw [resolve_eq_none reflects] at resolved
      exact absurd (resolved ▸ best.mem) List.not_mem_nil
    | some other =>
      obtain ⟨rank', best'⟩ := isFirstBest_of_resolve reflects resolved
      exact congrArg some (Prod.ext_iff.1 (best'.unique best)).2
  · rw [resolve_eq_none reflects, contenders_eq_nil]

/-- The longer stem serves a path that has the extension of another servlet, and it does so for the
servlet that was mounted on it first. -/
theorem resolve_eq_best_admin :
    let servlets : List ServletDefinition :=
      [⟨"pages", ["/", "*.jsp"]⟩, ⟨"api", ["/api/*"]⟩, ⟨"admin", ["/api/admin/*"]⟩,
        ⟨"late", ["/api/admin/*", "/"]⟩]
    ∃ d, Built servlets d ∧ d.resolve "/api/admin/list.jsp" = some "admin" ∧
      d.resolve "img" = some "pages" := by
  intro servlets
  obtain ⟨d, built⟩ : ∃ d, Built servlets d := exists_built.2 (by decide)
  refine ⟨d, built, ?_, ?_⟩
  · exact ((resolve_eq_best built _).1 _).2 ⟨.tree 10, by decide, by decide⟩
  · exact ((resolve_eq_best built _).1 _).2 ⟨.default, by decide, by decide⟩

end Directory

end Gatehouse
