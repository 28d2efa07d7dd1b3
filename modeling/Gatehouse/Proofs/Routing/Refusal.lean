import Gatehouse.Proofs.Routing.Coverage
import Gatehouse.Proofs.Routing.Registration

/-!
# Registrations that fail

A registration with a bad pattern fails and mounts nothing. But texts are taken in their order, so
a default pattern in front of the bad one has been claimed by then, and it stays claimed. The main
statement is `Directory.resolve_of_refused`: after a registration that fails, paths are served as
before, but for this claim; and they are served exactly as before just if the registration came to
no default pattern or an earlier one had.
-/

namespace Gatehouse

theorem UrlPattern.WellFormed.rooted {pattern : UrlPattern} (formed : pattern.WellFormed)
    {path : String} (covered : pattern.covers path = true) :
    path = "" ∨ '/' ∈ path.toList := by
  cases pattern with
  | path text =>
    obtain rfl := (covers_path text path).1 covered
    obtain ⟨⟨rest, written⟩, -⟩ := formed
    exact .inr (by simp [written])
  | tree stem =>
    rcases (covers_tree stem path).1 covered with rfl | ⟨rest, rfl⟩
    · rcases formed.1 with rfl | ⟨rest, written⟩
      · exact .inl rfl
      · exact .inr (by simp [written])
    · exact .inr (by simp)
  | extension ext =>
    obtain ⟨-, -, before, name, rfl, -⟩ := (covers_extension ext path).1 covered
    exact .inr (by simp)

namespace Directory

variable {d d' : Directory} {path name : String} {texts : List String}

/-! ## One registration -/

/-- Every pattern in the directory has a written form. -/
def WellFormed (d : Directory) : Prop :=
  ∀ mount ∈ d.mounts, ∀ pattern ∈ mount.patterns, pattern.WellFormed

theorem wellFormed_empty : empty.WellFormed := nofun

theorem WellFormed.register (formed : d.WellFormed) (name : String) (texts : List String) :
    (d.register name texts).1.WellFormed := by
  rw [WellFormed, register_fst]
  cases read : (readPatterns texts).2 with
  | error cause => exact formed
  | ok patterns =>
    rw [readPatterns_snd] at read
    rw [List.forall_mem_append, List.forall_mem_singleton]
    refine ⟨formed, fun pattern member => ?_⟩
    obtain ⟨text, -, parsed⟩ := (mem_mapM read).1 member
    exact (UrlPattern.parse_eq_ok.1 parsed).2.1

theorem WellFormed.resolve_slashless (formed : d.WellFormed) (nonempty : path ≠ "")
    (slashless : '/' ∉ path.toList) : d.resolve path = d.default := by
  have uncovered : ∀ mount ∈ d.mounts, ∀ pattern ∈ mount.patterns, pattern.covers path = false := by
    intro mount mounted pattern member
    rw [Bool.eq_false_iff]
    intro covered
    rcases (formed mount mounted pattern member).rooted covered with rfl | slash
    · exact nonempty rfl
    · exact slashless slash
  have unfound : ∀ kind : UrlPattern → Bool,
      d.first? (fun pattern => kind pattern && pattern.covers path) = none := by
    intro kind
    rw [first?, Option.map_eq_none_iff, List.find?_eq_none]
    intro mount mounted
    simp +contextual [uncovered mount mounted]
  have stemless : d.stemsAbove path = [] := by
    rw [stemsAbove, List.flatMap_eq_nil_iff]
    intro mount mounted
    rw [List.filterMap_eq_nil_iff]
    intro pattern member
    cases pattern with
    | tree stem => simp [uncovered mount mounted _ member]
    | _ => rfl
  rw [resolve, unfound, unfound, stemless]
  rfl

theorem resolve_claimed (d : Directory) (claim : Option String) (path : String) :
    resolve { d with default := d.default.or claim } path = (d.resolve path).or claim := by
  simp only [resolve, Option.or_assoc]
  rfl

theorem register_eq_error {cause : PatternError} :
    d.register name texts = (d', .error cause) ↔
      (readPatterns texts).2 = .error cause ∧
        { d with default := d.default.or (if ClaimsDefault texts then some name else none) } = d' := by
  rw [Prod.ext_iff, register_fst, register_snd]
  cases (readPatterns texts).2 with
  | error other => simp [Except.map, and_comm]
  | ok patterns => simp [Except.map]

/-! ## Several registrations -/

/-- Registers servlets one after another, and goes on after those that fail. -/
def registerAll (servlets : List ServletDefinition) : Directory :=
  servlets.foldl (fun d servlet => (d.register servlet.name servlet.urlPatterns).1) .empty

theorem registerAll_append (servlets : List ServletDefinition) (last : ServletDefinition) :
    registerAll (servlets ++ [last]) =
      ((registerAll servlets).register last.name last.urlPatterns).1 := by
  rw [registerAll, List.foldl_append]
  rfl

theorem wellFormed_registerAll (servlets : List ServletDefinition) :
    (registerAll servlets).WellFormed := by
  induction servlets using List.reverseRecOn with
  | nil => exact wellFormed_empty
  | append_singleton front last ih =>
    rw [registerAll_append]
    exact WellFormed.register ih last.name last.urlPatterns

theorem default_registerAll (servlets : List ServletDefinition) :
    (registerAll servlets).default =
      (servlets.find? (ClaimsDefault ·.urlPatterns)).map ServletDefinition.name := by
  induction servlets using List.reverseRecOn with
  | nil => rfl
  | append_singleton front last ih =>
    rw [registerAll_append, register_fst, ih, List.find?_append, Option.map_or,
      List.find?_singleton]
    by_cases claims : ClaimsDefault last.urlPatterns <;> simp [claims]

variable {servlets : List ServletDefinition} {servlet : ServletDefinition}

/-- **After a registration that fails, paths are served as before, but for a default pattern that
it came to.** Such a pattern counts where there was no default servlet yet, and only then does any
path get another answer. -/
theorem resolve_of_refused {cause : PatternError}
    (refused : (registerAll servlets).register servlet.name servlet.urlPatterns =
      (d', .error cause)) :
    (∀ path, d'.resolve path =
      ((registerAll servlets).resolve path).or
        (if ClaimsDefault servlet.urlPatterns then some servlet.name else none)) ∧
    ((∀ path, d'.resolve path = (registerAll servlets).resolve path) ↔
      ¬ ClaimsDefault servlet.urlPatterns ∨
        ∃ earlier ∈ servlets, ClaimsDefault earlier.urlPatterns) := by
  obtain ⟨-, rfl⟩ := register_eq_error.1 refused
  have after := resolve_claimed (registerAll servlets)
    (if ClaimsDefault servlet.urlPatterns then some servlet.name else none)
  refine ⟨after, ?_, ?_⟩
  · intro same
    rw [Classical.or_iff_not_imp_left, Classical.not_not]
    intro claims
    -- a path that nothing but a default servlet can serve
    have answer := after "*"
    rw [same, if_pos claims, (wellFormed_registerAll servlets).resolve_slashless (by decide)
      (by decide), default_registerAll] at answer
    cases found : servlets.find? (ClaimsDefault ·.urlPatterns) with
    | none =>
      rw [found] at answer
      cases answer
    | some earlier =>
      exact ⟨earlier, List.mem_of_find?_eq_some found, by simpa using List.find?_some found⟩
  · rintro (unclaimed | ⟨earlier, registered, claims⟩) path
    · rw [after, if_neg unclaimed, Option.or_none]
    · have held : (registerAll servlets).default.isSome := by
        rw [default_registerAll, Option.isSome_map, List.find?_isSome]
        exact ⟨earlier, registered, decide_eq_true claims⟩
      rw [after, Option.or_of_isSome]
      rw [resolve, Option.isSome_or, held, Bool.or_true]

/-- A failed registration claims the default pattern, and takes no path from those mounted before. -/
theorem resolve_of_refused_pages :
    let servlets : List ServletDefinition := [⟨"pages", ["*.jsp"]⟩, ⟨"api", ["/api/*", "api"]⟩]
    let servlet : ServletDefinition := ⟨"files", ["/files/*", "/", "files", "/late"]⟩
    let d := registerAll servlets
    let after := d.register servlet.name servlet.urlPatterns
    after.2 = .error (.badStart "files") ∧
      d.resolve "/files/a" = none ∧ after.1.resolve "/files/a" = some "files" ∧
      after.1.resolve "/a.jsp" = some "pages" ∧
      ¬ ∀ path, after.1.resolve path = d.resolve path := by
  intro servlets servlet d after
  have refused : after.2 = .error (.badStart "files") := by decide
  obtain ⟨answers, same⟩ := resolve_of_refused (Prod.ext rfl refused : after = (after.1, _))
  refine ⟨refused, by decide, (answers _).trans (by decide), (answers _).trans (by decide), ?_⟩
  rw [same]
  decide

/-- A default pattern in front of a bad one stays claimed by a servlet that was not mounted. -/
theorem refused_claim_remains :
    let d := registerAll []
    let after := d.register "broken" ["/", "bad"]
    after.2 = .error (.badStart "bad") ∧
      d.resolve "/x" = none ∧ after.1.resolve "/x" = some "broken" := by
  decide

end Directory

end Gatehouse
