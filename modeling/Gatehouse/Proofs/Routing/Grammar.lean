import Gatehouse.Proofs.Routing.Coverage

/-!
# Which texts are patterns

A text is a pattern if it is a star with an extension, or a path in which a star may only close the
text, behind a slash (`UrlPattern.IsGlob`). The reader accepts these texts and no others, and a
pattern is written as the text that it was read from, so that no two texts are read as the same
pattern (`UrlPattern.exists_parse_iff_glob`).
-/

namespace Gatehouse

namespace UrlPattern

variable {text : String}

/-! ## The grammar -/

/-- A star, a dot and an extension. -/
def IsExtensionGlob (text : String) : Prop :=
  ∃ ext, text = "*." ++ ext ∧ ext ≠ "" ∧ '/' ∉ ext.toList ∧ '*' ∉ ext.toList

/-- A path from the root. Wherever a star stands in it, the text ends there, and a slash comes
before. -/
def IsPathGlob (text : String) : Prop :=
  (∃ rest, text = "/" ++ rest) ∧
    ∀ before after, text = before ++ "*" ++ after → after = "" ∧ ∃ stem, before = stem ++ "/"

/-- What may be written as a pattern. -/
structure IsGlob (text : String) : Prop where
  nonempty : text ≠ ""
  noFeed : '\n' ∉ text.toList
  noReturn : '\r' ∉ text.toList
  shape : IsExtensionGlob text ∨ IsPathGlob text

/-! ## Written forms -/

theorem split_at_star {before after : String} :
    text = before ++ "*" ++ after ↔ text.toList = before.toList ++ '*' :: after.toList := by
  rw [← String.toList_inj]
  simp

theorem split_of_star (star : '*' ∈ text.toList) :
    ∃ before after, text = before ++ "*" ++ after := by
  obtain ⟨before, after, split⟩ := List.append_of_mem star
  refine ⟨String.ofList before, String.ofList after, split_at_star.2 ?_⟩
  rw [split, String.toList_ofList, String.toList_ofList]

theorem slash_of_rooted {rest : String} (rooted : text = "/" ++ rest) :
    text.toList = '/' :: rest.toList := by
  rw [rooted, String.toList_append]
  rfl

theorem isPathGlob_path (formed : (path text).WellFormed) : IsPathGlob text := by
  obtain ⟨slash, starless⟩ := formed
  obtain ⟨rest, rooted⟩ := exists_rooted slash
  refine ⟨⟨rest, rooted.symm⟩, fun before after split => absurd ?_ starless⟩
  rw [split_at_star.1 split]
  simp

theorem isPathGlob_tree {stem : String} (formed : (tree stem).WellFormed) :
    IsPathGlob (tree stem).render := by
  obtain ⟨rest, rooted⟩ := exists_rooted (slash_render_tree formed)
  refine ⟨⟨rest, rooted.symm⟩, fun before after split => ?_⟩
  have starless : '*' ∉ stem.toList ++ ['/'] := by simpa using formed.2
  have closed : (stem.toList ++ ['/']) ++ '*' :: [] = before.toList ++ '*' :: after.toList := by
    rw [← split_at_star.1 split, toList_render_tree]
    simp
  obtain ⟨front, -, back⟩ := (List.append_cons_inj_of_notMem starless List.not_mem_nil).1 closed
  refine ⟨String.toList_eq_nil_iff.1 back.symm, stem, ?_⟩
  rw [← String.toList_inj, ← front, String.toList_append]
  rfl

theorem wellFormed_of_star (glob : IsPathGlob text) (star : '*' ∈ text.toList) :
    ∃ stem, (tree stem).render = text ∧ (tree stem).WellFormed := by
  obtain ⟨⟨rest, rooted⟩, closing⟩ := glob
  obtain ⟨before, after, split⟩ := split_of_star star
  obtain ⟨rfl, stem, rfl⟩ := closing before after split
  have written : text.toList = stem.toList ++ ['/', '*'] := by
    rw [split_at_star.1 split]
    simp
  refine ⟨stem, ?_, ?_, fun inner => ?_⟩
  · rw [← String.toList_inj, toList_render_tree, written]
  · -- what the text begins with, the stem begins with, unless there is nothing in it
    rw [slash_of_rooted rooted] at written
    cases chars : stem.toList with
    | nil => exact .inl (String.toList_eq_nil_iff.1 chars)
    | cons c tail =>
      rw [chars, List.cons_append] at written
      exact .inr ⟨tail, by rw [(List.cons.inj written).1]⟩
  · -- a star in the stem would have to close the text as well
    obtain ⟨front, back, inside⟩ := split_of_star inner
    have again : text = front ++ "*" ++ (back ++ "/*") := by
      rw [split_at_star, written, split_at_star.1 inside]
      simp
    have empty := congrArg String.toList (closing front _ again).1
    simp at empty

theorem isPathGlob_iff :
    IsPathGlob text ↔
      (path text).WellFormed ∨ ∃ stem, (tree stem).render = text ∧ (tree stem).WellFormed := by
  constructor
  · intro glob
    by_cases star : '*' ∈ text.toList
    · exact .inr (wellFormed_of_star glob star)
    · obtain ⟨rest, rooted⟩ := glob.1
      exact .inl ⟨⟨rest.toList, slash_of_rooted rooted⟩, star⟩
  · rintro (formed | ⟨stem, rfl, formed⟩)
    · exact isPathGlob_path formed
    · exact isPathGlob_tree formed

theorem isExtensionGlob_iff :
    IsExtensionGlob text ↔
      ∃ ext, (extension ext).render = text ∧ (extension ext).WellFormed := by
  constructor
  · rintro ⟨ext, rfl, formed⟩
    exact ⟨ext, rfl, formed⟩
  · rintro ⟨ext, rfl, formed⟩
    exact ⟨ext, rfl, formed⟩

/-- The globs are the written forms of patterns. -/
theorem glob_iff_written :
    IsExtensionGlob text ∨ IsPathGlob text ↔
      ∃ pattern : UrlPattern, pattern.render = text ∧ pattern.WellFormed := by
  rw [isExtensionGlob_iff, isPathGlob_iff]
  constructor
  · rintro (⟨ext, written⟩ | formed | ⟨stem, written⟩)
    · exact ⟨.extension ext, written⟩
    · exact ⟨.path text, rfl, formed⟩
    · exact ⟨.tree stem, written⟩
  · rintro ⟨pattern, written⟩
    cases pattern with
    | path text' =>
      obtain ⟨rfl, formed⟩ := written
      exact .inr (.inl formed)
    | tree stem => exact .inr (.inr ⟨stem, written⟩)
    | extension ext => exact .inl ⟨ext, written⟩

/-! ## Reading and writing -/

theorem ne_empty_of_parse {pattern : UrlPattern} (read : parse text = .ok pattern) : text ≠ "" := by
  rintro rfl
  cases read

/-- **The reader accepts the globs, and nothing is lost in reading.** A pattern is written as the
text that it was read from; so its written form is read as this pattern again, and no other text
is read as it. -/
theorem exists_parse_iff_glob (text : String) :
    ((∃ pattern, parse text = .ok pattern) ↔ IsGlob text) ∧
      ∀ pattern, parse text = .ok pattern →
        pattern.render = text ∧ parse pattern.render = .ok pattern ∧
          ∀ text', parse text' = .ok pattern → text' = text := by
  refine ⟨⟨?_, ?_⟩, fun pattern read => ?_⟩
  · rintro ⟨pattern, read⟩
    obtain ⟨written, formed, noFeed, noReturn⟩ := parse_eq_ok.1 read
    exact ⟨ne_empty_of_parse read, noFeed, noReturn,
      glob_iff_written.2 ⟨pattern, written, formed⟩⟩
  · rintro ⟨-, noFeed, noReturn, shape⟩
    obtain ⟨pattern, rfl, formed⟩ := glob_iff_written.1 shape
    exact ⟨pattern, parse_eq_ok.2 ⟨rfl, formed, noFeed, noReturn⟩⟩
  · have written : pattern.render = text := (parse_eq_ok.1 read).1
    refine ⟨written, written ▸ read, fun text' read' => ?_⟩
    rw [← written, (parse_eq_ok.1 read').1]

/-- The stem of a tree may be a slash. A star in the middle of a path is no glob. -/
theorem exists_parse_iff_glob_slashes :
    parse "//*" = .ok (.tree "/") ∧ (tree "/").render = "//*" ∧ IsGlob "//*" ∧ ¬ IsGlob "/a/*.jsp" := by
  have read : parse "//*" = .ok (.tree "/") := by decide
  have unread : ¬ ∃ pattern, parse "/a/*.jsp" = .ok pattern := by
    rintro ⟨pattern, read⟩
    cases read
  refine ⟨read, ((exists_parse_iff_glob "//*").2 _ read).1, ?_, ?_⟩
  · exact (exists_parse_iff_glob "//*").1.1 ⟨_, read⟩
  · rwa [← (exists_parse_iff_glob "/a/*.jsp").1]

end UrlPattern

end Gatehouse
