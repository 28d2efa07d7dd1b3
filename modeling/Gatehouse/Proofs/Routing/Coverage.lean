import Mathlib.Data.List.Infix
import Gatehouse.Routing.Pattern

/-!
# What a written pattern covers

A pattern is written as a glob, and covers the paths that the glob describes
(`UrlPattern.covers_iff_glob`). So each pattern that can be read covers some path, with one
exception: the extension of a path has no dot in it, and a pattern for an extension with a dot
covers nothing (`UrlPattern.exists_covered_iff`).
-/

namespace Gatehouse

/-! ## The last piece of a list -/

namespace Text

variable {α : Type} [DecidableEq α] {mark : α}

theorem afterLast?_append {after : List α} (last : mark ∉ after) (before : List α) :
    afterLast? mark (before ++ mark :: after) = some after := by
  have reversed : (before ++ mark :: after).reverse = after.reverse ++ mark :: before.reverse := by
    simp
  have others : ∀ c ∈ after.reverse, decide (c ≠ mark) = true := by
    intro c member
    refine decide_eq_true ?_
    rintro rfl
    exact last (List.mem_reverse.1 member)
  rw [afterLast?, if_pos (by simp), reversed, List.takeWhile_append_of_pos others,
    List.takeWhile_cons_of_neg (by simp), List.append_nil, List.reverse_reverse]

theorem afterLast?_eq_some {cs after : List α} :
    afterLast? mark cs = some after ↔ ∃ before, cs = before ++ mark :: after ∧ mark ∉ after := by
  constructor
  · intro found
    have occurs : mark ∈ cs := by
      by_contra absent
      rw [afterLast?, if_neg absent] at found
      cases found
    -- the last occurrence is the first one from behind
    obtain ⟨behind, ahead, split, last⟩ := List.eq_append_cons_of_mem (List.mem_reverse.2 occurs)
    have cut : cs = ahead.reverse ++ mark :: behind.reverse := by
      rw [← List.reverse_reverse cs, split]
      simp
    have whole : mark ∉ behind.reverse := by simpa using last
    rw [cut, afterLast?_append whole, Option.some.injEq] at found
    exact ⟨ahead.reverse, found ▸ cut, found ▸ whole⟩
  · rintro ⟨before, rfl, last⟩
    exact afterLast?_append last before

end Text

namespace UrlPattern

variable {text : String} {pattern : UrlPattern}

/-! ## Reading -/

theorem stem?_eq_some {cs stem : List Char} : stem? cs = some stem ↔ cs = stem ++ ['/', '*'] := by
  rw [stem?]
  constructor
  · intro found
    split at found
    · next rest reversed =>
      rw [List.reverse_eq_iff] at reversed
      rw [← Option.some.inj found, reversed]
      simp
    · cases found
  · rintro rfl
    simp

/-- A path begins with a slash, and so does a stem that is not empty; an extension is not empty and
has no slash. None of them has a star. -/
def WellFormed : UrlPattern → Prop
  | .path text => (∃ rest, text.toList = '/' :: rest) ∧ '*' ∉ text.toList
  | .tree stem => (stem = "" ∨ ∃ rest, stem.toList = '/' :: rest) ∧ '*' ∉ stem.toList
  | .extension text => text ≠ "" ∧ '/' ∉ text.toList ∧ '*' ∉ text.toList

theorem toList_render_tree (stem : String) :
    (tree stem).render.toList = stem.toList ++ ['/', '*'] :=
  String.toList_append

theorem toList_render_extension (text : String) :
    (extension text).render.toList = '*' :: '.' :: text.toList :=
  String.toList_append

theorem slash_render_tree {stem : String} (formed : (tree stem).WellFormed) :
    ∃ rest, (tree stem).render.toList = '/' :: rest := by
  rw [toList_render_tree]
  rcases formed.1 with rfl | ⟨rest, written⟩
  · exact ⟨['*'], rfl⟩
  · exact ⟨rest ++ ['/', '*'], by rw [written]; rfl⟩

theorem wellFormed_of_parseLine (read : parseLine text = .ok pattern) :
    pattern.render = text ∧ pattern.WellFormed := by
  rw [parseLine] at read
  split at read
  · next ext written =>
    split at read
    · cases read
    · next proper =>
      obtain rfl := Except.ok.inj read
      refine ⟨?_, by simpa [WellFormed, ← String.toList_eq_nil_iff] using proper⟩
      rw [← String.toList_inj, toList_render_extension, String.toList_ofList, written]
  · next rest written =>
    split at read
    · next stem found =>
      split at read
      · cases read
      · next starless =>
        obtain rfl := Except.ok.inj read
        rw [stem?_eq_some] at found
        refine ⟨?_, ?_, by rwa [String.toList_ofList]⟩
        · rw [← String.toList_inj, toList_render_tree, String.toList_ofList, written, found]
        · cases stem with
          | nil => exact .inl rfl
          | cons c rest =>
            obtain ⟨rfl, -⟩ := List.cons.inj found
            exact .inr ⟨rest, String.toList_ofList⟩
    · split at read
      · cases read
      · next starless =>
        obtain rfl := Except.ok.inj read
        exact ⟨rfl, ⟨rest, written⟩, by simpa [written] using starless⟩
  · cases read

theorem parseLine_of_wellFormed (formed : pattern.WellFormed) :
    parseLine pattern.render = .ok pattern := by
  cases pattern with
  | path text =>
    obtain ⟨⟨rest, written⟩, starless⟩ := formed
    rw [written] at starless
    have noTree : stem? ('/' :: rest) = none := by
      rw [Option.eq_none_iff_forall_ne_some]
      intro stem found
      rw [stem?_eq_some.1 found] at starless
      simp at starless
    simp only [render, parseLine, written, noTree]
    rw [if_neg (by simpa using starless)]
  | tree stem =>
    obtain ⟨rest, written⟩ := slash_render_tree formed
    have found : stem? ('/' :: rest) = some stem.toList := by
      rw [stem?_eq_some, ← written, toList_render_tree]
    simp only [parseLine, written, found]
    rw [if_neg formed.2, String.ofList_toList]
  | extension text =>
    obtain ⟨nonempty, slashless, starless⟩ := formed
    simp only [parseLine, toList_render_extension]
    rw [if_neg (by simp [slashless, starless, nonempty]), String.ofList_toList]

theorem parse_eq_ok :
    parse text = .ok pattern ↔
      pattern.render = text ∧ pattern.WellFormed ∧ '\n' ∉ text.toList ∧ '\r' ∉ text.toList := by
  rw [parse]
  constructor
  · intro read
    split at read
    · cases read
    · split at read
      · cases read
      · next unbroken =>
        obtain ⟨written, formed⟩ := wellFormed_of_parseLine read
        exact ⟨written, formed, not_or.1 unbroken⟩
  · rintro ⟨rfl, formed, noFeed, noReturn⟩
    have read := parseLine_of_wellFormed formed
    have nonempty : pattern.render.toList ≠ [] := by
      intro empty
      rw [parseLine, empty] at read
      cases read
    rw [if_neg nonempty, if_neg (not_or.2 ⟨noFeed, noReturn⟩), read]

/-! ## Covering -/

theorem isBelow_iff {stem path : List Char} :
    isBelow stem path = true ↔ path = stem ∨ ∃ rest, path = stem ++ '/' :: rest := by
  rw [isBelow]
  split
  · next below =>
    rw [List.isPrefixOf?_eq_some_iff_append_eq, List.append_nil] at below
    simp [below]
  · next c rest below =>
    rw [List.isPrefixOf?_eq_some_iff_append_eq] at below
    subst below
    simp
  · next beside =>
    rw [Option.eq_none_iff_forall_ne_some] at beside
    simp only [ne_eq, List.isPrefixOf?_eq_some_iff_append_eq] at beside
    simp only [Bool.false_eq_true, false_iff, not_or, not_exists]
    exact ⟨fun same => beside [] (by simp [same]), fun rest below => beside _ below.symm⟩

theorem extension?_eq_some {path ext : List Char} :
    extension? path = some ext ↔
      ∃ before name, path = before ++ '/' :: (name ++ '.' :: ext) ∧ '/' ∉ name ++ '.' :: ext ∧
        '.' ∉ ext := by
  simp only [extension?, Option.bind_eq_some_iff, Text.afterLast?_eq_some]
  constructor
  · rintro ⟨last, ⟨before, rfl, slashless⟩, name, rfl, dotless⟩
    exact ⟨before, name, rfl, slashless, dotless⟩
  · rintro ⟨before, name, rfl, slashless, dotless⟩
    exact ⟨_, ⟨before, rfl, slashless⟩, name, rfl, dotless⟩

theorem exists_text {holds : List Char → Prop} :
    (∃ text : String, holds text.toList) ↔ ∃ cs, holds cs :=
  ⟨fun ⟨text, h⟩ => ⟨text.toList, h⟩,
    fun ⟨cs, h⟩ => ⟨String.ofList cs, by rwa [String.toList_ofList]⟩⟩

theorem covers_path (text path : String) :
    (UrlPattern.path text).covers path = true ↔ path = text := by
  rw [covers, decide_eq_true_eq, eq_comm]

theorem covers_tree (stem path : String) :
    (tree stem).covers path = true ↔ path = stem ∨ ∃ rest, path = stem ++ "/" ++ rest := by
  rw [covers, isBelow_iff, String.toList_inj, ← exists_text]
  simp only [← String.toList_inj, String.toList_append, List.append_assoc]
  rfl

theorem covers_extension (ext path : String) :
    (extension ext).covers path = true ↔
      '.' ∉ ext.toList ∧ '/' ∉ ext.toList ∧
        ∃ before name, path = before ++ "/" ++ (name ++ "." ++ ext) ∧ '/' ∉ name.toList := by
  rw [covers, decide_eq_true_eq, extension?_eq_some]
  constructor
  · rintro ⟨before, name, written, slashless, dotless⟩
    simp only [List.mem_append, List.mem_cons, not_or] at slashless
    refine ⟨dotless, slashless.2.2, String.ofList before, String.ofList name, ?_, ?_⟩
    · simp [← String.toList_inj, written]
    · rw [String.toList_ofList]
      exact slashless.1
  · rintro ⟨dotless, noSlash, before, name, rfl, slashless⟩
    refine ⟨before.toList, name.toList, by simp, ?_, dotless⟩
    simp [slashless, noSlash]

theorem covers_dotted {ext : String} (dotted : '.' ∈ ext.toList) (path : String) :
    (extension ext).covers path = false := by
  rw [Bool.eq_false_iff]
  intro covered
  exact ((covers_extension ext path).1 covered).1 dotted

/-! ## The shape of a written form -/

theorem eq_tree_of_parse {stem : String} (read : parse text = .ok pattern)
    (written : text = stem ++ "/*") : pattern = .tree stem := by
  obtain ⟨rendered, formed, -, -⟩ := parse_eq_ok.1 read
  have rendered : pattern.render.toList = stem.toList ++ ['/', '*'] := by
    rw [rendered, written, String.toList_append]
    rfl
  cases pattern with
  | path text =>
    refine absurd ?_ formed.2
    rw [show text.toList = _ from rendered]
    simp
  | tree stem' =>
    rw [toList_render_tree] at rendered
    rw [String.toList_inj.1 (List.append_cancel_right rendered)]
  | extension ext =>
    -- the slash would belong to the extension
    have slash : '/' ∈ (extension ext).render.toList := by simp [rendered]
    rw [toList_render_extension] at slash
    exact absurd (by simpa using slash) formed.2.1

theorem eq_extension_of_parse {ext : String} (read : parse text = .ok pattern)
    (written : text = "*." ++ ext) : pattern = .extension ext := by
  obtain ⟨rendered, formed, -, -⟩ := parse_eq_ok.1 read
  have rendered : pattern.render.toList = '*' :: '.' :: ext.toList := by
    rw [rendered, written, String.toList_append]
    rfl
  cases pattern with
  | path text =>
    obtain ⟨⟨rest, slash⟩, -⟩ := formed
    rw [show text.toList = _ from rendered] at slash
    cases slash
  | tree stem =>
    obtain ⟨rest, slash⟩ := slash_render_tree formed
    rw [rendered] at slash
    cases slash
  | extension ext' =>
    rw [toList_render_extension] at rendered
    rw [String.toList_inj.1 (List.cons.inj (List.cons.inj rendered).2).2]

theorem eq_path_of_parse (read : parse text = .ok pattern) {rest : String}
    (rooted : text = "/" ++ rest) (leaf : ∀ stem, text ≠ stem ++ "/*") : pattern = .path text := by
  obtain ⟨rendered, -, -, -⟩ := parse_eq_ok.1 read
  cases pattern with
  | path text' => exact congrArg UrlPattern.path rendered
  | tree stem => exact absurd rendered.symm (leaf stem)
  | extension ext =>
    have slash := congrArg String.toList (rendered.trans rooted)
    rw [toList_render_extension, String.toList_append] at slash
    cases slash

/-! ## Globs -/

/-- **A pattern covers what its glob describes.** A stem with a star below it stands for the stem
itself and all that continues it with a slash; a star with an extension for the paths whose last
segment ends with a dot and the extension; any other text for itself. -/
theorem covers_iff_glob (read : parse text = .ok pattern) (path : String) :
    (∀ stem, text = stem ++ "/*" →
        (pattern.covers path = true ↔ path = stem ∨ ∃ rest, path = stem ++ "/" ++ rest)) ∧
      (∀ ext, text = "*." ++ ext → '.' ∉ ext.toList →
        (pattern.covers path = true ↔
          ∃ before last, path = before ++ "/" ++ last ∧ '/' ∉ last.toList ∧
            ∃ name, last = name ++ "." ++ ext)) ∧
      ((∃ rest, text = "/" ++ rest) → (∀ stem, text ≠ stem ++ "/*") →
        (pattern.covers path = true ↔ path = text)) := by
  refine ⟨fun stem written => ?_, fun ext written dotless => ?_, fun ⟨rest, rooted⟩ leaf => ?_⟩
  · rw [eq_tree_of_parse read written]
    exact covers_tree stem path
  · obtain rfl := eq_extension_of_parse read written
    have slashless : '/' ∉ ext.toList := (parse_eq_ok.1 read).2.1.2.1
    rw [covers_extension]
    constructor
    · rintro ⟨-, -, before, name, rfl, noSlash⟩
      exact ⟨before, _, rfl, by simp [noSlash, slashless], name, rfl⟩
    · rintro ⟨before, last, rfl, noSlash, name, rfl⟩
      exact ⟨dotless, slashless, before, name, rfl, by simp at noSlash; exact noSlash.1⟩
  · rw [eq_path_of_parse read rooted leaf]
    exact covers_path text path

/-- A name may be nothing but an extension, and a dot in an earlier segment does not count. -/
theorem covers_iff_glob_hidden :
    parse "*.do" = .ok (.extension "do") ∧ (extension "do").covers "/a.b/.do" = true := by
  have read : parse "*.do" = .ok (.extension "do") := by decide
  refine ⟨read, ?_⟩
  rw [(covers_iff_glob read "/a.b/.do").2.1 "do" rfl (by decide)]
  exact ⟨"/a.b", ".do", rfl, by decide, "", rfl⟩

theorem exists_rooted {text : String} (slash : ∃ rest, text.toList = '/' :: rest) :
    ∃ rest, "/" ++ rest = text := by
  obtain ⟨rest, written⟩ := slash
  exact ⟨String.ofList rest, by simp [← String.toList_inj, written]⟩

/-- **A pattern covers some path that begins with a slash, unless it is one for an extension with a
dot in it.** -/
theorem exists_covered_iff (read : parse text = .ok pattern) :
    (∃ rest, pattern.covers ("/" ++ rest) = true) ↔
      ∀ ext, text = "*." ++ ext → '.' ∉ ext.toList := by
  constructor
  · rintro ⟨rest, covered⟩ ext written
    rw [eq_extension_of_parse read written, covers_extension] at covered
    exact covered.1
  · intro dotless
    obtain ⟨rfl, formed, -, -⟩ := parse_eq_ok.1 read
    cases pattern with
    | path text =>
      obtain ⟨rest, rooted⟩ := exists_rooted formed.1
      exact ⟨rest, (covers_path ..).2 rooted⟩
    | tree stem =>
      rcases formed.1 with rfl | slash
      · exact ⟨"", (covers_tree ..).2 (.inr ⟨"", rfl⟩)⟩
      · obtain ⟨rest, rooted⟩ := exists_rooted slash
        exact ⟨rest, (covers_tree ..).2 (.inl rooted)⟩
    | extension ext =>
      -- a path that is nothing but the extension, and has an empty name before it
      refine ⟨"." ++ ext, (covers_extension ..).2 ⟨dotless ext rfl, formed.2.1, "", "", ?_, ?_⟩⟩ <;>
        simp

theorem exists_covered_iff_archive :
    parse "*.gz" = .ok (.extension "gz") ∧
      ∃ rest, (extension "gz").covers ("/" ++ rest) = true := by
  have read : parse "*.gz" = .ok (.extension "gz") := by decide
  refine ⟨read, (exists_covered_iff read).2 fun ext written => ?_⟩
  obtain rfl : "gz" = ext := (String.append_right_inj "*.").1 written
  decide

/-- A pattern for an extension with a dot in it can be read, and covers nothing. -/
theorem dotted_extension_covers_nothing :
    parse "*.tar.gz" = .ok (.extension "tar.gz") ∧
      ¬ ∃ path, (extension "tar.gz").covers path = true := by
  refine ⟨by decide, ?_⟩
  rintro ⟨path, covered⟩
  rw [covers_dotted (by decide) path] at covered
  cases covered

end UrlPattern

end Gatehouse
