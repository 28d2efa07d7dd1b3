import Mathlib.Data.List.Infix
import Gatehouse.Link.Form
import Gatehouse.Proofs.Text.Utf8

/-!
# Decoding the bytes of a text

A query is a text. Its pairs may be told from its characters (`decode_flatMap`): the marks that
part them are characters of their own. A name or a value is never longer than it is written, and
reads as it is written just if it has no plus sign and no percent escape (`decodeText_eq_iff`).
-/

namespace Gatehouse

/-! ## Cutting and splitting -/

namespace Text

variable {α : Type} [DecidableEq α] {mark : α} {before : List α}

theorem mem_of_mem_cut {c : α} {cs : List α}
    (h : c ∈ (cut mark cs).1 ∨ ∃ rest, (cut mark cs).2 = some rest ∧ c ∈ rest) : c ∈ cs := by
  induction cs with
  | nil => simp [cut] at h
  | cons first rest ih =>
    rw [cut] at h
    split at h
    · rcases h with h | ⟨after, same, h⟩
      · simp at h
      · obtain rfl := Option.some.inj same
        exact List.mem_cons_of_mem _ h
    · rcases h with h | later
      · rcases List.mem_cons.1 h with rfl | h
        · exact List.mem_cons_self
        · exact List.mem_cons_of_mem _ (ih (.inl h))
      · exact List.mem_cons_of_mem _ (ih (.inr later))

theorem cut_fst (mark : α) (cs : List α) : (cut mark cs).1 = cs.takeWhile (· ≠ mark) := by
  induction cs with
  | nil => rfl
  | cons c rest ih =>
    by_cases h : c = mark
    · simp [cut, h]
    · simp [cut, h, ih]

theorem cut_append_of_not_mem (h : mark ∉ before) (rest : List α) :
    cut mark (before ++ rest) = (before ++ (cut mark rest).1, (cut mark rest).2) := by
  induction before with
  | nil => rfl
  | cons c before ih =>
    rw [List.mem_cons, not_or] at h
    rw [List.cons_append, cut, if_neg (Ne.symm h.1), ih h.2]
    rfl

theorem pieces_append_of_not_mem (h : mark ∉ before) (rest : List α) :
    pieces mark (before ++ rest) = (before ++ (pieces mark rest).1, (pieces mark rest).2) := by
  induction before with
  | nil => rfl
  | cons c before ih =>
    rw [List.mem_cons, not_or] at h
    rw [List.cons_append, pieces, ih h.2]
    simp only [if_neg (Ne.symm h.1), List.cons_append]

theorem split_of_not_mem {cs : List α} (h : mark ∉ cs) : split mark cs = [cs] := by
  rw [split, ← List.append_nil cs, pieces_append_of_not_mem h]
  simp [pieces]

theorem split_append (mark : α) (before after : List α) :
    split mark (before ++ mark :: after) = split mark before ++ split mark after := by
  induction before with
  | nil => simp [split, pieces]
  | cons c rest ih =>
    simp only [split, List.cons_append, List.cons.injEq] at ih ⊢
    obtain ⟨first, others⟩ := ih
    by_cases h : c = mark
    · simp [pieces, h, first, others]
    · simp [pieces, h, first, others]

theorem split_cons (c : α) (rest : List α) :
    split mark (c :: rest) =
      if c = mark then [] :: split mark rest
      else (c :: (pieces mark rest).1) :: (pieces mark rest).2 := by
  by_cases h : c = mark
  · simp [split, pieces, h]
  · simp [split, pieces, h]

theorem sublist_of_mem_split {cs piece : List α} (h : piece ∈ split mark cs) :
    piece.Sublist cs := by
  induction cs generalizing piece with
  | nil => simp_all [split, pieces]
  | cons c rest ih =>
    rw [split_cons] at h
    split at h
    · rcases List.mem_cons.1 h with rfl | later
      · exact List.nil_sublist _
      · exact (ih later).cons c
    · rcases List.mem_cons.1 h with rfl | later
      · exact (ih List.mem_cons_self).cons_cons c
      · exact (ih (List.mem_cons_of_mem _ later)).cons c

theorem not_mem_of_mem_split {cs piece : List α} (h : piece ∈ split mark cs) : mark ∉ piece := by
  induction cs generalizing piece with
  | nil => simp_all [split, pieces]
  | cons c rest ih =>
    rw [split_cons] at h
    split at h
    · rcases List.mem_cons.1 h with rfl | later
      · exact List.not_mem_nil
      · exact ih later
    · next other =>
      rcases List.mem_cons.1 h with rfl | later
      · rw [List.mem_cons, not_or]
        exact ⟨Ne.symm other, ih List.mem_cons_self⟩
      · exact ih (List.mem_cons_of_mem _ later)

/-! ### The bytes of a text -/

theorem mark_not_mem (mark : Char) {c : Char} (ascii : mark.toNat < 0x80) (other : c ≠ mark) :
    UInt8.ofNat mark.toNat ∉ String.utf8EncodeChar c := fun h =>
  other (Char.toNat_inj.1 (eq_of_mem_utf8EncodeChar ascii h))

theorem utf8EncodeChar_ascii {c : Char} (ascii : c.toNat < 0x80) :
    String.utf8EncodeChar c = [UInt8.ofNat c.toNat] := by
  rcases utf8EncodeChar_cases c with ⟨-, bytes⟩ | ⟨above, -⟩
  · exact bytes
  · omega

theorem pieces_flatMap (mark : Char) (ascii : mark.toNat < 0x80) (cs : List Char) :
    pieces (UInt8.ofNat mark.toNat) (cs.flatMap String.utf8EncodeChar) =
      ((pieces mark cs).1.flatMap String.utf8EncodeChar,
        (pieces mark cs).2.map (List.flatMap String.utf8EncodeChar)) := by
  induction cs with
  | nil => rfl
  | cons c rest ih =>
    rw [List.flatMap_cons]
    by_cases h : c = mark
    · subst h
      rw [utf8EncodeChar_ascii ascii, List.singleton_append, pieces, ih]
      simp [pieces]
    · rw [pieces_append_of_not_mem (mark_not_mem mark ascii h), ih]
      simp [pieces, h]

theorem split_flatMap (mark : Char) (ascii : mark.toNat < 0x80) (cs : List Char) :
    split (UInt8.ofNat mark.toNat) (cs.flatMap String.utf8EncodeChar) =
      (split mark cs).map (List.flatMap String.utf8EncodeChar) := by
  rw [split, pieces_flatMap mark ascii]
  rfl

theorem cut_flatMap (mark : Char) (ascii : mark.toNat < 0x80) (cs : List Char) :
    cut (UInt8.ofNat mark.toNat) (cs.flatMap String.utf8EncodeChar) =
      ((cut mark cs).1.flatMap String.utf8EncodeChar,
        (cut mark cs).2.map (List.flatMap String.utf8EncodeChar)) := by
  induction cs with
  | nil => rfl
  | cons c rest ih =>
    rw [List.flatMap_cons]
    by_cases h : c = mark
    · subst h
      rw [utf8EncodeChar_ascii ascii, List.singleton_append, cut, if_pos rfl]
      simp [cut]
    · rw [cut_append_of_not_mem (mark_not_mem mark ascii h), ih]
      simp [cut, h]

end Text

namespace Link

/-! ## Pairs -/

/-- The pair that a piece between ampersands stands for. -/
def pairOf (piece : List Char) : Pair :=
  (decodeText ((Text.cut '=' piece).1.flatMap String.utf8EncodeChar),
    decodeText (((Text.cut '=' piece).2.getD []).flatMap String.utf8EncodeChar))

theorem decodePair_flatMap (piece : List Char) :
    decodePair (piece.flatMap String.utf8EncodeChar) = pairOf piece := by
  have parts := Text.cut_flatMap '=' (by decide) piece
  rw [decodePair, show (0x3D : UInt8) = UInt8.ofNat '='.toNat from rfl, parts, pairOf]
  cases (Text.cut '=' piece).2 <;> rfl

theorem decode_flatMap (cs : List Char) :
    decode (cs.flatMap String.utf8EncodeChar) =
      ((Text.split '&' cs).filter (· ≠ [])).map pairOf := by
  have empty : ∀ piece : List Char,
      decide (piece.flatMap String.utf8EncodeChar ≠ []) = decide (piece ≠ []) := by
    intro piece
    cases piece with
    | nil => rfl
    | cons c rest => simp
  rw [decode, show (0x26 : UInt8) = UInt8.ofNat '&'.toNat from rfl,
    Text.split_flatMap '&' (by decide), List.filter_map, List.map_map]
  simp only [Function.comp_def, empty, decodePair_flatMap]

/-! ## Plus signs -/

/-- A plus sign stands for a blank. -/
def spaced (c : Char) : Char := if c = '+' then ' ' else c

theorem plusToSpace_of_not_mem {bytes : List UInt8} (h : 0x2B ∉ bytes) :
    plusToSpace bytes = bytes := by
  refine (List.map_congr_left fun b hb => if_neg ?_).trans (List.map_id _)
  rintro rfl
  exact h hb

theorem plusToSpace_flatMap (cs : List Char) :
    plusToSpace (cs.flatMap String.utf8EncodeChar) =
      (cs.map spaced).flatMap String.utf8EncodeChar := by
  induction cs with
  | nil => rfl
  | cons c rest ih =>
    have first : plusToSpace (String.utf8EncodeChar c) = String.utf8EncodeChar (spaced c) := by
      by_cases h : c = '+'
      · subst h
        decide
      · rw [spaced, if_neg h]
        exact plusToSpace_of_not_mem (Text.mark_not_mem '+' (by decide) h)
    rw [plusToSpace] at ih first ⊢
    rw [List.flatMap_cons, List.map_append, ih, first, List.map_cons, List.flatMap_cons]

/-! ## Percent escapes -/

/-- A percent sign with two hexadecimal digits behind it. -/
def opensEscape : List Char → Bool
  | '%' :: high :: low :: _ => (Text.hexValue? high).isSome && (Text.hexValue? low).isSome
  | _ => false

theorem percentDecode_cons {b : UInt8} {rest : List UInt8}
    (literal : b = 0x25 → ∀ high low tail, rest = high :: low :: tail →
      hexByte? high = none ∨ hexByte? low = none) :
    percentDecode (b :: rest) = b :: percentDecode rest := by
  match rest with
  | [] => rfl
  | [_] => rfl
  | high :: low :: tail =>
    rw [percentDecode]
    split
    · next h l foundHigh foundLow =>
      refine if_neg fun percent => ?_
      rcases literal percent high low tail rfl with none | none
      · rw [none] at foundHigh
        cases foundHigh
      · rw [none] at foundLow
        cases foundLow
    · rfl

theorem percentDecode_append {before : List UInt8} (h : 0x25 ∉ before) (rest : List UInt8) :
    percentDecode (before ++ rest) = before ++ percentDecode rest := by
  induction before with
  | nil => rfl
  | cons b before ih =>
    rw [List.mem_cons, not_or] at h
    rw [List.cons_append, percentDecode_cons fun percent => (h.1 percent.symm).elim, ih h.2]
    rfl

theorem hexByte?_of_char {c : Char} {first : UInt8} {tails : List UInt8}
    (bytes : String.utf8EncodeChar c = first :: tails) : hexByte? first = Text.hexValue? c := by
  rcases Text.utf8EncodeChar_cases c with ⟨small, alone⟩ | ⟨above, first', tails', more, high, -⟩
  · rw [bytes, List.cons.injEq] at alone
    rw [hexByte?, alone.1, Text.toNat_ofNat_of_lt (by omega), Char.ofNat_toNat]
  · rw [bytes, List.cons.injEq] at more
    obtain ⟨rfl, rfl⟩ := more
    have small := first.toNat_lt
    simp only [hexByte?, Text.hexValue?, Text.toNat_charOfNat]
    rw [if_neg (by omega), if_neg (by omega), if_neg (by omega), if_neg (by omega),
      if_neg (by omega), if_neg (by omega)]

theorem ascii_of_hexValue? {c : Char} (digit : (Text.hexValue? c).isSome) : c.toNat < 0x80 := by
  simp only [Text.hexValue?] at digit
  split at digit
  · omega
  · split at digit
    · omega
    · split at digit
      · omega
      · cases digit

theorem flatMap_eq_cons {cs : List Char} {b : UInt8} {bytes : List UInt8}
    (h : cs.flatMap String.utf8EncodeChar = b :: bytes) :
    ∃ c rest tails, cs = c :: rest ∧ String.utf8EncodeChar c = b :: tails ∧
      bytes = tails ++ rest.flatMap String.utf8EncodeChar := by
  cases cs with
  | nil => cases h
  | cons c rest =>
    rw [List.flatMap_cons] at h
    cases encoded : String.utf8EncodeChar c with
    | nil => simp at encoded
    | cons first tails =>
      rw [encoded, List.cons_append, List.cons.injEq] at h
      exact ⟨c, rest, tails, rfl, by rw [encoded, h.1], h.2.symm⟩

theorem percentDecode_char {c : Char} {rest : List Char} (h : opensEscape (c :: rest) = false) :
    percentDecode ((c :: rest).flatMap String.utf8EncodeChar) =
      String.utf8EncodeChar c ++ percentDecode (rest.flatMap String.utf8EncodeChar) := by
  rw [List.flatMap_cons]
  by_cases percent : c = '%'
  · subst percent
    refine percentDecode_cons fun _ high low tail same => ?_
    obtain ⟨c₁, rest, tails, rfl, bytes₁, same⟩ := flatMap_eq_cons same
    rw [hexByte?_of_char bytes₁]
    by_cases digit : (Text.hexValue? c₁).isSome
    · -- a digit is a lone byte, so the next byte begins the next character
      have alone := Text.utf8EncodeChar_ascii (ascii_of_hexValue? digit)
      rw [bytes₁, List.cons.injEq] at alone
      obtain ⟨-, rfl⟩ := alone
      obtain ⟨c₂, rest, tails, rfl, bytes₂, -⟩ := flatMap_eq_cons same.symm
      rw [hexByte?_of_char bytes₂]
      right
      simpa [opensEscape, digit] using h
    · left
      simpa using digit
  · exact percentDecode_append (Text.mark_not_mem '%' (by decide) percent) _

theorem percentDecode_escape {cs : List Char} (h : opensEscape cs = true) :
    3 ≤ cs.length ∧ ∃ b, percentDecode (cs.flatMap String.utf8EncodeChar) =
      b :: percentDecode ((cs.drop 3).flatMap String.utf8EncodeChar) := by
  unfold opensEscape at h
  split at h
  · next high low rest =>
    rw [Bool.and_eq_true] at h
    have alone : ∀ c, (Text.hexValue? c).isSome →
        String.utf8EncodeChar c = [UInt8.ofNat c.toNat] := fun c digit =>
      Text.utf8EncodeChar_ascii (ascii_of_hexValue? digit)
    obtain ⟨upper, valueHigh⟩ := Option.isSome_iff_exists.1 h.1
    obtain ⟨lower, valueLow⟩ := Option.isSome_iff_exists.1 h.2
    have percent : String.utf8EncodeChar '%' = [0x25] := rfl
    refine ⟨by simp, UInt8.ofNat (upper * 16 + lower), ?_⟩
    simp only [List.flatMap_cons, percent, alone high h.1, alone low h.2, List.singleton_append]
    rw [percentDecode, hexByte?_of_char (alone high h.1), hexByte?_of_char (alone low h.2),
      valueHigh, valueLow]
    rfl
  · cases h

/-- No percent sign of the text opens an escape. -/
def Unescaped (cs : List Char) : Prop := ∀ rest ∈ cs.tails, opensEscape rest = false

instance (cs : List Char) : Decidable (Unescaped cs) :=
  inferInstanceAs (Decidable (∀ rest ∈ cs.tails, opensEscape rest = false))

theorem unescaped_cons {c : Char} {rest : List Char} :
    Unescaped (c :: rest) ↔ opensEscape (c :: rest) = false ∧ Unescaped rest := by
  rw [Unescaped, List.tails, List.forall_mem_cons]
  rfl

theorem percentDecode_flatMap {cs : List Char} (unescaped : Unescaped cs) :
    percentDecode (cs.flatMap String.utf8EncodeChar) = cs.flatMap String.utf8EncodeChar := by
  induction cs with
  | nil => rfl
  | cons c rest ih =>
    obtain ⟨first, others⟩ := unescaped_cons.1 unescaped
    rw [percentDecode_char first, ih others, List.flatMap_cons]

/-! ## Lengths -/

/-- The characters that a reader of UTF-8 finds in the escaped text, from some state on. -/
def decodeFrom (state : Text.Utf8State) (cs : List Char) : List Char :=
  Text.readUtf8 state (percentDecode (cs.flatMap String.utf8EncodeChar))

variable {state : Text.Utf8State} {cs : List Char}

theorem decodeFrom_char (sound : state.Sound) {c : Char} {rest : List Char}
    (h : opensEscape (c :: rest) = false) :
    decodeFrom state (c :: rest) = state.unfinished ++ c :: decodeFrom .idle rest := by
  rw [decodeFrom, percentDecode_char h, Text.readUtf8_char sound]
  rfl

theorem decodeFrom_escape (state : Text.Utf8State) (h : opensEscape cs = true) :
    3 ≤ cs.length ∧ ∃ b, decodeFrom state cs =
      (state.step b).1 ++ decodeFrom (state.step b).2 (cs.drop 3) := by
  obtain ⟨long, b, decoded⟩ := percentDecode_escape h
  exact ⟨long, b, by rw [decodeFrom, decoded, Text.readUtf8_cons]; rfl⟩

theorem length_decodeFrom_le : ∀ (state : Text.Utf8State) (_ : state.Sound) (cs : List Char),
    (decodeFrom state cs).length ≤ state.unfinished.length + cs.length
  | state, _, [] => by cases state <;> exact Nat.le_refl _
  | state, sound, c :: rest => by
    by_cases escape : opensEscape (c :: rest) = true
    · -- the three characters of an escape make no more than one
      obtain ⟨long, b, decoded⟩ := decodeFrom_escape state escape
      have step := state.length_step_le b
      have later := length_decodeFrom_le _ (sound.step b) ((c :: rest).drop 3)
      rw [decoded, List.length_append]
      rw [List.length_drop] at later
      omega
    · have later := length_decodeFrom_le .idle trivial rest
      rw [decodeFrom_char sound (by simpa using escape), List.length_append, List.length_cons,
        List.length_cons]
      simp only [Text.Utf8State.unfinished, List.length_nil] at later
      omega
termination_by _ _ cs => cs.length
decreasing_by
  · rw [List.length_drop]
    omega
  · simp

theorem length_decodeFrom_lt (state : Text.Utf8State) (sound : state.Sound)
    (escaped : ¬ Unescaped cs) :
    (decodeFrom state cs).length < state.unfinished.length + cs.length := by
  induction cs generalizing state with
  | nil => exact (escaped (by decide)).elim
  | cons c rest ih =>
    by_cases escape : opensEscape (c :: rest) = true
    · obtain ⟨long, b, decoded⟩ := decodeFrom_escape state escape
      have step := state.length_step_le b
      have later := length_decodeFrom_le _ (sound.step b) ((c :: rest).drop 3)
      rw [decoded, List.length_append]
      rw [List.length_drop] at later
      omega
    · have literal : opensEscape (c :: rest) = false := by simpa using escape
      have later := ih .idle trivial fun others =>
        escaped (unescaped_cons.2 ⟨literal, others⟩)
      rw [decodeFrom_char sound literal, List.length_append, List.length_cons, List.length_cons]
      simp only [Text.Utf8State.unfinished, List.length_nil] at later
      omega

/-! ## Texts -/

theorem toList_decodeText (cs : List Char) :
    (decodeText (cs.flatMap String.utf8EncodeChar)).toList = decodeFrom .idle (cs.map spaced) := by
  rw [decodeText, plusToSpace_flatMap, Text.ofUtf8Lossy, String.toList_ofList]
  rfl

theorem length_decodeText_le (cs : List Char) :
    (decodeText (cs.flatMap String.utf8EncodeChar)).toList.length ≤ cs.length := by
  have shorter := length_decodeFrom_le .idle trivial (cs.map spaced)
  rw [toList_decodeText]
  simpa [Text.Utf8State.unfinished] using shorter

theorem map_spaced (h : '+' ∉ cs) : cs.map spaced = cs := by
  refine (List.map_congr_left fun c hc => if_neg ?_).trans (List.map_id _)
  rintro rfl
  exact h hc

/-- **A text reads as it is written just if it has no plus sign and no escape.** -/
theorem decodeText_eq_iff :
    decodeText (cs.flatMap String.utf8EncodeChar) = String.ofList cs ↔
      '+' ∉ cs ∧ Unescaped cs := by
  rw [← String.toList_inj, toList_decodeText, String.toList_ofList]
  constructor
  · intro same
    by_cases unescaped : Unescaped (cs.map spaced)
    · rw [decodeFrom, percentDecode_flatMap unescaped, Text.readUtf8_flatMap] at same
      have noPlus : '+' ∉ cs := by
        intro plus
        rw [← same] at plus
        obtain ⟨c, -, made⟩ := List.mem_map.1 plus
        unfold spaced at made
        split at made
        · cases made
        · next other => exact other made
      exact ⟨noPlus, same ▸ unescaped⟩
    · have shorter := length_decodeFrom_lt .idle trivial unescaped
      simp [same, Text.Utf8State.unfinished] at shorter
  · rintro ⟨noPlus, unescaped⟩
    rw [map_spaced noPlus, decodeFrom, percentDecode_flatMap unescaped, Text.readUtf8_flatMap]

end Link

end Gatehouse
