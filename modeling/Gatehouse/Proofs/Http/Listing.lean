import Mathlib.Data.Set.List
import Gatehouse.Http.Cookie
import Gatehouse.Proofs.Link.Query
import Gatehouse.Proofs.Text.Trim

/-!
# Cookies in headers

A `Cookie` header lists cookies between semicolons, with blanks around them, among pieces that are
no cookies. Headers with bytes that no text has list nothing. Every list of headers is of this form
(`Cookie.exists_headers`), and the session that is found is that of the first cookie listed under
the name with a value (`Cookie.session?_of_headers`).
-/

namespace Gatehouse

/-! ## Readable characters -/

namespace HeaderValue

/-- The character may stand in a header value that is read as text. -/
def isReadableChar (c : Char) : Bool := (0x20 ≤ c.toNat && c.toNat ≤ 0x7E) || c = '\t'

theorem ascii_of_readable {c : Char} (readable : isReadableChar c = true) : c.toNat < 0x80 := by
  simp only [isReadableChar, Bool.or_eq_true, Bool.and_eq_true, decide_eq_true_eq] at readable
  rcases readable with ⟨-, high⟩ | rfl
  · omega
  · decide

theorem isReadableByte_eq (b : UInt8) : isReadableByte b = isReadableChar (Char.ofNat b.toNat) := by
  have tab : b = 0x09 ↔ Char.ofNat b.toNat = '\t' := by
    rw [← UInt8.toNat_inj, ← Char.toNat_inj, Text.toNat_charOfNat]
    rfl
  rw [isReadableByte, isReadableChar, Text.toNat_charOfNat, decide_eq_decide.2 tab]
  rfl

theorem toText?_flatMap {cs : List Char} (readable : ∀ c ∈ cs, isReadableChar c = true) :
    toText? (cs.flatMap String.utf8EncodeChar) = some cs := by
  have one : ∀ c ∈ cs, String.utf8EncodeChar c = [UInt8.ofNat c.toNat] := fun c h =>
    Text.utf8EncodeChar_ascii (ascii_of_readable (readable c h))
  have back : ∀ c ∈ cs, Char.ofNat (UInt8.ofNat c.toNat).toNat = c := by
    intro c h
    have small := ascii_of_readable (readable c h)
    rw [Text.toNat_ofNat_of_lt (by omega), Char.ofNat_toNat]
  rw [List.flatMap_congr one, ← List.map_eq_flatMap, toText?, if_pos]
  · rw [List.map_map]
    exact congrArg some ((List.map_congr_left back).trans (List.map_id _))
  · rw [List.all_eq_true, List.forall_mem_map]
    intro c h
    rw [isReadableByte_eq, back c h]
    exact readable c h

end HeaderValue

namespace Cookie

/-! ## What is written -/

/-- A name that a reader of cookies can come upon. -/
def Readable (name : List Char) : Prop :=
  (∀ c ∈ name, HeaderValue.isReadableChar c = true ∧ c ≠ ';' ∧ c ≠ '=') ∧
    ∀ c ∈ name.head?, Text.isBlank c = false

instance (name : List Char) : Decidable (Readable name) :=
  decidable_of_iff
    ((name.all fun c => HeaderValue.isReadableChar c && c ≠ ';' && c ≠ '=') ∧
      name.head?.all fun c => !Text.isBlank c)
    (by cases name <;> simp [Readable, and_assoc])

/-- A cookie that a header can list. -/
structure Listed where
  name : List Char
  value : List Char
  readable : Readable name
  plain : ∀ c ∈ value, HeaderValue.isReadableChar c = true ∧ c ≠ ';'
  trimmed : ∀ c ∈ value.getLast?, Text.isBlank c = false

/-- What stands between two semicolons: a cookie with blanks around it, or a text that is none. -/
inductive Piece where
  | cookie (before : List Char) (listed : Listed) (after : List Char)
      (blank : ∀ c ∈ before ++ after, c = ' ' ∨ c = '\t')
  | bare (text : List Char)
      (plain : ∀ c ∈ text, HeaderValue.isReadableChar c = true ∧ c ≠ ';' ∧ c ≠ '=')

/-- A header: a row of pieces, or bytes that are no text. -/
inductive Header where
  | pieces (first : Piece) (others : List Piece)
  | unreadable (bytes : List UInt8) (odd : ∃ b ∈ bytes, b ≠ 0x09 ∧ (b < 0x20 ∨ 0x7E < b))

namespace Listed

def text (listed : Listed) : List Char := listed.name ++ '=' :: listed.value

variable (listed : Listed)

theorem text_ne_nil : listed.text ≠ [] := by simp [text]

theorem plain_text : ∀ c ∈ listed.text, HeaderValue.isReadableChar c = true ∧ c ≠ ';' := by
  rw [text, List.forall_mem_append, List.forall_mem_cons]
  exact ⟨fun c h => ⟨(listed.readable.1 c h).1, (listed.readable.1 c h).2.1⟩, by decide,
    listed.plain⟩

theorem cut_text : Text.cut '=' listed.text = (listed.name, some listed.value) :=
  Text.cut_append (fun h => (listed.readable.1 _ h).2.2 rfl) _

theorem not_blank_of_head : ∀ c ∈ listed.text.head?, Text.isBlank c = false := by
  intro c first
  rw [text, List.head?_append] at first
  cases name : listed.name with
  | nil =>
    rw [name] at first
    obtain rfl : '=' = c := Option.some.inj first
    decide
  | cons c' rest =>
    rw [name] at first
    exact listed.readable.2 c (by rw [name]; exact first)

theorem not_blank_of_last : ∀ c ∈ listed.text.getLast?, Text.isBlank c = false := by
  intro c last
  rw [text, List.getLast?_append, List.getLast?_cons] at last
  cases value : listed.value.getLast? with
  | none =>
    rw [value] at last
    obtain rfl : '=' = c := Option.some.inj last
    decide
  | some c' =>
    rw [value] at last
    obtain rfl : c' = c := Option.some.inj last
    exact listed.trimmed c' value

end Listed

namespace Piece

def text : Piece → List Char
  | .cookie before listed after _ => before ++ listed.text ++ after
  | .bare text _ => text

def cookie? : Piece → Option Listed
  | .cookie _ listed _ _ => some listed
  | .bare _ _ => none

theorem plain_text (piece : Piece) :
    ∀ c ∈ piece.text, HeaderValue.isReadableChar c = true ∧ c ≠ ';' := by
  cases piece with
  | cookie before listed after blank =>
    have plain : ∀ c, c = ' ' ∨ c = '\t' → HeaderValue.isReadableChar c = true ∧ c ≠ ';' := by
      rintro c (rfl | rfl)
      · decide
      · decide
    rw [List.forall_mem_append] at blank
    simp only [text, List.forall_mem_append]
    exact ⟨⟨fun c h => plain c (blank.1 c h), listed.plain_text⟩, fun c h => plain c (blank.2 c h)⟩
  | bare text plain => exact fun c h => ⟨(plain c h).1, (plain c h).2.1⟩

theorem cut_text (piece : Piece) :
    (match Text.cut '=' (Text.trimChars piece.text) with
      | (_, none) => none
      | (name, some value) => some (name, value)) =
    piece.cookie?.map fun listed => (listed.name, listed.value) := by
  cases piece with
  | cookie before listed after blank =>
    have isBlank : ∀ c, c = ' ' ∨ c = '\t' → Text.isBlank c = true := by
      rintro c (rfl | rfl)
      · decide
      · decide
    rw [List.forall_mem_append] at blank
    rw [text, Text.trimChars_append listed.text_ne_nil listed.not_blank_of_head
      listed.not_blank_of_last (fun c h => isBlank c (blank.1 c h))
      (fun c h => isBlank c (blank.2 c h)), listed.cut_text]
    rfl
  | bare text plain =>
    have noSign : '=' ∉ Text.trimChars text := fun h =>
      (plain _ ((Text.trimChars_sublist text).subset h)).2.2 rfl
    rw [Piece.text, Text.cut_of_not_mem noSign]
    rfl

end Piece

namespace Header

/-- The text of a row of pieces. -/
def textOf (first : Piece) (others : List Piece) : List Char :=
  [';'].intercalate ((first :: others).map Piece.text)

def bytes : Header → List UInt8
  | .pieces first others => (textOf first others).flatMap String.utf8EncodeChar
  | .unreadable bytes _ => bytes

def cookies : Header → List Listed
  | .pieces first others => (first :: others).filterMap Piece.cookie?
  | .unreadable _ _ => []

/-! ## What is read -/

theorem split_textOf (first : Piece) (others : List Piece) :
    Text.split ';' (textOf first others) = (first :: others).map Piece.text := by
  rw [Text.split_eq_splitOn, textOf, List.splitOn_intercalate]
  · rw [List.forall_mem_map]
    exact fun piece _ h => (piece.plain_text _ h).2 rfl
  · simp

theorem textOf_cons (first next : Piece) (others : List Piece) :
    textOf first (next :: others) = first.text ++ ';' :: textOf next others := by
  simp [textOf, List.intercalate_cons_cons]

theorem readable_textOf (first : Piece) (others : List Piece) :
    ∀ c ∈ textOf first others, HeaderValue.isReadableChar c = true := by
  have readable (piece : Piece) : ∀ c ∈ piece.text, HeaderValue.isReadableChar c = true :=
    fun c h => (piece.plain_text c h).1
  induction others generalizing first with
  | nil => simpa [textOf] using readable first
  | cons next others ih =>
    rw [textOf_cons, List.forall_mem_append, List.forall_mem_cons]
    exact ⟨readable first, by decide, ih next⟩

theorem readHeader_textOf (first : Piece) (others : List Piece) :
    readHeader (textOf first others) =
      ((first :: others).filterMap Piece.cookie?).map fun listed => (listed.name, listed.value) := by
  rw [readHeader, split_textOf, List.filterMap_map, List.map_filterMap]
  exact List.filterMap_congr fun piece _ => piece.cut_text

theorem toText?_pieces (first : Piece) (others : List Piece) :
    HeaderValue.toText? (bytes (.pieces first others)) = some (textOf first others) :=
  HeaderValue.toText?_flatMap (readable_textOf first others)

theorem isReadableByte_eq_false {b : UInt8} :
    HeaderValue.isReadableByte b = false ↔ b ≠ 0x09 ∧ (b < 0x20 ∨ 0x7E < b) := by
  simp only [HeaderValue.isReadableByte, Bool.or_eq_false_iff, Bool.and_eq_false_iff,
    decide_eq_false_iff_not, UInt8.not_le]
  exact and_comm

theorem toText?_unreadable {bytes : List UInt8}
    (odd : ∃ b ∈ bytes, b ≠ 0x09 ∧ (b < 0x20 ∨ 0x7E < b)) : HeaderValue.toText? bytes = none := by
  obtain ⟨b, member, odd⟩ := odd
  refine if_neg fun readable => ?_
  have unread := isReadableByte_eq_false.2 odd
  rw [List.all_eq_true.1 readable b member] at unread
  cases unread

theorem readAll_bytes (headers : List Header) :
    readAll (headers.map bytes) =
      (headers.flatMap cookies).map fun listed => (listed.name, listed.value) := by
  rw [readAll, List.filterMap_map, List.filterMap_eq_flatMap_toList, List.flatMap_assoc,
    List.map_flatMap]
  refine List.flatMap_congr fun header _ => ?_
  cases header with
  | pieces first others =>
    rw [Function.comp_apply, toText?_pieces, Option.toList_some, List.flatMap_singleton]
    exact readHeader_textOf first others
  | unreadable bytes odd =>
    rw [Function.comp_apply, Header.bytes, toText?_unreadable odd]
    rfl

end Header

/-! ## What can be written -/

theorem eq_of_blank {c : Char} (blank : Text.isBlank c = true)
    (readable : HeaderValue.isReadableChar c = true) : c = ' ' ∨ c = '\t' := by
  have ascii := HeaderValue.ascii_of_readable readable
  simp only [HeaderValue.isReadableChar, Text.isBlank, Bool.or_eq_true, Bool.and_eq_true,
    decide_eq_true_eq, beq_iff_eq] at readable blank
  rcases readable with ⟨low, -⟩ | tab
  · have space : c.toNat = ' '.toNat := by
      show c.toNat = 0x20
      omega
    exact .inl (Char.toNat_inj.1 space)
  · exact .inr tab

theorem exists_listed {text : List Char}
    (plain : ∀ c ∈ text, HeaderValue.isReadableChar c = true ∧ c ≠ ';') (sign : '=' ∈ text)
    (first : ∀ c ∈ text.head?, Text.isBlank c = false)
    (last : ∀ c ∈ text.getLast?, Text.isBlank c = false) :
    ∃ listed : Listed, listed.text = text := by
  obtain ⟨name, value, rfl, noSign⟩ := List.eq_append_cons_of_mem sign
  rw [List.forall_mem_append, List.forall_mem_cons] at plain
  have readable : Readable name := by
    refine ⟨fun c h => ⟨(plain.1 c h).1, (plain.1 c h).2, fun same => noSign (same ▸ h)⟩,
      fun c h => first c ?_⟩
    rw [List.head?_append, Option.mem_def.1 h]
    rfl
  have trimmed : ∀ c ∈ value.getLast?, Text.isBlank c = false := by
    refine fun c h => last c ?_
    rw [List.getLast?_append, List.getLast?_cons, Option.mem_def.1 h]
    rfl
  exact ⟨⟨name, value, readable, plain.2.2, trimmed⟩, rfl⟩

theorem exists_piece {text : List Char}
    (plain : ∀ c ∈ text, HeaderValue.isReadableChar c = true ∧ c ≠ ';') :
    ∃ piece : Piece, piece.text = text := by
  by_cases sign : '=' ∈ text
  · obtain ⟨before, after, whole, blankBefore, blankAfter⟩ := Text.exists_trimChars text
    -- the sign is no blank, so it stays when the blanks around the cookie go
    have kept : '=' ∈ Text.trimChars text := by
      rw [whole, List.mem_append, List.mem_append] at sign
      rcases sign with (inBefore | kept) | inAfter
      · exact absurd (blankBefore _ inBefore) (by decide)
      · exact kept
      · exact absurd (blankAfter _ inAfter) (by decide)
    obtain ⟨listed, inner⟩ := exists_listed
      (fun c h => plain c ((Text.trimChars_sublist text).subset h)) kept
      (Text.not_blank_of_head_trimChars text) (Text.not_blank_of_last_trimChars text)
    rw [← inner] at whole
    have blank : ∀ c ∈ before ++ after, c = ' ' ∨ c = '\t' := by
      rw [whole, List.forall_mem_append, List.forall_mem_append] at plain
      rw [List.forall_mem_append]
      exact ⟨fun c h => eq_of_blank (blankBefore c h) (plain.1.1 c h).1,
        fun c h => eq_of_blank (blankAfter c h) (plain.2 c h).1⟩
    exact ⟨.cookie before listed after blank, whole.symm⟩
  · exact ⟨.bare text fun c h => ⟨(plain c h).1, (plain c h).2, fun same => sign (same ▸ h)⟩, rfl⟩

theorem exists_pieces {text : List Char}
    (readable : ∀ c ∈ text, HeaderValue.isReadableChar c = true) :
    ∃ first others, Header.textOf first others = text := by
  have parts : ∀ part ∈ text.splitOn ';', part ∈ Set.range Piece.text := by
    intro part h
    rw [← Text.split_eq_splitOn] at h
    exact exists_piece fun c inPart => ⟨readable c ((Text.sublist_of_mem_split h).subset inPart),
      fun same => Text.not_mem_of_mem_split h (same ▸ inPart)⟩
  obtain ⟨pieces, whole⟩ : text.splitOn ';' ∈ Set.range (List.map Piece.text) := by
    rw [Set.range_list_map]
    exact parts
  cases pieces with
  | nil => exact absurd whole.symm (List.splitOn_ne_nil _ _)
  | cons first others =>
    refine ⟨first, others, ?_⟩
    rw [Header.textOf, whole, List.intercalate_splitOn]

theorem exists_header (bytes : List UInt8) : ∃ header : Header, header.bytes = bytes := by
  by_cases readable : ∀ b ∈ bytes, HeaderValue.isReadableByte b = true
  · have chars : ∀ c ∈ bytes.map fun b => Char.ofNat b.toNat,
        HeaderValue.isReadableChar c = true := by
      rw [List.forall_mem_map]
      intro b h
      rw [← HeaderValue.isReadableByte_eq]
      exact readable b h
    have encoded : ∀ b ∈ bytes, String.utf8EncodeChar (Char.ofNat b.toNat) = [b] := by
      intro b h
      have ascii := HeaderValue.ascii_of_readable (chars _ (List.mem_map_of_mem h))
      rw [Text.utf8EncodeChar_ascii ascii, Text.toNat_charOfNat, UInt8.ofNat_toNat]
    obtain ⟨first, others, whole⟩ := exists_pieces chars
    refine ⟨.pieces first others, ?_⟩
    rw [Header.bytes, whole, List.flatMap_map, List.flatMap_congr encoded, List.flatMap_singleton']
  · obtain ⟨b, member, unread⟩ : ∃ b ∈ bytes, HeaderValue.isReadableByte b = false := by
      simpa using readable
    exact ⟨.unreadable bytes ⟨b, member, Header.isReadableByte_eq_false.1 unread⟩, rfl⟩

/-- Whatever is sent in headers is written so. -/
theorem exists_headers (sent : List (List UInt8)) :
    ∃ headers : List Header, headers.map Header.bytes = sent := by
  have made : sent ∈ Set.range (List.map Header.bytes) := by
    rw [Set.range_list_map]
    exact fun bytes _ => exists_header bytes
  exact made

/-- **The session is that of the first cookie listed under a name with a value.** Whatever headers
are sent, they list some cookies. -/
theorem session?_of_headers (headers : List Header) (name : String) :
    session? (headers.map Header.bytes) name =
        ((headers.flatMap Header.cookies).find? fun listed =>
          listed.name = name.toList ∧ listed.value ≠ []).map
          (fun listed => ⟨String.ofList listed.value⟩) ∧
      ∀ sent : List (List UInt8), ∃ headers : List Header, headers.map Header.bytes = sent := by
  constructor
  · rw [session?, Header.readAll_bytes, List.find?_map, Option.map_map]
    rfl
  · exact exists_headers

example : session? [Text.utf8 "a=1; SID=;bare", [0xFF], Text.utf8 " SID=x=y ; SID=z"] "SID" =
    some ⟨"x=y"⟩ := by decide

/-- A tab is no printable character, but a header that holds one is read like any other. -/
theorem tab_is_read :
    let header : List UInt8 := 0x09 :: Text.utf8 "SESSIONID=t"
    (∃ b ∈ header, ¬ (0x20 ≤ b ∧ b ≤ 0x7E)) ∧ session? [header] "SESSIONID" = some ⟨"t"⟩ := by
  decide

end Cookie

end Gatehouse
