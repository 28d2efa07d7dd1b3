import Gatehouse.Link.Decoration
import Gatehouse.Nonce.Token
import Gatehouse.Proofs.Link.Decoding

/-!
# The query of a stamped link

A stamp writes a pair behind the query of a link as it is. If name and value are legible, which
plain text is and tokens are, the query reads as before with that pair behind
(`parametersOf_stamp`).
-/

namespace Gatehouse

namespace Link

/-! ## Plain and legible texts -/

/-- Nothing but ASCII letters and digits, hyphens and underscores. -/
def Plain (cs : List Char) : Prop := ∀ c ∈ cs, c.isAlphanum ∨ c = '-' ∨ c = '_'

instance (cs : List Char) : Decidable (Plain cs) :=
  decidable_of_iff (cs.all fun c => c.isAlphanum || c = '-' || c = '_')
    (by simp [Plain, or_assoc])

/-- A text that can stand in a query as it is: it has none of the marks of a link, and nothing
that is decoded. -/
def Legible (cs : List Char) : Prop :=
  (∀ mark ∈ ['#', '&', '=', '+'], mark ∉ cs) ∧ Unescaped cs

instance (cs : List Char) : Decidable (Legible cs) :=
  decidable_of_iff ((['#', '&', '=', '+'].all fun mark => !cs.contains mark) ∧ Unescaped cs)
    (by simp [Legible])

theorem toNat_of_plain {c : Char} (h : c.isAlphanum ∨ c = '-' ∨ c = '_') :
    c.toNat = 0x2D ∨ 0x30 ≤ c.toNat ∧ c.toNat ≤ 0x39 ∨ 0x41 ≤ c.toNat ∧ c.toNat ≤ 0x5A ∨
      c.toNat = 0x5F ∨ 0x61 ≤ c.toNat ∧ c.toNat ≤ 0x7A := by
  rcases h with h | rfl | rfl
  · change (decide ('A'.val ≤ c.val ∧ c.val ≤ 'Z'.val) ||
      (decide ('a'.val ≤ c.val) && decide (c.val ≤ 'z'.val)) ||
      (decide ('0'.val ≤ c.val) && decide (c.val ≤ '9'.val))) = true at h
    simp only [Bool.or_eq_true, Bool.and_eq_true, decide_eq_true_eq, UInt32.le_iff_toNat_le] at h
    change (0x41 ≤ c.toNat ∧ c.toNat ≤ 0x5A ∨ 0x61 ≤ c.toNat ∧ c.toNat ≤ 0x7A) ∨
      0x30 ≤ c.toNat ∧ c.toNat ≤ 0x39 at h
    omega
  · decide
  · decide

theorem not_mem_of_plain {cs : List Char} (plain : Plain cs) {mark : Char}
    (special : mark ∈ ['#', '%', '&', '+', ';', '=', '?']) : mark ∉ cs := by
  intro h
  have bounds := toNat_of_plain (plain mark h)
  have value : mark.toNat < 0x2D ∨ mark.toNat = 0x3B ∨ mark.toNat = 0x3D ∨ mark.toNat = 0x3F := by
    simp only [List.mem_cons, List.not_mem_nil, or_false] at special
    rcases special with rfl | rfl | rfl | rfl | rfl | rfl | rfl <;> decide
  omega

theorem unescaped_of_not_mem {cs : List Char} (h : '%' ∉ cs) : Unescaped cs := by
  intro rest suffix
  have among : ∀ c ∈ rest, c ∈ cs := fun c hc => ((List.mem_tails _ _).1 suffix).subset hc
  unfold opensEscape
  split
  · exact (h (among '%' List.mem_cons_self)).elim
  · rfl

theorem legible_of_plain {cs : List Char} (plain : Plain cs) : Legible cs := by
  have among : ['#', '&', '=', '+'] ⊆ ['#', '%', '&', '+', ';', '=', '?'] := by decide
  exact ⟨fun mark special => not_mem_of_plain plain (among special),
    unescaped_of_not_mem (not_mem_of_plain plain (by decide))⟩

theorem decodeText_of_legible {cs : List Char} (legible : Legible cs) :
    decodeText (cs.flatMap String.utf8EncodeChar) = String.ofList cs :=
  decodeText_eq_iff.2 ⟨legible.1 '+' (by decide), legible.2⟩

/-- The characters of a pair as it is written. -/
def written (name value : String) : List Char := name.toList ++ '=' :: value.toList

variable {name value : String}

theorem not_mem_written {mark : Char} (other : mark ≠ '=') (inName : mark ∉ name.toList)
    (inValue : mark ∉ value.toList) : mark ∉ written name value := by
  simp [written, other, inName, inValue]

theorem decode_written (legibleName : Legible name.toList) (legibleValue : Legible value.toList) :
    decode ((written name value).flatMap String.utf8EncodeChar) = [(name, value)] := by
  have whole : '&' ∉ written name value :=
    not_mem_written (by decide) (legibleName.1 _ (by decide)) (legibleValue.1 _ (by decide))
  have kept : [written name value].filter (· ≠ []) = [written name value] := by simp [written]
  rw [decode_flatMap, Text.split_of_not_mem whole, kept, List.map_singleton, pairOf, written,
    Text.cut_append (legibleName.1 '=' (by decide))]
  simp only [Option.getD_some, decodeText_of_legible legibleName,
    decodeText_of_legible legibleValue, String.ofList_toList]

theorem decode_append (before after : List UInt8) :
    decode (before ++ 0x26 :: after) = decode before ++ decode after := by
  rw [decode, Text.split_append, List.filter_append, List.map_append]
  rfl

/-! ## Tokens -/

theorem plain_hexDigit {n : Nat} (h : n < 16) :
    (Text.hexDigit n).isAlphanum ∨ Text.hexDigit n = '-' ∨ Text.hexDigit n = '_' := by
  left
  revert n
  decide

theorem plain_token (block : Block) : Plain block.token.toList := by
  rw [Block.token, Text.upperHex, String.toList_ofList]
  intro c h
  obtain ⟨b, -, h⟩ := List.mem_flatMap.1 h
  have small := b.toNat_lt
  rcases List.mem_cons.1 h with rfl | h
  · exact plain_hexDigit (by omega)
  · rw [List.mem_singleton.1 h]
    exact plain_hexDigit (by omega)

/-! ## The query of a link -/

theorem mem_ofChars (url : List Char) :
    '?' ∉ (Parts.ofChars url).path ∧ '#' ∉ (Parts.ofChars url).path ∧
      ∀ query, (Parts.ofChars url).query = some query → '#' ∉ query := by
  have rest : '#' ∉ (Text.cut '#' url).1 := Text.not_mem_cut_fst _ _
  refine ⟨Text.not_mem_cut_fst _ _, fun h => rest ?_, fun query same h => rest ?_⟩
  · exact Text.mem_of_mem_cut (.inl h)
  · exact Text.mem_of_mem_cut (.inr ⟨query, same, h⟩)

theorem ofChars_toChars (parts : Parts) {query : List Char} (asked : parts.query = some query)
    (noMark : '?' ∉ parts.path) (noHash : '#' ∉ parts.path) (queryNoHash : '#' ∉ query) :
    Parts.ofChars parts.toChars = parts := by
  obtain ⟨path, _, fragment⟩ := parts
  subst asked
  have front : '#' ∉ path ++ '?' :: query := by
    intro h
    rcases List.mem_append.1 h with h | h
    · exact noHash h
    · rcases List.mem_cons.1 h with h | h
      · exact absurd h (by decide)
      · exact queryNoHash h
  have cutHash : Text.cut '#' (path ++ '?' :: query ++ marked '#' fragment) =
      (path ++ '?' :: query, fragment) := by
    cases fragment with
    | none => rw [marked, List.append_nil, Text.cut_of_not_mem front]
    | some rest => rw [marked, Text.cut_append front]
  show Parts.ofChars (path ++ '?' :: query ++ marked '#' fragment) = _
  rw [Parts.ofChars, cutHash]
  simp only [Text.cut_append noMark]

/-- The query of a link; the empty one if there is none. -/
def queryOf (url : String) : List Char := (Parts.ofChars url.toList).query.getD []

/-- The parameters that a link asks with. -/
def parametersOf (url : String) : List Pair :=
  decode ((queryOf url).flatMap String.utf8EncodeChar)

theorem parametersOf_bare {url : String} (h : '?' ∉ url.toList) : parametersOf url = [] := by
  have noMark : '?' ∉ (Text.cut '#' url.toList).1 := fun mark => h (Text.mem_of_mem_cut (.inl mark))
  have none : (Parts.ofChars url.toList).query = none := by
    rw [Parts.ofChars]
    simp only [Text.cut_of_not_mem noMark]
  rw [parametersOf, queryOf, none]
  rfl

theorem ofChars_stamp (url : String) (noHash : '#' ∉ written name value) :
    Parts.ofChars (stamp url name value).toList = { Parts.ofChars url.toList with
      query := some (extendQuery (Parts.ofChars url.toList).query (written name value)) } := by
  obtain ⟨noMark, noHashBefore, queryNoHash⟩ := mem_ofChars url.toList
  rw [stamp, String.toList_ofList]
  -- no mark stands where it would cut the link in another place
  refine ofChars_toChars _ rfl noMark noHashBefore ?_
  cases asked : (Parts.ofChars url.toList).query with
  | none => exact noHash
  | some query =>
    have old := queryNoHash query asked
    cases query with
    | nil => exact noHash
    | cons c rest =>
      intro h
      rcases List.mem_append.1 h with h | h
      · exact old h
      · rcases List.mem_cons.1 h with h | h
        · exact absurd h (by decide)
        · exact noHash h

theorem parametersOf_stamp (url : String) (legibleName : Legible name.toList)
    (legibleValue : Legible value.toList) :
    parametersOf (stamp url name value) = parametersOf url ++ [(name, value)] := by
  have decoded := decode_written legibleName legibleValue
  have noHash : '#' ∉ written name value :=
    not_mem_written (by decide) (legibleName.1 _ (by decide)) (legibleValue.1 _ (by decide))
  rw [parametersOf, queryOf, ofChars_stamp url noHash, parametersOf, queryOf]
  cases (Parts.ofChars url.toList).query with
  | none => exact decoded
  | some query =>
    cases query with
    | nil => exact decoded
    | cons c rest =>
      show decode ((c :: rest ++ '&' :: written name value).flatMap String.utf8EncodeChar) = _
      rw [List.flatMap_append, List.flatMap_cons]
      exact (decode_append _ _).trans (congrArg _ decoded)

end Link

end Gatehouse
