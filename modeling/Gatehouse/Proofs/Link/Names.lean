import Gatehouse.Proofs.Link.Encoding

/-!
# Names that can be read back

The reader of a query takes the first value under a name. A stamp writes its name as it is, so the
value is found under that name just if the name is legible (`firstUnder_stamp`): a hash sign ends
the query within the name, an ampersand or an equals sign ends the name itself, and a plus sign or
an escape is decoded. In each case all names that the query holds are other ones.
-/

namespace Gatehouse

namespace Link

/-! ## First values -/

/-- The first value that pairs give under a name. -/
def firstUnder (name : String) (pairs : List Pair) : Option String :=
  (pairs.find? fun pair => pair.1 = name).map Prod.snd

theorem firstUnder_append (name value : String) (pairs : List Pair) :
    firstUnder name (pairs ++ [(name, value)]) = some ((firstUnder name pairs).getD value) := by
  rw [firstUnder, firstUnder, List.find?_append]
  cases pairs.find? fun pair => pair.1 = name <;> simp

theorem firstUnder_eq_none {name : String} {pairs : List Pair} :
    firstUnder name pairs = none ↔ ∀ pair ∈ pairs, pair.1 ≠ name := by
  simp [firstUnder]

/-! ## Names in a query -/

/-- The name in a piece of a query, as it is written. -/
def nameIn (piece : List Char) : List Char := (Text.cut '=' piece).1

theorem nameIn_marked (piece : List Char) : nameIn ('=' :: piece) = [] := by
  rw [nameIn, Text.cut, if_pos rfl]

theorem nameIn_cons {c : Char} (other : c ≠ '=') (piece : List Char) :
    nameIn (c :: piece) = c :: nameIn piece := by
  rw [nameIn, Text.cut, if_neg other]
  rfl

theorem nameIn_sublist_self (piece : List Char) : (nameIn piece).Sublist piece := by
  rw [nameIn, Text.cut_fst]
  exact List.takeWhile_sublist _

theorem length_pairOf_le (piece : List Char) :
    (pairOf piece).1.toList.length ≤ (nameIn piece).length :=
  length_decodeText_le _

theorem ne_of_shorter {name : String} {piece : List Char}
    (shorter : (nameIn piece).length < name.toList.length) : (pairOf piece).1 ≠ name := by
  rintro rfl
  exact Nat.not_lt.2 (length_pairOf_le piece) shorter

section

variable {name value piece : List Char}

theorem nameIn_sublist (h : piece ∈ Text.split '&' (name ++ '=' :: value))
    (whole : '&' ∉ value) : (nameIn piece).Sublist name := by
  induction name generalizing piece with
  | nil =>
    have marked : '&' ∉ '=' :: value := by simp [whole]
    rw [List.nil_append, Text.split_of_not_mem marked, List.mem_singleton] at h
    rw [h, nameIn_marked]
  | cons c rest ih =>
    rw [List.cons_append, Text.split_cons] at h
    split at h
    · rcases List.mem_cons.1 h with rfl | later
      · exact List.nil_sublist _
      · exact (ih later).cons c
    · rcases List.mem_cons.1 h with rfl | later
      · by_cases mark : c = '='
        · rw [mark, nameIn_marked]
          exact List.nil_sublist _
        · rw [nameIn_cons mark]
          exact (ih List.mem_cons_self).cons_cons c
      · exact (ih (List.mem_cons_of_mem _ later)).cons c

theorem length_nameIn_lt (h : piece ∈ Text.split '&' (name ++ '=' :: value))
    (whole : '&' ∉ value) (marked : '&' ∈ name ∨ '=' ∈ name) :
    (nameIn piece).length < name.length := by
  have part := nameIn_sublist h whole
  refine Nat.lt_of_le_of_ne part.length_le fun same => ?_
  rw [← part.eq_of_length same] at marked
  rcases marked with ampersand | equals
  · exact Text.not_mem_of_mem_split h ((nameIn_sublist_self piece).subset ampersand)
  · exact Text.not_mem_cut_fst '=' piece equals

end

/-! ## Stamps on a bare URL -/

variable {url name value : String}

theorem queryOf_stamp (noMark : '?' ∉ url.toList) (noHash : '#' ∉ url.toList) :
    queryOf (stamp url name value) = (Text.cut '#' (written name value)).1 := by
  have parts : Parts.ofChars url.toList = ⟨url.toList, none, none⟩ := by
    rw [Parts.ofChars, Text.cut_of_not_mem noHash]
    simp only [Text.cut_of_not_mem noMark]
  have stamped : (stamp url name value).toList = url.toList ++ '?' :: written name value := by
    rw [stamp, String.toList_ofList, parts]
    simp [Parts.toChars, marked, extendQuery, written]
  have front : Text.cut '#' ('?' :: written name value) =
      ('?' :: (Text.cut '#' (written name value)).1, (Text.cut '#' (written name value)).2) := by
    rw [Text.cut, if_neg (by decide)]
  rw [queryOf, Parts.ofChars, stamped, Text.cut_append_of_not_mem noHash, front]
  simp only [Text.cut_append noMark, Option.getD_some]

theorem ne_of_not_legible (illegible : ¬ Legible name.toList) (legibleValue : Legible value.toList)
    {piece : List Char} (h : piece ∈ Text.split '&' (Text.cut '#' (written name value)).1) :
    (pairOf piece).1 ≠ name := by
  have whole : '&' ∉ value.toList := legibleValue.1 _ (by decide)
  by_cases hash : '#' ∈ name.toList
  · -- the query is what stands before the hash sign
    obtain ⟨before, after, same, first⟩ := List.eq_append_cons_of_mem hash
    have query : (Text.cut '#' (written name value)).1 = before := by
      rw [written, same, List.append_assoc, List.cons_append, Text.cut_append first]
    rw [query] at h
    have part := (nameIn_sublist_self piece).trans (Text.sublist_of_mem_split h)
    refine ne_of_shorter (Nat.lt_of_le_of_lt part.length_le ?_)
    rw [same, List.length_append, List.length_cons]
    omega
  · have noHash : '#' ∉ written name value :=
      not_mem_written (by decide) hash (legibleValue.1 _ (by decide))
    rw [Text.cut_of_not_mem noHash] at h
    by_cases marked : '&' ∈ name.toList ∨ '=' ∈ name.toList
    · exact ne_of_shorter (length_nameIn_lt h whole marked)
    · -- the name stands alone in the query, and is decoded to another one
      rw [not_or] at marked
      rw [Text.split_of_not_mem (not_mem_written (by decide) marked.1 whole),
        List.mem_singleton] at h
      subst h
      intro same
      rw [pairOf, written, Text.cut_append marked.2] at same
      obtain ⟨noPlus, unescaped⟩ := decodeText_eq_iff.1 (same.trans String.ofList_toList.symm)
      refine illegible ⟨?_, unescaped⟩
      simp [hash, marked, noPlus]

/-- **A stamp on a bare URL is read back under its name just if the name is legible.** -/
theorem firstUnder_stamp (noMark : '?' ∉ url.toList) (noHash : '#' ∉ url.toList)
    (legibleValue : Legible value.toList) :
    firstUnder name (decode (Text.utf8 (writtenQuery (stamp url name value)))) =
      if Legible name.toList then some value else none := by
  rw [← parametersOf_eq]
  split
  · next legible =>
    rw [parametersOf_stamp url legible legibleValue, parametersOf_bare noMark]
    exact firstUnder_append name value []
  · next illegible =>
    rw [firstUnder_eq_none, parametersOf, queryOf_stamp noMark noHash, decode_flatMap]
    intro pair member
    obtain ⟨piece, among, rfl⟩ := List.mem_map.1 member
    exact ne_of_not_legible illegible legibleValue (List.mem_of_mem_filter among)

end Link

end Gatehouse
