import Mathlib.Data.List.TakeWhile
import Gatehouse.Proofs.Link.Query

/-!
# Links of a stamped response

A URL is read by its marks: the front ends at the first of them, the fragment begins with the first
hash sign, and the query stands between. Stamps leave front and fragment as they are, and the query
reads as before with one pair for each stamp behind (`encodeUrl_stamped`).
-/

namespace Gatehouse

namespace Link

/-! ## Parts of a URL -/

theorem marked_cut_snd (mark : Char) (cs : List Char) :
    marked mark (Text.cut mark cs).2 = cs.dropWhile (· ≠ mark) := by
  have whole := marked_cut mark cs
  rw [Text.cut_fst] at whole
  exact List.append_cancel_left (whole.trans List.takeWhile_append_dropWhile.symm)

theorem getD_eq_tail_marked (mark : Char) (part : Option (List Char)) :
    part.getD [] = (marked mark part).tail := by
  cases part <;> rfl

/-- What stands before the first mark. -/
def frontOf (url : String) : String :=
  String.ofList (url.toList.takeWhile fun c => c ≠ '?' ∧ c ≠ '#')

/-- What begins with the first hash sign. -/
def fragmentOf (url : String) : String :=
  String.ofList (url.toList.dropWhile (· ≠ '#'))

/-- What stands behind the first question mark and before the fragment. -/
def writtenQuery (url : String) : String :=
  String.ofList ((url.toList.takeWhile (· ≠ '#')).dropWhile (· ≠ '?')).tail

theorem frontOf_eq (url : String) :
    frontOf url = String.ofList (Parts.ofChars url.toList).path := by
  rw [Parts.ofChars, frontOf]
  simp only [Text.cut_fst, List.takeWhile_takeWhile, decide_eq_true_eq]

theorem fragmentOf_eq (url : String) :
    fragmentOf url = String.ofList (marked '#' (Parts.ofChars url.toList).fragment) := by
  rw [Parts.ofChars, fragmentOf]
  simp only [marked_cut_snd]

theorem writtenQuery_eq (url : String) : writtenQuery url = String.ofList (queryOf url) := by
  rw [queryOf, getD_eq_tail_marked '?', Parts.ofChars, writtenQuery]
  simp only [marked_cut_snd, Text.cut_fst]

theorem parametersOf_eq (url : String) :
    parametersOf url = decode (Text.utf8 (writtenQuery url)) := by
  rw [parametersOf, writtenQuery_eq, Text.utf8, String.toList_ofList]

/-! ## Stamps -/

/-- A URL that is another one with pairs behind its query. -/
structure Extends (pairs : List Pair) (url url' : String) : Prop where
  front : frontOf url' = frontOf url
  fragment : fragmentOf url' = fragmentOf url
  query : decode (Text.utf8 (writtenQuery url')) =
    decode (Text.utf8 (writtenQuery url)) ++ pairs

namespace Extends

variable {pairs pairs' : List Pair} {url url' url'' : String}

theorem refl (url : String) : Extends [] url url := ⟨rfl, rfl, (List.append_nil _).symm⟩

theorem trans (first : Extends pairs url url') (second : Extends pairs' url' url'') :
    Extends (pairs ++ pairs') url url'' := by
  refine ⟨second.front.trans first.front, second.fragment.trans first.fragment, ?_⟩
  rw [second.query, first.query, List.append_assoc]

end Extends

variable {name value : String}

theorem extends_stamp (url : String) (legibleName : Legible name.toList)
    (legibleValue : Legible value.toList) : Extends [(name, value)] url (stamp url name value) := by
  have noHash : '#' ∉ written name value :=
    not_mem_written (by decide) (legibleName.1 _ (by decide)) (legibleValue.1 _ (by decide))
  have parts := ofChars_stamp url noHash
  refine ⟨?_, ?_, ?_⟩
  · rw [frontOf_eq, parts, frontOf_eq]
  · rw [fragmentOf_eq, parts, fragmentOf_eq]
  · rw [← parametersOf_eq, parametersOf_stamp url legibleName legibleValue, parametersOf_eq]

theorem extends_encodeUrl (pairs : List Pair) (url : String)
    (plain : ∀ pair ∈ pairs, Plain pair.1.toList ∧ Plain pair.2.toList) :
    Extends pairs url
      ((⟨pairs.map fun pair => .stamp pair.1 pair.2⟩ : Links).encodeUrl url) := by
  induction pairs generalizing url with
  | nil => exact .refl url
  | cons pair rest ih =>
    obtain ⟨plainName, plainValue⟩ := plain pair List.mem_cons_self
    have first := extends_stamp url (legible_of_plain plainName) (legible_of_plain plainValue)
    exact first.trans (ih _ fun other h => plain other (List.mem_cons_of_mem _ h))

theorem parametersOf_encodeUrl (pairs : List Pair) (url : String)
    (plain : ∀ pair ∈ pairs, Plain pair.1.toList ∧ Plain pair.2.toList) :
    parametersOf ((⟨pairs.map fun pair => .stamp pair.1 pair.2⟩ : Links).encodeUrl url) =
      parametersOf url ++ pairs := by
  rw [parametersOf_eq, parametersOf_eq, (extends_encodeUrl pairs url plain).query]

end Link

namespace Links

/-- A response on which stamps were left one after another, each with a name and a nonce. -/
def stampedWith (stamps : List (String × Block)) : Links :=
  stamps.foldl (fun links stamp => links.wrap (.stamp stamp.1 stamp.2.token)) plain

theorem stampedWith_eq (stamps : List (String × Block)) :
    stampedWith stamps =
      ⟨(stamps.map fun stamp => (stamp.1, stamp.2.token)).map fun pair =>
        .stamp pair.1 pair.2⟩ := by
  have behind : ∀ links : Links,
      stamps.foldl (fun links stamp => links.wrap (.stamp stamp.1 stamp.2.token)) links =
        ⟨links.decorations ++ stamps.map fun stamp => .stamp stamp.1 stamp.2.token⟩ := by
    induction stamps with
    | nil => intro links; simp
    | cons stamp rest ih =>
      intro links
      rw [List.foldl_cons, ih]
      simp [wrap]
  rw [stampedWith, behind, List.map_map]
  rfl

theorem encodeRedirectUrl_stampedWith (stamps : List (String × Block)) (url : String) :
    (stampedWith stamps).encodeRedirectUrl url = (stampedWith stamps).encodeUrl url := by
  rw [stampedWith_eq, encodeRedirectUrl, encodeUrl, List.map_map, List.foldl_map, List.foldl_map]
  rfl

end Links

namespace Link

/-- **A stamped response adds exactly its stamps to any URL**, in their order and behind the pairs
that the query had. -/
theorem encodeUrl_stamped (stamps : List (String × Block))
    (plain : ∀ stamp ∈ stamps, Plain stamp.1.toList) (url : String) :
    (Links.stampedWith stamps).encodeUrl url = (Links.stampedWith stamps).encodeRedirectUrl url ∧
      Extends (stamps.map fun stamp => (stamp.1, stamp.2.token)) url
        ((Links.stampedWith stamps).encodeUrl url) := by
  refine ⟨(Links.encodeRedirectUrl_stampedWith stamps url).symm, ?_⟩
  rw [Links.stampedWith_eq]
  refine extends_encodeUrl _ url fun pair h => ?_
  obtain ⟨stamp, member, rfl⟩ := List.mem_map.1 h
  exact ⟨plain stamp member, plain_token stamp.2⟩

/-- Two stamps behind a query with a broken escape, an ampersand too many and a pair without a
name, before a fragment with marks of its own. -/
theorem encodeUrl_stamped_twice :
    let stamps := [("n-1", Vector.replicate 16 0xAB), ("", Vector.replicate 16 7)]
    let url := "//h/a?x=%4&&=+?#b?c#d"
    (∀ stamp ∈ stamps, Plain stamp.1.toList) ∧
      (Links.stampedWith stamps).encodeUrl url =
        "//h/a?x=%4&&=+?&n-1=ABABABABABABABABABABABABABABABAB" ++
          "&=07070707070707070707070707070707#b?c#d" ∧
      frontOf url = "//h/a" ∧ fragmentOf url = "#b?c#d" ∧
      decode (Text.utf8 (writtenQuery url)) = [("x", "%4"), ("", " ?")] ∧
      Extends [("n-1", "ABABABABABABABABABABABABABABABAB"),
          ("", "07070707070707070707070707070707")] url
        ((Links.stampedWith stamps).encodeUrl url) := by
  intro stamps url
  have plain : ∀ stamp ∈ stamps, Plain stamp.1.toList := by decide
  exact ⟨plain, by decide, by decide, by decide, by decide, (encodeUrl_stamped stamps plain url).2⟩

end Link

end Gatehouse
