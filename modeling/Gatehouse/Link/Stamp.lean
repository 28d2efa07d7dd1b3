import Gatehouse.Text.Cut

/-!
# Stamping links

A link is stamped with a pair `name=value` behind its query and before its fragment. Name and
value are written as they are.
-/

namespace Gatehouse.Link

/-- A URL taken apart: what stands before the query, the query without its question mark, and the
fragment without its hash sign. -/
structure Parts where
  path : List Char
  query : Option (List Char)
  fragment : Option (List Char)
  deriving DecidableEq, Repr

/-- Takes a URL apart. A question mark inside the fragment belongs to the fragment. -/
def Parts.ofChars (url : List Char) : Parts :=
  let (rest, fragment) := Text.cut '#' url
  let (path, query) := Text.cut '?' rest
  ⟨path, query, fragment⟩

/-- An optional part with the mark that introduces it. -/
def marked (mark : Char) : Option (List Char) → List Char
  | none => []
  | some part => mark :: part

def Parts.toChars (parts : Parts) : List Char :=
  parts.path ++ marked '?' parts.query ++ marked '#' parts.fragment

/-- A query with a pair behind it; an empty query gives way to the pair. -/
def extendQuery (query : Option (List Char)) (pair : List Char) : List Char :=
  match query with
  | none => pair
  | some [] => pair
  | some query => query ++ '&' :: pair

/-- The URL with the pair `name=value` behind its query. -/
def stamp (url name value : String) : String :=
  let parts := Parts.ofChars url.toList
  let pair := name.toList ++ '=' :: value.toList
  String.ofList { parts with query := some (extendQuery parts.query pair) }.toChars

theorem marked_cut (mark : Char) (cs : List Char) :
    (Text.cut mark cs).1 ++ marked mark (Text.cut mark cs).2 = cs := by
  induction cs with
  | nil => rfl
  | cons c rest ih =>
    by_cases h : c = mark
    · simp [Text.cut, h, marked]
    · simp [Text.cut, h, ih]

theorem Parts.toChars_ofChars (url : List Char) : (Parts.ofChars url).toChars = url := by
  simp only [Parts.ofChars, Parts.toChars, marked_cut]

end Gatehouse.Link
