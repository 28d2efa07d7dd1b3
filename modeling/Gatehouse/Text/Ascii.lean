/-!
# Letters of the ASCII range

Keywords are compared without regard to the case of `A`–`Z`; every other character stands for
itself only.
-/

namespace Gatehouse.Text

/-- The characters of a text with `A`–`Z` in lower case. -/
def lowerChars (s : String) : List Char :=
  s.toList.map Char.toLower

/-- A text with `A`–`Z` in lower case. -/
def lower (s : String) : String :=
  String.ofList (lowerChars s)

/-- Two texts agree up to the case of `A`–`Z`. -/
def sameLetters (s t : String) : Bool :=
  lowerChars s == lowerChars t

end Gatehouse.Text
