/-!
# Header values

Header values are bytes. A *legal* one has no control characters besides the tab; only one of
visible ASCII characters, spaces and tabs can be *read* as text.
-/

namespace Gatehouse

namespace HeaderValue

def isLegalByte (b : UInt8) : Bool := (0x20 ≤ b && b ≠ 0x7F) || b = 0x09

def isLegal (bytes : List UInt8) : Bool := bytes.all isLegalByte

/-- The character may stand in a header value: so may all bytes of one beyond ASCII. -/
def isLegalChar (c : Char) : Bool := (0x20 ≤ c.toNat && c.toNat ≠ 0x7F) || c = '\t'

def isLegalText (s : String) : Bool := s.toList.all isLegalChar

/-- The byte may stand in a header value that is read as text. -/
def isReadableByte (b : UInt8) : Bool := (0x20 ≤ b && b ≤ 0x7E) || b = 0x09

/-- The text of a header value, if it can be read. -/
def toText? (bytes : List UInt8) : Option (List Char) :=
  if bytes.all isReadableByte then some (bytes.map fun b => Char.ofNat b.toNat) else none

end HeaderValue

end Gatehouse
