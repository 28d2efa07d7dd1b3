import Gatehouse.Text.Blank
import Gatehouse.Text.Ascii
import Gatehouse.Text.Hex

/-!
# Nonce tokens

A nonce is a block of sixteen random bytes; its token is the block in upper-case hexadecimal
digits. Blocks come from one of three named sources.
-/

namespace Gatehouse

abbrev Block := Vector UInt8 16

def Block.token (block : Block) : String := Text.upperHex block.toList

/-- Where random blocks come from. -/
inductive RandomSource where
  | os
  | thread
  /-- One shared generator, seeded at the start. -/
  | std
  deriving DecidableEq, Repr

/-- A text that names no random source. -/
structure UnknownSource where
  text : String
  deriving DecidableEq, Repr

def UnknownSource.message (e : UnknownSource) : String :=
  s!"unknown random source '{e.text}' (expected one of: os, thread, std)"

/-- The source that a text names, blanks around it and the case of its letters aside. -/
def RandomSource.parse (text : String) : Except UnknownSource RandomSource :=
  let word := Text.lower (Text.trim text)
  if word = "os" then .ok .os
  else if word = "thread" then .ok .thread
  else if word = "std" then .ok .std
  else .error ⟨text⟩

end Gatehouse
