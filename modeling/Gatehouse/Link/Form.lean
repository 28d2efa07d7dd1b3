import Gatehouse.Text.Cut
import Gatehouse.Text.Hex
import Gatehouse.Text.Utf8

/-!
# Urlencoded parameters

Queries and form bodies hold `name=value` pairs joined by ampersands. A pair is decoded in three
steps: plus signs become spaces, percent escapes become bytes, and the bytes are read as UTF-8.
`Parameters.read` takes the pairs of a query and of a form up to a limit.
-/

namespace Gatehouse.Link

abbrev Pair := String × String

/-- Plus signs stand for spaces. -/
def plusToSpace (bytes : List UInt8) : List UInt8 :=
  bytes.map fun b => if b = 0x2B then 0x20 else b

def hexByte? (b : UInt8) : Option Nat :=
  Text.hexValue? (Char.ofNat b.toNat)

/-- Replaces each percent escape by its byte; a percent sign without two digits stands for
itself. -/
def percentDecode : List UInt8 → List UInt8
  | [] => []
  | b :: high :: low :: rest =>
    match hexByte? high, hexByte? low with
    | some h, some l =>
      if b = 0x25 then UInt8.ofNat (h * 16 + l) :: percentDecode rest
      else b :: percentDecode (high :: low :: rest)
    | _, _ => b :: percentDecode (high :: low :: rest)
  | b :: rest => b :: percentDecode rest

/-- The text of a name or a value. -/
def decodeText (bytes : List UInt8) : String :=
  Text.ofUtf8Lossy (percentDecode (plusToSpace bytes))

/-- The pair of one piece between ampersands; without an equals sign the value is empty. -/
def decodePair (piece : List UInt8) : Pair :=
  let (name, value) := Text.cut 0x3D piece
  (decodeText name, decodeText (value.getD []))

/-- The pairs of a query or form; empty pieces count for nothing. -/
def decode (bytes : List UInt8) : List Pair :=
  ((Text.split 0x26 bytes).filter (· ≠ [])).map decodePair

/-- The parameters that were read, and whether there were more than the limit. -/
structure Parameters where
  pairs : List Pair
  failed : Bool
  deriving DecidableEq, Repr

namespace Parameters

/-- Takes pairs one after another. The first one beyond the limit is a failure, and ends the
reading. -/
def take (limit : Nat) (taken : Parameters) : List Pair → Parameters
  | [] => taken
  | pair :: rest =>
    if limit ≤ taken.pairs.length then { taken with failed := true }
    else take limit { taken with pairs := taken.pairs ++ [pair] } rest

/-- Takes the pairs of sources one after another. No source is opened after a failure. -/
def takeAll (limit : Nat) (taken : Parameters) : List (List UInt8) → Parameters
  | [] => taken
  | source :: rest =>
    let taken := taken.take limit (decode source)
    if taken.failed then taken else takeAll limit taken rest

/-- The parameters of a query followed by those of a form, where there is anything in them. -/
def read (query form : Option (List UInt8)) (limit : Nat) : Parameters :=
  takeAll limit ⟨[], false⟩ ((query.toList ++ form.toList).filter (· ≠ []))

end Parameters

end Gatehouse.Link
