/-!
# Hexadecimal digits

Nonces are written in upper-case digits; escapes in queries are read in either case.
-/

namespace Gatehouse.Text

/-- The upper-case digit of a number below sixteen. -/
def hexDigit (n : Nat) : Char :=
  if n < 10 then Char.ofNat (0x30 + n) else Char.ofNat (0x37 + n)

/-- The two digits of a byte. -/
def hexPair (b : UInt8) : List Char :=
  [hexDigit (b.toNat / 16), hexDigit (b.toNat % 16)]

/-- Bytes in upper-case digits, two for each. -/
def upperHex (bytes : List UInt8) : String :=
  String.ofList (bytes.flatMap hexPair)

def hexValue? (c : Char) : Option Nat :=
  let n := c.toNat
  if 0x30 ≤ n ∧ n ≤ 0x39 then some (n - 0x30)
  else if 0x41 ≤ n ∧ n ≤ 0x46 then some (n - 0x37)
  else if 0x61 ≤ n ∧ n ≤ 0x66 then some (n - 0x57)
  else none

end Gatehouse.Text
