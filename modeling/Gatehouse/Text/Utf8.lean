/-!
# UTF-8

The bytes of a text, and the text of any bytes: each maximal part of a character that goes wrong
reads as one replacement character, and reading goes on with the byte that did not fit.
-/

namespace Gatehouse.Text

def utf8 (s : String) : List UInt8 :=
  s.toList.flatMap String.utf8EncodeChar

/-- What stands for bytes that are no character. -/
def replacement : Char := '\uFFFD'

/-- Where a reader of UTF-8 stands between two bytes. -/
inductive Utf8State where
  | idle
  /-- Inside a character: the bits so far, the tails still owed, and the range of the next one. -/
  | inside (bits owed : Nat) (low high : UInt8)
  deriving DecidableEq, Repr

/-- Reads the first byte of a character. -/
def Utf8State.start (b : UInt8) : List Char × Utf8State :=
  let n := b.toNat
  if n < 0x80 then ([Char.ofNat n], .idle)
  else if n < 0xC2 then ([replacement], .idle)
  else if n < 0xE0 then ([], .inside (n - 0xC0) 1 0x80 0xBF)
  else if n = 0xE0 then ([], .inside 0 2 0xA0 0xBF)
  else if n = 0xED then ([], .inside 0xD 2 0x80 0x9F)
  else if n < 0xF0 then ([], .inside (n - 0xE0) 2 0x80 0xBF)
  else if n = 0xF0 then ([], .inside 0 3 0x90 0xBF)
  else if n < 0xF4 then ([], .inside (n - 0xF0) 3 0x80 0xBF)
  else if n = 0xF4 then ([], .inside 4 3 0x80 0x8F)
  else ([replacement], .idle)

/-- Reads one byte: the characters that it completes, and where the reader stands then. -/
def Utf8State.step : Utf8State → UInt8 → List Char × Utf8State
  | .idle, b => start b
  | .inside bits owed low high, b =>
    if low ≤ b ∧ b ≤ high then
      let bits := bits * 64 + (b.toNat - 0x80)
      if owed ≤ 1 then ([Char.ofNat bits], .idle) else ([], .inside bits (owed - 1) 0x80 0xBF)
    else
      let (out, next) := start b
      (replacement :: out, next)

/-- The characters of the bytes that follow a state. -/
def readUtf8 : Utf8State → List UInt8 → List Char
  | .idle, [] => []
  | .inside .., [] => [replacement]
  | state, b :: rest =>
    let (out, next) := state.step b
    out ++ readUtf8 next rest

def ofUtf8Lossy (bytes : List UInt8) : String :=
  String.ofList (readUtf8 .idle bytes)

/-- The text of bytes that are UTF-8 throughout. -/
def ofUtf8? (bytes : List UInt8) : Option String :=
  String.fromUTF8? ⟨bytes.toArray⟩

end Gatehouse.Text
