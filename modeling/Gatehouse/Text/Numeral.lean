/-!
# Numerals

Reading a decimal numeral below a limit. An optional plus sign may stand in front; leading zeros
are harmless. The numeral is judged from the left, so that a number found too large is reported
even if a later character is no digit. With a minus sign in front, numbers go below zero.
-/

namespace Gatehouse.Text

/-- Why a text is no numeral within the limits. -/
inductive NumeralError where
  | empty
  | invalidDigit
  | tooLarge
  | tooSmall
  deriving DecidableEq, Repr

def NumeralError.message : NumeralError → String
  | .empty => "cannot parse integer from empty string"
  | .invalidDigit => "invalid digit found in string"
  | .tooLarge => "number too large to fit in target type"
  | .tooSmall => "number too small to fit in target type"

def digitValue? (c : Char) : Option Nat :=
  if '0' ≤ c ∧ c ≤ '9' then some (c.toNat - '0'.toNat) else none

/-- Continues a numeral whose digits so far have the value `value`. -/
def readDigits (limit value : Nat) : List Char → Except NumeralError Nat
  | [] => .ok value
  | c :: rest =>
    match digitValue? c with
    | none => .error .invalidDigit
    | some d =>
      if limit < value * 10 + d then .error .tooLarge else readDigits limit (value * 10 + d) rest

def readUnsigned (limit : Nat) (s : String) : Except NumeralError Nat :=
  match s.toList with
  | [] => .error .empty
  | ['+'] => .error .invalidDigit
  | '+' :: rest => readDigits limit 0 rest
  | cs => readDigits limit 0 cs

/-- The widths of integers. Settings and requests use those of 16, 32 and 64 bits. -/
inductive Width where
  | bits8
  | bits16
  | bits32
  | bits64
  | bits128
  deriving DecidableEq, Repr

/-- The largest unsigned number of a width. -/
def Width.limit : Width → Nat
  | .bits8 => 0xFF
  | .bits16 => 0xFFFF
  | .bits32 => 0xFFFFFFFF
  | .bits64 => 0xFFFFFFFFFFFFFFFF
  | .bits128 => 0xFFFFFFFFFFFFFFFFFFFFFFFFFFFFFFFF

/-- Reads a numeral with a sign. Digits behind a minus sign denote the opposite of their number, and
half of the integers of a width are negative. -/
def readSigned (width : Width) (s : String) : Except NumeralError Int :=
  match s.toList with
  | '-' :: c :: rest =>
    match readDigits (width.limit / 2 + 1) 0 (c :: rest) with
    | .ok n => .ok (-n)
    | .error .tooLarge => .error .tooSmall
    | .error cause => .error cause
  | _ => (readUnsigned (width.limit / 2) s).map Int.ofNat

end Gatehouse.Text
