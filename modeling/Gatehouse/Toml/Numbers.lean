import Gatehouse.Text.Hex
import Gatehouse.Toml.Chars
import Gatehouse.Toml.Value

/-!
# Numbers

Integers of 64 bits in four bases, and numbers with a fraction or an exponent. Single underscores
may stand between digits. A positive number too large for a double is refused.
-/

namespace Gatehouse.Toml

/-- Digits behind a digit, without the underscores between them. -/
def moreDigits (isDigit : Char → Bool) : List Char → List Char × List Char
  | [] => ([], [])
  | '_' :: d :: rest =>
    if isDigit d then
      let (digits, rest) := moreDigits isDigit rest
      (d :: digits, rest)
    else ([], '_' :: d :: rest)
  | c :: rest =>
    if isDigit c then
      let (digits, rest) := moreDigits isDigit rest
      (c :: digits, rest)
    else ([], c :: rest)

/-- One or more digits, without the underscores between them. -/
def digits? (isDigit : Char → Bool) : Scan (List Char)
  | [] => none
  | c :: rest =>
    if isDigit c then
      let (digits, rest) := moreDigits isDigit rest
      some (c :: digits, rest)
    else none

def digitsValue (base : Nat) (digits : List Char) : Nat :=
  digits.foldl (fun value c => value * base + (Text.hexValue? c).getD 0) 0

/-- An optional sign: whether it is a minus. -/
def sign : List Char → Bool × List Char
  | '+' :: rest => (false, rest)
  | '-' :: rest => (true, rest)
  | cs => (false, cs)

/-- The digits of a decimal number; only zero itself begins with a zero. -/
def decimalDigits? : Scan (List Char)
  | '0' :: rest => some (['0'], rest)
  | cs => digits? isDigit cs

/-- How far down a signed number of 64 bits reaches; it reaches one less far up. -/
def signedReach : Nat := 0x8000000000000000

/-- A signed number within 64 bits. -/
def signed? (negative : Bool) (magnitude : Nat) : Option Int :=
  if negative then if magnitude ≤ signedReach then some (-magnitude) else none
  else if magnitude < signedReach then some magnitude else none

/-- An integer of a base whose letter stands behind a zero. -/
def basedInteger? (base : Nat) (cs : List Char) : Option (Value × List Char) := do
  let (digits, rest) ← digits? (fun c => (Text.hexValue? c).any (· < base)) cs
  let n ← signed? false (digitsValue base digits)
  some (.integer n, rest)

def integer? : Scan Value
  | '0' :: 'x' :: rest => basedInteger? 16 rest
  | '0' :: 'o' :: rest => basedInteger? 8 rest
  | '0' :: 'b' :: rest => basedInteger? 2 rest
  | cs => do
    let (negative, cs) := sign cs
    let (digits, rest) ← decimalDigits? cs
    let n ← signed? negative (digitsValue 10 digits)
    some (.integer n, rest)

/-- The digits of a fraction, if there is one. -/
def fraction? : List Char → Option (List Char × List Char)
  | '.' :: rest => digits? isDigit rest
  | cs => some ([], cs)

/-- An exponent: zero if there is none. -/
def exponent? (cs : List Char) : Option (Int × List Char) :=
  match cs with
  | 'e' :: rest | 'E' :: rest => do
    let (negative, rest) := sign rest
    let (digits, rest) ← digits? isDigit rest
    let n := digitsValue 10 digits
    some (if negative then -n else n, rest)
  | _ => some (0, cs)

/-- A decimal number `digits × 10 ^ exponent` rounds to a double beyond the largest one, that is,
it is at least halfway from the largest double to the next power of two. -/
def exceedsDouble (digits : Nat) (exponent : Int) : Bool :=
  let places : Int := (Nat.toDigits 10 digits).length
  if digits = 0 then false
  else if 310 < places + exponent then true
  else if places + exponent < 300 then false
  else
    let bound := Nat.pow 2 1024 - Nat.pow 2 970
    if 0 ≤ exponent then bound ≤ digits * Nat.pow 10 exponent.toNat
    else bound * Nat.pow 10 (-exponent).toNat ≤ digits

/-- A number with a fraction or an exponent. -/
def decimalFloat? (cs : List Char) : Option (Value × List Char) := do
  let (negative, cs) := sign cs
  let (whole, rest) ← decimalDigits? cs
  let (fraction, after) ← fraction? rest
  let (exponent, after) ← exponent? after
  if after.length = rest.length then none
  else if !negative &&
      exceedsDouble (digitsValue 10 (whole ++ fraction)) (exponent - fraction.length) then none
  else some (.float, after)

def specialFloat? (cs : List Char) : Option (Value × List Char) :=
  match (sign cs).2 with
  | 'i' :: 'n' :: 'f' :: rest => some (.float, rest)
  | 'n' :: 'a' :: 'n' :: rest => some (.float, rest)
  | _ => none

def number? (cs : List Char) : Option (Value × List Char) :=
  (decimalFloat? cs).or <| (specialFloat? cs).or (integer? cs)

end Gatehouse.Toml
