import Gatehouse.Text.Hex
import Gatehouse.Text.Numeral

/-!
# Socket addresses

A socket address is an IPv4 address in dotted form, or an IPv6 address in brackets with an
optional zone number, followed by a colon and a TCP number. The functions here recognise the
written form: each takes what it reads off the front of a text and gives the rest.
-/

namespace Gatehouse.Address

def digitsValue (base : Nat) (digits : List Nat) : Nat :=
  digits.foldl (fun value d => value * base + d) 0

/-- The value of a digit in a base of at most sixteen. -/
def digit? (base : Nat) (c : Char) : Option Nat :=
  (Text.hexValue? c).filter (· < base)

/-- A number of at most `limit`, written in at most `most` digits. -/
def number? (base limit : Nat) (most : Option Nat) (cs : List Char) : Option (List Char) :=
  let digits := cs.takeWhile fun c => (digit? base c).isSome
  let value := digitsValue base (digits.filterMap (digit? base))
  if digits = [] ∨ limit < value ∨ most.any (· < digits.length) then none
  else some (cs.drop digits.length)

/-- An octet of an IPv4 address, without a leading zero. -/
def octet? (cs : List Char) : Option (List Char) :=
  match cs with
  | '0' :: c :: _ => if (digit? 10 c).isSome then none else number? 10 255 (some 3) cs
  | _ => number? 10 255 (some 3) cs

def given? (mark : Char) : List Char → Option (List Char)
  | [] => none
  | c :: rest => if c = mark then some rest else none

def ipv4? (cs : List Char) : Option (List Char) := do
  let cs ← octet? cs
  let cs ← octet? (← given? '.' cs)
  let cs ← octet? (← given? '.' cs)
  octet? (← given? '.' cs)

def tcpNumber? (cs : List Char) : Option (List Char) := do
  number? 10 65535 none (← given? ':' cs)

/-- The colon between groups; there is none before the first. -/
def separator? (first : Bool) (cs : List Char) : Option (List Char) :=
  if first then some cs else given? ':' cs

/-- Up to `room` groups of an IPv6 address, the last two of which may be an IPv4 address: how many
groups were read, whether the last two were such an address, and the rest. -/
def groups (first : Bool) : Nat → List Char → Nat × Bool × List Char
  | 0, cs => (0, false, cs)
  | room + 1, cs =>
    match if room = 0 then none else (separator? first cs).bind ipv4? with
    | some rest => (2, true, rest)
    | none =>
      match (separator? first cs).bind (number? 16 0xFFFF (some 4)) with
      | none => (0, false, cs)
      | some rest =>
        let (count, embedded, rest) := groups false room rest
        (count + 1, embedded, rest)

/-- An IPv6 address: eight groups, or fewer with one gap `::` that stands for at least one. -/
def ipv6? (cs : List Char) : Option (List Char) :=
  match groups true 8 cs with
  | (8, _, rest) => some rest
  | (_, true, _) => none
  | (count, false, rest) => do
    let rest ← given? ':' (← given? ':' rest)
    let (_, _, rest) := groups true (7 - count) rest
    some rest

/-- A zone number behind a percent sign; anything else is left where it is. -/
def zone (cs : List Char) : List Char :=
  ((given? '%' cs).bind (number? 10 Text.Width.bits32.limit none)).getD cs

def socketV4? (cs : List Char) : Option (List Char) := do
  tcpNumber? (← ipv4? cs)

def socketV6? (cs : List Char) : Option (List Char) := do
  let cs ← ipv6? (← given? '[' cs)
  tcpNumber? (← given? ']' (zone cs))

/-- The whole text is a socket address. -/
def isSocket (text : String) : Bool :=
  (socketV4? text.toList).or (socketV6? text.toList) = some []

end Gatehouse.Address
