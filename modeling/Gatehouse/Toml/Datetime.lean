import Gatehouse.Toml.Chars
import Gatehouse.Toml.Value

/-!
# Dates and times

A date, a time of day, or both with an optional offset. The calendar is checked, so that the 29th
of February stands in leap years only. The text of a date-time is kept in canonical form.
-/

namespace Gatehouse.Toml

/-- A number of exactly `n` digits. -/
def fixedNumber? (n : Nat) (cs : List Char) : Option (Nat × List Char) :=
  let digits := cs.take n
  if digits.length = n ∧ digits.all isDigit then
    some (digits.foldl (fun value c => value * 10 + (c.toNat - '0'.toNat)) 0, cs.drop n)
  else none

/-- A number of exactly `n` digits within bounds. -/
def fixedBetween? (n low high : Nat) (cs : List Char) : Option (Nat × List Char) :=
  (fixedNumber? n cs).filter fun (value, _) => low ≤ value ∧ value ≤ high

/-- The text after a given character. -/
def given? (mark : Char) : List Char → Option (List Char)
  | [] => none
  | c :: rest => if c = mark then some rest else none

def daysOf (year month : Nat) : Nat :=
  if month = 2 then
    if year % 4 = 0 ∧ (year % 100 ≠ 0 ∨ year % 400 = 0) then 29 else 28
  else if month = 4 ∨ month = 6 ∨ month = 9 ∨ month = 11 then 30
  else 31

/-- A number in at least `width` digits. -/
def padded (width n : Nat) : String :=
  let digits := toString n
  String.ofList (List.replicate (width - digits.length) '0') ++ digits

def date? (cs : List Char) : Option (String × List Char) := do
  let (year, cs) ← fixedNumber? 4 cs
  let (month, cs) ← fixedBetween? 2 1 12 (← given? '-' cs)
  let (day, cs) ← fixedBetween? 2 1 (daysOf year month) (← given? '-' cs)
  some (s!"{padded 4 year}-{padded 2 month}-{padded 2 day}", cs)

/-- A fraction of a second, to nine places and without zeros at its end. -/
def secondFraction : List Char → Option (String × List Char)
  | '.' :: rest =>
    let digits := rest.takeWhile isDigit
    let kept := ((digits.take 9).reverse.dropWhile (· = '0')).reverse
    if digits = [] then none
    else some (if kept = [] then "" else "." ++ String.ofList kept, rest.drop digits.length)
  | cs => some ("", cs)

/-- A time of day; a leap second counts. -/
def time? (cs : List Char) : Option (String × List Char) := do
  let (hour, cs) ← fixedBetween? 2 0 23 cs
  let (minute, cs) ← fixedBetween? 2 0 59 (← given? ':' cs)
  let (second, cs) ← fixedBetween? 2 0 60 (← given? ':' cs)
  let (fraction, cs) ← secondFraction cs
  some (s!"{padded 2 hour}:{padded 2 minute}:{padded 2 second}" ++ fraction, cs)

/-- An offset in hours and minutes; one of zero is written with a plus sign. -/
def signedOffset? (negative : Bool) (cs : List Char) : Option (String × List Char) := do
  let (hour, cs) ← fixedBetween? 2 0 23 cs
  let (minute, cs) ← fixedBetween? 2 0 59 (← given? ':' cs)
  let mark := if negative ∧ 0 < hour + minute then "-" else "+"
  some (mark ++ s!"{padded 2 hour}:{padded 2 minute}", cs)

/-- An offset from universal time, if there is one. -/
def offset? : List Char → Option (String × List Char)
  | 'Z' :: rest | 'z' :: rest => some ("Z", rest)
  | '+' :: rest => signedOffset? false rest
  | '-' :: rest => signedOffset? true rest
  | cs => some ("", cs)

/-- The text after the mark between a date and a time. -/
def timeMark? : List Char → Option (List Char)
  | 'T' :: rest | 't' :: rest | ' ' :: rest => some rest
  | _ => none

def datetime? (cs : List Char) : Option (Value × List Char) :=
  match date? cs with
  | none => (time? cs).map fun (time, rest) => (.datetime time, rest)
  | some (date, rest) =>
    match (timeMark? rest).bind time? with
    | none => some (.datetime date, rest)
    | some (time, rest) =>
      (offset? rest).map fun (offset, rest) => (.datetime (date ++ "T" ++ time ++ offset), rest)

end Gatehouse.Toml
