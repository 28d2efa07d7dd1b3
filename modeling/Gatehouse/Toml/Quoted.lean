import Gatehouse.Text.Hex
import Gatehouse.Toml.Chars

/-!
# Quoted strings

Basic strings, in double quotes, know escapes; literal strings, in single quotes, know none. With
three quotes at each end a string may run over several lines: a line end right after the opening
is dropped, and one inside reads as a line feed.
-/

namespace Gatehouse.Toml

/-- A character that stands for itself in a basic string. -/
def isBasicChar (c : Char) : Bool :=
  c = '\t' || (0x20 ≤ c.toNat && c.toNat ≠ 0x7F && c ≠ '"' && c ≠ '\\')

/-- A character that stands for itself in a literal string. -/
def isLiteralChar (c : Char) : Bool :=
  c = '\t' || (0x20 ≤ c.toNat && c.toNat ≠ 0x7F && c ≠ '\'')

/-- The character whose code is written in the first `n` characters, all of them digits. -/
def codePoint? (n : Nat) (cs : List Char) : Option Char := do
  let digits ← (cs.take n).mapM Text.hexValue?
  if digits.length < n then none
  else
    let code := digits.foldl (fun value d => value * 16 + d) 0
    if code.isValidChar then some (Char.ofNat code) else none

/-- The character of an escape, and how many characters behind the backslash it takes. -/
def escape? : List Char → Option (Char × Nat)
  | 'b' :: _ => some ('\x08', 1)
  | 't' :: _ => some ('\t', 1)
  | 'n' :: _ => some ('\n', 1)
  | 'f' :: _ => some ('\x0C', 1)
  | 'r' :: _ => some ('\r', 1)
  | '"' :: _ => some ('"', 1)
  | '\\' :: _ => some ('\\', 1)
  | 'u' :: rest => (codePoint? 4 rest).map fun c => (c, 5)
  | 'U' :: rest => (codePoint? 8 rest).map fun c => (c, 9)
  | _ => none

def basicRest : Scan (List Char)
  | [] => none
  | '"' :: rest => some ([], rest)
  | '\\' :: rest => do
    let (c, taken) ← escape? rest
    let (more, rest) ← basicRest (rest.drop taken)
    some (c :: more, rest)
  | c :: rest => do
    if isBasicChar c then
      let (more, rest) ← basicRest rest
      some (c :: more, rest)
    else none
  termination_by cs => cs.length
  decreasing_by all_goals simp_all; try omega

def literalRest : Scan (List Char)
  | [] => none
  | '\'' :: rest => some ([], rest)
  | c :: rest => do
    if isLiteralChar c then
      let (more, rest) ← literalRest rest
      some (c :: more, rest)
    else none

/-- How many times a character stands at the front. -/
def runLength (mark : Char) (cs : List Char) : Nat := (cs.takeWhile (· = mark)).length

/-- Reads the quotes at the front of a string of several lines: `none` if they belong to the
string, else how many of them do before the closing three. -/
def closing? (quotes : Nat) : Option Nat :=
  if quotes < 3 then none else some (min quotes 5 - 3)

/-- The rest of a basic string of several lines, given a bound on its length. -/
def basicLines : Nat → Scan (List Char)
  | 0, _ => none
  | bound + 1, cs =>
    match cs with
    | [] => none
    | '"' :: rest =>
      match closing? (runLength '"' cs) with
      | some inner => some (List.replicate inner '"', cs.drop (inner + 3))
      | none => (basicLines bound rest).map fun (more, rest) => ('"' :: more, rest)
    | '\\' :: rest =>
      match newline? (skipSpace rest) with
      | some _ => basicLines bound (skipBlankLines rest)
      | none => do
        let (c, taken) ← escape? rest
        let (more, rest) ← basicLines bound (rest.drop taken)
        some (c :: more, rest)
    | c :: rest =>
      match newline? cs with
      | some rest => (basicLines bound rest).map fun (more, rest) => ('\n' :: more, rest)
      | none =>
        if isBasicChar c then
          (basicLines bound rest).map fun (more, rest) => (c :: more, rest)
        else none

/-- The rest of a literal string of several lines, given a bound on its length. -/
def literalLines : Nat → Scan (List Char)
  | 0, _ => none
  | bound + 1, cs =>
    match cs with
    | [] => none
    | '\'' :: rest =>
      match closing? (runLength '\'' cs) with
      | some inner => some (List.replicate inner '\'', cs.drop (inner + 3))
      | none => (literalLines bound rest).map fun (more, rest) => ('\'' :: more, rest)
    | c :: rest =>
      match newline? cs with
      | some rest => (literalLines bound rest).map fun (more, rest) => ('\n' :: more, rest)
      | none =>
        if isLiteralChar c then
          (literalLines bound rest).map fun (more, rest) => (c :: more, rest)
        else none

/-- The text without a line end in front. -/
def dropNewline (cs : List Char) : List Char := (newline? cs).getD cs

def quotedLine? : Scan (List Char)
  | '"' :: rest => basicRest rest
  | '\'' :: rest => literalRest rest
  | _ => none

/-- A quoted string of any of the four forms. -/
def quoted? : Scan (List Char)
  | '"' :: '"' :: '"' :: rest => basicLines (rest.length + 1) (dropNewline rest)
  | '\'' :: '\'' :: '\'' :: rest => literalLines (rest.length + 1) (dropNewline rest)
  | cs => quotedLine? cs

end Gatehouse.Toml
