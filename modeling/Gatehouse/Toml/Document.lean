import Gatehouse.Toml.Quoted
import Gatehouse.Toml.Numbers
import Gatehouse.Toml.Datetime

/-!
# TOML documents

Values nest in arrays and inline tables up to a depth, and keys are bounded in length by the same
number. A document is a sequence of lines: headers, which open tables, and keys with their
values, which go into the table that was opened last. `parse?` gives the entries of the document.
-/

namespace Gatehouse.Toml

/-- The bound on the nesting of values, and on the length of dotted keys. -/
def depthLimit : Nat := 80

def segment? (cs : List Char) : Option (String × List Char) :=
  match quotedLine? cs with
  | some (text, rest) => some (String.ofList text, rest)
  | none =>
    let bare := cs.takeWhile isBareChar
    if bare = [] then none else some (String.ofList bare, cs.drop bare.length)

/-- The segments of a dotted key, given a bound on their number. -/
def segments? : Nat → Scan (List String)
  | 0, _ => none
  | bound + 1, cs => do
    let (name, rest) ← segment? (skipSpace cs)
    match skipSpace rest with
    | '.' :: rest =>
      let (more, rest) ← segments? bound rest
      some (name :: more, rest)
    | rest => some ([name], rest)

/-- A dotted key: the path to its table, and its last segment. -/
def key? (cs : List Char) : Option ((List String × String) × List Char) := do
  let (names, rest) ← segments? (depthLimit - 1) cs
  let last ← names.getLast?
  some ((names.dropLast, last), rest)

/-- A key with the value that a scanner reads behind an equals sign. -/
def keyValue? (value : Scan Value) (cs : List Char) :
    Option ((List String × String × Value) × List Char) := do
  let ((path, key), rest) ← key? cs
  let rest ← given? '=' rest
  let (v, rest) ← value (skipSpace rest)
  some ((path, key, v), rest)

/-- The items of an array behind its bracket, given a bound on their number. -/
def items? (value : Scan Value) : Nat → Scan (List Value)
  | 0, _ => none
  | bound + 1, cs =>
    match skipTrivia cs.length cs with
    | ']' :: rest => some ([], rest)
    | cs => do
      let (v, rest) ← value cs
      match skipTrivia rest.length rest with
      | ']' :: rest => some ([v], rest)
      | ',' :: rest =>
        let (more, rest) ← items? value bound rest
        some (v :: more, rest)
      | _ => none

/-- The members of an inline table, one at least, given a bound on their number. -/
def members? (value : Scan Value) : Nat → Entries → Scan Entries
  | 0, _, _ => none
  | bound + 1, entries, cs => do
    let ((path, key, v), rest) ← keyValue? value cs
    let entries ← entries.assign .inline path key v
    match skipSpace rest with
    | '}' :: rest => some (entries, rest)
    | ',' :: rest => members? value bound entries rest
    | _ => none

/-- A value that is neither an array nor a table. -/
def scalar? (cs : List Char) : Option (Value × List Char) :=
  match cs with
  | '"' :: _ | '\'' :: _ => (quoted? cs).map fun (text, rest) => (.text (String.ofList text), rest)
  | 't' :: 'r' :: 'u' :: 'e' :: rest => some (.boolean true, rest)
  | 'f' :: 'a' :: 'l' :: 's' :: 'e' :: rest => some (.boolean false, rest)
  | _ => (datetime? cs).or (number? cs)

/-- A value that nests no deeper than a bound. -/
def value? : Nat → Scan Value
  | 0, cs =>
    match cs with
    | '[' :: _ | '\x7b' :: _ => none
    | _ => scalar? cs
  | depth + 1, cs =>
    match cs with
    | '[' :: rest =>
      (items? (value? depth) (rest.length + 1) rest).map fun (items, rest) =>
        (.array false items, rest)
    | '\x7b' :: rest =>
      match skipSpace rest with
      | '\x7d' :: rest => some (.table .inline [], rest)
      | _ =>
        (members? (value? depth) (rest.length + 1) [] rest).map fun (entries, rest) =>
          (.table .inline entries, rest)
    | _ => scalar? cs

/-- A header between its brackets, and the line it ends. -/
def header? (close : List Char) (cs : List Char) :
    Option ((List String × String) × List Char) := do
  let (key, rest) ← key? cs
  let rest ← close.isPrefixOf? rest
  let rest ← lineEnd? rest
  some (key, rest)

/-- The entries read so far, and the path of the table that was opened last. -/
structure Progress where
  entries : Entries
  current : List String

/-- Reads one line that holds something: a comment, a header, or a key with its value. -/
def line? (p : Progress) (cs : List Char) : Option (Progress × List Char) :=
  match cs with
  | '#' :: _ => (lineEnd? cs).map fun rest => (p, rest)
  | '[' :: '[' :: rest => do
    let ((path, key), rest) ← header? [']', ']'] rest
    let entries ← p.entries.openElement path key
    some (⟨entries, path ++ [key]⟩, rest)
  | '[' :: rest => do
    let ((path, key), rest) ← header? [']'] rest
    let entries ← p.entries.openTable path key
    some (⟨entries, path ++ [key]⟩, rest)
  | _ => do
    let ((path, key, v), rest) ← keyValue? (value? (depthLimit - 1)) cs
    let rest ← lineEnd? rest
    let entries ← p.entries.assignBelow p.current path key v
    some (⟨entries, p.current⟩, rest)

/-- Reads the lines of a document, given a bound on their number. -/
def lines? : Nat → Progress → List Char → Option Entries
  | 0, _, _ => none
  | bound + 1, p, cs =>
    match skipSpace cs with
    | [] => some p.entries
    | cs =>
      match newline? cs with
      | some rest => lines? bound p rest
      | none => do
        let (p, rest) ← line? p cs
        lines? bound p rest

/-- The text without a byte order mark in front. -/
def skipMark : List Char → List Char
  | '\uFEFF' :: rest => rest
  | cs => cs

def parse? (text : String) : Option Entries :=
  let cs := skipMark text.toList
  lines? (cs.length + 1) ⟨[], []⟩ cs

end Gatehouse.Toml
