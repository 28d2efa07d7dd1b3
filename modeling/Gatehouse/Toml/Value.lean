/-!
# TOML values

What a TOML document holds. No setting takes a number with a fraction, so of such a number only
its presence is kept. Tables remember how they came about, because that decides whether a later
line may add to them.
-/

namespace Gatehouse.Toml

/-- How a table came about. -/
inductive TableKind where
  /-- Named by a header of its own, or the document itself. -/
  | header
  /-- Named on the way to a deeper header. -/
  | implied
  /-- Named on the way to a deeper key. -/
  | dotted
  | inline
  deriving DecidableEq, Repr

inductive Value where
  | text (s : String)
  | integer (n : Int)
  | float
  | boolean (b : Bool)
  /-- A date, a time or both, in canonical form. -/
  | datetime (s : String)
  /-- An array; one that headers made grows with each further header. -/
  | array (grows : Bool) (items : List Value)
  | table (kind : TableKind) (entries : List (String × Value))
  deriving Inhabited

abbrev Entries := List (String × Value)

/-- Puts a value in the place of the one under a key. -/
def Entries.replace (entries : Entries) (key : String) (value : Value) : Entries :=
  entries.map fun e => if e.1 = key then (key, value) else e

/-- Edits the table at a path of keys. Tables that are missing on the way are made, and an array
that headers made is entered at its last table. With `dotted` the path belongs to a key, which
must not enter a table that has a header of its own, unless it does so as the last of an array. -/
def descend (dotted : Bool) (edit : TableKind → Entries → Option Entries) :
    List String → TableKind → Entries → Option Entries
  | [], kind, entries => edit kind entries
  | key :: path, _, entries =>
    match entries.lookup key with
    | none => do
      let kind := if dotted then .dotted else .implied
      let inner ← descend dotted edit path kind []
      some (entries ++ [(key, .table kind inner)])
    | some (.table kind inner) => do
      if kind = .inline ∨ (dotted ∧ kind = .header) then none
      else
        let inner ← descend dotted edit path kind inner
        some (entries.replace key (.table kind inner))
    | some (.array true items) =>
      match items.getLast? with
      | some (.table kind inner) => do
        let inner ← descend dotted edit path kind inner
        some (entries.replace key (.array true (items.dropLast ++ [.table kind inner])))
      | _ => none
    | some _ => none

/-- Enters a value under a dotted key. The table that takes it must be one that such keys made,
if the key has a path at all, and no key may be given twice. -/
def Entries.assign (kind : TableKind) (entries : Entries) (path : List String) (key : String)
    (value : Value) : Option Entries :=
  descend true (fun kind entries =>
    if (kind = .dotted) = (path = []) then none
    else if (entries.lookup key).isSome then none
    else some (entries ++ [(key, value)])) path kind entries

/-- Opens the table that a header names. -/
def Entries.openTable (entries : Entries) (path : List String) (key : String) : Option Entries :=
  descend false (fun _ entries =>
    match entries.lookup key with
    | none => some (entries ++ [(key, .table .header [])])
    | some (.table .implied inner) => some (entries.replace key (.table .header inner))
    | some _ => none) path .header entries

/-- Opens one more table of the array that a header names. -/
def Entries.openElement (entries : Entries) (path : List String) (key : String) :
    Option Entries :=
  descend false (fun _ entries =>
    match entries.lookup key with
    | none => some (entries ++ [(key, .array true [.table .header []])])
    | some (.array true items) =>
      some (entries.replace key (.array true (items ++ [.table .header []])))
    | some _ => none) path .header entries

/-- Enters a value under a dotted key, below the table that a header has opened. -/
def Entries.assignBelow (entries : Entries) (header path : List String) (key : String)
    (value : Value) : Option Entries :=
  descend false (fun kind entries => entries.assign kind path key value) header .header entries

end Gatehouse.Toml
