import Gatehouse.Text.Cut

/-!
# URL patterns

A pattern has one of three shapes: one path (`/a/b`), a stem and everything below it (`/a/*`), or
an extension (`*.do`). `UrlPattern.parse` reads the written form and `UrlPattern.render` gives it
back.
-/

namespace Gatehouse

inductive PatternError where
  | empty
  | lineBreak (text : String)
  | badStart (text : String)
  | misplacedWildcard (text : String)
  | badExtension (text : String)
  deriving DecidableEq, Repr

def PatternError.message : PatternError → String
  | .empty => "URL pattern must not be empty"
  | .lineBreak text => s!"URL pattern '{text}' contains a line break"
  | .badStart text => s!"URL pattern '{text}' must start with '/' or '*.'"
  | .misplacedWildcard text => s!"URL pattern '{text}' has a wildcard outside a trailing '/*'"
  | .badExtension text =>
    s!"extension pattern '{text}' must name a non-empty extension without '/'"

inductive UrlPattern where
  | path (text : String)
  /-- A path and everything below it; the stem of `/*` is empty. -/
  | tree (stem : String)
  /-- Every path whose last segment has this extension. -/
  | extension (text : String)
  deriving DecidableEq, Repr

namespace UrlPattern

/-- The stem of a written form that ends in `/*`. -/
def stem? (cs : List Char) : Option (List Char) :=
  match cs.reverse with
  | '*' :: '/' :: rest => some rest.reverse
  | _ => none

/-- Reads a written form of at least one character and without line breaks. -/
def parseLine (text : String) : Except PatternError UrlPattern :=
  match text.toList with
  | '*' :: '.' :: ext =>
    if ext = [] ∨ '/' ∈ ext ∨ '*' ∈ ext then .error (.badExtension text)
    else .ok (.extension (String.ofList ext))
  | '/' :: rest =>
    match stem? ('/' :: rest) with
    | some stem =>
      if '*' ∈ stem then .error (.misplacedWildcard text) else .ok (.tree (String.ofList stem))
    | none => if '*' ∈ rest then .error (.misplacedWildcard text) else .ok (.path text)
  | _ => .error (.badStart text)

def parse (text : String) : Except PatternError UrlPattern :=
  if text.toList = [] then .error .empty
  else if '\n' ∈ text.toList ∨ '\r' ∈ text.toList then .error (.lineBreak text)
  else parseLine text

def render : UrlPattern → String
  | .path text => text
  | .tree stem => stem ++ "/*"
  | .extension text => "*." ++ text

/-- A path is its stem or goes on with a slash after it. -/
def isBelow (stem path : List Char) : Bool :=
  match stem.isPrefixOf? path with
  | some [] => true
  | some (c :: _) => c = '/'
  | none => false

/-- The extension of the last segment of a path that has a slash. -/
def extension? (path : List Char) : Option (List Char) :=
  (Text.afterLast? '/' path).bind (Text.afterLast? '.')

def covers (pattern : UrlPattern) (path : String) : Bool :=
  match pattern with
  | .path text => text = path
  | .tree stem => isBelow stem.toList path.toList
  | .extension text => extension? path.toList = some text.toList

end UrlPattern

end Gatehouse
