import Gatehouse.Routing.Pattern

/-!
# The servlet directory

Servlets are mounted on URL patterns, and a path is served by the best match: its own path first,
then the longest tree, then an extension, then the default servlet. Among equals the servlet
mounted first wins.
-/

namespace Gatehouse

/-- A servlet and the patterns it is mounted on. -/
structure Mount where
  servlet : String
  patterns : List UrlPattern
  deriving DecidableEq, Repr

/-- The mounted servlets in the order of registration, and the default servlet. -/
structure Directory where
  mounts : List Mount
  default : Option String
  deriving DecidableEq, Repr

namespace Directory

/-- The pattern text that makes a servlet the default one. -/
def defaultPattern : String := "/"

def empty : Directory := ⟨[], none⟩

/-- Reads pattern texts up to the first bad one: whether the default pattern was among those
read, and the other patterns or the error. -/
def readPatterns : List String → Bool × Except PatternError (List UrlPattern)
  | [] => (false, .ok [])
  | text :: rest =>
    if text = defaultPattern then (true, (readPatterns rest).2)
    else
      match UrlPattern.parse text with
      | .error cause => (false, .error cause)
      | .ok pattern => ((readPatterns rest).1, (readPatterns rest).2.map (pattern :: ·))

/-- Makes a servlet the default one unless there is one already. -/
def claimDefault (d : Directory) (servlet : String) : Directory :=
  { d with default := d.default.or (some servlet) }

/-- Mounts a servlet. With a bad pattern it is not mounted, but a default pattern that stands
before the bad one counts. -/
def register (d : Directory) (servlet : String) (patterns : List String) :
    Directory × Except PatternError Unit :=
  let (claims, outcome) := readPatterns patterns
  let d := if claims then d.claimDefault servlet else d
  match outcome with
  | .error cause => (d, .error cause)
  | .ok patterns => ({ d with mounts := d.mounts ++ [⟨servlet, patterns⟩] }, .ok ())

/-- The first servlet with a pattern that passes a test. -/
def first? (d : Directory) (test : UrlPattern → Bool) : Option String :=
  (d.mounts.find? fun mount => mount.patterns.any test).map Mount.servlet

/-- The stems above a path with their servlets, in the order of registration. -/
def stemsAbove (d : Directory) (path : String) : List (String × String) :=
  d.mounts.flatMap fun mount => mount.patterns.filterMap fun pattern =>
    match pattern with
    | .tree stem => if pattern.covers path then some (stem, mount.servlet) else none
    | _ => none

/-- The first of the longest stems. -/
def longest? (stems : List (String × String)) : Option (String × String) :=
  stems.foldl (fun best candidate =>
    match best with
    | none => some candidate
    | some held => if held.1.length < candidate.1.length then some candidate else best) none

/-- The servlet that serves a path. -/
def resolve (d : Directory) (path : String) : Option String :=
  (d.first? fun pattern => pattern matches .path _ && pattern.covers path)
    |>.or ((longest? (d.stemsAbove path)).map Prod.snd)
    |>.or (d.first? fun pattern => pattern matches .extension _ && pattern.covers path)
    |>.or d.default

end Directory

end Gatehouse
