import Gatehouse.Text.Cut
import Gatehouse.Text.Ascii
import Gatehouse.Text.Utf8

/-!
# Request targets

The target of a request in one of its forms: a path with an optional query, a lone asterisk, an
authority, or a scheme with an authority and a path. A fragment is dropped. `Target.parse?` reads
the written form and `Target.render` gives it back.
-/

namespace Gatehouse

/-- The target of a request. A target that is an authority alone has an empty path. -/
structure Target where
  scheme : Option String
  authority : String
  path : String
  query : Option String
  deriving DecidableEq, Repr

namespace Target

def isAlphanumeric (c : Char) : Bool :=
  ('a' ≤ c && c ≤ 'z') || ('A' ≤ c && c ≤ 'Z') || ('0' ≤ c && c ≤ '9')

def isWithin (low high : Nat) (c : Char) : Bool := low ≤ c.toNat && c.toNat ≤ high

def isPathChar (c : Char) : Bool :=
  c = '!' || isWithin 0x24 0x3B c || c = '=' || isWithin 0x40 0x5F c || isWithin 0x61 0x7A c ||
    c = '|' || c = '~' || 0x80 ≤ c.toNat || c = '"' || c = '\x7b' || c = '\x7d'

def isQueryChar (c : Char) : Bool :=
  c = '!' || isWithin 0x24 0x3B c || c = '=' || isWithin 0x3F 0x7E c || 0x80 ≤ c.toNat

def isSchemeChar (c : Char) : Bool :=
  isAlphanumeric c || c = '+' || c = '-' || c = '.' || c = '~'

/-- The character may stand in an authority; a percent sign may do so in front of a host. -/
def isAuthorityChar (c : Char) : Bool :=
  isAlphanumeric c || "!$&'()*+,-.:;=@[]_~".toList.contains c

def longestScheme : Nat := 64

def longest : Nat := 65534

def mostColons : Nat := 8

/-- Reads a path and an optional query, up to a fragment. An empty path stands for the root. -/
def parsePath? (cs : List Char) : Option (String × Option String) :=
  let (cs, _) := Text.cut '#' cs
  let (path, query) := Text.cut '?' cs
  if path.all isPathChar && (query.getD []).all isQueryChar then
    some (if path = [] then "/" else String.ofList path, query.map String.ofList)
  else none

/-- A scheme with what stands behind it. -/
inductive SchemeCut where
  | absent
  | found (scheme : String) (rest : List Char)
  | tooLong
  deriving DecidableEq, Repr

/-- What stands behind a word, whatever the case of its letters. -/
def afterWord? (word : String) (cs : List Char) : Option (List Char) :=
  if (cs.take word.length).map Char.toLower = word.toList then some (cs.drop word.length)
  else none

/-- Cuts a scheme other than the two of the web off a text. -/
def cutOther (cs : List Char) : SchemeCut :=
  let scheme := cs.takeWhile isSchemeChar
  match cs.drop scheme.length with
  | ':' :: '/' :: '/' :: rest =>
    if longestScheme < scheme.length then .tooLong else .found (String.ofList scheme) rest
  | _ => .absent

/-- Cuts a scheme off a text of at least two characters. -/
def cutScheme (cs : List Char) : SchemeCut :=
  match afterWord? "http://" cs, afterWord? "https://" cs with
  | some rest, _ => .found "http" rest
  | none, some rest => .found "https" rest
  | none, none => if cs.length ≤ 3 then .absent else cutOther cs

/-- What a reader of an authority has met: the colons and percent signs since the last bracket or
at sign, the two brackets, and whether the last character was an at sign. -/
structure AuthorityScan where
  colons : Nat := 0
  opened : Bool := false
  closed : Bool := false
  percent : Bool := false
  endsWithAt : Bool := false
  deriving DecidableEq, Repr

def AuthorityScan.step (scan : AuthorityScan) (c : Char) : Option AuthorityScan :=
  let scan := { scan with endsWithAt := c = '@' }
  if c = ':' then
    if scan.colons < mostColons then some { scan with colons := scan.colons + 1 } else none
  else if c = '[' then
    if scan.percent || scan.opened then none else some { scan with opened := true }
  else if c = ']' then
    if scan.opened && !scan.closed then
      some { scan with closed := true, colons := 0, percent := false }
    else none
  else if c = '@' then some { scan with colons := 0, percent := false }
  else if c = '%' then some { scan with percent := true }
  else if isAuthorityChar c then some scan
  else none

/-- What was met makes a whole authority. -/
def AuthorityScan.isWhole (scan : AuthorityScan) : Bool :=
  scan.opened = scan.closed && scan.colons ≤ 1 && !scan.endsWithAt && !scan.percent

def endsAuthority (c : Char) : Bool := c = '/' || c = '?' || c = '#'

/-- Cuts an authority off a text: it reaches up to a slash, a question mark or a hash sign. -/
def cutAuthority? (cs : List Char) : Option (List Char × List Char) := do
  let authority := cs.takeWhile (!endsAuthority ·)
  let scan ← authority.foldlM AuthorityScan.step {}
  if scan.isWhole then some (authority, cs.drop authority.length) else none

/-- Reads a target that is an authority alone. -/
def parseAuthority? (cs : List Char) : Option Target :=
  match cutAuthority? cs with
  | some (authority, []) => some ⟨none, String.ofList authority, "", none⟩
  | _ => none

/-- Reads a target that may begin with a scheme. -/
def parseFull? (cs : List Char) : Option Target :=
  match cutScheme cs with
  | .tooLong => none
  | .absent => parseAuthority? cs
  | .found scheme rest => do
    let (authority, rest) ← cutAuthority? rest
    let (path, query) ← parsePath? rest
    if authority = [] then none
    else some ⟨some scheme, String.ofList authority, path, query⟩

def parse? (text : String) : Option Target :=
  if longest < (Text.utf8 text).length then none
  else
    match text.toList with
    | [] => none
    | ['*'] => some ⟨none, "", "*", none⟩
    | '/' :: rest => (parsePath? ('/' :: rest)).map fun (path, query) => ⟨none, "", path, query⟩
    | [c] => parseAuthority? [c]
    | cs => parseFull? cs

def render (t : Target) : String :=
  let scheme := match t.scheme with
    | none => ""
    | some scheme => scheme ++ "://"
  let query := match t.query with
    | none => ""
    | some query => "?" ++ query
  scheme ++ t.authority ++ t.path ++ query

end Target

end Gatehouse
