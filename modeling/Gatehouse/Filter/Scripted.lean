import Gatehouse.Filter.Passage

/-!
# Scripted filters

A scripted filter does what was laid down for it, whatever the request is. It serves to rehearse
a pipeline.
-/

namespace Gatehouse

/-- What a filter is to do. -/
structure Script where
  suffix : Option String := none
  /-- Written behind the target of a redirect instead, where links have a suffix. -/
  redirectSuffix : Option String := none
  /-- The session to be attached to the request as a new one. -/
  session : Option SessionId := none
  /-- The status of a rejection; without one the request proceeds. -/
  rejection : Option Nat := none
  reason : String := ""
  deriving DecidableEq, Repr

namespace Script

def decoration? (s : Script) : Option Decoration :=
  s.suffix.map fun suffix => .affix suffix (s.redirectSuffix.getD suffix)

def pass (s : Script) (p : Passage) : Verdict × Passage :=
  let links := match s.decoration? with
    | none => p.links
    | some decoration => p.links.wrap decoration
  let request := match s.session with
    | none => p.request
    | some id => p.request.attach id
  let verdict := match s.rejection with
    | none => .proceed
    | some status => .reject status s.reason
  (verdict, { p with links, request })

end Script

instance : Filter Script := ⟨Script.pass⟩

end Gatehouse
