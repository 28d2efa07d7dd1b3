import Gatehouse.Filter.Passage
import Gatehouse.Settings.Init

/-!
# The screen against failed requests

A screen rejects requests whose parameters could not be read. It has no options.
-/

namespace Gatehouse

structure Screen where
  deriving DecidableEq, Repr

namespace Screen

def read (r : InitReader) : Except InitError Screen := do
  r.finish
  return {}

def pass (_ : Screen) (p : Passage) : Verdict × Passage :=
  (if p.request.paramsFailed then .reject 400 "request parameters could not be parsed"
    else .proceed, p)

end Screen

instance : Filter Screen := ⟨Screen.pass⟩

end Gatehouse
