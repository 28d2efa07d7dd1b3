import Gatehouse.Text.Blank
import Gatehouse.Text.Ascii

/-!
# Dispatch phases

A request is filtered in one of four phases. A rule is bound to a set of phases; a set that was
never configured is *unset* and stands for the request phase alone.
-/

namespace Gatehouse

inductive Phase where
  | request
  | forward
  | inclusion
  | error
  deriving DecidableEq, Repr

namespace Phase

/-- All phases, in the order in which sets list them. -/
def all : List Phase := [.request, .forward, .inclusion, .error]

def name : Phase → String
  | .request => "REQUEST"
  | .forward => "FORWARD"
  | .inclusion => "INCLUDE"
  | .error => "ERROR"

end Phase

/-- A text, already trimmed, that names no phase. -/
structure UnknownPhase where
  text : String
  deriving DecidableEq, Repr

def UnknownPhase.message (e : UnknownPhase) : String :=
  s!"unknown dispatcher '{e.text}' (expected REQUEST, FORWARD, INCLUDE or ERROR)"

/-- The phase that a text names, blanks around it and the case of its letters aside. -/
def Phase.parse (text : String) : Except UnknownPhase Phase :=
  let word := Text.trim text
  match Phase.all.find? fun phase => Text.sameLetters phase.name word with
  | some phase => .ok phase
  | none => .error ⟨word⟩

/-- A set of phases; the empty set is the one that was never configured. -/
structure PhaseSet where
  onRequest : Bool
  onForward : Bool
  onInclusion : Bool
  onError : Bool
  deriving DecidableEq, Repr

namespace PhaseSet

def unset : PhaseSet := ⟨false, false, false, false⟩

def only : Phase → PhaseSet
  | .request => ⟨true, false, false, false⟩
  | .forward => ⟨false, true, false, false⟩
  | .inclusion => ⟨false, false, true, false⟩
  | .error => ⟨false, false, false, true⟩

def union (s t : PhaseSet) : PhaseSet :=
  ⟨s.onRequest || t.onRequest, s.onForward || t.onForward, s.onInclusion || t.onInclusion,
    s.onError || t.onError⟩

def insert (s : PhaseSet) (phase : Phase) : PhaseSet := s.union (only phase)

def ofList (phases : List Phase) : PhaseSet := phases.foldl insert unset

def isUnset (s : PhaseSet) : Bool := s = unset

def names (s : PhaseSet) : Phase → Bool
  | .request => s.onRequest
  | .forward => s.onForward
  | .inclusion => s.onInclusion
  | .error => s.onError

/-- The set in effect: an unset one stands for the request phase. -/
def resolve (s : PhaseSet) : PhaseSet := if s.isUnset then only .request else s

/-- The phase belongs to the set in effect. -/
def contains (s : PhaseSet) (phase : Phase) : Bool := s.resolve.names phase

/-- The phases of the set in effect, in the order of `Phase.all`. -/
def toList (s : PhaseSet) : List Phase := Phase.all.filter s.contains

/-- The set as a text: its phases joined by bars, or the word for an unset one. -/
def render (s : PhaseSet) : String :=
  if s.isUnset then "UNSET" else "|".intercalate (s.toList.map Phase.name)

end PhaseSet

end Gatehouse
