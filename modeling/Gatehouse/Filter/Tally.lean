import Gatehouse.Registry

/-!
# The tally

What the filters count while requests pass: invocations and rejections by filter, the decisions
of guards, and the nonces they issue.
-/

namespace Gatehouse

/-- How a guard classed a request. -/
inductive DecisionLabel where
  | entry
  | accepted
  | rejected
  deriving DecidableEq, Repr

/-- The counts so far. Rejections are counted by filter and status. -/
structure Tally where
  invocations : Registry String Nat
  rejections : Registry (String × Nat) Nat
  decisions : Registry DecisionLabel Nat
  issued : Nat
  deriving DecidableEq

namespace Tally

def zero : Tally := ⟨.empty, .empty, .empty, 0⟩

def increment {κ : Type} [DecidableEq κ] (counts : Registry κ Nat) (key : κ) :
    Registry κ Nat :=
  counts.put key ((counts.get? key).getD 0 + 1)

def invoke (t : Tally) (filter : String) : Tally :=
  { t with invocations := increment t.invocations filter }

def reject (t : Tally) (filter : String) (status : Nat) : Tally :=
  { t with rejections := increment t.rejections (filter, status) }

def decide (t : Tally) (label : DecisionLabel) : Tally :=
  { t with decisions := increment t.decisions label }

def issue (t : Tally) : Tally := { t with issued := t.issued + 1 }

end Tally

end Gatehouse
