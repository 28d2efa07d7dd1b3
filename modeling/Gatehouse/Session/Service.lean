import Gatehouse.Session.Store

/-!
# Session services

A service gives filters access to a store. The full service offers every operation of the store.
The basic one has neither its get-or-insert, which it makes up from `get` and `set`, nor its
purge. The refusing one is basic, and ends each session as soon as it is created.
-/

namespace Gatehouse

/-- How much of a store a service offers. -/
inductive Backing where
  | full
  | basic
  | refusing
  deriving DecidableEq, Repr

structure Sessions where
  backing : Backing
  store : Store
  deriving DecidableEq

namespace Sessions

def start (backing : Backing) (idleLimit : Nat) : Sessions := ⟨backing, .empty idleLimit⟩

/-- Runs an operation of the store. -/
def via {α : Type} (s : Sessions) (run : Store → α × Store) : α × Sessions :=
  let (answer, store) := run s.store
  (answer, { s with store })

def size (s : Sessions) : Nat := s.store.size

def create (s : Sessions) (now : Nat) (id : SessionId) : Sessions :=
  let store := s.store.create now id
  match s.backing with
  | .refusing => { s with store := store.invalidate id }
  | _ => { s with store }

def invalidate (s : Sessions) (id : SessionId) : Sessions :=
  { s with store := s.store.invalidate id }

def isLive (s : Sessions) (now : Nat) (id : SessionId) : Bool × Sessions :=
  s.via (·.isLive now id)

/-- The attribute of a live session under a key. -/
def get (s : Sessions) (now : Nat) (id : SessionId) (key : String) :
    Option Attribute × Sessions :=
  s.via (·.get now id key)

/-- Sets an attribute of a live session; false if there is no such session. -/
def set (s : Sessions) (now : Nat) (id : SessionId) (key : String) (value : Attribute) :
    Bool × Sessions :=
  s.via (·.set now id key value)

/-- Get-or-insert made up from two accesses: a look-up, and a write if nothing was found. -/
def getThenSet (st : Store) (now : Nat) (id : SessionId) (key : String) (initial : Attribute) :
    Option Attribute × Store :=
  match st.get now id key with
  | (some held, st) => (some held, st)
  | (none, st) =>
    match st.set now id key initial with
    | (true, st) => (some initial, st)
    | (false, st) => (none, st)

/-- The attribute of a live session under a key, entered first if it is missing. -/
def getOrInsert (s : Sessions) (now : Nat) (id : SessionId) (key : String)
    (initial : Attribute) : Option Attribute × Sessions :=
  match s.backing with
  | .full => s.via (·.getOrInsert now id key initial)
  | _ => s.via fun st => getThenSet st now id key initial

/-- Removes the expired sessions and counts them, where the service offers it. -/
def purge (s : Sessions) (now : Nat) : Nat × Sessions :=
  match s.backing with
  | .full => s.via (·.purge now)
  | _ => (0, s)

/-- Enters a token into the window with a mark that a session holds under a key. -/
def addToken (s : Sessions) (id : SessionId) (key : String) (mark : Nat) (token : String) :
    Sessions :=
  { s with store := s.store.addToken id key mark token }

end Sessions

end Gatehouse
