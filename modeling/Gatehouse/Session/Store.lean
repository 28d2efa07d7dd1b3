import Gatehouse.Registry
import Gatehouse.Nonce.Token
import Gatehouse.Nonce.Window

/-!
# The session store

Sessions hold attributes under text keys. Every access to a live session moves its last access to
the present; a session that has been idle for longer than the limit counts as gone, and the next
access to it removes it. `Store.purge` removes all of these at once. Times are milliseconds.
-/

namespace Gatehouse

structure SessionId where
  text : String
  deriving DecidableEq, Repr

/-- The handle made of a random block. -/
def SessionId.ofBlock (block : Block) : SessionId := ⟨block.token⟩

/-- What a session holds under a key. -/
inductive Attribute where
  | text (value : String)
  /-- A nonce window. The mark tells it from every other window made before or after it. -/
  | nonces (mark : Nat) (window : Window)
  deriving DecidableEq, Repr

/-- The attributes of a session, and when it was last accessed. -/
structure SessionEntry where
  attributes : Registry String Attribute
  lastAccess : Nat
  deriving DecidableEq

/-- The sessions held, and how long one may be idle. -/
structure Store where
  idleLimit : Nat
  sessions : Registry SessionId SessionEntry
  deriving DecidableEq

namespace Store

/-- How long a session may be idle when no limit is configured: half an hour. -/
def defaultIdleLimit : Nat := 30 * 60 * 1000

def empty (idleLimit : Nat) : Store := ⟨idleLimit, .empty⟩

/-- How many sessions are held, those that have been idle too long included. -/
def size (st : Store) : Nat := st.sessions.size

/-- The entry has been idle for longer than the limit. -/
def isExpired (st : Store) (now : Nat) (entry : SessionEntry) : Bool :=
  st.idleLimit < now - entry.lastAccess

/-- Puts an entry in the place of the one held for a session. -/
def update (st : Store) (id : SessionId) (entry : SessionEntry) : Store :=
  { st with sessions := st.sessions.put id entry }

def invalidate (st : Store) (id : SessionId) : Store :=
  { st with sessions := st.sessions.erase id }

/-- Accesses a session: the entry of a live one, with its last access moved to the present, or
nothing, and an expired entry is removed. -/
def touch (st : Store) (now : Nat) (id : SessionId) : Option SessionEntry × Store :=
  match st.sessions.get? id with
  | none => (none, st)
  | some entry =>
    if st.isExpired now entry then (none, st.invalidate id)
    else
      let entry := { entry with lastAccess := now }
      (some entry, st.update id entry)

def create (st : Store) (now : Nat) (id : SessionId) : Store :=
  st.update id ⟨.empty, now⟩

def isLive (st : Store) (now : Nat) (id : SessionId) : Bool × Store :=
  let (entry, st) := st.touch now id
  (entry.isSome, st)

/-- The attribute of a live session under a key. -/
def get (st : Store) (now : Nat) (id : SessionId) (key : String) : Option Attribute × Store :=
  let (entry, st) := st.touch now id
  (entry.bind (·.attributes.get? key), st)

/-- Sets an attribute of a live session; false if there is no such session. -/
def set (st : Store) (now : Nat) (id : SessionId) (key : String) (value : Attribute) :
    Bool × Store :=
  match st.touch now id with
  | (none, st) => (false, st)
  | (some entry, st) =>
    (true, st.update id { entry with attributes := entry.attributes.put key value })

/-- The attribute of a live session under a key, entered first if it is missing; nothing if there
is no such session. -/
def getOrInsert (st : Store) (now : Nat) (id : SessionId) (key : String) (initial : Attribute) :
    Option Attribute × Store :=
  match st.touch now id with
  | (none, st) => (none, st)
  | (some entry, st) =>
    match entry.attributes.get? key with
    | some held => (some held, st)
    | none =>
      (some initial, st.update id { entry with attributes := entry.attributes.put key initial })

/-- Removes the expired sessions, and counts them. -/
def purge (st : Store) (now : Nat) : Nat × Store :=
  let kept := st.sessions.retain fun _ entry => !st.isExpired now entry
  (st.sessions.size - kept.size, { st with sessions := kept })

/-- Enters a token into the window that a session holds under a key, if the window still bears
the mark. The session does not count as accessed. -/
def addToken (st : Store) (id : SessionId) (key : String) (mark : Nat) (token : String) : Store :=
  match st.sessions.get? id with
  | none => st
  | some entry =>
    match entry.attributes.get? key with
    | some (.nonces held window) =>
      if held = mark then
        st.update id
          { entry with attributes := entry.attributes.put key (.nonces held (window.add token)) }
      else st
    | _ => st

end Store

end Gatehouse
