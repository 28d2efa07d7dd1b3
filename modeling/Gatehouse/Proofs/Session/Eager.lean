import Gatehouse.Proofs.Session.Diary

/-!
# The store as an eager one

Operations on a store are recorded with their times. From the record alone one can tell which
sessions are alive and what they hold: the last value set under a key, or the first one entered.
`eagerReply` answers an operation from that, as a store would in which idle sessions vanish at
once. The store, which drops them lazily, gives the same answers; a purge changes none of the later
ones, and a session that is dead stays dead as long as handles are fresh.
-/

namespace Gatehouse

namespace Store

inductive Op where
  | create (id : SessionId)
  | isLive (id : SessionId)
  | get (id : SessionId) (key : String)
  | set (id : SessionId) (key : String) (value : Attribute)
  | getOrInsert (id : SessionId) (key : String) (initial : Attribute)
  | invalidate (id : SessionId)
  | purge
  deriving DecidableEq, Repr

inductive Reply where
  | begun (id : SessionId)
  | live (answer : Bool)
  | found (held : Option Attribute)
  | stored (answer : Bool)
  | ended
  | purged (count : Nat)
  deriving DecidableEq, Repr

def perform (st : Store) (now : Nat) : Op → Reply × Store
  | .create id => (.begun id, st.create now id)
  | .isLive id => (.live (st.isLive now id).1, (st.isLive now id).2)
  | .get id key => (.found (st.get now id key).1, (st.get now id key).2)
  | .set id key value => (.stored (st.set now id key value).1, (st.set now id key value).2)
  | .getOrInsert id key initial =>
    (.found (st.getOrInsert now id key initial).1, (st.getOrInsert now id key initial).2)
  | .invalidate id => (.ended, st.invalidate id)
  | .purge => (.purged (st.purge now).1, (st.purge now).2)

/-- The session that an operation accesses. -/
def Op.accessed? : Op → Option SessionId
  | .isLive id | .get id _ | .set id _ _ | .getOrInsert id _ _ => some id
  | _ => none

/-- What a diary notes of an operation. -/
def Op.note? : Op → Option Note
  | .create id => some (.begun id)
  | .invalidate id => some (.ended id)
  | op => op.accessed?.map .accessed

/-- An operation and when it was performed. -/
structure Event where
  time : Nat
  op : Op
  deriving DecidableEq, Repr

/-! ## Records of events, the latest one first -/

/-- The clock never went back. -/
def InOrder (events : List Event) : Prop :=
  events.Pairwise fun later earlier => earlier.time ≤ later.time

instance (events : List Event) : Decidable (InOrder events) :=
  inferInstanceAs (Decidable (events.Pairwise _))

def handles (events : List Event) : List SessionId :=
  events.filterMap fun e => match e.op with
    | .create id => some id
    | _ => none

/-- The store that events leave behind, where none was before. -/
def after (idleLimit : Nat) : List Event → Store
  | [] => .empty idleLimit
  | e :: past => ((after idleLimit past).perform e.time e.op).2

/-- What a store answers to the next event. -/
def reply (idleLimit : Nat) (past : List Event) (e : Event) : Reply :=
  ((after idleLimit past).perform e.time e.op).1

def diary (events : List Event) : Diary :=
  events.filterMap fun e => e.op.note?.map (e.time, ·)

/-- What a session holds under a key if it is alive: the last value that was set, or the first one
that was entered, since it was begun. -/
def value? (id : SessionId) (key : String) : List Event → Option Attribute
  | [] => none
  | e :: past => match e.op with
    | .create id' => if id' = id then none else value? id key past
    | .set id' key' value =>
      if id' = id ∧ key' = key then some value else value? id key past
    | .getOrInsert id' key' initial =>
      if id' = id ∧ key' = key then some ((value? id key past).getD initial)
      else value? id key past
    | _ => value? id key past

abbrev AliveAfter (idleLimit : Nat) (past : List Event) (now : Nat) (id : SessionId) : Prop :=
  (diary past).Alive idleLimit now id

/-- The answer of a store in which dead sessions are gone at once. A purge counts the sessions
that are dead but still held. -/
def eagerReply (idleLimit : Nat) (past : List Event) (e : Event) : Reply :=
  match e.op with
  | .create id => .begun id
  | .isLive id => .live (AliveAfter idleLimit past e.time id)
  | .get id key =>
    .found (if AliveAfter idleLimit past e.time id then value? id key past else none)
  | .set id _ _ => .stored (AliveAfter idleLimit past e.time id)
  | .getOrInsert id key initial =>
    .found (if AliveAfter idleLimit past e.time id then some ((value? id key past).getD initial)
      else none)
  | .invalidate _ => .ended
  | .purge => .purged ((after idleLimit past).sessions.keys.countP fun id =>
      ¬ AliveAfter idleLimit past e.time id)

/-! ## The simulation -/

variable {idleLimit now : Nat} {past : List Event} {e : Event}

/-- The live entries of a store are those of the sessions alive after some events, with the
attributes that the events gave them. -/
structure Simulates (st : Store) (now : Nat) (past : List Event) : Prop where
  mirrors : st.Mirrors now (diary past)
  value? : ∀ id entry key, st.live? now id = some entry →
    entry.attributes.get? key = value? id key past

theorem Simulates.later {st : Store} (sim : Simulates st now past) {future : Nat}
    (h : now ≤ future) : Simulates st future past := by
  refine ⟨sim.mirrors.later h, fun id entry key held => ?_⟩
  rw [live?_later h, Option.filter_eq_some_iff] at held
  exact sim.value? id entry key held.1

theorem Simulates.access {st st' : Store} (sim : Simulates st e.time past) {id : SessionId}
    {f : SessionEntry → SessionEntry}
    (becomes : Becomes st e.time id ((st.live? e.time id).map f) st')
    (time : ∀ entry, (f entry).lastAccess = e.time)
    (note : e.op.note? = some (.accessed id))
    (values : ∀ id' entry key, st.live? e.time id' = some entry →
      (if id' = id then f entry else entry).attributes.get? key = Store.value? id' key (e :: past)) :
    Simulates st' e.time (e :: past) := by
  constructor
  · simpa [diary, note] using sim.mirrors.access becomes time
  · intro id' entry key held
    by_cases h : id' = id
    · rw [h, becomes.self, Option.map_eq_some_iff] at held
      obtain ⟨before, held, rfl⟩ := held
      have := values id' before key (h ▸ held)
      rwa [if_pos h] at this
    · rw [becomes.other h] at held
      have := values id' entry key held
      rwa [if_neg h] at this

theorem Simulates.perform {st : Store} (sim : Simulates st e.time past) :
    Simulates (st.perform e.time e.op).2 e.time (e :: past) := by
  obtain ⟨time, op⟩ := e
  cases op with
  | create id =>
    have becomes := create_becomes st time id
    refine ⟨sim.mirrors.begin becomes rfl, fun id' entry key held => ?_⟩
    rw [Store.perform] at held
    by_cases h : id = id'
    · subst h
      rw [becomes.self, Option.some.injEq] at held
      simp [Store.value?, ← held]
    · rw [becomes.other (Ne.symm h)] at held
      simp only [Store.value?, if_neg h]
      exact sim.value? id' entry key held
  | isLive id =>
    refine sim.access (isLive_becomes st time id) (fun _ => rfl) rfl fun id' entry key held => ?_
    rw [Store.value?, ← sim.value? id' entry key held]
    split <;> rfl
  | get id key =>
    refine sim.access (get_becomes st time id key) (fun _ => rfl) rfl fun id' entry key held => ?_
    rw [Store.value?, ← sim.value? id' entry key held]
    split <;> rfl
  | set id key value =>
    refine sim.access (set_becomes st time id key value) (fun _ => rfl) rfl
      fun id' entry key' held => ?_
    have := sim.value? id' entry key' held
    simp only [Store.value?]
    by_cases h : id' = id <;> by_cases h' : key' = key <;> simp_all [eq_comm]
  | getOrInsert id key initial =>
    refine sim.access (getOrInsert_becomes st time id key initial) (fun _ => by simp) rfl
      fun id' entry key' held => ?_
    have := sim.value? id' entry key' held
    simp only [Store.value?]
    by_cases h : id' = id <;> by_cases h' : key' = key <;>
      simp_all [SessionEntry.getD, eq_comm]
  | invalidate id =>
    have becomes := invalidate_becomes st time id
    refine ⟨sim.mirrors.end becomes, fun id' entry key held => ?_⟩
    rw [Store.perform] at held
    by_cases h : id' = id
    · simp [h, becomes.self] at held
    · rw [becomes.other h] at held
      exact sim.value? id' entry key held
  | purge =>
    refine ⟨sim.mirrors.purge, fun id entry key held => ?_⟩
    rw [Store.perform, live?_purge] at held
    exact sim.value? id entry key held

theorem idleLimit_perform (st : Store) (now : Nat) (op : Op) :
    (st.perform now op).2.idleLimit = st.idleLimit := by
  cases op with
  | create id => rfl
  | isLive id => exact (isLive_becomes ..).idleLimit
  | get id key => exact (get_becomes st now id key).idleLimit
  | set id key value => exact (set_becomes ..).idleLimit
  | getOrInsert id key initial => exact (getOrInsert_becomes ..).idleLimit
  | invalidate id => rfl
  | purge => rfl

theorem idleLimit_after (idleLimit : Nat) (past : List Event) :
    (after idleLimit past).idleLimit = idleLimit := by
  induction past with
  | nil => rfl
  | cons e past ih => rw [after, idleLimit_perform, ih]

/-- The store that events leave behind simulates them from the last of them on. -/
theorem after_simulates (ordered : InOrder past) (past_le : ∀ e ∈ past, e.time ≤ now) :
    Simulates (after idleLimit past) now past := by
  induction past generalizing now with
  | nil =>
    refine ⟨mirrors_empty idleLimit now, fun id entry key held => ?_⟩
    simp [after] at held
  | cons e past ih =>
    rw [InOrder, List.pairwise_cons] at ordered
    have sim : Simulates (after idleLimit past) e.time past := ih ordered.2 ordered.1
    exact sim.perform.later (past_le e List.mem_cons_self)

/-! ## Answers -/

theorem Simulates.alive (sim : Simulates (after idleLimit past) now past) (id : SessionId) :
    ((after idleLimit past).live? now id).isSome = decide (AliveAfter idleLimit past now id) := by
  have := sim.mirrors.alive id
  rw [idleLimit_after] at this
  rw [Bool.eq_iff_iff, this, decide_eq_true_iff]

theorem purge_fst (st : Store) (now : Nat) :
    (st.purge now).1 = st.sessions.keys.countP fun id => (st.live? now id).isNone := by
  have expired : ∀ entry ∈ st.sessions.entries,
      ((st.live? now entry.1).isNone = true ↔ (!!st.isExpired now entry.2) = true) := by
    rintro ⟨id, entry⟩ held
    rw [live?, Registry.get?_eq_some_iff.2 held]
    cases expired : st.isExpired now entry <;> simp [Option.filter, expired]
  rw [Registry.keys, List.countP_map]
  simp only [Function.comp_def]
  rw [List.countP_congr expired]
  have total := List.length_eq_countP_add_countP (l := st.sessions.entries)
    fun entry => !st.isExpired now entry.2
  simp only [purge, Registry.size, Registry.retain, ← List.countP_eq_length_filter]
  simp only [Bool.not_eq_true, Bool.decide_eq_false] at total
  omega

theorem size_purge (st : Store) (now : Nat) :
    (st.purge now).2.size + (st.purge now).1 = st.size := by
  have : (st.purge now).2.size ≤ st.size := List.length_filter_le _ _
  show (st.purge now).2.size + (st.size - (st.purge now).2.size) = st.size
  omega

theorem reply_eq (ordered : InOrder (e :: past)) :
    reply idleLimit past e = eagerReply idleLimit past e := by
  rw [InOrder, List.pairwise_cons] at ordered
  have sim : Simulates (after idleLimit past) e.time past :=
    after_simulates ordered.2 ordered.1
  obtain ⟨now, op⟩ := e
  cases op with
  | create id => rfl
  | isLive id => simp only [reply, perform, eagerReply, isLive_fst, sim.alive]
  | get id key =>
    have alive := sim.alive id
    simp only [reply, perform, eagerReply, get_fst]
    cases held : (after idleLimit past).live? now id with
    | none => simp_all
    | some entry =>
      have := sim.value? id entry key held
      simp_all
  | set id key value => simp only [reply, perform, eagerReply, set_fst, sim.alive]
  | getOrInsert id key initial =>
    have alive := sim.alive id
    simp only [reply, perform, eagerReply, getOrInsert_fst]
    cases held : (after idleLimit past).live? now id with
    | none => simp_all
    | some entry =>
      have := sim.value? id entry key held
      simp_all [SessionEntry.getD]
  | invalidate id => rfl
  | purge =>
    -- what is held but not live is held but dead
    simp only [reply, perform, eagerReply, purge_fst, Reply.purged.injEq]
    refine List.countP_congr fun id _ => ?_
    have alive := sim.alive id
    cases held : (after idleLimit past).live? now id <;> simp_all

/-! ## Purges and dead sessions -/

theorem InOrder.drop_middle (more : List Event) (ordered : InOrder (more ++ e :: past)) :
    InOrder (more ++ past) :=
  List.Pairwise.sublist (List.Sublist.append_left (List.sublist_cons_self e past) more) ordered

theorem value?_purge {more : List Event} (h : e.op = .purge) (id : SessionId) (key : String) :
    value? id key (more ++ e :: past) = value? id key (more ++ past) := by
  induction more with
  | nil => simp [value?, h]
  | cons later more ih => simp only [List.cons_append, value?, ih]

theorem diary_purge {more : List Event} (h : e.op = .purge) :
    diary (more ++ e :: past) = diary (more ++ past) := by
  simp [diary, h, Op.note?, Op.accessed?]

theorem reply_purge {more : List Event} {last : Event}
    (ordered : InOrder (last :: more ++ e :: past)) (h : e.op = .purge)
    (access : last.op.accessed?.isSome) :
    reply idleLimit (more ++ e :: past) last = reply idleLimit (more ++ past) last := by
  have shorter : InOrder (last :: (more ++ past)) :=
    InOrder.drop_middle (last :: more) ordered
  rw [List.cons_append] at ordered
  rw [reply_eq ordered, reply_eq shorter]
  simp only [eagerReply, AliveAfter, diary_purge h, value?_purge h]
  cases op : last.op <;> simp_all [Op.accessed?]

/-- A session that is dead stays dead: its handle is never given out again. -/
theorem dead_stays_dead {more : List Event} {id : SessionId}
    (fresh : (handles (more ++ past)).Nodup) (begun : id ∈ handles past)
    (dead : ¬ AliveAfter idleLimit past now id) {future : Nat}
    (ordered : InOrder (more ++ past)) (le : ∀ e ∈ more, now ≤ e.time ∧ e.time ≤ future)
    (now_le : now ≤ future) : ¬ AliveAfter idleLimit (more ++ past) future id := by
  -- from event to event: no note but a beginning brings the session back, and that takes its handle
  induction more generalizing future with
  | nil => exact fun alive => dead ((Diary.alive_later now_le).1 alive).1
  | cons e more ih =>
    have bounds := le e List.mem_cons_self
    rw [List.cons_append, InOrder, List.pairwise_cons] at ordered
    have still : ¬ AliveAfter idleLimit (more ++ past) e.time id := by
      refine ih ?_ ordered.2 (fun e' h => ⟨(le e' (List.mem_cons_of_mem _ h)).1, ?_⟩) bounds.1
      · exact fresh.sublist (List.Sublist.filterMap _ (List.sublist_cons_self ..))
      · exact ordered.1 e' (List.mem_append_left _ h)
    intro alive
    rw [AliveAfter, diary, List.cons_append, List.filterMap_cons] at alive
    cases note : e.op.note? with
    | none =>
      rw [note] at alive
      exact still ((Diary.alive_later bounds.2).1 alive).1
    | some note' =>
      rw [note] at alive
      refine still (alive.before ?_ bounds.2)
      rintro rfl
      have op : e.op = .create id := by
        cases op : e.op <;> simp_all [Op.note?, Op.accessed?]
      rw [List.cons_append, handles, List.filterMap_cons, op, List.nodup_cons,
        List.filterMap_append, List.mem_append, not_or] at fresh
      exact fresh.1.2 begun

/-- **The lazy store answers as the eager one.** -/
theorem refines_eager (idleLimit : Nat) (past : List Event) (e : Event)
    (ordered : InOrder (e :: past)) :
    reply idleLimit past e = eagerReply idleLimit past e ∧
    (∀ count, reply idleLimit past e = .purged count →
      (after idleLimit (e :: past)).size + count = (after idleLimit past).size) ∧
    ∀ more last, InOrder (last :: more ++ e :: past) →
      (e.op = .purge → last.op.accessed?.isSome →
        reply idleLimit (more ++ e :: past) last = reply idleLimit (more ++ past) last) ∧
      ((handles (more ++ e :: past)).Nodup → ∀ id ∈ handles past,
        ¬ AliveAfter idleLimit past e.time id →
        ¬ AliveAfter idleLimit (more ++ e :: past) last.time id) := by
  refine ⟨reply_eq ordered, ?_, fun more last ordered' => ⟨reply_purge ordered', ?_⟩⟩
  · intro count h
    obtain ⟨now, op⟩ := e
    cases op with
    | purge =>
      obtain rfl : (purge (after idleLimit past) now).1 = count := by simpa [reply, perform] using h
      exact size_purge _ _
    | _ => simp [reply, perform] at h
  · intro fresh id begun dead
    rw [List.cons_append, InOrder, List.pairwise_cons] at ordered'
    rw [show more ++ e :: past = (more ++ [e]) ++ past by simp] at fresh ordered' ⊢
    have from_e : ∀ e' ∈ more ++ [e], e.time ≤ e'.time := by
      intro e' h
      rcases List.mem_append.1 h with h | h
      · have := List.pairwise_append.1 (List.pairwise_append.1 ordered'.2).1
        exact this.2.2 e' h e (List.mem_singleton_self e)
      · rw [List.mem_singleton.1 h]
    refine dead_stays_dead fresh begun dead ordered'.2 (fun e' h => ⟨from_e e' h, ?_⟩) ?_
    · exact ordered'.1 e' (List.mem_append_left _ h)
    · exact ordered'.1 e (by simp)

/-- One session was accessed in time and one was not: a purge removes the second, and the first
still answers when it has been idle for exactly the limit. -/
theorem refines_eager_at_limit :
    let past : List Event := [⟨12, .isLive ⟨"a"⟩⟩, ⟨5, .getOrInsert ⟨"a"⟩ "k" (.text "v")⟩,
      ⟨2, .create ⟨"b"⟩⟩, ⟨0, .create ⟨"a"⟩⟩]
    let purge : Event := ⟨15, .purge⟩
    let last : Event := ⟨22, .get ⟨"a"⟩ "k"⟩
    InOrder (last :: [] ++ purge :: past) ∧ reply 10 past purge = .purged 1 ∧
      reply 10 (purge :: past) last = .found (some (.text "v")) ∧
      ¬ AliveAfter 10 (purge :: past) last.time ⟨"b"⟩ := by
  intro past purge last
  have ordered : InOrder (last :: [] ++ purge :: past) := by decide
  obtain ⟨counted, -, keeps⟩ := refines_eager 10 past purge (by decide)
  obtain ⟨same, dead⟩ := keeps [] last ordered
  refine ⟨ordered, counted.trans (by decide), (same rfl rfl).trans ?_, ?_⟩
  · exact (refines_eager 10 past last (by decide)).1.trans (by decide)
  · exact dead (by decide) ⟨"b"⟩ (by decide) (by decide)

end Store

end Gatehouse
