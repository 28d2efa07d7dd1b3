import Mathlib.Data.List.Chain
import Gatehouse.Proofs.Session.Access

/-!
# Diaries

A diary notes when sessions were begun, accessed and ended. Whether a session is alive is read off
the diary alone (`Diary.Alive`): it was begun, it was not ended since, and it was never idle for
longer than the limit, neither between two accesses nor from the last one to the present.

A store, on the other hand, drops an idle session only when something comes across it.
`Store.Mirrors` says that its live entries are those of the sessions alive by a diary, last
accessed when the diary says. Every operation keeps this with the note it makes, and so does time.
-/

namespace Gatehouse

inductive Note where
  | begun (id : SessionId)
  | accessed (id : SessionId)
  | ended (id : SessionId)
  deriving DecidableEq, Repr

def Note.session : Note → SessionId
  | .begun id | .accessed id | .ended id => id

/-- Notes with their times, the latest one first. -/
abbrev Diary := List (Nat × Note)

namespace Diary

/-- The notes from the beginning of a session on. -/
def since? (id : SessionId) : Diary → Option Diary
  | [] => none
  | note :: past => if note.2 = .begun id then some [note] else (since? id past).map (note :: ·)

/-- When a session was accessed; to be begun counts. -/
def visits (id : SessionId) (diary : Diary) : List Nat :=
  diary.filterMap fun note =>
    if note.2 = .begun id ∨ note.2 = .accessed id then some note.1 else none

/-- The session was begun, was not ended since, and has never been idle for longer than the
limit. -/
def Alive (idleLimit now : Nat) (id : SessionId) (diary : Diary) : Prop :=
  ∃ story ∈ since? id diary, (∀ note ∈ story, note.2 ≠ .ended id) ∧
    (now :: visits id story).IsChain fun later earlier => later - earlier ≤ idleLimit

instance (idleLimit now : Nat) (id : SessionId) (diary : Diary) :
    Decidable (Alive idleLimit now id diary) :=
  inferInstanceAs (Decidable (∃ story ∈ since? id diary, _ ∧ _))

def lastVisit? (id : SessionId) (diary : Diary) : Option Nat :=
  (since? id diary).bind fun story => (visits id story).head?

def begun (diary : Diary) : List SessionId :=
  diary.filterMap fun note => match note.2 with
    | .begun id => some id
    | _ => none

variable {idleLimit now future time : Nat} {id : SessionId} {note : Note} {past : Diary}

@[simp] theorem not_alive_nil : ¬ Alive idleLimit now id [] := by
  rintro ⟨story, begun, _⟩
  simp [since?] at begun

theorem visits_ne_nil {story : Diary} (begun : since? id past = some story) :
    visits id story ≠ [] := by
  induction past generalizing story with
  | nil => simp [since?] at begun
  | cons note past ih =>
    rw [since?] at begun
    split at begun
    · next h =>
      obtain rfl := Option.some.inj begun
      simp [visits, h]
    · obtain ⟨rest, earlier, rfl⟩ := Option.map_eq_some_iff.1 begun
      have := ih earlier
      simp only [visits, List.filterMap_cons] at this ⊢
      split <;> simp_all

theorem Alive.begun {diary : Diary} (alive : diary.Alive idleLimit now id) : id ∈ diary.begun := by
  obtain ⟨story, began, -⟩ := alive
  rw [Option.mem_def] at began
  induction diary generalizing story with
  | nil => simp [since?] at began
  | cons note past ih =>
    rw [since?] at began
    split at began
    · next h => simp [Diary.begun, h]
    · obtain ⟨rest, earlier, -⟩ := Option.map_eq_some_iff.1 began
      have := ih rest earlier
      simp only [Diary.begun, List.filterMap_cons] at this ⊢
      split
      · exact this
      · exact List.mem_cons_of_mem _ this

/-! ## One note more -/

theorem alive_begun :
    Alive idleLimit now id ((time, .begun id) :: past) ↔ now - time ≤ idleLimit := by
  simp [Alive, since?, visits]

theorem lastVisit?_begun : lastVisit? id ((time, .begun id) :: past) = some time := by
  simp [lastVisit?, since?, visits]

theorem alive_accessed :
    Alive idleLimit now id ((time, .accessed id) :: past) ↔
      Alive idleLimit time id past ∧ now - time ≤ idleLimit := by
  simp only [Alive, since?, reduceCtorEq, if_false, Option.mem_def, Option.map_eq_some_iff]
  constructor
  · rintro ⟨_, ⟨story, begun, rfl⟩, lasting, chain⟩
    simp only [visits, List.filterMap_cons, or_true, if_true, List.isChain_cons_cons] at chain
    exact ⟨⟨story, begun, fun note h => lasting note (List.mem_cons_of_mem _ h), chain.2⟩, chain.1⟩
  · rintro ⟨⟨story, begun, lasting, chain⟩, idle⟩
    refine ⟨_, ⟨story, begun, rfl⟩, ?_, ?_⟩
    · simpa using lasting
    · simp only [visits, List.filterMap_cons, or_true, if_true, List.isChain_cons_cons]
      exact ⟨idle, chain⟩

theorem lastVisit?_accessed (alive : Alive idleLimit now id past) :
    lastVisit? id ((time, .accessed id) :: past) = some time := by
  obtain ⟨story, begun, -⟩ := alive
  rw [Option.mem_def] at begun
  simp [lastVisit?, since?, visits, begun]

theorem not_alive_ended : ¬ Alive idleLimit now id ((time, .ended id) :: past) := by
  rintro ⟨story, begun, lasting, -⟩
  simp only [since?, reduceCtorEq, if_false, Option.mem_def, Option.map_eq_some_iff] at begun
  obtain ⟨rest, -, rfl⟩ := begun
  exact lasting _ (List.mem_cons_self) rfl

theorem since?_other (h : note.session ≠ id) :
    since? id ((time, note) :: past) = (since? id past).map ((time, note) :: ·) := by
  rw [since?, if_neg]
  rintro rfl
  exact h rfl

theorem visits_other (h : note.session ≠ id) : visits id ((time, note) :: past) = visits id past := by
  have : ¬ (note = .begun id ∨ note = .accessed id) := by
    rintro (rfl | rfl) <;> exact h rfl
  simp [visits, this]

theorem alive_other (h : note.session ≠ id) :
    Alive idleLimit now id ((time, note) :: past) ↔ Alive idleLimit now id past := by
  have foreign : note ≠ .ended id := by rintro rfl; exact h rfl
  simp only [Alive, since?_other h, Option.mem_def, Option.map_eq_some_iff]
  constructor
  · rintro ⟨_, ⟨story, begun, rfl⟩, lasting, chain⟩
    rw [visits_other h] at chain
    exact ⟨story, begun, fun note h => lasting note (List.mem_cons_of_mem _ h), chain⟩
  · rintro ⟨story, begun, lasting, chain⟩
    refine ⟨_, ⟨story, begun, rfl⟩, ?_, by rwa [visits_other h]⟩
    simpa [foreign] using lasting

theorem lastVisit?_other (h : note.session ≠ id) :
    lastVisit? id ((time, note) :: past) = lastVisit? id past := by
  simp only [lastVisit?, since?_other h]
  cases since? id past with
  | none => rfl
  | some story => simp [visits_other h]

theorem alive_later (h : now ≤ future) :
    Alive idleLimit future id past ↔
      Alive idleLimit now id past ∧ ∃ last ∈ lastVisit? id past, future - last ≤ idleLimit := by
  simp only [Alive, lastVisit?, Option.mem_def]
  cases begun : since? id past with
  | none => simp
  | some story =>
    obtain ⟨last, earlier, visited⟩ := List.exists_cons_of_ne_nil (visits_ne_nil begun)
    simp only [Option.some.injEq, exists_eq_left', Option.bind_some, visited, List.head?_cons,
      List.isChain_cons_cons]
    constructor
    · rintro ⟨lasting, idle, chain⟩
      exact ⟨⟨lasting, by omega, chain⟩, idle⟩
    · rintro ⟨⟨lasting, -, chain⟩, idle⟩
      exact ⟨lasting, idle, chain⟩

theorem Alive.before (alive : Alive idleLimit future id ((time, note) :: past))
    (old : note ≠ .begun id) (h : time ≤ future) : Alive idleLimit time id past := by
  by_cases same : note.session = id
  · cases note with
    -- only its beginning brings a session to life
    | begun id' => exact (old (congrArg Note.begun same)).elim
    | accessed id' =>
      obtain rfl : id' = id := same
      exact (alive_accessed.1 alive).1
    | ended id' =>
      obtain rfl : id' = id := same
      exact (not_alive_ended alive).elim
  · exact ((alive_later h).1 ((alive_other same).1 alive)).1

end Diary

/-! ## Stores and diaries -/

namespace Store

/-- The live entries of a store are those of the sessions alive by a diary. -/
structure Mirrors (st : Store) (now : Nat) (diary : Diary) : Prop where
  alive : ∀ id, (st.live? now id).isSome ↔ diary.Alive st.idleLimit now id
  lastAccess : ∀ id entry, st.live? now id = some entry →
    diary.lastVisit? id = some entry.lastAccess

variable {st st' : Store} {now future : Nat} {diary : Diary} {id : SessionId}

theorem mirrors_empty (idleLimit now : Nat) : (empty idleLimit).Mirrors now [] := by
  constructor <;> simp

theorem Mirrors.later (mirrors : st.Mirrors now diary) (h : now ≤ future) :
    st.Mirrors future diary := by
  constructor
  · intro id
    rw [Diary.alive_later h, live?_later h, ← mirrors.alive id]
    cases held : st.live? now id with
    | none => simp
    | some entry =>
      rw [mirrors.lastAccess id entry held]
      by_cases idle : future - entry.lastAccess ≤ st.idleLimit <;>
        simp [Option.filter, idle] <;> omega
  · intro id entry held
    rw [live?_later h, Option.filter_eq_some_iff] at held
    exact mirrors.lastAccess id entry held.1

theorem Mirrors.congr (mirrors : st.Mirrors now diary) (limit : st'.idleLimit = st.idleLimit)
    (same : ∀ id, (st'.live? now id).map SessionEntry.lastAccess =
      (st.live? now id).map SessionEntry.lastAccess) : st'.Mirrors now diary := by
  constructor
  · intro id
    have := congrArg Option.isSome (same id)
    rw [Option.isSome_map, Option.isSome_map] at this
    rw [limit, ← mirrors.alive id, this]
  · intro id entry held
    have := same id
    rw [held, Option.map_some, eq_comm, Option.map_eq_some_iff] at this
    obtain ⟨entry', held', h⟩ := this
    rw [← h]
    exact mirrors.lastAccess id entry' held'

theorem Mirrors.note (mirrors : st.Mirrors now diary) {entry : Option SessionEntry} {note : Note}
    (becomes : Becomes st now note.session entry st')
    (alive : entry.isSome ↔ Diary.Alive st.idleLimit now note.session ((now, note) :: diary))
    (lastAccess : ∀ entry', entry = some entry' →
      Diary.lastVisit? note.session ((now, note) :: diary) = some entry'.lastAccess) :
    st'.Mirrors now ((now, note) :: diary) := by
  constructor
  · intro id
    rw [becomes.idleLimit]
    by_cases h : id = note.session
    · rw [h, becomes.self, alive]
    · rw [becomes.other h, Diary.alive_other (Ne.symm h), mirrors.alive]
  · intro id entry' held
    by_cases h : id = note.session
    · rw [h, becomes.self] at held
      rw [h]
      exact lastAccess entry' held
    · rw [becomes.other h] at held
      rw [Diary.lastVisit?_other (Ne.symm h)]
      exact mirrors.lastAccess id entry' held

theorem Mirrors.access (mirrors : st.Mirrors now diary) {f : SessionEntry → SessionEntry}
    (becomes : Becomes st now id ((st.live? now id).map f) st')
    (time : ∀ entry, (f entry).lastAccess = now) :
    st'.Mirrors now ((now, .accessed id) :: diary) := by
  refine mirrors.note becomes ?_ fun entry' held => ?_
  · show _ ↔ Diary.Alive st.idleLimit now id _
    rw [Diary.alive_accessed, ← mirrors.alive]
    simp
  · obtain ⟨before, live, rfl⟩ := Option.map_eq_some_iff.1 held
    have alive := (mirrors.alive id).1 (Option.isSome_of_eq_some live)
    rw [time]
    exact Diary.lastVisit?_accessed alive

theorem Mirrors.begin (mirrors : st.Mirrors now diary) {entry : SessionEntry}
    (becomes : Becomes st now id (some entry) st') (time : entry.lastAccess = now) :
    st'.Mirrors now ((now, .begun id) :: diary) := by
  refine mirrors.note becomes ?_ fun entry' held => ?_
  · show _ ↔ Diary.Alive st.idleLimit now id _
    rw [Diary.alive_begun]
    simp
  · rw [← Option.some.inj held, time]
    exact Diary.lastVisit?_begun

theorem Mirrors.end (mirrors : st.Mirrors now diary) (becomes : Becomes st now id none st') :
    st'.Mirrors now ((now, .ended id) :: diary) := by
  refine mirrors.note becomes ?_ fun entry' held => by cases held
  exact iff_of_false (by simp) Diary.not_alive_ended

theorem Mirrors.purge (mirrors : st.Mirrors now diary) : (st.purge now).2.Mirrors now diary :=
  mirrors.congr rfl fun id => by rw [live?_purge]

end Store

end Gatehouse
