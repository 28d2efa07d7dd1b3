import Gatehouse.Proofs.Link.Query

/-!
# Parameters within a limit

The pairs of a request are taken one by one, first those of its query and then those of its form,
until the limit does not allow another one. Whatever has been taken at some point is told by the
pairs that were seen so far (`Parameters.collect`). So the sources might as well be one, and a
higher limit only lets more pairs in (`Parameters.read_eq_first`).
-/

namespace Gatehouse.Link.Parameters

/-- What a limit leaves of some pairs, and whether it leaves any out. -/
def collect (limit : Nat) (pairs : List Pair) : Parameters :=
  ⟨pairs.take limit, limit < pairs.length⟩

variable {limit : Nat} {seen : List Pair}

/-! ## One pair -/

theorem collect_of_le (room : seen.length ≤ limit) : collect limit seen = ⟨seen, false⟩ := by
  rw [collect, List.take_of_length_le room, decide_eq_false (Nat.not_lt.2 room)]

theorem collect_append_of_lt (full : limit < seen.length) (more : List Pair) :
    collect limit (seen ++ more) = collect limit seen := by
  have longer : limit < (seen ++ more).length := by
    rw [List.length_append]
    omega
  rw [collect, collect, List.take_append_of_le_length full.le, decide_eq_true full,
    decide_eq_true longer]

theorem limit_le_collect : limit ≤ (collect limit seen).pairs.length ↔ limit ≤ seen.length := by
  rw [collect, List.length_take]
  omega

theorem collect_concat_of_lt (room : seen.length < limit) (pair : Pair) :
    collect limit (seen ++ [pair]) =
      { collect limit seen with pairs := (collect limit seen).pairs ++ [pair] } := by
  have fits : (seen ++ [pair]).length ≤ limit := by
    rw [List.length_append]
    exact room
  rw [collect_of_le room.le, collect_of_le fits]

theorem collect_concat_of_le (full : limit ≤ seen.length) (pair : Pair) :
    collect limit (seen ++ [pair]) = { collect limit seen with failed := true } := by
  have longer : limit < (seen ++ [pair]).length := by
    rw [List.length_append]
    exact Nat.lt_succ_of_le full
  rw [collect, collect, List.take_append_of_le_length full, decide_eq_true longer]

/-! ## All pairs -/

theorem take_collect (limit : Nat) (seen pairs : List Pair) :
    take limit (collect limit seen) pairs = collect limit (seen ++ pairs) := by
  induction pairs generalizing seen with
  | nil => rw [List.append_nil, take]
  | cons pair rest ih =>
    rw [take, List.append_cons seen pair rest]
    split
    · next full =>
      rw [limit_le_collect] at full
      have leftOut : limit < (seen ++ [pair]).length := by
        rw [List.length_append]
        exact Nat.lt_succ_of_le full
      rw [collect_append_of_lt leftOut, collect_concat_of_le full]
    · next room =>
      rw [limit_le_collect, Nat.not_le] at room
      rw [← collect_concat_of_lt room, ih]

/-- The sources are read as one list of pairs, although no source is opened after a failure. -/
theorem takeAll_collect (limit : Nat) (seen : List Pair) (sources : List (List UInt8)) :
    takeAll limit (collect limit seen) sources =
      collect limit (seen ++ sources.flatMap decode) := by
  induction sources generalizing seen with
  | nil => rw [List.flatMap_nil, List.append_nil, takeAll]
  | cons source rest ih =>
    rw [takeAll, take_collect, List.flatMap_cons, ← List.append_assoc]
    split
    · next failed => rw [collect_append_of_lt (of_decide_eq_true failed)]
    · exact ih _

theorem flatMap_decode_filter (sources : List (List UInt8)) :
    (sources.filter (· ≠ [])).flatMap decode = sources.flatMap decode := by
  induction sources with
  | nil => rfl
  | cons source rest ih =>
    cases source with
    | nil => exact ih
    | cons b bytes => exact congrArg (decode (b :: bytes) ++ ·) ih

theorem flatMap_decode_toList (source : Option (List UInt8)) :
    source.toList.flatMap decode = decode (source.getD []) := by
  cases source with
  | none => rfl
  | some bytes => exact List.append_nil _

theorem read_eq_collect (query form : Option (List UInt8)) (limit : Nat) :
    read query form limit =
      collect limit (decode (query.getD []) ++ decode (form.getD [])) := by
  have start : (⟨[], false⟩ : Parameters) = collect limit [] :=
    (collect_of_le (Nat.zero_le limit)).symm
  rw [read, start, takeAll_collect, flatMap_decode_filter, List.flatMap_append,
    flatMap_decode_toList, flatMap_decode_toList, List.nil_append]

/-- **The parameters of a request are the first pairs of its query and its form**, as many as the
limit allows, and there is a failure just if there are more. A query and a form are read as one
source with an ampersand between them. A higher limit lets more pairs in behind those that a lower
one does, and fails only where that one fails. -/
theorem read_eq_first (query form : Option (List UInt8)) (limit : Nat) :
    let all := decode (query.getD []) ++ decode (form.getD [])
    let joined := query.getD [] ++ 0x26 :: form.getD []
    (read query form limit).pairs = all.take limit ∧
      ((read query form limit).failed = true ↔ limit < all.length) ∧
      read query form limit = read (some joined) none limit ∧
      read query form limit = read none (some joined) limit ∧
      ∀ higher, limit ≤ higher →
        (read query form limit).pairs <+: (read query form higher).pairs ∧
          ((read query form higher).failed = true → (read query form limit).failed = true) := by
  intro all joined
  have pairs : decode joined = all := decode_append _ _
  have empty : decode [] = [] := rfl
  simp only [read_eq_collect, Option.getD_some, Option.getD_none, empty, pairs, List.append_nil,
    List.nil_append]
  refine ⟨rfl, decide_eq_true_iff, rfl, rfl, fun higher above => ⟨?_, fun failed => ?_⟩⟩
  · exact List.take_prefix_take_left above
  · exact decide_eq_true (above.trans_lt (of_decide_eq_true failed))

/-- The limit is reached at the end of the query, behind an empty piece. The form has a broken
escape in it, and what stands behind is cut off unless the limit is higher. -/
theorem read_eq_first_between :
    let query := Text.utf8 "a=1&&b"
    let form := Text.utf8 "a=%zz&c=" ++ [0xFF]
    read (some query) (some form) 2 = ⟨[("a", "1"), ("b", "")], true⟩ ∧
      read none (some (query ++ 0x26 :: form)) 2 = ⟨[("a", "1"), ("b", "")], true⟩ ∧
      read (some query) (some form) 4 =
        ⟨[("a", "1"), ("b", ""), ("a", "%zz"), ("c", "\uFFFD")], false⟩ ∧
      (read (some query) (some form) 2).pairs <+: (read (some query) (some form) 4).pairs := by
  intro query form
  have short : read (some query) (some form) 2 = ⟨[("a", "1"), ("b", "")], true⟩ := by decide
  obtain ⟨-, -, -, joined, higher⟩ := read_eq_first (some query) (some form) 2
  exact ⟨short, joined.symm.trans short, by decide, (higher 4 (by decide)).1⟩

end Gatehouse.Link.Parameters
