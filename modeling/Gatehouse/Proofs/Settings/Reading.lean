import Mathlib.Data.String.Basic
import Gatehouse.Settings.Init
import Gatehouse.Proofs.Text.Numeral
import Gatehouse.Proofs.Traversal

/-!
# Reading init parameters

What a reader answers depends on its parameters alone, and not on what was read before. The keys
that were read only matter at the end, when those that nobody asked for are left over
(`InitReader.unread_askAll`) and a strict reader reports the least of them. A parameter that may be
left out comes to its value, a default or an error (`settle`).
-/

namespace Gatehouse

theorem leastText?_eq_min? (texts : List String) : leastText? texts = texts.min? := by
  induction texts with
  | nil => rfl
  | cons s rest ih =>
    rw [leastText?, ih, List.min?_cons]
    cases rest.min? with
    | none => rfl
    | some least => rw [Option.elim_some, min_comm, min_def_lt]

namespace InitReader

variable (r : InitReader) (key : String)

/-! ## One key -/

/-- The reader once it was asked for a key. -/
def ask : InitReader := (r.text key).2

theorem ask_eq :
    r.ask key = if key ∈ r.params.keys then { r with consumed := key :: r.consumed } else r := by
  unfold ask text
  cases given : r.params.get? key with
  | none => rw [if_neg (Registry.get?_eq_none_iff.1 given)]
  | some value => rw [if_pos (Registry.exists_get?_iff.1 ⟨value, given⟩)]

@[simp] theorem ask_filter : (r.ask key).filter = r.filter := by
  rw [ask_eq]
  split <;> rfl

@[simp] theorem ask_params : (r.ask key).params = r.params := by
  rw [ask_eq]
  split <;> rfl

@[simp] theorem ask_strict : (r.ask key).strict = r.strict := by
  rw [ask_eq]
  split <;> rfl

theorem text_eq : r.text key = (r.params.get? key, r.ask key) := by
  unfold ask text
  cases r.params.get? key with
  | none => rfl
  | some value => rfl

theorem parse_eq {α : Type} (form : String → Except Text.NumeralError α) :
    r.parse form key =
      (match r.params.get? key with
        | none => .ok none
        | some raw =>
          match form (Text.trim raw) with
          | .ok a => .ok (some a)
          | .error cause => .error (r.invalid key raw (.numeral cause)),
      r.ask key) := by
  rw [parse, text_eq]
  cases r.params.get? key with
  | none => rfl
  | some raw =>
    dsimp only
    cases form (Text.trim raw) with
    | ok a => rfl
    | error cause => simp only [invalid, ask_filter]

theorem number_eq (width : Text.Width) :
    r.number width key =
      (match r.params.get? key with
        | none => .ok none
        | some raw =>
          if Text.IsNumeral (Text.trim raw) ∧ Text.valueOf (Text.trim raw) ≤ width.limit then
            .ok (some (Text.valueOf (Text.trim raw)))
          else
            .error (r.invalid key raw (.numeral (Text.numeralFault width.limit (Text.trim raw)))),
      r.ask key) := by
  rw [number, parse_eq]
  cases r.params.get? key with
  | none => rfl
  | some raw =>
    simp only [Text.readUnsigned_eq]
    by_cases fits : Text.IsNumeral (Text.trim raw) ∧ Text.valueOf (Text.trim raw) ≤ width.limit
    · simp only [if_pos fits]
    · simp only [if_neg fits]

/-- A number with a sign is what a text denotes, blanks around it aside, if the width has it. -/
theorem signed_eq_some {width : Text.Width} {n : Int} :
    (r.signed width key).1 = .ok (some n) ↔
      ∃ raw ∈ r.params.get? key, Text.Denotes (Text.trim raw) n ∧
        -(width.limit / 2 + 1 : Nat) ≤ n ∧ n ≤ (width.limit / 2 : Nat) := by
  rw [signed, parse_eq]
  cases r.params.get? key with
  | none => simp
  | some raw =>
    simp only [Option.mem_some_iff, exists_eq_left', ← Text.readSigned_eq_ok]
    cases Text.readSigned width (Text.trim raw) with
    | ok m => simp
    | error cause => simp

theorem unread_ask : (r.ask key).unread = r.unread.filter (· ≠ key) := by
  rw [unread, unread, ask_params, ask_eq, List.filter_filter]
  refine List.filter_congr fun other member => ?_
  split
  · simp
  · next missing =>
    have differs : other ≠ key := fun same => missing (same ▸ member)
    simp [differs]

/-! ## All keys -/

/-- The reader once it was asked for some keys. -/
def askAll (keys : List String) : InitReader := keys.foldl ask r

@[simp] theorem askAll_filter (keys : List String) : (r.askAll keys).filter = r.filter := by
  induction keys generalizing r with
  | nil => rfl
  | cons key rest ih => exact (ih (r.ask key)).trans (r.ask_filter key)

@[simp] theorem askAll_strict (keys : List String) : (r.askAll keys).strict = r.strict := by
  induction keys generalizing r with
  | nil => rfl
  | cons key rest ih => exact (ih (r.ask key)).trans (r.ask_strict key)

theorem unread_askAll (keys : List String) :
    (r.askAll keys).unread = r.unread.filter (· ∉ keys) := by
  induction keys generalizing r with
  | nil => simp [askAll]
  | cons key rest ih =>
    refine (ih (r.ask key)).trans ?_
    rw [unread_ask, List.filter_filter]
    refine List.filter_congr fun other _ => ?_
    simp [Bool.and_comm]

theorem unread_start (filter : String) (params : Registry String String) (strict : Bool) :
    (start filter params strict).unread = params.keys := by
  simp [start, unread]

theorem failure?_finish :
    failure? r.finish =
      if r.strict then r.unread.min?.map (.unknownParameter r.filter) else none := by
  rw [finish, leastText?_eq_min?]
  cases r.unread.min? with
  | none => simp [failure?]
  | some least =>
    cases r.strict with
    | false => rfl
    | true => rfl

section Finish

variable (filter : String) (params : Registry String String) (strict : Bool) (keys : List String)

theorem failure?_finish_askAll :
    failure? ((start filter params strict).askAll keys).finish =
      if strict then (params.keys.filter (· ∉ keys)).min?.map (.unknownParameter filter)
      else none := by
  rw [failure?_finish, unread_askAll, unread_start, askAll_filter, askAll_strict]
  rfl

variable {filter params strict keys}

theorem finish_askAll_eq_ok :
    ((start filter params strict).askAll keys).finish = .ok () ↔
      strict = false ∨ ∀ key ∈ params.keys, key ∈ keys := by
  have well {x : Except InitError Unit} : x = .ok () ↔ failure? x = none := by
    rw [failure?_eq_none]
    exact ⟨fun done => ⟨(), done⟩, fun ⟨_, done⟩ => done⟩
  rw [well, failure?_finish_askAll]
  cases strict with
  | false => simp
  | true => simp [List.filter_eq_nil_iff]

theorem finish_askAll_eq_error {cause : InitError} :
    ((start filter params strict).askAll keys).finish = .error cause ↔
      strict = true ∧ ∃ key, (params.keys.filter (· ∉ keys)).min? = some key ∧
        cause = .unknownParameter filter key := by
  rw [← failure?_eq_some, failure?_finish_askAll]
  cases strict with
  | false => simp
  | true => simp only [if_true, Option.map_eq_some_iff, true_and, @eq_comm _ cause]

end Finish

end InitReader

/-! ## A text that may be given -/

section Given

variable {α : Type} (fits : String → Prop) [DecidablePred fits] (value : String → α)
  (error : String → InitError) (default : α) (given : Option String)

/-- What a text that may be given comes to: its value if it fits, and a default if there is none. -/
def settle : Except InitError α :=
  match given with
  | none => .ok default
  | some text => if fits text then .ok (value text) else .error (error text)

/-- The error of a text that does not fit. -/
def errorsOf : List InitError :=
  (given.toList.filter fun text => ¬ fits text).map error

theorem failure?_settle :
    failure? (settle fits value error default given) = (errorsOf fits error given).head? := by
  cases given with
  | none => rfl
  | some text =>
    by_cases fit : fits text
    · simp [settle, errorsOf, fit, failure?]
    · simp [settle, errorsOf, fit, failure?]

variable {fits value error default given}

theorem settle_eq_ok {a : α} :
    settle fits value error default given = .ok a ↔
      (∀ text ∈ given, fits text) ∧ a = given.elim default value := by
  cases given with
  | none => simp [settle, eq_comm]
  | some text =>
    by_cases fit : fits text
    · simp [settle, fit, eq_comm]
    · simp [settle, fit]

theorem of_settle {P : α → Prop} {a : α} (ofDefault : P default)
    (ofValue : ∀ text, fits text → P (value text))
    (done : settle fits value error default given = .ok a) : P a := by
  obtain ⟨fit, rfl⟩ := settle_eq_ok.1 done
  cases given with
  | none => exact ofDefault
  | some text => exact ofValue text (fit text rfl)

theorem errorsOf_eq_nil : errorsOf fits error given = [] ↔ ∀ text ∈ given, fits text := by
  cases given with
  | none => simp [errorsOf]
  | some text => simp [errorsOf]

end Given

/-! ## A number that may be given -/

/-- The text is a number in a range, blanks around it aside. -/
def IsWithin (low high : Nat) (text : String) : Prop :=
  Text.IsNumeral (Text.trim text) ∧ low ≤ Text.valueOf (Text.trim text) ∧
    Text.valueOf (Text.trim text) ≤ high

instance (low high : Nat) : DecidablePred (IsWithin low high) := fun _ =>
  inferInstanceAs (Decidable (_ ∧ _ ∧ _))

/-- The error that reports a text for a number: as the number that is read, or as it stands. -/
def numberError (filter key : String) (width : Text.Width) (unfit : Nat → ValueFault)
    (text : String) : InitError :=
  let number := Text.trim text
  if Text.IsNumeral number ∧ Text.valueOf number ≤ width.limit then
    .invalidValue filter key (toString (Text.valueOf number)) (unfit (Text.valueOf number))
  else .invalidValue filter key text (.numeral (Text.numeralFault width.limit number))

/-- A number is read, and must then be in a range. -/
def InitReader.numberWithin (r : InitReader) (width : Text.Width) (key : String) (low high : Nat)
    (unfit : Nat → ValueFault) (default : Nat) : Except InitError Nat × InitReader :=
  match r.number width key with
  | (.error cause, r) => (.error cause, r)
  | (.ok none, r) => (.ok default, r)
  | (.ok (some n), r) =>
    if low ≤ n ∧ n ≤ high then (.ok n, r)
    else (.error (r.invalid key (toString n) (unfit n)), r)

theorem InitReader.numberWithin_eq (r : InitReader) (width : Text.Width) (key : String)
    {low high : Nat} (readable : high ≤ width.limit) (unfit : Nat → ValueFault) (default : Nat) :
    r.numberWithin width key low high unfit default =
      (settle (IsWithin low high) (fun text => Text.valueOf (Text.trim text))
        (numberError r.filter key width unfit) default (r.params.get? key), r.ask key) := by
  rw [numberWithin, number_eq]
  cases r.params.get? key with
  | none => rfl
  | some text =>
    simp only [settle, numberError]
    by_cases read : Text.IsNumeral (Text.trim text) ∧ Text.valueOf (Text.trim text) ≤ width.limit
    · have same : IsWithin low high text ↔ low ≤ Text.valueOf (Text.trim text) ∧
          Text.valueOf (Text.trim text) ≤ high := and_iff_right read.1
      rw [if_pos read, if_pos read]
      by_cases within : IsWithin low high text
      · rw [if_pos within]
        exact if_pos (same.1 within)
      · rw [if_neg within]
        refine (if_neg fun inRange => within (same.2 inRange)).trans ?_
        rw [invalid, ask_filter]
    · have unfit : ¬ IsWithin low high text := fun within =>
        read ⟨within.1, within.2.2.trans readable⟩
      rw [if_neg read, if_neg read, if_neg unfit]
      rfl

end Gatehouse
