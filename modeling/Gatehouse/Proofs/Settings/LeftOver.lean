import Gatehouse.Proofs.Settings.Reading
import Gatehouse.Proofs.Text.ByteOrder

/-!
# Keys that are left over

A reader is asked for keys one after another, for each as a text or as a number. Nothing that it
was asked for shows in a later reply, and at its end it reports the first key, in the order of
their bytes, that it was never asked for (`InitReader.replies_as_first`).
-/

namespace Gatehouse

namespace InitReader

/-- What a reader is asked for: a key, read as a text or as a number of a width. -/
inductive Reading where
  | text (key : String)
  | number (width : Text.Width) (key : String)
  | signed (width : Text.Width) (key : String)
  deriving DecidableEq, Repr

def Reading.key : Reading → String
  | .text key => key
  | .number _ key => key
  | .signed _ key => key

inductive Reply where
  | text (value : Option String)
  | number (value : Except InitError (Option Nat))
  | signed (value : Except InitError (Option Int))
  deriving DecidableEq

/-- The reply to a reading, and the reader behind it. -/
def reply (r : InitReader) : Reading → Reply × InitReader
  | .text key => (.text (r.text key).1, (r.text key).2)
  | .number width key => (.number (r.number width key).1, (r.number width key).2)
  | .signed width key => (.signed (r.signed width key).1, (r.signed width key).2)

/-- The replies to readings in their order, and the reader behind the last one. -/
def replies (r : InitReader) : List Reading → List Reply × InitReader
  | [] => ([], r)
  | reading :: rest =>
    let (reply, r) := r.reply reading
    let (others, r) := r.replies rest
    (reply :: others, r)

/-! ## Each reading -/

variable (r : InitReader) (reading : Reading)

theorem reply_snd : (r.reply reading).2 = r.ask reading.key := by
  cases reading with
  | text key => rw [reply, text_eq, Reading.key]
  | number width key => rw [reply, number, parse_eq, Reading.key]
  | signed width key => rw [reply, signed, parse_eq, Reading.key]

theorem reply_ask (key : String) : ((r.ask key).reply reading).1 = (r.reply reading).1 := by
  cases reading with
  | text key' => simp only [reply, text_eq, ask_params]
  | number width key' => simp only [reply, number, parse_eq, invalid, ask_params, ask_filter]
  | signed width key' => simp only [reply, signed, parse_eq, invalid, ask_params, ask_filter]

/-! ## All readings -/

variable (readings : List Reading)

theorem replies_eq :
    r.replies readings =
      (readings.map fun reading => (r.reply reading).1, r.askAll (readings.map Reading.key)) := by
  induction readings generalizing r with
  | nil => rfl
  | cons reading rest ih =>
    -- the rest is read by a reader that was asked for one key more
    simp only [replies, reply_snd, ih, reply_ask]
    rfl

/-- A key that has a value and that no reading asks for. -/
def LeftOver (params : Registry String String) (readings : List Reading) (key : String) : Prop :=
  key ∈ params.keys ∧ ∀ reading ∈ readings, reading.key ≠ key

theorem min?_unasked {params : Registry String String} {key : String} :
    (params.keys.filter (· ∉ readings.map Reading.key)).min? = some key ↔
      LeftOver params readings key ∧
        ∀ other, LeftOver params readings other → Text.utf8 key ≤ Text.utf8 other := by
  have unasked (key : String) : key ∈ params.keys.filter (· ∉ readings.map Reading.key) ↔
      LeftOver params readings key := by
    simp [LeftOver]
  simp only [List.min?_eq_some_iff, unasked, Text.utf8_le_utf8]

/-- **Readings do not disturb each other, and what none of them asked for is found at the end.** The
reply to each is the one that it would get as the first of all, whether the readings before it
failed, found nothing or asked for the same key. A reader that is not strict then ends well in any
case, and a strict one if every key was asked for, failed readings included; it reports the first
key that was not, in the order of their bytes, otherwise. -/
theorem replies_as_first (filter : String) (params : Registry String String) (strict : Bool)
    (readings : List Reading) :
    let first := start filter params strict
    let last := (first.replies readings).2
    (first.replies readings).1 = readings.map (fun reading => (first.reply reading).1) ∧
      (last.finish = .ok () ↔
        strict = false ∨ ∀ key ∈ params.keys, ∃ reading ∈ readings, reading.key = key) ∧
      ∀ cause, last.finish = .error cause ↔
        strict = true ∧ ∃ key, LeftOver params readings key ∧
          (∀ other, LeftOver params readings other → Text.utf8 key ≤ Text.utf8 other) ∧
          cause = .unknownParameter filter key := by
  intro first last
  have asked : last = first.askAll (readings.map Reading.key) :=
    congrArg Prod.snd (first.replies_eq readings)
  refine ⟨congrArg Prod.fst (first.replies_eq readings), ?_, fun cause => ?_⟩
  · rw [asked, finish_askAll_eq_ok]
    simp only [List.mem_map]
  · rw [asked, finish_askAll_eq_error]
    simp only [min?_unasked, and_assoc]

/-- A key that is read in vain counts as read. Of the others the first one is reported, and capital
letters come before small ones. -/
example :
    let params : Registry String String := .ofList
      [("area", "1"), ("size", "many"), ("depth", "-129"), ("Zone", "2")]
    let readings : List Reading := [.number .bits64 "size", .text "gone", .signed .bits8 "depth"]
    let (replies, last) := (start "guard" params true).replies readings
    replies = [.number (.error (.invalidValue "guard" "size" "many" (.numeral .invalidDigit))),
      .text none, .signed (.error (.invalidValue "guard" "depth" "-129" (.numeral .tooSmall)))] ∧
    last.finish = .error (.unknownParameter "guard" "Zone") := by
  decide

end InitReader

end Gatehouse
