import Gatehouse.Filter.Guard
import Gatehouse.Proofs.Text.Trim
import Gatehouse.Proofs.Settings.Reading

/-!
# The options that a guard may have

Each option is read from a parameter of its own, and the keys that are left over are looked at last
(`GuardOptions.read_eq`). Init parameters only make options that are in range
(`GuardOptions.inRange_of_read`), the default values among them. Any name will do for the nonce
parameter that is not empty and has no blanks at its ends (`GuardOptions.accepts_iff`).
-/

namespace Gatehouse

namespace GuardOptions

/-! ## Each option -/

/-- The keys of the options. -/
def keys : List String :=
  ["entry_points", "nonce_cache_size", "random_source", "nonce_request_parameter", "deny_status"]

variable (filter : String) (params : Registry String String)

def windowSizeError : String → InitError :=
  numberError filter "nonce_cache_size" .bits64 fun size =>
    if size = 0 then .belowOne else .above 1024

def parameterError (_ : String) : InitError :=
  .invalidValue filter "nonce_request_parameter" "" .blank

def denyStatusError : String → InitError :=
  numberError filter "deny_status" .bits16 fun _ => .noFailureStatus

def windowSizeIn : Except InitError Nat :=
  settle (IsWithin 1 1024) (fun text => Text.valueOf (Text.trim text)) (windowSizeError filter) 5
    (params.get? "nonce_cache_size")

def parameterIn : Except InitError String :=
  settle (fun text => Text.trim text ≠ "") Text.trim (parameterError filter) "csrfToken"
    (params.get? "nonce_request_parameter")

def denyStatusIn : Except InitError Nat :=
  settle (IsWithin 400 599) (fun text => Text.valueOf (Text.trim text)) (denyStatusError filter) 403
    (params.get? "deny_status")

def randomSourceIn : String := (params.get? "random_source").elim "os" Text.trim

def entryPointsIn : List String := (params.get? "entry_points").elim [] entryPointsOf

variable (r : InitReader)

theorem readEntryPoints_eq :
    readEntryPoints r = (entryPointsIn r.params, r.ask "entry_points") := by
  rw [readEntryPoints, InitReader.text_eq, entryPointsIn]
  cases r.params.get? "entry_points" with
  | none => rfl
  | some text => rfl

theorem readWindowSize_eq :
    readWindowSize r = (windowSizeIn r.filter r.params, r.ask "nonce_cache_size") := by
  refine Eq.trans ?_ (r.numberWithin_eq .bits64 "nonce_cache_size" (by decide) _ _)
  simp only [readWindowSize, InitReader.numberWithin]
  rcases r.number .bits64 "nonce_cache_size" with ⟨cause | (none | size), r'⟩
  · rfl
  · rfl
  · dsimp only
    by_cases zero : size = 0
    · subst zero
      rfl
    · by_cases large : largestWindow < size
      · have unfit : ¬ (1 ≤ size ∧ size ≤ 1024) := fun fits => absurd large (Nat.not_lt.2 fits.2)
        rw [if_neg zero, if_pos large, if_neg unfit, if_neg zero]
        rfl
      · have fits : 1 ≤ size ∧ size ≤ 1024 := ⟨Nat.pos_of_ne_zero zero, Nat.not_lt.1 large⟩
        rw [if_neg zero, if_neg large, if_pos fits]

theorem readRandomSource_eq :
    readRandomSource r = (randomSourceIn r.params, r.ask "random_source") := by
  rw [readRandomSource, InitReader.text_eq, randomSourceIn]
  cases r.params.get? "random_source" with
  | none => rfl
  | some text => rfl

theorem readParameter_eq :
    readParameter r = (parameterIn r.filter r.params, r.ask "nonce_request_parameter") := by
  rw [readParameter, InitReader.text_eq, parameterIn]
  cases r.params.get? "nonce_request_parameter" with
  | none => rfl
  | some text =>
    by_cases blank : Text.trim text = ""
    · simp [settle, parameterError, blank, InitReader.invalid]
    · simp [settle, blank]

theorem readDenyStatus_eq :
    readDenyStatus r = (denyStatusIn r.filter r.params, r.ask "deny_status") :=
  r.numberWithin_eq .bits16 "deny_status" (by decide) _ _

/-! ## All options -/

theorem read_eq :
    read r = do
      let windowSize ← windowSizeIn r.filter r.params
      let parameter ← parameterIn r.filter r.params
      let denyStatus ← denyStatusIn r.filter r.params
      (r.askAll keys).finish
      return ⟨entryPointsIn r.params, windowSize, randomSourceIn r.params, parameter,
        denyStatus⟩ := by
  simp only [read, readEntryPoints_eq, readWindowSize_eq, readRandomSource_eq, readParameter_eq,
    readDenyStatus_eq, InitReader.ask_filter, InitReader.ask_params]
  rfl

theorem mem_entryPointsOf {text path : String} :
    path ∈ entryPointsOf text ↔
      path ≠ "" ∧ ∃ item ∈ text.toList.splitOn ',', Text.trim (String.ofList item) = path := by
  have trimmed (item : List Char) :
      Text.trim (String.ofList item) = String.ofList (Text.trimChars item) := by
    rw [Text.trim, String.toList_ofList]
  have nonempty (cs : List Char) : String.ofList cs ≠ "" ↔ cs ≠ [] := by
    rw [ne_eq, ← String.toList_eq_nil_iff, String.toList_ofList]
  simp only [entryPointsOf, Text.split_eq_splitOn, List.mem_map, List.mem_filter, decide_eq_true_eq,
    trimmed]
  constructor
  · rintro ⟨cs, ⟨⟨item, member, rfl⟩, remains⟩, rfl⟩
    exact ⟨(nonempty _).2 remains, item, member, rfl⟩
  · rintro ⟨remains, item, member, rfl⟩
    exact ⟨_, ⟨⟨item, member, rfl⟩, (nonempty _).1 remains⟩, rfl⟩

/-! ## What is in range -/

/-- The options of a guard that has been set up. -/
structure InRange (options : GuardOptions) : Prop where
  windowSize : 1 ≤ options.windowSize ∧ options.windowSize ≤ largestWindow
  parameter : options.parameter ≠ "" ∧ Text.trim options.parameter = options.parameter
  denyStatus : 400 ≤ options.denyStatus ∧ options.denyStatus ≤ 599

variable {r} {name : String}

theorem inRange_of_read {options : GuardOptions} (done : read r = .ok options) :
    options.InRange := by
  rw [read_eq] at done
  obtain ⟨size, sizeRead, done⟩ := bind_eq_ok.1 done
  obtain ⟨parameter, parameterRead, done⟩ := bind_eq_ok.1 done
  obtain ⟨status, statusRead, done⟩ := bind_eq_ok.1 done
  obtain ⟨-, -, done⟩ := bind_eq_ok.1 done
  obtain rfl := Except.ok.inj done
  exact {
    windowSize := of_settle (P := fun n => 1 ≤ n ∧ n ≤ largestWindow) (by decide)
      (fun _ fits => fits.2) sizeRead
    parameter := of_settle (P := fun name => name ≠ "" ∧ Text.trim name = name) (by decide)
      (fun text named => ⟨named, Text.trim_trim text⟩) parameterRead
    denyStatus := of_settle (P := fun n => 400 ≤ n ∧ n ≤ 599) (by decide)
      (fun _ fits => fits.2) statusRead }

/-- Some init parameters give this name to the nonce parameter. -/
def Accepts (name : String) : Prop :=
  ∃ filter params strict options,
    read (.start filter params strict) = .ok options ∧ options.parameter = name

theorem accepts_iff : Accepts name ↔ name ≠ "" ∧ Text.trim name = name := by
  constructor
  · rintro ⟨filter, params, strict, options, done, rfl⟩
    exact (inRange_of_read done).parameter
  · rintro ⟨named, trimmed⟩
    let params := Registry.ofList [("nonce_request_parameter", name)]
    have parameter : parameterIn "csrf" params = .ok name :=
      settle_eq_ok.2 ⟨fun text given => Option.some.inj given ▸ trimmed.symm ▸ named, trimmed.symm⟩
    refine ⟨"csrf", params, true, { parameter := name }, ?_, rfl⟩
    rw [read_eq]
    simp only [InitReader.start, parameter]
    rfl

end GuardOptions

theorem Guard.eq_of_ofOptions {name : String} {options : GuardOptions} {g : Guard}
    (done : ofOptions name options = .ok g) : g = ⟨options⟩ := by
  unfold ofOptions at done
  split at done
  · cases done
  · exact (Except.ok.inj done).symm

end Gatehouse
