import Gatehouse.Filter.Builtin
import Gatehouse.Proofs.Guard.Options

/-!
# Guards and their definitions

A guard is set up from five init parameters, each of which may be left out. All that is wrong with
a definition can be listed from the texts alone; the first entry of this list is reported, and the
guard is set up with what the texts say if there is none
(`BuiltinFilter.ofDefinition_eq_first_error`).
-/

namespace Gatehouse

namespace GuardOptions

variable (filter : String) (params : Registry String String)

/-! ## The random source -/

/-- The text names a random source, blanks around it and the case of its letters aside. -/
def NamesSource (text : String) : Prop :=
  Text.lower (Text.trim text) ∈ ["os", "thread", "std"]

instance : DecidablePred NamesSource := fun _ => inferInstanceAs (Decidable (_ ∈ _))

theorem failure?_ofOptions (name : String) (options : GuardOptions) :
    failure? (Guard.ofOptions name options) =
      if NamesSource options.randomSource then none
      else some (.randomSource name ⟨options.randomSource⟩) := by
  simp only [Guard.ofOptions, RandomSource.parse, NamesSource, List.mem_cons, List.not_mem_nil,
    or_false]
  by_cases os : Text.lower (Text.trim options.randomSource) = "os"
  · simp [os, failure?]
  by_cases thread : Text.lower (Text.trim options.randomSource) = "thread"
  · simp [thread, failure?]
  by_cases std : Text.lower (Text.trim options.randomSource) = "std"
  · simp [std, failure?]
  simp [os, thread, std, failure?]

theorem failure?_ofOptions_in {name : String} {options : GuardOptions}
    (source : options.randomSource = randomSourceIn params) :
    failure? (Guard.ofOptions name options) =
      (errorsOf NamesSource (fun text => .randomSource name ⟨Text.trim text⟩)
        (params.get? "random_source")).head? := by
  rw [failure?_ofOptions, source, randomSourceIn]
  cases params.get? "random_source" with
  | none => rfl
  | some text =>
    -- the text was trimmed when it was read, and is trimmed again when the source is looked up
    have same : NamesSource (Text.trim text) ↔ NamesSource text := by
      rw [NamesSource, NamesSource, Text.trim_trim]
    by_cases named : NamesSource text
    · simp [errorsOf, same, named]
    · simp [errorsOf, same, named]

/-! ## What is wrong, and what is taken -/

/-- All that is wrong with the parameters of a guard. -/
def errors (filter : String) (params : Registry String String) (strict : Bool) : List InitError :=
  errorsOf (IsWithin 1 1024) (windowSizeError filter) (params.get? "nonce_cache_size") ++
    errorsOf (fun text => Text.trim text ≠ "") (parameterError filter)
      (params.get? "nonce_request_parameter") ++
    errorsOf (IsWithin 400 599) (denyStatusError filter) (params.get? "deny_status") ++
    (if strict then (params.keys.filter (· ∉ keys)).min?.map (.unknownParameter filter)
      else none).toList ++
    errorsOf NamesSource (fun text => .randomSource filter ⟨Text.trim text⟩)
      (params.get? "random_source")

/-- Parameters that a guard can be set up from. -/
structure Acceptable (params : Registry String String) (strict : Bool) : Prop where
  windowSize : ∀ text ∈ params.get? "nonce_cache_size", IsWithin 1 1024 text
  parameter : ∀ text ∈ params.get? "nonce_request_parameter", Text.trim text ≠ ""
  denyStatus : ∀ text ∈ params.get? "deny_status", IsWithin 400 599 text
  known : strict = true → ∀ key ∈ params.keys, key ∈ keys
  randomSource : ∀ text ∈ params.get? "random_source", NamesSource text

/-- The options are what the parameters say, and the defaults where they say nothing. -/
structure TakenFrom (params : Registry String String) (options : GuardOptions) : Prop where
  entryPoints : ∀ path, path ∈ options.entryPoints ↔ path ≠ "" ∧
    ∃ text ∈ params.get? "entry_points", ∃ item ∈ text.toList.splitOn ',',
      Text.trim (String.ofList item) = path
  windowSize : options.windowSize =
    (params.get? "nonce_cache_size").elim 5 fun text => Text.valueOf (Text.trim text)
  randomSource : options.randomSource = (params.get? "random_source").elim "os" Text.trim
  parameter : options.parameter =
    (params.get? "nonce_request_parameter").elim "csrfToken" Text.trim
  denyStatus : options.denyStatus =
    (params.get? "deny_status").elim 403 fun text => Text.valueOf (Text.trim text)

variable (strict : Bool)

theorem errors_eq_nil : errors filter params strict = [] ↔ Acceptable params strict := by
  have unknown : (if strict then (params.keys.filter (· ∉ keys)).min?.map
      (InitError.unknownParameter filter) else none) = none ↔
        (strict = true → ∀ key ∈ params.keys, key ∈ keys) := by
    cases strict with
    | false => simp
    | true => simp [List.filter_eq_nil_iff]
  simp only [errors, List.append_eq_nil_iff, errorsOf_eq_nil, Option.toList_eq_nil_iff, unknown]
  constructor
  · rintro ⟨⟨⟨⟨size, parameter⟩, status⟩, known⟩, source⟩
    exact ⟨size, parameter, status, known, source⟩
  · rintro ⟨size, parameter, status, known, source⟩
    exact ⟨⟨⟨⟨size, parameter⟩, status⟩, known⟩, source⟩

variable {filter params strict} {options : GuardOptions}

theorem takenFrom_of_read (done : read (.start filter params strict) = .ok options) :
    TakenFrom params options := by
  rw [read_eq] at done
  obtain ⟨size, sizeRead, done⟩ := bind_eq_ok.1 done
  obtain ⟨parameter, parameterRead, done⟩ := bind_eq_ok.1 done
  obtain ⟨status, statusRead, done⟩ := bind_eq_ok.1 done
  obtain ⟨-, -, done⟩ := bind_eq_ok.1 done
  obtain rfl := Except.ok.inj done
  refine ⟨fun path => ?_, (settle_eq_ok.1 sizeRead).2, rfl, (settle_eq_ok.1 parameterRead).2,
    (settle_eq_ok.1 statusRead).2⟩
  show path ∈ entryPointsIn params ↔ _
  rw [entryPointsIn]
  cases params.get? "entry_points" with
  | none => simp
  | some text => simp [mem_entryPointsOf]

/-- The parameters that options are made of. -/
def known (params : Registry String String) : Registry String String :=
  params.retain fun key _ => key ∈ keys

theorem get?_known {key : String} (isKey : key ∈ keys) :
    (known params).get? key = params.get? key := by
  rw [known, Registry.get?_retain]
  cases params.get? key with
  | none => rfl
  | some text => simp [Option.filter, isKey]

theorem read_lenient :
    read (.start filter params false) = read (.start filter (known params) true) := by
  have onlyKnown : ∀ key ∈ (known params).keys, key ∈ keys := by
    simp [known, Registry.keys, Registry.retain]
  have lenient : ((InitReader.start filter params false).askAll keys).finish = .ok () :=
    InitReader.finish_askAll_eq_ok.2 (.inl rfl)
  have strict : ((InitReader.start filter (known params) true).askAll keys).finish = .ok () :=
    InitReader.finish_askAll_eq_ok.2 (.inr onlyKnown)
  have windowSize : "nonce_cache_size" ∈ keys := by decide
  have parameter : "nonce_request_parameter" ∈ keys := by decide
  have denyStatus : "deny_status" ∈ keys := by decide
  have randomSource : "random_source" ∈ keys := by decide
  have entryPoints : "entry_points" ∈ keys := by decide
  rw [read_eq, read_eq, lenient, strict]
  simp only [InitReader.start, windowSizeIn, parameterIn, denyStatusIn, randomSourceIn,
    entryPointsIn, get?_known windowSize, get?_known parameter, get?_known denyStatus,
    get?_known randomSource, get?_known entryPoints]

end GuardOptions

namespace BuiltinFilter

open GuardOptions

variable {d : FilterDefinition}

theorem ofDefinition_guard (kind : d.kind = .csrfPrevention) :
    ofDefinition d = do
      let options ← GuardOptions.read (.start d.name d.params d.isStrict)
      return .guard (← Guard.ofOptions d.name options) := by
  rw [ofDefinition, kind]

theorem failure?_ofDefinition (kind : d.kind = .csrfPrevention) :
    failure? (ofDefinition d) = (errors d.name d.params d.isStrict).head? := by
  have size : failure? (windowSizeIn d.name d.params) = _ := failure?_settle _ _ _ _ _
  have parameter : failure? (parameterIn d.name d.params) = _ := failure?_settle _ _ _ _ _
  have status : failure? (denyStatusIn d.name d.params) = _ := failure?_settle _ _ _ _ _
  have unknown := InitReader.failure?_finish_askAll d.name d.params d.isStrict keys
  simp only [errors, List.head?_append, Option.head?_toList, Option.or_assoc, ← size, ← parameter,
    ← status, ← unknown]
  rw [ofDefinition_guard kind, read_eq]
  simp only [bind_assoc, pure_bind]
  refine failure?_bind fun windowSize _ => failure?_bind fun parameter _ =>
    failure?_bind fun denyStatus _ => failure?_bind fun _ _ => ?_
  rw [failure?_bind_pure]
  exact failure?_ofOptions_in d.params rfl

/-- **A guard is set up from its definition, or the first error is reported.** It is set up if every
parameter that is given can be read and, where the definition is strict, every key is known; its
options are then what the parameters say. Otherwise the error is the first of all there are, in the
order of window size, parameter name, status of a rejection, unknown key and random source. A
definition that is not strict is as good as a strict one with the parameters that are known. -/
theorem ofDefinition_eq_first_error (d : FilterDefinition) (kind : d.kind = .csrfPrevention) :
    ((∃ filter, ofDefinition d = .ok filter) ↔ Acceptable d.params d.isStrict) ∧
      (∀ filter, ofDefinition d = .ok filter →
        ∃ options, filter = .guard ⟨options⟩ ∧ TakenFrom d.params options) ∧
      (∀ cause, ofDefinition d = .error cause ↔
        (errors d.name d.params d.isStrict).head? = some cause) ∧
      (d.isStrict = false →
        ofDefinition d = ofDefinition { d with strict := some true, params := known d.params }) := by
  refine ⟨?_, fun filter done => ?_, fun cause => ?_, fun lenient => ?_⟩
  · rw [← failure?_eq_none, failure?_ofDefinition kind, List.head?_eq_none_iff, errors_eq_nil]
  · rw [ofDefinition_guard kind] at done
    obtain ⟨options, read, done⟩ := bind_eq_ok.1 done
    obtain ⟨guard, sourced, done⟩ := bind_eq_ok.1 done
    obtain rfl := Except.ok.inj done
    rw [Guard.eq_of_ofOptions sourced]
    exact ⟨options, rfl, takenFrom_of_read read⟩
  · rw [← failure?_eq_some, failure?_ofDefinition kind]
  · have strict : ofDefinition { d with strict := some true, params := known d.params } = _ :=
      ofDefinition_guard kind
    rw [ofDefinition_guard kind, strict, lenient, read_lenient]
    rfl

/-- Two unknown keys do not matter unless the definition is strict; then the lesser of them is
reported, and a window that is too large before that. -/
theorem ofDefinition_eq_first_error_unknown :
    let params : Registry String String := .ofList
      [("zone", "x"), ("deny_status", " +0418 "), ("area", "y"), ("entry_points", " / ,, /a")]
    let lenient : FilterDefinition := ⟨"csrf", .csrfPrevention, some false, params⟩
    let strict : FilterDefinition := { lenient with strict := none }
    let large : FilterDefinition :=
      { strict with params := params.put "nonce_cache_size" "18446744073709551616" }
    let options : GuardOptions := { entryPoints := ["/", "/a"], denyStatus := 418 }
    ofDefinition lenient = .ok (.guard ⟨options⟩) ∧ TakenFrom params options ∧
      ofDefinition { lenient with strict := some true, params := known params } =
        .ok (.guard ⟨options⟩) ∧
      ofDefinition strict = .error (.unknownParameter "csrf" "area") ∧
      ofDefinition large = .error
        (.invalidValue "csrf" "nonce_cache_size" "18446744073709551616" (.numeral .tooLarge)) := by
  intro params lenient strict large options
  obtain ⟨-, taken, -, same⟩ := ofDefinition_eq_first_error lenient rfl
  have built : ofDefinition lenient = .ok (.guard ⟨options⟩) := by decide
  obtain ⟨options', filter, takenFrom⟩ := taken _ built
  obtain rfl := Guard.mk.inj (BuiltinFilter.guard.inj filter)
  refine ⟨built, takenFrom, (same rfl).symm.trans built, ?_, ?_⟩
  · rw [(ofDefinition_eq_first_error strict rfl).2.2.1]
    decide
  · rw [(ofDefinition_eq_first_error large rfl).2.2.1]
    decide

end BuiltinFilter

end Gatehouse
