import Gatehouse.Proofs.Gate.Provenance

/-!
# What a handler is given

A handler runs for the requests that no filter rejects, and is given the request as the client sent
it (`Gate.handler_given`). The body of a form is read so that the filters see its parameters, and is
left for the handler with the same bytes. Only a form that cannot be read loses its body. It counts
as failed, so that no screen lets it pass, but where no screen applies the handler is given an empty
body.
-/

namespace Gatehouse

namespace Gate

/-- The request brings a form with a body that cannot be read within the limits. -/
def Unreadable (gate : Gate) (m : Incoming) : Prop :=
  m.isForm = true ∧ m.body.read gate.maxBodySize = none

instance (gate : Gate) (m : Incoming) : Decidable (gate.Unreadable m) :=
  inferInstanceAs (Decidable (_ ∧ _))

variable {gate : Gate} {m : Incoming} {site : Site}

/-! ## The body -/

theorem takeForm_of_unreadable (unreadable : gate.Unreadable m) :
    gate.takeForm m = (none, true, .free []) := by
  rw [takeForm, if_pos unreadable.1, unreadable.2]

theorem paramsFailed_of_unreadable (unreadable : gate.Unreadable m) :
    (gate.describe m).1.paramsFailed = true := by
  simp [describe, takeForm_of_unreadable unreadable]

theorem bytes_takeForm (readable : ¬ gate.Unreadable m) :
    (gate.takeForm m).2.2.bytes = m.body.bytes := by
  by_cases form : m.isForm = true
  · rw [takeForm, if_pos form]
    cases read : m.body.read gate.maxBodySize with
    | none => exact (readable ⟨form, read⟩).elim
    | some bytes =>
      rw [Body.read, Option.ite_none_right_eq_some] at read
      exact (Option.some.inj read.2).symm
  · rw [takeForm, if_neg form]

/-! ## Screens -/

theorem not_screened (admitted : gate.Admits m site)
    (failed : (gate.describe m).1.paramsFailed = true) :
    ∀ stage ∈ gate.pipeline.stagesFor (gate.describe m).1, ∀ s, stage.filter ≠ .screen s := by
  intro stage applies s screen
  obtain ⟨turn, taken, rfl, proceeds⟩ := Pipeline.exists_turn_of_run admitted applies
  obtain ⟨session, created, same⟩ :=
    Pipeline.resembles_turns (show turn ∈ gate.pipeline.turns (gate.arriving m site) from taken)
  have still : turn.passage.request.paramsFailed = true := by
    rw [same]
    exact failed
  rw [Turn.result_screen screen, still] at proceeds
  cases proceeds

/-! ## The handler -/

/-- **A handler is given the request of the client, with the body that it had unless that is a form
which cannot be read.** -/
theorem handler_given (gate : Gate) (m : Incoming) (site : Site) :
    (¬ gate.Admits m site → ∀ handler handler' : Handler,
        gate.serve handler m site = gate.serve handler' m site) ∧
      (gate.Admits m site →
        let p := (gate.pipeline.run (gate.arriving m site)).passage
        let given : Admission := ⟨(gate.describe m).2, p.links, p.request.session⟩
        (∀ handler : Handler, gate.serve handler m site =
            (gate.announce p.request (handler given p.site).1, (handler given p.site).2)) ∧
          given.incoming = { m with body := given.incoming.body } ∧
          (¬ gate.Unreadable m → given.incoming.body.bytes = m.body.bytes) ∧
          (gate.Unreadable m → given.incoming.body.bytes = [] ∧
            (gate.describe m).1.paramsFailed = true ∧
            ∀ stage ∈ gate.pipeline.stagesFor (gate.describe m).1, ∀ s,
              stage.filter ≠ .screen s)) := by
  refine ⟨serve_of_rejected, ?_⟩
  intro admitted p given
  refine ⟨serve_of_admitted admitted, rfl, bytes_takeForm, fun unreadable => ?_⟩
  have failed := paramsFailed_of_unreadable unreadable
  refine ⟨?_, failed, not_screened admitted failed⟩
  show (gate.takeForm m).2.2.bytes = []
  rw [takeForm_of_unreadable unreadable]
  rfl

/-- A gate that reads forms of at most four bytes. -/
def narrowGate (stages : List (Stage BuiltinFilter)) : Gate where
  pipeline := ⟨.empty, stages, .empty⟩
  cookieName := "SID"
  maxBodySize := 4
  maxParameters := 10

def posting (form : String) : Incoming :=
  ⟨"POST", ⟨none, "", "/x", none⟩,
    [("content-type", Text.utf8 "application/x-www-form-urlencoded")], .free (Text.utf8 form),
    .request⟩

def screened : Stage BuiltinFilter := ⟨⟨"failed", [], [], true, false, .ofList []⟩, .screen {}⟩

def quietSite : Site := .start (.start .full 10) ⟨fun _ => ⟨"a"⟩, fun _ => .replicate 16 0, 0, 0⟩

/-- Behind a screen a handler is given the bytes of a form that can be read, and never runs for one
that cannot. Without a screen it is given the latter without its bytes. -/
theorem handler_given_form :
    let strict := narrowGate [screened]
    let lenient := narrowGate []
    (strict.Admits (posting "a=1") quietSite ∧ ¬ strict.Unreadable (posting "a=1") ∧
      ∃ given at', given.incoming.body.bytes = Text.utf8 "a=1" ∧ ∀ handler : Handler,
        (strict.serve handler (posting "a=1") quietSite).2 = (handler given at').2) ∧
      (¬ strict.Admits (posting "a=123") quietSite ∧ ∀ handler handler' : Handler,
        strict.serve handler (posting "a=123") quietSite =
          strict.serve handler' (posting "a=123") quietSite) ∧
      lenient.Admits (posting "a=123") quietSite ∧ lenient.Unreadable (posting "a=123") ∧
        ∃ given at', given.incoming.body.bytes = [] ∧ ∀ handler : Handler,
          (lenient.serve handler (posting "a=123") quietSite).2 = (handler given at').2 := by
  intro strict lenient
  have admitted : strict.Admits (posting "a=1") quietSite := by unfold Admits; decide
  have readable : ¬ strict.Unreadable (posting "a=1") := by decide
  have rejected : ¬ strict.Admits (posting "a=123") quietSite := by unfold Admits; decide
  have passes : lenient.Admits (posting "a=123") quietSite := by unfold Admits; decide
  have unreadable : lenient.Unreadable (posting "a=123") := by decide
  obtain ⟨served, -, intact, -⟩ := (handler_given strict (posting "a=1") quietSite).2 admitted
  obtain ⟨served', -, -, lost⟩ := (handler_given lenient (posting "a=123") quietSite).2 passes
  refine ⟨⟨admitted, readable, _, _, intact readable, fun handler => by rw [served]⟩,
    ⟨rejected, (handler_given strict (posting "a=123") quietSite).1 rejected⟩,
    passes, unreadable, _, _, (lost unreadable).1, fun handler => by rw [served']⟩

/-- Where no screen applies, a handler is given a form that is too long as one that is empty. -/
theorem long_form_arrives_empty :
    let gate := narrowGate []
    let m := posting "a=123"
    gate.Admits m quietSite ∧ m.body.bytes = Text.utf8 "a=123" ∧
      ∃ given : Admission, given.incoming.body.bytes = [] ∧
        ∀ handler : Handler, gate.serve handler m quietSite = handler given quietSite := by
  intro gate m
  exact ⟨by unfold Admits; decide, rfl, ⟨(gate.describe m).2, .plain, none⟩, by decide,
    fun _ => rfl⟩

end Gate

end Gatehouse
