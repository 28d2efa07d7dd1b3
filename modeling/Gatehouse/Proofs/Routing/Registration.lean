import Mathlib.Data.List.Induction
import Mathlib.Data.List.TakeWhile
import Gatehouse.Routing.Directory
import Gatehouse.Settings.Schema
import Gatehouse.Proofs.Traversal

/-!
# Registration

A registration succeeds if each of its texts is the default pattern or can be read, whatever is
mounted already; it adds one mount, and a claim to be the default servlet. Directories are built by
registrations that all succeed (`Directory.Built`).
-/

namespace Gatehouse

namespace Directory

/-! ## One registration -/

/-- A servlet can be mounted on the text. -/
def Mountable (text : String) : Prop :=
  text = defaultPattern ∨ ∃ pattern, UrlPattern.parse text = .ok pattern

instance (text : String) : Decidable (Mountable text) :=
  match parsed : UrlPattern.parse text with
  | .ok pattern => .isTrue (.inr ⟨pattern, parsed⟩)
  | .error _ => decidable_of_iff (text = defaultPattern) (by simp [Mountable, parsed])

/-- The default pattern is among the texts, and no bad one stands in front of it. -/
def ClaimsDefault (texts : List String) : Prop :=
  defaultPattern ∈ texts.takeWhile (Mountable ·)

instance (texts : List String) : Decidable (ClaimsDefault texts) :=
  inferInstanceAs (Decidable (_ ∈ _))

theorem not_claimsDefault_nil : ¬ ClaimsDefault [] := List.not_mem_nil

theorem claimsDefault_cons (text : String) (rest : List String) :
    ClaimsDefault (text :: rest) ↔
      text = defaultPattern ∨ Mountable text ∧ ClaimsDefault rest := by
  rw [ClaimsDefault, List.takeWhile_cons]
  by_cases mountable : Mountable text
  · simp [mountable, ClaimsDefault, eq_comm]
  · have proper : text ≠ defaultPattern := fun default => mountable (.inl default)
    simp [mountable, proper]

theorem claimsDefault_iff_mem {texts : List String} (mountable : ∀ text ∈ texts, Mountable text) :
    ClaimsDefault texts ↔ defaultPattern ∈ texts := by
  rw [ClaimsDefault, List.takeWhile_eq_self_iff.2 (by simpa using mountable)]

theorem readPatterns_snd (texts : List String) :
    (readPatterns texts).2 = (texts.filter (· ≠ defaultPattern)).mapM UrlPattern.parse := by
  induction texts with
  | nil => rfl
  | cons text rest ih =>
    rw [readPatterns, List.filter_cons]
    by_cases default : text = defaultPattern
    · simp [default, ih]
    · rw [if_neg default, if_pos (by simpa using default), List.mapM_cons, ← ih]
      cases UrlPattern.parse text with
      | error cause => rfl
      | ok pattern => cases (readPatterns rest).2 <;> rfl

theorem readPatterns_fst (texts : List String) :
    (readPatterns texts).1 = true ↔ ClaimsDefault texts := by
  induction texts with
  | nil => simp [readPatterns, not_claimsDefault_nil]
  | cons text rest ih =>
    rw [readPatterns, claimsDefault_cons]
    by_cases default : text = defaultPattern
    · simp [default]
    · rw [if_neg default]
      cases parsed : UrlPattern.parse text with
      | error cause => simp [Mountable, default, parsed]
      | ok pattern => simp [Mountable, default, parsed, ih]

variable {servlets : List ServletDefinition} {d d' : Directory}

theorem exists_readPatterns {texts : List String} :
    (∃ patterns, (texts.filter (· ≠ defaultPattern)).mapM UrlPattern.parse = .ok patterns) ↔
      ∀ text ∈ texts, Mountable text := by
  rw [exists_mapM_eq_ok]
  simp only [List.mem_filter, decide_eq_true_eq, Mountable, and_imp, or_iff_not_imp_left, ne_eq]

/-- What a registration leaves, whether it succeeds or not: its patterns count just if all of them
can be read. -/
theorem register_fst (d : Directory) (name : String) (texts : List String) :
    (d.register name texts).1 =
      { mounts := match (readPatterns texts).2 with
          | .error _ => d.mounts
          | .ok patterns => d.mounts ++ [⟨name, patterns⟩]
        default := d.default.or (if ClaimsDefault texts then some name else none) } := by
  rw [register]
  have claimed := readPatterns_fst texts
  generalize readPatterns texts = outcome at claimed ⊢
  obtain ⟨claims, cause | patterns⟩ := outcome <;>
    cases claims <;> simp [claimDefault, ← claimed]

theorem register_snd (d : Directory) (name : String) (texts : List String) :
    (d.register name texts).2 = (readPatterns texts).2.map fun _ => () := by
  rw [register]
  generalize readPatterns texts = outcome
  obtain ⟨claims, cause | patterns⟩ := outcome <;> rfl

theorem register_eq_ok {name : String} {texts : List String} :
    d.register name texts = (d', .ok ()) ↔
      ∃ patterns, (texts.filter (· ≠ defaultPattern)).mapM UrlPattern.parse = .ok patterns ∧
        { mounts := d.mounts ++ [⟨name, patterns⟩]
          default := d.default.or (if defaultPattern ∈ texts then some name else none) } = d' := by
  have claims := @claimsDefault_iff_mem texts
  rw [← exists_readPatterns] at claims
  rw [Prod.ext_iff, register_fst, register_snd, ← readPatterns_snd]
  cases read : (readPatterns texts).2 with
  | error cause => simp [Except.map]
  | ok patterns =>
    rw [readPatterns_snd] at read
    simp [Except.map, claims ⟨_, read⟩]

theorem exists_register (d : Directory) (name : String) {texts : List String} :
    (∃ d', d.register name texts = (d', .ok ())) ↔ ∀ text ∈ texts, Mountable text := by
  simp only [register_eq_ok, @exists_comm Directory, exists_and_left, exists_eq', and_true]
  exact exists_readPatterns

/-! ## Several registrations -/

/-- The directory that is left by registrations which all succeed. -/
inductive Built : List ServletDefinition → Directory → Prop where
  | empty : Built [] .empty
  | register {servlets : List ServletDefinition} {d d' : Directory} {servlet : ServletDefinition} :
    Built servlets d → d.register servlet.name servlet.urlPatterns = (d', .ok ()) →
      Built (servlets ++ [servlet]) d'

theorem exists_built :
    (∃ d, Built servlets d) ↔
      ∀ servlet ∈ servlets, ∀ text ∈ servlet.urlPatterns, Mountable text := by
  constructor
  · rintro ⟨d, built⟩
    induction built with
    | empty => nofun
    | register built registered ih =>
      rw [List.forall_mem_append, List.forall_mem_singleton]
      exact ⟨ih, (exists_register _ _).1 ⟨_, registered⟩⟩
  · intro mountable
    induction servlets using List.reverseRecOn with
    | nil => exact ⟨_, .empty⟩
    | append_singleton front last ih =>
      rw [List.forall_mem_append, List.forall_mem_singleton] at mountable
      obtain ⟨d, built⟩ := ih mountable.1
      obtain ⟨d', registered⟩ := (exists_register d last.name).2 mountable.2
      exact ⟨d', built.register registered⟩

end Directory

end Gatehouse
