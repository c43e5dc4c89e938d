import Mathlib.Data.List.Basic

namespace Virtualization.Library

variable {σ ε : Type}

/-- Runs a sequence of events. A step that answers `none` cannot be taken in its state. -/
def run (step : σ → ε → Option σ) : σ → List ε → Option σ
  | s, [] => some s
  | s, e :: es => (step s e).bind fun t => run step t es

/-- Every step of the run meets `ok` in the state before it. -/
def Along (step : σ → ε → Option σ) (ok : σ → ε → Prop) : σ → List ε → Prop
  | _, [] => True
  | s, e :: es => ok s e ∧ ∀ t, step s e = some t → Along step ok t es

instance Along.decidable (step : σ → ε → Option σ) (ok : σ → ε → Prop)
    [∀ s e, Decidable (ok s e)] : (s : σ) → (es : List ε) → Decidable (Along step ok s es)
  | _, [] => .isTrue True.intro
  | s, e :: es =>
    if good : ok s e then
      match moved : step s e with
      | none => .isTrue ⟨good, fun t taken => by rw [moved] at taken; cases taken⟩
      | some t =>
        match Along.decidable step ok t es with
        | .isTrue rest => .isTrue ⟨good, fun u taken => by
            rw [moved] at taken
            cases taken
            exact rest⟩
        | .isFalse bad => .isFalse fun along => bad (along.2 t moved)
    else .isFalse fun along => good along.1

instance decidableExistsSome {α : Type} (o : Option α) (p : α → Prop) [DecidablePred p] :
    Decidable (∃ a, o = some a ∧ p a) :=
  inferInstanceAs (Decidable (∃ a ∈ o, p a))

theorem exists_some_imp {α : Type} {o : Option α} {p q : α → Prop} (found : ∃ a, o = some a ∧ p a)
    (imp : ∀ a, o = some a → p a → q a) : ∃ a, o = some a ∧ q a := by
  obtain ⟨a, isSome, holds⟩ := found
  exact ⟨a, isSome, imp a isSome holds⟩

def script (step : σ → ε → Option σ) : σ → List (σ → ε) → List ε
  | _, [] => []
  | s, choose :: rest =>
    choose s :: match step s (choose s) with
      | none => []
      | some t => script step t rest

variable {step : σ → ε → Option σ} {es : List ε}

theorem run_cons {s t : σ} {e : ε} (moved : run step s (e :: es) = some t) :
    ∃ middle, step s e = some middle ∧ run step middle es = some t := by
  simp only [run] at moved
  cases taken : step s e with
  | none => rw [taken] at moved; cases moved
  | some middle => rw [taken] at moved; exact ⟨middle, rfl, moved⟩

theorem run_append (step : σ → ε → Option σ) (s : σ) (es fs : List ε) :
    run step s (es ++ fs) = (run step s es).bind fun t => run step t fs := by
  induction es generalizing s with
  | nil => rfl
  | cons e _ ih =>
    simp only [List.cons_append, run]
    cases step s e with
    | none => rfl
    | some t => exact ih t

variable {ok : σ → ε → Prop}

theorem run_invariant {inv : σ → Prop} (preserved : ∀ s e t, inv s → ok s e → step s e = some t → inv t) {s t : σ}
    (start : inv s) (along : Along step ok s es) (reached : run step s es = some t) : inv t := by
  induction es generalizing s with
  | nil => cases reached; exact start
  | cons e _ ih =>
    obtain ⟨middle, taken, rest⟩ := run_cons reached
    exact ih (preserved s e middle start along.1 taken) (along.2 middle taken) rest

theorem Along.of_invariant {lawful : σ → ε → Prop} {inv : σ → Prop}
    (preserved : ∀ s e t, inv s → ok s e → step s e = some t → inv t) (follows : ∀ s e, inv s → ok s e → lawful s e)
    {s : σ} (start : inv s) (along : Along step ok s es) : Along step lawful s es := by
  induction es generalizing s with
  | nil => exact True.intro
  | cons e _ ih =>
    refine ⟨follows s e start along.1, fun t taken => ?_⟩
    exact ih (preserved s e t start along.1 taken) (along.2 t taken)

theorem Along.of_preserved {inv : σ → Prop} (preserved : ∀ s e t, inv s → step s e = some t → inv t) {s : σ}
    (start : inv s) (es : List ε) : Along step (fun s _ => inv s) s es := by
  induction es generalizing s with
  | nil => exact True.intro
  | cons e _ ih => exact ⟨start, fun t taken => ih (preserved s e t start taken)⟩

theorem Along.mono {weaker : σ → ε → Prop} (implied : ∀ s e, ok s e → weaker s e) {s : σ} (along : Along step ok s es) :
    Along step weaker s es := by
  induction es generalizing s with
  | nil => exact True.intro
  | cons e _ ih => exact ⟨implied s e along.1, fun t taken => ih (along.2 t taken)⟩

end Virtualization.Library
