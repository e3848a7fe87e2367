import Mathlib.Data.List.Forall2

/-! Traces: what a stepping machine answers to a list of inputs, with the state behind each answer.
Two machines whose states are related and stay related have matching traces, and related outcomes. -/
namespace Rewind

variable {ι σ τ ρ : Type}

/-- The answer to each input, with the state that it leads to. -/
def trace (step : ι → σ → ρ × σ) : List ι → σ → List (ρ × σ)
  | [], _ => []
  | i :: is, s => step i s :: trace step is (step i s).2

/-- The state in which a list of inputs leaves a stepping machine. -/
def outcome (step : ι → σ → ρ × σ) (is : List ι) (s : σ) : σ := is.foldl (fun s i => (step i s).2) s

/-- What one step keeps, and answers alike, a whole run keeps, and answers alike. -/
theorem forall₂_trace {f : ι → σ → ρ × σ} {g : ι → τ → ρ × τ} {R : σ → τ → Prop}
    (hstep : ∀ i s t, R s t → (f i s).1 = (g i t).1 ∧ R (f i s).2 (g i t).2) (is : List ι) {s : σ}
    {t : τ} (h : R s t) :
    List.Forall₂ (fun x y => x.1 = y.1 ∧ R x.2 y.2) (trace f is s) (trace g is t) := by
  induction is generalizing s t with
  | nil => exact .nil
  | cons i is ih => exact .cons (hstep i s t h) (ih (hstep i s t h).2)

theorem rel_outcome {f : ι → σ → ρ × σ} {g : ι → τ → ρ × τ} {R : σ → τ → Prop}
    (hstep : ∀ i s t, R s t → R (f i s).2 (g i t).2) (is : List ι) {s : σ} {t : τ} (h : R s t) :
    R (outcome f is s) (outcome g is t) :=
  List.foldl_rel h fun i _ s t hst => hstep i s t hst

end Rewind
