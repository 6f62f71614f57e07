import Mathlib.Logic.Relation

/-!
# Runs of a labelled step relation

A run takes steps whose labels meet a condition in the state they are taken from. What
every such step keeps holds in every state of every run.
-/

namespace Sim

variable {σ ℓ : Type*}

/-- `Run step ok s t`: from `s` to `t` by steps that meet `ok`. -/
inductive Run (step : σ → ℓ → σ → Prop) (ok : σ → ℓ → Prop) (s : σ) : σ → Prop
  | refl : Run step ok s s
  | tail {t u : σ} (l : ℓ) : Run step ok s t → ok t l → step t l u → Run step ok s u

variable {step : σ → ℓ → σ → Prop} {ok : σ → ℓ → Prop} {s t : σ}

theorem Run.invariant (I : σ → Prop) (start : I s) (keeps : ∀ t l u, I t → ok t l → step t l u → I u) (run : Run step ok s t) : I t := by
  induction run with
  | refl => exact start
  | tail l _ met stepped ih => exact keeps _ l _ ih met stepped

theorem Run.trans {u : σ} (first : Run step ok s t) (last : Run step ok t u) : Run step ok s u := by
  induction last with
  | refl => exact first
  | tail l _ met stepped ih => exact .tail l ih met stepped

/-- A condition may be weakened. -/
theorem Run.mono {ok' : σ → ℓ → Prop} (le : ∀ s l, ok s l → ok' s l) (run : Run step ok s t) : Run step ok' s t := by
  induction run with
  | refl => exact .refl
  | tail l _ met stepped ih => exact .tail l ih (le _ _ met) stepped

/-! ## Given runs -/

section
variable {next : σ → ℓ → Option σ}

/-- The state after the labels; those with no step are left out. -/
def after (next : σ → ℓ → Option σ) (s : σ) (labels : List ℓ) : σ := labels.foldl (fun s l => (next s l).getD s) s

/-- The labels meet `ok` where they are taken. -/
def Meets (next : σ → ℓ → Option σ) (ok : σ → ℓ → Prop) (s : σ) : List ℓ → Prop
  | [] => True
  | l :: rest => ok s l ∧ Meets next ok ((next s l).getD s) rest

instance decidableMeets (next : σ → ℓ → Option σ) (ok : σ → ℓ → Prop) [∀ s l, Decidable (ok s l)] (s : σ) (labels : List ℓ) :
    Decidable (Meets next ok s labels) :=
  match labels with
  | [] => isTrue trivial
  | l :: rest => @instDecidableAnd _ _ _ (decidableMeets next ok ((next s l).getD s) rest)

theorem run_after (taken : ∀ s l t, next s l = some t → step s l t) {labels : List ℓ} (met : Meets next ok s labels) :
    Run step ok s (after next s labels) := by
  induction labels generalizing s with
  | nil => exact .refl
  | cons l rest ih =>
    refine Run.trans ?_ (ih met.2)
    show Run step ok s ((next s l).getD s)
    cases found : next s l with
    | none => exact .refl
    | some t => exact .tail l .refl met.1 (taken s l t found)

theorem meets_of_all {labels : List ℓ} (met : ∀ l ∈ labels, ∀ s, ok s l) : Meets next ok s labels := by
  induction labels generalizing s with
  | nil => trivial
  | cons l rest ih => exact ⟨met l List.mem_cons_self s, ih fun l mem => met l (List.mem_cons_of_mem _ mem)⟩

end

end Sim
