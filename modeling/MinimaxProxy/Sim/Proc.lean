import Mathlib.Logic.Function.Basic
import Mathlib.Logic.Relation

/-!
# Processes over a shared state

A process performs actions one after the other; an action is a relation between the shared
state, its answer and the next shared state. Any number of processes run interleaved with an
environment; a process that is never scheduled again, or is replaced, has crashed. What holds
of every interleaving is proved process by process: each is `Safe` when its actions keep the
invariant and its guarantee whatever the others do within the rely condition.
-/

namespace Sim

/-- A process with shared state `σ` that returns an `α`. -/
inductive Proc (σ α : Type) : Type 1
  | ret (a : α)
  | act {β : Type} (step : σ → β → σ → Prop) (next : β → Proc σ α)

namespace Proc
variable {σ α β : Type}

def bind : Proc σ α → (α → Proc σ β) → Proc σ β
  | .ret a, f => f a
  | .act step next, f => .act step fun b => (next b).bind f

instance : Monad (Proc σ) where
  pure := .ret
  bind := bind

/-- One action. -/
def perform (step : σ → β → σ → Prop) : Proc σ β := .act step .ret

/-- Any value at all: what the process does not control. -/
def choose (β : Type) : Proc σ β := perform fun s _ s' => s' = s

end Proc

/-- The invariant of the shared state, and what the processes may rely on and guarantee. -/
structure Discipline (σ ι : Type) where
  inv : σ → Prop
  rely : ι → σ → σ → Prop
  guar : ι → σ → σ → Prop

variable {σ ι α β : Type} {D : Discipline σ ι} {i : ι}

/-- From `s` on, whatever others do before each action, process `i` keeps the discipline and
ends with `Q`. -/
def Safe (D : Discipline σ ι) (i : ι) : Proc σ α → (α → σ → Prop) → σ → Prop
  | .ret a, Q, s => Q a s
  | .act step next, Q, s => ∀ s', D.rely i s s' → D.inv s' → ∀ b t, step s' b t →
      D.inv t ∧ D.guar i s' t ∧ Safe D i (next b) Q t

/-- An assertion that the others do not break. -/
def Stable (D : Discipline σ ι) (i : ι) (A : σ → Prop) : Prop := ∀ s s', A s → D.rely i s s' → D.inv s' → A s'

theorem safe_pure {a : α} {Q : α → σ → Prop} {s : σ} (h : Q a s) : Safe D i (pure a) Q s := h

/-- The rule for one action. -/
theorem safe_perform {step : σ → β → σ → Prop} {A : σ → Prop} {Q : β → σ → Prop} (stable : Stable D i A)
    (each : ∀ s b t, A s → D.inv s → step s b t → D.inv t ∧ D.guar i s t ∧ Q b t) {s : σ} (pre : A s) :
    Safe D i (Proc.perform step) Q s :=
  fun s' others kept b t stepped => each s' b t (stable s s' pre others kept) kept stepped

theorem safe_bind {p : Proc σ α} {f : α → Proc σ β} {P : α → σ → Prop} {Q : β → σ → Prop} {s : σ} (first : Safe D i p P s)
    (rest : ∀ a t, P a t → Safe D i (f a) Q t) : Safe D i (p >>= f) Q s := by
  show Safe D i (p.bind f) Q s
  induction p generalizing s with
  | ret a => exact rest a s first
  | act step next ih =>
    intro s' others kept b t stepped
    obtain ⟨inv, guar, safe⟩ := first s' others kept b t stepped
    exact ⟨inv, guar, ih b safe⟩

theorem Safe.weaken {p : Proc σ α} {P Q : α → σ → Prop} {s : σ} (safe : Safe D i p P s) (le : ∀ a t, P a t → Q a t) :
    Safe D i p Q s := by
  induction p generalizing s with
  | ret a => exact le a s safe
  | act step next ih =>
    intro s' others kept b t stepped
    obtain ⟨inv, guar, rest⟩ := safe s' others kept b t stepped
    exact ⟨inv, guar, ih b rest⟩

/-! ## Systems -/

/-- The shared state and the processes started so far. -/
structure Config (σ ι : Type) where
  shared : σ
  threads : ι → Option (Proc σ Unit) := fun _ => none

/-- What a system is made of: how the environment moves, which process may start under a name
in which state, and whether a name may be used again. -/
structure System (σ ι : Type) where
  env : σ → σ → Prop
  starts : ι → Proc σ Unit → σ → Prop
  again : Prop

/-- What makes the discipline hold in every interleaving. `fresh i` says that no trace of the
name `i` is in the state. -/
structure Sound (D : Discipline σ ι) (fresh : ι → σ → Prop) (S : System σ ι) : Prop where
  refl : ∀ i s, D.rely i s s
  trans : ∀ {i a b c}, D.rely i a b → D.rely i b c → D.rely i a c
  guar : ∀ {i j s t}, i ≠ j → D.guar i s t → D.rely j s t
  env : ∀ {s t}, D.inv s → S.env s t → D.inv t ∧ ∀ i, D.rely i s t
  unused : ∀ {i s t}, fresh i s → D.rely i s t → fresh i t
  again : S.again → ∀ {i s}, D.inv s → fresh i s
  start : ∀ {i p s}, S.starts i p s → fresh i s → D.inv s → Safe D i p (fun _ _ => True) s

/-- What holds of every configuration that is reached. -/
structure Keeping (D : Discipline σ ι) (fresh : ι → σ → Prop) (c : Config σ ι) : Prop where
  inv : D.inv c.shared
  safe : ∀ i p, c.threads i = some p → Safe D i p (fun _ _ => True) c.shared
  unused : ∀ i, c.threads i = none → fresh i c.shared

variable {fresh : ι → σ → Prop} {S : System σ ι} {c d : Config σ ι}

/-- What others do leaves a safe process safe. -/
theorem Safe.move (sound : Sound D fresh S) {p : Proc σ Unit} {s t : σ} (safe : Safe D i p (fun _ _ => True) s)
    (others : D.rely i s t) : Safe D i p (fun _ _ => True) t := by
  cases p with
  | ret a => trivial
  | act step next => exact fun s' more kept => safe s' (sound.trans others more) kept

variable [DecidableEq ι]

/-- A process takes its next action, one starts, or the environment moves. A process that
starts under a name that is in use replaces the old one. -/
inductive Step (S : System σ ι) (c : Config σ ι) : Config σ ι → Prop
  | run {i : ι} {β : Type} {step : σ → β → σ → Prop} {next : β → Proc σ Unit} {b : β} {t : σ}
      (active : c.threads i = some (.act step next)) (stepped : step c.shared b t) :
      Step S c ⟨t, Function.update c.threads i (some (next b))⟩
  | start {i : ι} {p : Proc σ Unit} (unused : c.threads i = none ∨ S.again) (may : S.starts i p c.shared) :
      Step S c ⟨c.shared, Function.update c.threads i (some p)⟩
  | env {t : σ} (moved : S.env c.shared t) : Step S c ⟨t, c.threads⟩

theorem update_some {f : ι → Option (Proc σ Unit)} {j : ι} {p q : Proc σ Unit}
    (found : Function.update f i (some p) j = some q) : j = i ∧ q = p ∨ j ≠ i ∧ f j = some q := by
  by_cases same : j = i
  · subst same
    rw [Function.update_self] at found
    exact .inl ⟨rfl, (Option.some.inj found).symm⟩
  · rw [Function.update_of_ne same] at found
    exact .inr ⟨same, found⟩

theorem update_none {f : ι → Option (Proc σ Unit)} {j : ι} {p : Proc σ Unit}
    (found : Function.update f i (some p) j = none) : j ≠ i ∧ f j = none := by
  by_cases same : j = i
  · subst same
    rw [Function.update_self] at found
    cases found
  · rw [Function.update_of_ne same] at found
    exact ⟨same, found⟩

theorem Keeping.step (sound : Sound D fresh S) (h : Keeping D fresh c) (step : Step S c d) :
    Keeping D fresh d := by
  cases step with
  | @run i β step next b t active stepped =>
    obtain ⟨inv, guar, rest⟩ := h.safe i _ active c.shared (sound.refl i _) h.inv b t stepped
    refine ⟨inv, fun j p found => ?_, fun j found => ?_⟩
    · rcases update_some found with ⟨rfl, rfl⟩ | ⟨other, found⟩
      · exact rest
      · exact (h.safe j p found).move sound (sound.guar (Ne.symm other) guar)
    · obtain ⟨other, found⟩ := update_none found
      exact sound.unused (h.unused j found) (sound.guar (Ne.symm other) guar)
  | @start i p unused may =>
    refine ⟨h.inv, fun j q found => ?_, fun j found => ?_⟩
    · rcases update_some found with ⟨rfl, rfl⟩ | ⟨-, found⟩
      · have fresh := unused.elim (h.unused j) fun again => sound.again again h.inv
        exact sound.start may fresh h.inv
      · exact h.safe j q found
    · exact h.unused j (update_none found).2
  | env moved =>
    obtain ⟨inv, rely⟩ := sound.env h.inv moved
    exact ⟨inv, fun i p found => (h.safe i p found).move sound (rely i), fun i found => sound.unused (h.unused i found) (rely i)⟩

/-- Every interleaving keeps the discipline. -/
theorem Keeping.run (sound : Sound D fresh S) (h : Keeping D fresh c) (run : Relation.ReflTransGen (Step S) c d) : Keeping D fresh d := by
  induction run with
  | refl => exact h
  | tail _ step ih => exact ih.step sound step

/-- What every guarantee and the environment keep between two states holds across a run. -/
theorem Keeping.history (sound : Sound D fresh S) {T : σ → σ → Prop} (refl : ∀ s, T s s)
    (trans : ∀ {a b c}, T a b → T b c → T a c) (guar : ∀ i s t, D.guar i s t → T s t)
    (moved : ∀ s t, D.inv s → S.env s t → T s t) (h : Keeping D fresh c) (run : Relation.ReflTransGen (Step S) c d) :
    T c.shared d.shared := by
  induction run with
  | refl => exact refl _
  | tail before step ih =>
    have keeping := h.run sound before
    refine trans ih ?_
    cases step with
    | run active stepped => exact guar _ _ _ (keeping.safe _ _ active _ (sound.refl _ _) keeping.inv _ _ stepped).2.1
    | start unused may => exact refl _
    | env stepped => exact moved _ _ keeping.inv stepped

end Sim
