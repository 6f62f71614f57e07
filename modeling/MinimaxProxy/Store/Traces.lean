import MinimaxProxy.Store.Effects
import MinimaxProxy.Store.Soundness

/-!
# What becomes of a task

An operation moves each task by the changes its effect names. So what those changes keep, one
after the other, holds between a row before the operation and the row of the same task after
it.
-/

namespace MinimaxProxy.Store
open Sql

/-- What the caller knows of the tasks stays true while the operation runs, and the rows it
inserts make sense. -/
structure Effect.Stable (e : Effect) : Prop where
  given : ∀ c k c', Sound c → e.given c → k ∈ e.kinds → CoreMove c k c' → e.given c'
  fresh : ∀ c, e.fresh c → Sound c ∧ e.given c

/-- An operation without a caller who knows more. -/
theorem Effect.stable_of_trivial {e : Effect} (given : ∀ c, e.given c) (fresh : ∀ c, e.fresh c → Sound c) : e.Stable :=
  ⟨fun _ _ c' _ _ _ _ => given c', fun c new => ⟨fresh c new, given c⟩⟩

section
variable {e : Effect} {db db' : Database}

/-- The rows make sense, and the caller's knowledge is right. -/
def Effect.Known (e : Effect) (t : Task) : Prop := Sound t.core ∧ e.given t.core

theorem Effect.Known.moves {t t' : Task} (stable : e.Stable) (known : e.Known t) (moved : e.moves t t') :
    e.Known t' ∧ ∃ k ∈ e.kinds, CoreMove t.core k t'.core := by
  obtain ⟨k, mem, move⟩ := moved known.2
  exact ⟨⟨move.sound known.1, stable.given _ k _ known.1 known.2 mem move⟩, k, mem, move⟩

theorem Effect.known_after (stable : e.Stable) (h : e.law.Evolves db db') (known : ∀ t ∈ db.tasks, e.Known t) :
    ∀ t ∈ db'.tasks, e.Known t :=
  Law.Evolves.forall (h .videoTasks) (fun _ _ known moved => (known.moves stable moved).1) (fun t new => stable.fresh t.core new) known

theorem Effect.sound_after (stable : e.Stable) (h : e.law.Evolves db db') (known : ∀ t ∈ db.tasks, e.Known t) :
    ∀ t ∈ db'.tasks, Sound t.core := fun t mem => (Effect.known_after stable h known t mem).1

/-- The law of the tasks with what is known of them. -/
theorem Effect.guarded (stable : e.Stable) (h : e.law.Evolves db db') (known : ∀ t ∈ db.tasks, e.Known t) :
    Law.Evolves
      { change := fun (t t' : Task) => e.moves t t' ∧ e.Known t
        fresh := fun t => e.fresh t.core, gone := fun t => e.gone t.core }
      db.tasks db'.tasks :=
  Law.Evolves.guarded (h .videoTasks) (fun _ _ known moved => (known.moves stable moved).1) (fun t new => stable.fresh t.core new) known

variable {R : Core → Core → Prop}

/-- A change of a task whose row is known. -/
theorem Effect.change_of (moves : ∀ c k c', Sound c → k ∈ e.kinds → CoreMove c k c' → R c c') {t t' : Task}
    (change : e.moves t t' ∧ e.Known t) : R t.core t'.core := by
  obtain ⟨k, mem, move⟩ := change.1 change.2.2
  exact moves _ k _ change.2.1 mem move

/-- Where a task comes from. -/
theorem Effect.back (stable : e.Stable) (h : e.law.Evolves db db') (known : ∀ t ∈ db.tasks, e.Known t) (refl : ∀ c, R c c)
    (trans : ∀ a b c, R a b → R b c → R a c) (moves : ∀ c k c', Sound c → k ∈ e.kinds → CoreMove c k c' → R c c') :
    ∀ t' ∈ db'.tasks, (∃ t ∈ db.tasks, R t.core t'.core) ∨ ∃ c, e.fresh c ∧ R c t'.core := by
  intro t' mem
  rcases (Effect.guarded stable h known).back (R := fun t t' => R t.core t'.core) (fun t => refl t.core)
    (fun a b c => trans a.core b.core c.core) (fun _ _ change => Effect.change_of moves change) t' mem with old | ⟨t, new, moved⟩
  · exact .inl old
  · exact .inr ⟨t.core, new, moved⟩

/-- What becomes of a task. -/
theorem Effect.forth (stable : e.Stable) (h : e.law.Evolves db db') (known : ∀ t ∈ db.tasks, e.Known t) (refl : ∀ c, R c c)
    (trans : ∀ a b c, R a b → R b c → R a c) (moves : ∀ c k c', Sound c → k ∈ e.kinds → CoreMove c k c' → R c c') :
    ∀ t ∈ db.tasks, (∃ t' ∈ db'.tasks, R t.core t'.core) ∨ ∃ c, e.gone c ∧ R t.core c := by
  intro t mem
  rcases (Effect.guarded stable h known).forth (R := fun t t' => R t.core t'.core) (fun t => refl t.core)
    (fun a b c => trans a.core b.core c.core) (fun _ _ change => Effect.change_of moves change) t mem with kept | ⟨t', gone, moved⟩
  · exact .inl kept
  · exact .inr ⟨t'.core, gone, moved⟩

end

end MinimaxProxy.Store
