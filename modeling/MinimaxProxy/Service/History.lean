import MinimaxProxy.Flow.Placement
import MinimaxProxy.Service.Finality

/-!
# The history of a task

The row of a task in any state of a run, and in any later one.
-/

namespace MinimaxProxy.Service
open Store

variable {c c' : Core} {k : Kind} {o : Options} {ok : State → Event → Prop} {s t u : State}

/-- A task that has left the queue: only legacy tasks come back to it. -/
structure Left (c : Core) : Prop where
  ready : c.routeState = .ready
  protocol : c.protocol ≠ some .legacy
  taken : c.status.isQueued = false

/-- What stays of the row. -/
structure Continues (c c' : Core) : Prop where
  fixed : c'.taskID = c.taskID ∧ c'.apiKeyID = c.apiKeyID ∧ c'.queueSeq = c.queueSeq ∧ c'.expiresAt = c.expiresAt ∧ c'.callback = c.callback
  version : c' = c ∨ c.version < c'.version
  routed : c.routeState = .ready → c'.routeState = .ready ∧ c'.protocol = c.protocol
  deleted : c.deletedAt.isSome = true → c'.deletedAt = c.deletedAt
  left : Left c → Left c' ∧ (c.slot = false → c'.slot = false)
  held : Left c → c.slot = true → c'.slot = true → c'.upstreamID = c.upstreamID ∧ c'.dispatch = c.dispatch

theorem Continues.refl (c : Core) : Continues c c :=
  ⟨⟨rfl, rfl, rfl, rfl, rfl⟩, .inl rfl, fun ready => ⟨ready, rfl⟩, fun _ => rfl, fun left => ⟨left, id⟩, fun _ _ _ => ⟨rfl, rfl⟩⟩

theorem Continues.trans {a b : Core} (first : Continues a b) (last : Continues b c) : Continues a c := by
  obtain ⟨fixed, version, routed, deleted, left, held⟩ := first
  obtain ⟨fixed', version', routed', deleted', left', held'⟩ := last
  constructor <;> grind

/-- One task has been claimed, and later it has failed. -/
def claimed : State := remoteStart.after Flow.remoteOptions (undelivered.take 2)

def ended : State := claimed.after Flow.remoteOptions (undelivered.drop 2)

/-- In every state of every run, the rows of tasks make sense for their protocol and status. -/
theorem task_rows_sound (start : Start s) (run : Reaches o ok s t) : ∀ task ∈ t.db.tasks, Sound task.core :=
  (Reaches.inv start run).orderly.sound

theorem task_rows_sound_claimed : claimed.db.tasks.length = 1 ∧ ∀ task ∈ claimed.db.tasks, Sound task.core :=
  ⟨by decide +kernel, task_rows_sound remoteStart_start (reaches_after _ fun _ _ _ => trivial)⟩

end MinimaxProxy.Service
