import MinimaxProxy.Service.Stages
import MinimaxProxy.Store.CleanupPreview

/-!
# Previews and confirmations during a run

Only a preview stores a previewed job, and nothing but its confirmation or its removal changes
it. A confirmation therefore finds the job as the preview stored it, or none.
-/

namespace MinimaxProxy.Service
open Sql Sql.Prog Store

/-- The event is no preview under this job id. -/
def NotPreviewed (jobID : String) (_ : State) (e : Event) : Prop :=
  ∀ secret olderThanDays requestedBy, e.op ≠ .deed (.previewArtifactCleanup jobID secret olderThanDays requestedBy)

section
variable {o : Options} {s t u : State} {e : Event}

theorem Deed.previewKept (d : Deed) (o : Options) (now : Int) (faults : Faults Err) (n : Nat) (orderly : Orderly s.db) (known : d.Known s)
    {jobID : String} (other : NotPreviewed jobID s ⟨.deed d, now, faults, n⟩) : PreviewKept jobID s.db (d.after o now faults n s.db) := by
  have sweeps := sweeps_previewKept jobID
  have plain (free : .artifactDeletionJobs ∉ d.effect.tables) : PreviewKept jobID s.db (d.after o now faults n s.db) := by
    intro j mem _ _
    rwa [jobs, Effect.same_rows (d.evolves o now faults n orderly known) (by decide) free] at mem
  cases d with
  | requestTaskDeletion uuid taskID reason requestedBy =>
    exact requestTaskDeletion_previewKept
  | adminDelete taskID purged => exact adminDelete_sweeps sweeps faults n s.db taskID purged
  | previewArtifactCleanup id secret olderThanDays requestedBy =>
    rcases previewArtifactCleanup_jobs with same | ⟨skipped, rows⟩
    · rw [Deed.after, same]
      exact fun _ mem _ _ => mem
    · intro j mem named _
      rw [Deed.after, rows] at mem
      rcases List.mem_append.mp mem with old | new
      · exact old
      · have isNew : j.id = id := by rw [List.mem_singleton.mp new]; rfl
        exact absurd (by rw [← named, isNew]) (other secret olderThanDays requestedBy)
  | confirmArtifactCleanup uuid token confirmation =>
    exact confirmArtifactCleanup_previewKept
  | retryArtifactCleanup => exact retryArtifactCleanup_sweeps sweeps faults n s.db
  | claimDeletionItem => exact claimDeletionItem_sweeps sweeps faults n s.db
  | renewDeletionLease => exact renewDeletionLease_sweeps sweeps faults n s.db
  | failDeletionItem => exact failDeletionItem_sweeps sweeps faults n s.db
  | completeDeletionItem => exact completeDeletionItem_sweeps sweeps faults n s.db
  | _ => exact plain (by dsimp only [Deed.effect, createEffect, legacyEffect]; decide)

theorem Step.previewKept (inv : Inv s) (step : Step o s e t) {jobID : String} (other : NotPreviewed jobID s e) :
    PreviewKept jobID s.db t.db := by
  cases step with
  | deed d now faults n known => exact d.previewKept o now faults n inv.orderly known other
  | work nodeID w now faults n db seat named new taken =>
    intro j mem _ _
    rwa [jobs, Effect.same_rows (inv.worked named new taken).law (by decide) (Work.plain w (by decide))] at mem
  | decide | abandon | recognise => exact fun _ mem _ _ => mem

theorem Reaches.previewKept {jobID : String} (inv : Inv s) (run : Reaches o (NotPreviewed jobID) s t) :
    Inv t ∧ PreviewKept jobID s.db t.db := by
  refine Sim.Run.invariant (fun t => Inv t ∧ PreviewKept jobID s.db t.db) ⟨inv, fun _ mem _ _ => mem⟩ ?_ run
  rintro t e u ⟨inv, kept⟩ other step
  exact ⟨inv.step step, (sweeps_previewKept jobID).chains.trans kept (step.previewKept inv other)⟩

/-! ## Where a previewed job comes from -/

/-- The job was stored by a preview during the run. -/
structure PreviewedAt (o : Options) (s t : State) (job : DeletionJob) (p q : State) (e : Event) (secret : String) (olderThanDays : Int)
    (requestedBy : String) (skipped : Int) : Prop where
  before : Reaches o (fun _ _ => True) s p
  op : e.op = .deed (.previewArtifactCleanup job.id secret olderThanDays requestedBy)
  step : Step o p e q
  after : Reaches o (fun _ _ => True) q t
  job : job = previewJob job.id secret olderThanDays requestedBy e.now skipped p.db

def Previewed (o : Options) (s t : State) (job : DeletionJob) : Prop :=
  ∃ p q e secret olderThanDays requestedBy skipped, PreviewedAt o s t job p q e secret olderThanDays requestedBy skipped

theorem Reaches.previewed (start : Start s) (noJobs : jobs s.db = []) (run : Reaches o (fun _ _ => True) s t) :
    ∀ job ∈ jobs t.db, job.status = .preview → Previewed o s t job := by
  suffices all : Reaches o (fun _ _ => True) s t ∧ Inv t ∧ ∀ job ∈ jobs t.db, job.status = .preview → Previewed o s t job from all.2.2
  refine Sim.Run.invariant (fun t => Reaches o (fun _ _ => True) s t ∧
    Inv t ∧ ∀ job ∈ jobs t.db, job.status = .preview → Previewed o s t job)
    ⟨.refl, start.inv, fun job mem _ => by rw [noJobs] at mem; cases mem⟩ ?_ run
  rintro t e u ⟨run, inv, previewed⟩ - step
  refine ⟨.tail e run trivial step, inv.step step, fun job mem isPreview => ?_⟩
  have carry (old : job ∈ jobs t.db) : Previewed o s u job := by
    obtain ⟨p, q, e', secret, days, requestedBy, skipped, h⟩ := previewed job old isPreview
    exact ⟨p, q, e', secret, days, requestedBy, skipped, h.before, h.op, h.step, .tail e h.after trivial step, h.job⟩
  by_cases other : NotPreviewed job.id t e
  · exact carry (step.previewKept inv other job mem rfl isPreview)
  · -- the step is a preview under the id of the job
    simp only [NotPreviewed, not_forall, not_not] at other
    obtain ⟨secret, days, requestedBy, isPreview'⟩ := other
    obtain ⟨op, now, faults, n⟩ := e
    obtain rfl : op = _ := isPreview'
    cases step with
    | deed _ _ _ _ known =>
      have mem : job ∈ jobs (Store.previewArtifactCleanup job.id secret days requestedBy now faults n t.db).db := mem
      rcases previewArtifactCleanup_jobs with same | ⟨skipped, rows⟩
      · rw [same] at mem
        exact carry mem
      · rw [rows] at mem
        rcases List.mem_append.mp mem with old | new
        · exact carry old
        · exact ⟨t, _, _, secret, days, requestedBy, skipped, run, rfl, .deed _ _ _ _ known, .refl, List.mem_singleton.mp new⟩

/-! ## Confirmations -/

/-- Confirmations in the state `t` of a run from `s`. One that succeeds bears the token of a preview
of the run. If no later preview has drawn the job id of that preview, the confirmation comes within
its fifteen minutes and finds the candidates it reported, and it inserts one item for each of them
and no other; it succeeds once. One that fails changes nothing. -/
structure CleanupSound (o : Options) (s t : State) : Prop where
  token : ∀ uuid token confirmation now faults n r, (confirmArtifactCleanup uuid token confirmation now faults n t.db).result = .ok r →
    ∃ p q e secret olderThanDays requestedBy, Reaches o (fun _ _ => True) s p ∧ Step o p e q ∧ Reaches o (fun _ _ => True) q t ∧
      e.op = .deed (.previewArtifactCleanup r.id secret olderThanDays requestedBy) ∧ token = r.id ++ "." ++ secret
  exact : ∀ p q jobID secret olderThanDays requestedBy now faults n, jobID.length = 36 → Reaches o (fun _ _ => True) s p →
    (previewArtifactCleanup jobID secret olderThanDays requestedBy now faults n p.db).result = .ok () →
    Step o p ⟨.deed (.previewArtifactCleanup jobID secret olderThanDays requestedBy), now, faults, n⟩ q →
    Reaches o (NotPreviewed jobID) q t → PlainIDs p.db → PlainIDs t.db →
    ∀ uuid confirmation now' faults' n' r,
      (confirmArtifactCleanup uuid (jobID ++ "." ++ secret) confirmation now' faults' n' t.db).result = .ok r →
      now' ≤ now + 900000 ∧
      cleanupCandidates (now - olderThanDays * 86400000) t.db = cleanupCandidates (now - olderThanDays * 86400000) p.db ∧
      items (confirmArtifactCleanup uuid (jobID ++ "." ++ secret) confirmation now' faults' n' t.db).db = items t.db ++
        (cleanupCandidates (now - olderThanDays * 86400000) p.db).zipIdx.map (confirmedItem uuid jobID now')
  once : ∀ uuid token confirmation now faults n r t' u, (confirmArtifactCleanup uuid token confirmation now faults n t.db).result = .ok r →
    Step o t ⟨.deed (.confirmArtifactCleanup uuid token confirmation), now, faults, n⟩ t' → Reaches o (NotPreviewed r.id) t' u →
    ∀ uuid' confirmation' now' faults' n', ∃ err,
    (confirmArtifactCleanup uuid' token confirmation' now' faults' n' u.db).result = .error err
  refused : ∀ uuid token confirmation now faults n err,
    (confirmArtifactCleanup uuid token confirmation now faults n t.db).result = .error err →
    (confirmArtifactCleanup uuid token confirmation now faults n t.db).db = t.db

theorem append_inj_length {a b x y : String} (same : a ++ "." ++ x = b ++ "." ++ y) (len : a.length = b.length) : a = b := by
  have chars := congrArg String.toList same
  simp only [String.toList_append, List.append_assoc] at chars
  exact String.toList_inj.mp (List.append_inj_left chars (by rw [String.length_toList, String.length_toList, len]))

/-- In every run from a database without cleanup jobs. -/
theorem cleanup_sound (start : Start s) (noJobs : jobs s.db = []) (run : Reaches o (fun _ _ => True) s t) : CleanupSound o s t := by
  have inv := Reaches.inv start run
  refine ⟨fun uuid token confirmation now faults n r ok => ?_, ?_, ?_, ?_⟩
  · obtain ⟨job, named, -, -, confirmed⟩ := confirmArtifactCleanup_ok ok
    obtain ⟨p, q, e, secret, days, requestedBy, skipped, h⟩ := Reaches.previewed start noJobs run job confirmed.stored confirmed.preview
    have isToken := confirmed.token
    rw [h.job] at isToken
    exact ⟨p, q, e, secret, days, requestedBy, h.before, h.step, h.after, named ▸ h.op, named ▸ isToken.symm⟩
  · intro p q jobID secret days requestedBy now faults n len before previewed step after plain plain' uuid confirmation now' faults' n' r ok
    obtain ⟨job, named, len', -, confirmed⟩ := confirmArtifactCleanup_ok ok
    have inv' := Reaches.inv start before
    -- the token determines the id, and the id the job
    obtain ⟨_, _, _, secret', _, _, _, h⟩ := Reaches.previewed start noJobs run job confirmed.stored confirmed.preview
    have isToken := confirmed.token
    rw [h.job] at isToken
    have sameID : job.id = jobID := append_inj_length isToken (len'.trans len.symm)
    have kept := (Reaches.previewKept (inv'.step step) after).2 job confirmed.stored sameID confirmed.preview
    obtain ⟨skipped, rows⟩ := previewArtifactCleanup_ok previewed
    have isJob : job = previewJob jobID secret days requestedBy now skipped p.db := by
      cases step with
      | deed =>
        have kept : job ∈ jobs (Store.previewArtifactCleanup jobID secret days requestedBy now faults n p.db).db := kept
        refine jobs_unique kept ?_ sameID
        rw [rows]
        exact List.mem_append_right _ (List.mem_singleton_self _)
    have same := confirmed.summary
    have rowsAfter := confirmed.items
    have unexpired := confirmed.unexpired
    rw [sameID] at rowsAfter
    rw [isJob] at same rowsAfter unexpired
    have same : cleanupCandidates (now - days * 86400000) t.db = cleanupCandidates (now - days * 86400000) p.db :=
      digest_injective (plain'.candidates _) (plain.candidates _) (summary_inj same).symm
    exact ⟨unexpired, same, by rw [← same]; exact rowsAfter⟩
  · intro uuid token confirmation now faults n r t' u ok step run uuid' confirmation' now' faults' n'
    cases again : (confirmArtifactCleanup uuid' token confirmation' now' faults' n' u.db).result with
    | error err => exact ⟨err, rfl⟩
    | ok r' =>
      obtain ⟨job, named, -, head, confirmed⟩ := confirmArtifactCleanup_ok ok
      obtain ⟨job', -, -, head', confirmed'⟩ := confirmArtifactCleanup_ok again
      have sameID : job'.id = job.id := Option.some.inj (head'.symm.trans head)
      have kept := (Reaches.previewKept (inv.step step) run).2 job' confirmed'.stored (sameID.trans named) confirmed'.preview
      cases step with
      | deed => exact absurd confirmed'.preview (confirmed.closed job' kept sameID)
  · exact fun uuid token confirmation now faults n err failed =>
      confirmArtifactCleanup_atomic uuid token confirmation now faults n t.db err failed

end

def previewID : String := "00000000-0000-0000-0000-000000000001"

def previewSecret : String := String.ofList (List.replicate 64 'a')

def previewEvent : Event := ⟨.deed (.previewArtifactCleanup previewID previewSecret 1 "admin"), 100000000, noFaults, 0⟩

/-- The task is finished, and a day later its two artifacts are previewed. -/
def finished : State := stageStart.after Flow.remoteOptions stageRun

def previewed : State := finished.after Flow.remoteOptions [previewEvent]

def confirmation : Outcome schema Err DeletionJob :=
  confirmArtifactCleanup (fun n => toString n) (previewID ++ "." ++ previewSecret) "DELETE 2 ARTIFACTS" 100000001 noFaults 0 previewed.db

theorem plain_previewed : PlainIDs finished.db ∧ PlainIDs previewed.db := by
  refine ⟨⟨?_, ?_, ?_⟩, ⟨?_, ?_, ?_⟩⟩ <;> simp only [PlainID] <;> decide +kernel

/-- The confirmation makes an item for each of them. -/
theorem cleanup_sound_confirmed :
    (confirmation.result.toOption.map fun j => (j.id, j.status)) = some (previewID, .pending) ∧
      ((items confirmation.db).map fun i => (i.jobID, i.artifactID)) =
        [(previewID, "art_ad328846aa18b32a335816374511cac1"), (previewID, "art_e8bc163c82eee18733288c7d4ac636db")] ∧
      items confirmation.db = items previewed.db ++
        (cleanupCandidates (100000000 - 86400000) finished.db).zipIdx.map (confirmedItem (fun n => toString n) previewID 100000001) := by
  have run : Reaches Flow.remoteOptions (fun _ _ => True) stageStart finished := reaches_after _ fun _ _ _ => trivial
  have step : Step Flow.remoteOptions finished previewEvent previewed := Event.step_after (by decide +kernel)
  have sound := cleanup_sound stageStart_start rfl (.tail _ run trivial step)
  have ok : (confirmation.result.toOption.map fun j => (j.id, j.status)) = some (previewID, .pending) := by decide +kernel
  refine ⟨ok, by decide +kernel, ?_⟩
  cases result : confirmation.result with
  | error e =>
    rw [result] at ok
    cases ok
  | ok r =>
    exact (sound.exact _ _ previewID previewSecret 1 "admin" _ _ _ (by decide) run (by decide +kernel) step .refl plain_previewed.1
      plain_previewed.2 _ _ _ _ _ r result).2.2

end MinimaxProxy.Service
