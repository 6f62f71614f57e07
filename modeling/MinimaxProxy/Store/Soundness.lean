import MinimaxProxy.Store.LifeCycle

/-!
# What the columns of a task say about each other

A slot belongs to a task on an official or remote node, an active stage to an H3 task, and
a task that waits for a route is on no node. Every change of the life cycle keeps this.
-/

namespace MinimaxProxy.Store

/-- What the deciding columns say about each other. -/
structure Sound (c : Core) : Prop where
  slot : c.slot = true → (c.protocol = some .official ∨ c.protocol = some .tk2sd) ∧ c.status.isTaken = true ∧
    c.status ≠ .reconciling ∧ c.deletedAt = none ∧ present c.upstreamID = true
  staged : c.activeStageID.isSome = true → c.protocol = some .h3
  stages : c.protocol = some .h3 → c.originURL = none ∧ c.status ≠ .reconciling ∧ c.status ≠ .cancelling
  placed : c.protocol = some .h3 → c.status.isTaken = true → present c.activeStageID = true ∨ present c.upstreamID = false
  legacy : c.protocol = some .legacy → c.originURL.isSome = true → c.status = .succeeded
  unrouted : c.routeState ≠ .ready → c.activeStageID = none ∧ c.originURL = none ∧ c.status.isTaken = false
  origin : c.originURL.isSome = true → c.protocol = some .official ∨ c.protocol = some .tk2sd ∨ c.protocol = some .legacy

theorem idle_of_queued {s : TaskStatus} (h : s.isQueued = true) : s.isTaken = false := by
  cases s <;> first | rfl | cases h

theorem idle_of_terminal {s : TaskStatus} (h : s.isTerminal = true) : s.isTaken = false := by
  cases s <;> first | rfl | cases h

theorem taken_of_active {s : TaskStatus} (h : s.isActive = true) : s.isTaken = true := by
  cases s <;> first | rfl | cases h

theorem open_of_taken {s : TaskStatus} (h : s.isTaken = true) : s ≠ .succeeded := by
  rintro rfl
  cases h

theorem open_of_queued {s : TaskStatus} (h : s.isQueued = true) : s ≠ .succeeded := by
  rintro rfl
  cases h

section
variable {c c' : Core}

theorem Sound.free (sound : Sound c) (idle : c.status.isTaken = false) : c.slot = false := by
  by_contra held
  have taken := (sound.slot (by simpa using held)).2.1
  rw [idle] at taken
  cases taken

theorem Sound.ready (sound : Sound c) (taken : c.status.isTaken = true) : c.routeState = .ready := by
  by_contra unready
  have idle := (sound.unrouted unready).2.2
  rw [taken] at idle
  cases idle

theorem Sound.slot_other (sound : Sound c) (held : c.slot = true) : c.protocol ≠ some .h3 ∧ c.protocol ≠ some .legacy := by
  rcases (sound.slot held).1 with protocol | protocol <;> rw [protocol] <;> exact ⟨nofun, nofun⟩

theorem Sound.of_idle (idle : c.status.isTaken = false) (slot : c.slot = false)
    (staged : c.activeStageID.isSome = true → c.protocol = some .h3) (stages : c.protocol = some .h3 → c.originURL = none)
    (legacy : c.protocol = some .legacy → c.originURL.isSome = true → c.status = .succeeded)
    (unrouted : c.routeState ≠ .ready → c.activeStageID = none ∧ c.originURL = none)
    (origin : c.originURL.isSome = true → c.protocol = some .official ∨ c.protocol = some .tk2sd ∨ c.protocol = some .legacy) :
    Sound c where
  origin := origin
  slot held := by rw [slot] at held; cases held
  staged := staged
  stages h3 := by
    refine ⟨stages h3, fun same => ?_, fun same => ?_⟩ <;> rw [same] at idle <;> cases idle
  placed _ taken := by rw [idle] at taken; cases taken
  legacy := legacy
  unrouted unready := ⟨(unrouted unready).1, (unrouted unready).2, idle⟩

/-- A node gives the task up, or a task that no node has changes. -/
theorem Sound.settled (sound : Sound c) (idle : c'.status.isTaken = false) (slot : c'.slot = false)
    (kept : c'.protocol = c.protocol ∧ c'.routeState = c.routeState ∧ c'.originURL = c.originURL)
    (stage : c'.activeStageID = none ∨ c'.activeStageID = c.activeStageID)
    (status : c'.status = c.status ∨ c.status ≠ .succeeded) : Sound c' := by
  obtain ⟨protocol, route, origin⟩ := kept
  refine .of_idle idle slot (fun isSome => ?_) (fun h3 => ?_) (fun legacy isSome => ?_) (fun unready => ?_)
    (by rw [origin, protocol]; exact sound.origin)
  · rcases stage with isNone | same
    · rw [isNone] at isSome
      cases isSome
    · rw [protocol]
      exact sound.staged (same ▸ isSome)
  · rw [origin]
    exact (sound.stages (protocol ▸ h3)).1
  · have delivered := sound.legacy (protocol ▸ legacy) (origin ▸ isSome)
    rcases status with same | ne
    · exact same.trans delivered
    · exact absurd delivered ne
  · obtain ⟨noStage, noOrigin, -⟩ := sound.unrouted (route ▸ unready)
    rcases stage with isNone | same
    · exact ⟨isNone, origin.trans noOrigin⟩
    · exact ⟨same.trans noStage, origin.trans noOrigin⟩

/-- A node without stages has the task. -/
theorem Sound.held (sound : Sound c) (ready : c.routeState = .ready) (other : c.protocol ≠ some .h3)
    (kept : c'.protocol = c.protocol ∧ c'.routeState = c.routeState ∧ c'.activeStageID = c.activeStageID)
    (slot : c'.slot = true → (c'.protocol = some .official ∨ c'.protocol = some .tk2sd) ∧ c'.status.isTaken = true ∧
      c'.status ≠ .reconciling ∧ c'.deletedAt = none ∧ present c'.upstreamID = true)
    (origin : c.protocol = some .legacy → c'.originURL = none)
    (source : c'.originURL = c.originURL ∨ c.protocol = some .official ∨ c.protocol = some .tk2sd) : Sound c' := by
  obtain ⟨protocol, route, stage⟩ := kept
  refine ⟨slot, fun isSome => ?_, fun h3 => absurd (protocol ▸ h3) other, fun h3 => absurd (protocol ▸ h3) other,
    fun legacy isSome => ?_, fun unready => absurd (route.trans ready) unready, fun isSome => ?_⟩
  · exact absurd (sound.staged (stage ▸ isSome)) other
  · rw [origin (protocol ▸ legacy)] at isSome
    cases isSome
  · rw [protocol]
    rcases source with same | official | remote
    · exact sound.origin (same ▸ isSome)
    · exact .inl official
    · exact .inr (.inl remote)

/-- A task on a node, and one that a node takes, has no result of a legacy node. -/
theorem Sound.no_origin (sound : Sound c) (was : c.status ≠ .succeeded) (legacy : c.protocol = some .legacy) :
    c.originURL = none := by
  by_contra isSome
  exact was (sound.legacy legacy (Option.isSome_iff_ne_none.mpr isSome))

theorem Sound.reconciling_free (sound : Sound c) (reconciling : c.status = .reconciling) : c.slot = false := by
  by_contra held
  exact (sound.slot (by simpa using held)).2.2.1 reconciling

theorem Sound.legacy_free (sound : Sound c) (protocol : c.protocol = some .legacy) : c.slot = false := by
  by_contra held
  exact (sound.slot_other (by simpa using held)).2 protocol

theorem Sound.h3_free (sound : Sound c) (protocol : c.protocol = some .h3) : c.slot = false := by
  by_contra held
  exact (sound.slot_other (by simpa using held)).1 protocol

/-- A node has a stage of the task, or the task is between two stages. -/
theorem Sound.of_stage (h3 : c.protocol = some .h3) (free : c.slot = false) (ready : c.routeState = .ready)
    (origin : c.originURL = none) (status : c.status ≠ .reconciling ∧ c.status ≠ .cancelling)
    (placed : present c.activeStageID = true ∨ present c.upstreamID = false) : Sound c where
  slot held := absurd (free.symm.trans held) nofun
  staged _ := h3
  stages _ := ⟨origin, status⟩
  placed _ _ := placed
  legacy legacy := absurd (h3.symm.trans legacy) nofun
  unrouted unready := absurd ready unready
  origin isSome := by rw [origin] at isSome; cases isSome

/-- A node gives up its slot; the task has ended or waits for its delivery. -/
theorem Sound.given_up (sound : Sound c) (held : c.slot = true) (free : c'.slot = false)
    (kept : c'.protocol = c.protocol ∧ c'.routeState = c.routeState ∧ c'.activeStageID = c.activeStageID) : Sound c' := by
  have ready := sound.ready (sound.slot held).2.1
  exact sound.held ready (sound.slot_other held).1 kept (fun held' => absurd (free.symm.trans held') nofun)
    (fun legacy => absurd legacy (sound.slot_other held).2) (.inr (sound.slot held).1)

theorem Sound.retried (sound : Sound c) (failed : c.status = .failed) (origin : c.originURL.isSome = true)
    (free : c'.slot = c.slot) (same : c'.originURL = c.originURL)
    (kept : c'.protocol = c.protocol ∧ c'.routeState = c.routeState ∧ c'.activeStageID = c.activeStageID) : Sound c' := by
  have idle : c.status.isTaken = false := by rw [failed]; rfl
  have ready : c.routeState = .ready := by
    by_contra unready
    rw [(sound.unrouted unready).2.1] at origin
    cases origin
  have other : c.protocol ≠ some .h3 := by
    intro h3
    rw [(sound.stages h3).1] at origin
    cases origin
  refine sound.held ready other kept (fun held =>
    absurd ((free.trans (sound.free idle)).symm.trans held) nofun) (fun legacy => ?_) (.inl same)
  have delivered := sound.legacy legacy origin
  rw [failed] at delivered
  cases delivered

end

/-- Every change keeps it. -/
theorem CoreMove.sound {c c' : Core} {k : Kind} (move : CoreMove c k c') (sound : Sound c) : Sound c' := by
  cases move with
  | rank locked _ queued =>
    have free := sound.free (idle_of_queued queued)
    exact sound.settled (by cases locked <;> rfl) free ⟨rfl, rfl, rfl⟩ (.inr rfl) (.inr (open_of_queued queued))
  | route p awaiting queued =>
    have unready : c.routeState ≠ .ready := by rw [awaiting]; nofun
    obtain ⟨noStage, noOrigin, -⟩ := sound.unrouted unready
    refine .of_idle (idle_of_queued queued) (sound.free (idle_of_queued queued)) (fun isSome => ?_) (fun _ => noOrigin)
      (fun _ isSome => ?_) (fun _ => ⟨noStage, noOrigin⟩) (fun isSome => ?_)
    · exact absurd (show c.activeStageID.isSome = true from isSome) (by rw [noStage]; nofun)
    · exact absurd (show c.originURL.isSome = true from isSome) (by rw [noOrigin]; nofun)
    · exact absurd (show c.originURL.isSome = true from isSome) (by rw [noOrigin]; nofun)
  | cancelQueued queued =>
    exact sound.settled rfl (sound.free (idle_of_queued queued)) ⟨rfl, rfl, rfl⟩ (.inr rfl) (.inr (open_of_queued queued))
  | cancelStages unfinished free =>
    refine sound.settled rfl free ⟨rfl, rfl, rfl⟩ (.inl rfl) (.inr fun done => ?_)
    rw [done] at unfinished
    cases unfinished
  | askCancel taken asked =>
    have other : c.protocol ≠ some .h3 := by
      intro h3
      rcases asked with held | ⟨placed, noStage⟩
      · exact (sound.slot_other held).1 h3
      · rcases sound.placed h3 taken with stage | free
        · rw [noStage] at stage; cases stage
        · rw [placed] at free; cases free
    refine sound.held (sound.ready taken) other ⟨rfl, rfl, rfl⟩ (fun held => ?_) (sound.no_origin (open_of_taken taken)) (.inl rfl)
    obtain ⟨protocol, -, -, undeleted, placed⟩ := sound.slot held
    exact ⟨protocol, rfl, nofun, undeleted, placed⟩
  | delete time _ isOver =>
    exact sound.settled (idle_of_terminal isOver) (sound.free (idle_of_terminal isOver)) ⟨rfl, rfl, rfl⟩ (.inr rfl) (.inl rfl)
  | deleteLive time _ revived =>
    have other : c.protocol ≠ some .h3 := by rcases revived.protocol with p | p <;> rw [p] <;> nofun
    refine sound.held (sound.ready revived.taken) other ⟨rfl, rfl, rfl⟩
      (fun held => ?_) (sound.no_origin (open_of_taken revived.taken)) (.inl rfl)
    exact absurd (revived.free.symm.trans held) nofun
  | note => exact ⟨sound.slot, sound.staged, sound.stages, sound.placed, sound.legacy, sound.unrouted, sound.origin⟩
  | claimLegacy node _ ready protocol queued =>
    refine sound.held ready (by rw [protocol]; nofun) ⟨rfl, rfl, rfl⟩ (fun held => ?_) (sound.no_origin (open_of_queued queued)) (.inl rfl)
    exact absurd ((sound.free (idle_of_queued queued)).symm.trans held) nofun
  | claimOfficial node model undeleted ready protocol queued _ named =>
    refine sound.held ready (by rw [protocol]; nofun) ⟨rfl, rfl, rfl⟩ (fun _ => ?_) (sound.no_origin (open_of_queued queued)) (.inl rfl)
    exact ⟨.inl protocol, rfl, nofun, undeleted, bne_iff_ne.mpr named⟩
  | claimRemote node model undeleted ready protocol queued _ named =>
    refine sound.held ready (by rw [protocol]; nofun) ⟨rfl, rfl, rfl⟩ (fun _ => ?_) (sound.no_origin (open_of_queued queued)) (.inl rfl)
    exact ⟨.inr protocol, rfl, nofun, undeleted, bne_iff_ne.mpr named⟩
  | work status code protocol active active' =>
    have taken := taken_of_active active
    refine sound.held (sound.ready taken) (by rw [protocol]; nofun) ⟨rfl, rfl, rfl⟩ (fun held => ?_)
      (sound.no_origin (open_of_taken taken)) (.inl rfl)
    exact absurd protocol (sound.slot_other held).2
  | succeed origin url protocol active =>
    have taken := taken_of_active active
    refine .of_idle rfl (sound.legacy_free protocol) sound.staged (fun h3 => ?_)
      (fun _ _ => rfl) (fun unready => ?_) fun _ => .inr (.inr protocol)
    · exact absurd (protocol.symm.trans h3) nofun
    · exact absurd (sound.ready taken) unready
  | fail code protocol active =>
    exact sound.settled rfl (sound.legacy_free protocol) ⟨rfl, rfl, rfl⟩ (.inr rfl) (.inr (open_of_taken (taken_of_active active)))
  | finishCancel protocol cancelling =>
    exact sound.settled rfl (sound.legacy_free protocol) ⟨rfl, rfl, rfl⟩ (.inr rfl) (.inr (by rw [cancelling]; nofun))
  | requeue protocol dispatching =>
    exact sound.settled rfl (sound.legacy_free protocol) ⟨rfl, rfl, rfl⟩ (.inr rfl) (.inr (by rw [dispatching]; nofun))
  | dispatch node stage snapshot undeleted ready h3 free named =>
    exact .of_stage h3 (sound.h3_free h3) ready (sound.stages h3).1 ⟨nofun, nofun⟩ (.inl (bne_iff_ne.mpr named))
  | execute node stage undeleted h3 active named =>
    exact .of_stage h3 (sound.h3_free h3) (sound.ready (taken_of_active active)) (sound.stages h3).1 ⟨nofun, nofun⟩
      (.inl (bne_iff_ne.mpr named))
  | advance undeleted h3 active =>
    exact .of_stage h3 (sound.h3_free h3) (sound.ready (taken_of_active active)) (sound.stages h3).1 ⟨nofun, nofun⟩ (.inr rfl)
  | finishStages artifact undeleted h3 active =>
    exact sound.settled rfl (sound.h3_free h3) ⟨rfl, rfl, rfl⟩ (.inl rfl) (.inr (open_of_taken (taken_of_active active)))
  | failStages code undeleted h3 active =>
    exact sound.settled rfl (sound.h3_free h3) ⟨rfl, rfl, rfl⟩ (.inl rfl) (.inr (open_of_taken (taken_of_active active)))
  | bindOfficial protocol held dispatching =>
    obtain ⟨direct, taken, -, undeleted, placed⟩ := sound.slot held
    exact sound.held (sound.ready taken) (sound.slot_other held).1 ⟨rfl, rfl, rfl⟩ (fun _ => ⟨direct, rfl, nofun, undeleted, placed⟩)
      (sound.no_origin (open_of_taken taken)) (.inl rfl)
  | generate origin url delivers protocol held running =>
    exact sound.given_up held rfl ⟨rfl, rfl, rfl⟩
  | failOfficial code protocol held running =>
    have taken := (sound.slot held).2.1
    exact sound.settled rfl rfl ⟨rfl, rfl, rfl⟩ (.inr rfl) (.inr (open_of_taken taken))
  | bindRemote held taken =>
    obtain ⟨direct, -, calm, undeleted, placed⟩ := sound.slot held
    refine sound.held (sound.ready taken) (sound.slot_other held).1 ⟨rfl, rfl, rfl⟩ (fun _ => ⟨direct, ?_, ?_, undeleted, placed⟩)
      (sound.no_origin (open_of_taken taken)) (.inl rfl)
    · show TaskStatus.isTaken (if c.status = .cancelling then c.status else .running) = true
      split
      · exact taken
      · rfl
    · show (if c.status = .cancelling then c.status else .running) ≠ .reconciling
      split
      · exact calm
      · nofun
  | resume cancelling =>
    have taken : c.status.isTaken = true := by rw [cancelling]; rfl
    have other : c.protocol ≠ some .h3 := fun h3 => (sound.stages h3).2.2 cancelling
    refine sound.held (sound.ready taken) other ⟨rfl, rfl, rfl⟩ (fun held => ?_) (sound.no_origin (open_of_taken taken)) (.inl rfl)
    obtain ⟨direct, -, -, undeleted, placed⟩ := sound.slot held
    exact ⟨direct, rfl, nofun, undeleted, placed⟩
  | complete r held undeleted taken => exact sound.given_up held rfl ⟨rfl, rfl, rfl⟩
  | undeliver reconciling =>
    exact sound.settled rfl (sound.reconciling_free reconciling) ⟨rfl, rfl, rfl⟩ (.inr rfl) (.inr (by rw [reconciling]; nofun))
  | retry failed code origin undeleted => exact sound.retried failed origin rfl rfl ⟨rfl, rfl, rfl⟩
  | retryDeleted failed code origin deleted => exact sound.retried failed origin rfl rfl ⟨rfl, rfl, rfl⟩
  | deliver url reconciling origin =>
    exact sound.settled rfl (sound.reconciling_free reconciling) ⟨rfl, rfl, rfl⟩ (.inr rfl) (.inr (by rw [reconciling]; nofun))

/-! ## Tasks that have ended once -/

/-- The task has ended, or it has been revived since. -/
def Over (c : Core) : Prop := c.status.isTerminal = true ∨ c.Revived

section
variable {c c' : Core}

/-- A failed delivery is that of a node with slots. -/
theorem Sound.delivers (sound : Sound c) (failed : c.status = .failed) (origin : c.originURL.isSome = true) :
    c.protocol = some .official ∨ c.protocol = some .tk2sd := by
  rcases sound.origin origin with official | remote | legacy
  · exact .inl official
  · exact .inr remote
  · have delivered := sound.legacy legacy origin
    rw [failed] at delivered
    cases delivered

theorem Over.not_queued (isOver : Over c) (queued : c.status.isQueued = true) : False := by
  rcases isOver with ended | revived
  · revert ended queued
    cases c.status <;> decide
  · have taken := revived.taken
    rw [idle_of_queued queued] at taken
    cases taken

theorem Over.not_held (isOver : Over c) (sound : Sound c) (held : c.slot = true) : False := by
  rcases isOver with ended | revived
  · exact absurd ((sound.free (idle_of_terminal ended)).symm.trans held) nofun
  · exact absurd (revived.free.symm.trans held) nofun

/-- Its protocol is that of a node with slots, if it is taken. -/
theorem Over.protocol (isOver : Over c) (taken : c.status.isTaken = true) : c.protocol = some .official ∨ c.protocol = some .tk2sd := by
  rcases isOver with ended | revived
  · rw [idle_of_terminal ended] at taken
    cases taken
  · exact revived.protocol

theorem Over.not_legacy (isOver : Over c) (taken : c.status.isTaken = true) (legacy : c.protocol = some .legacy) : False := by
  rcases isOver.protocol taken with is | is <;> exact absurd (is.symm.trans legacy) nofun

theorem Over.not_h3 (isOver : Over c) (taken : c.status.isTaken = true) (h3 : c.protocol = some .h3) : False := by
  rcases isOver.protocol taken with is | is <;> exact absurd (is.symm.trans h3) nofun

theorem CoreMove.isOver {k : Kind} (move : CoreMove c k c') (sound : Sound c) (isOver : Over c) : Over c' := by
  cases move with
  | rank _ _ queued => exact (isOver.not_queued queued).elim
  | route _ _ queued => exact (isOver.not_queued queued).elim
  | cancelQueued | cancelStages | finishCancel | finishStages | failStages | undeliver | deliver => exact .inl rfl
  | askCancel taken _ => exact .inr ⟨isOver.protocol taken, isOver.elim (fun ended => sound.free (idle_of_terminal ended)) (·.free), rfl⟩
  | delete | deleteLive | note => exact isOver.imp id fun revived => ⟨revived.protocol, revived.free, revived.taken⟩
  | claimLegacy _ _ _ _ queued => exact (isOver.not_queued queued).elim
  | claimOfficial _ _ _ _ _ queued => exact (isOver.not_queued queued).elim
  | claimRemote _ _ _ _ _ queued => exact (isOver.not_queued queued).elim
  | work _ _ protocol active => exact (isOver.not_legacy (taken_of_active active) protocol).elim
  | succeed _ _ protocol active => exact (isOver.not_legacy (taken_of_active active) protocol).elim
  | fail _ protocol active => exact (isOver.not_legacy (taken_of_active active) protocol).elim
  | requeue protocol is => exact (isOver.not_legacy (by rw [is]; rfl) protocol).elim
  | dispatch _ _ _ _ _ h3 cancellable =>
    rw [TaskStatus.adminCanCancel, Bool.or_eq_true] at cancellable
    rcases cancellable with queued | active
    · exact (isOver.not_queued queued).elim
    · exact (isOver.not_h3 (taken_of_active active) h3).elim
  | execute _ _ _ h3 active => exact (isOver.not_h3 (taken_of_active active) h3).elim
  | advance _ h3 active => exact (isOver.not_h3 (taken_of_active active) h3).elim
  | bindOfficial _ held _ => exact (isOver.not_held sound held).elim
  | generate _ _ _ _ held _ => exact (isOver.not_held sound held).elim
  | failOfficial _ _ held _ => exact (isOver.not_held sound held).elim
  | bindRemote held _ => exact (isOver.not_held sound held).elim
  | complete _ held _ _ => exact (isOver.not_held sound held).elim
  | resume is =>
    have taken : c.status.isTaken = true := by rw [is]; rfl
    exact .inr ⟨isOver.protocol taken, isOver.elim (fun ended => sound.free (idle_of_terminal ended)) (·.free), rfl⟩
  | retry failed _ origin _ => exact .inr ⟨sound.delivers failed origin, sound.free (by rw [failed]; rfl), rfl⟩
  | retryDeleted failed _ origin _ => exact .inr ⟨sound.delivers failed origin, sound.free (by rw [failed]; rfl), rfl⟩

end

end MinimaxProxy.Store
