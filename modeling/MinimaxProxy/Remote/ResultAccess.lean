import MinimaxProxy.Remote.ResultURL
import MinimaxProxy.Sim.Flight
import MinimaxProxy.Store.Basic

/-!
# Refreshing results

`remote/result_access.go`: readers of a remote task get a fresh result URL and the metadata of
the result. Calls for one task of one owner share a refresh, and four refreshes run at a time.
What the store, the node and the clock answer is chosen freely.
-/

namespace MinimaxProxy.Remote
open Store

/-! ## One refresh -/

/-- `GetTaskForExecution` (store.go:263). -/
def getTaskForExecution (db : Database) (taskID : String) : Except Err Task :=
  match db.tasks.find? fun t => t.taskID == taskID && t.deletedAt.isNone with
  | none => .error .taskNotFound
  | some t => scanTask t

/-- `publicResult` (result_access.go:185). -/
def publicResult (t : Task) : Task := if t.deliveryRequired then t else { t with resultPublicURL := t.latestResultURL }

/-- `fallbackResult` (result_access.go:191). -/
def fallbackResult (t : Task) (now : Int) : Task × Option Err :=
  if t.deliveryRequired = true ∧ t.resultPublicURL.getD "" ≠ "" then (t, none)
  else if t.latestResultURL.getD "" ≠ "" ∧ t.latestResultExpiresAt.getD 0 > now then (publicResult t, none)
  else ({ t with resultPublicURL := none }, some .resultRefreshUnavailable)

/-- Is the stored URL good for five more minutes? -/
def freshURL (t : Task) (now : Int) : Bool := t.latestResultURL.getD "" ≠ "" && t.latestResultExpiresAt.getD 0 > now + 300

/-- What one refresh is answered: by the store, the node and the clock. -/
structure Answers where
  db : Database
  fetchError : Option Err
  run : Except Err RemoteRun
  /-- `Resolve`: the base of the node. -/
  resolve : Option (Option Net.URL)
  query : String → Option Tk2sd.Task
  /-- The document that `ActualMetadata` makes of the metadata. -/
  metadata : String → Option String
  updateError : Option Err
  now : Int
  later : Int

/-- The task with what the node has answered. -/
def withUpdate (t : Task) (url : Option (String × Int)) (metadata : Option String) : Task :=
  let t := match url with
    | none => t
    | some (url, expires) => { t with latestResultURL := some url, latestResultExpiresAt := some expires }
  match metadata with
  | none => t
  | some data => { t with resultMetadataJSON := some data, metadataStatus := .ready }

/-- What the node has answered is stored, if it is anything (result_access.go:137). -/
def stored (a : Answers) (fresh : Task) (url : Option (String × Int)) (metadata : Option String) : Task × Option Err :=
  if url.isSome ∨ metadata.isSome then
    match a.updateError with
    | some e => (fresh, some e)
    | none => fallbackResult (withUpdate fresh url metadata) a.later
  else fallbackResult fresh a.later

section
variable (lib : Tk2sd.Library) (net : Netguard.Network)

/-- The URL that a node gives for a result, with the time at which it expires (result_access.go:122). -/
def queriedURL (a : Answers) (model : String) (base : Option Net.URL) (id : String) : Option (String × Int) := do
  let result ← a.query id
  if result.id = id ∧ result.model = model ∧ result.status = .succeeded ∧ result.videoURL ≠ "" then
    let expires ← (validateResultURL lib net a.now base id result.videoURL).toOption
    pure (result.videoURL, expires)
  else none

/-- `refresh` (result_access.go:96). -/
def refresh (a : Answers) (task : Task) : Task × Option Err :=
  match a.fetchError.elim (getTaskForExecution a.db task.taskID) .error with
  | .error e => (task, some e)
  | .ok fresh =>
    if fresh.deletedAt.isSome ∨ fresh.apiKeyID ≠ task.apiKeyID ∨ fresh.protocolVersion ≠ some .tk2sd ∨ fresh.status ≠ .succeeded then
      (task, some .taskNotFound)
    else
      let needsURL := !fresh.deliveryRequired && !freshURL fresh a.now
      let needsMeta := fresh.metadataStatus ≠ .ready
      if ¬ needsURL ∧ ¬ needsMeta then (publicResult fresh, none)
      else match a.run, a.resolve with
        | .error _, _ => fallbackResult fresh a.now
        | .ok run, resolve =>
          let id := run.upstreamTaskID.getD ""
          if run.nodeID ≠ fresh.upstreamID.getD "" ∨ id = "" ∨ run.upstreamStatus ≠ some .succeeded then fallbackResult fresh a.now
          else match resolve with
            | none => fallbackResult fresh a.now
            | some base =>
              stored a fresh (if needsURL then queriedURL lib net a fresh.model base id else none)
                (if needsMeta then a.metadata id else none)

end

/-- The tasks are of one owner and have one id. -/
def SameTask (t u : Task) : Prop := t.apiKeyID = u.apiKeyID ∧ t.taskID = u.taskID

theorem SameTask.refl (t : Task) : SameTask t t := ⟨rfl, rfl⟩

theorem SameTask.trans {t u v : Task} (first : SameTask t u) (last : SameTask u v) : SameTask t v :=
  ⟨first.1.trans last.1, first.2.trans last.2⟩

theorem getTaskForExecution_id {db : Database} {taskID : String} {t : Task}
    (h : getTaskForExecution db taskID = .ok t) : t.taskID = taskID := by
  unfold getTaskForExecution at h
  split at h
  · cases h
  · rename_i u found
    unfold scanTask at h
    split at h
    · cases h
    · cases h
      have met := List.find?_some found
      simp only [Bool.and_eq_true, beq_iff_eq] at met
      exact met.1

theorem publicResult_same (t : Task) : SameTask (publicResult t) t := by
  unfold publicResult
  split <;> exact ⟨rfl, rfl⟩

theorem fallbackResult_same (t : Task) (now : Int) : SameTask (fallbackResult t now).1 t := by
  unfold fallbackResult
  split
  · exact .refl t
  · split
    · exact publicResult_same t
    · exact ⟨rfl, rfl⟩

theorem withUpdate_same (t : Task) (url : Option (String × Int)) (metadata : Option String) : SameTask (withUpdate t url metadata) t := by
  cases url <;> cases metadata <;> exact ⟨rfl, rfl⟩

theorem stored_same (a : Answers) (fresh : Task) (url : Option (String × Int)) (metadata : Option String) :
    SameTask (stored a fresh url metadata).1 fresh := by
  unfold stored
  split
  · split
    · exact .refl fresh
    · exact (fallbackResult_same _ _).trans (withUpdate_same fresh _ _)
  · exact fallbackResult_same fresh _

/-- A refresh returns the task it was asked for, whatever it is answered. -/
theorem refresh_same (lib : Tk2sd.Library) (net : Netguard.Network) (a : Answers) (task : Task) :
    SameTask (refresh lib net a task).1 task := by
  unfold refresh
  cases fetched : a.fetchError.elim (getTaskForExecution a.db task.taskID) .error with
  | error e => exact .refl task
  | ok fresh =>
    have isTask : fresh.taskID = task.taskID := by
      cases failed : a.fetchError with
      | some e => rw [failed] at fetched; cases fetched
      | none =>
        rw [failed] at fetched
        exact getTaskForExecution_id fetched
    dsimp only
    split
    · exact .refl task
    rename_i own
    have same : SameTask fresh task := ⟨by simpa using not_or.mp (not_or.mp own).2 |>.1, isTask⟩
    refine SameTask.trans ?_ same
    split
    · exact publicResult_same fresh
    split
    · exact fallbackResult_same fresh _
    split
    · exact fallbackResult_same fresh _
    split
    · exact fallbackResult_same fresh _
    · exact stored_same a fresh _ _

/-! ## Sharing -/

/-- What `Refresh` returns before it asks for a flight, if anything (result_access.go:50). -/
def readyResult (t : Task) (now : Int) : Option Task :=
  if t.protocolVersion ≠ some .tk2sd ∨ t.status ≠ .succeeded then some t
  else if t.deliveryRequired = true ∧ t.resultPublicURL.getD "" ≠ "" ∧ t.metadataStatus = .ready then some t
  else if freshURL t now = true ∧ t.metadataStatus = .ready then some (publicResult t)
  else none

/-- The key of a flight (result_access.go:65). -/
def flightKey (t : Task) : String := t.apiKeyID ++ "\x00" ++ t.taskID

/-- The zero value of a task. -/
def zeroTask : Task :=
  { queueSeq := 0, taskID := "", apiKeyID := "",
    requestJSON := .unreadable none, createdAt := 0, updatedAt := 0, expiresAt := 0 }

/-- `Refresh` (result_access.go:49), called with the tasks `asked`. -/
def refreshing (lib : Tk2sd.Library) (net : Netguard.Network) (asked : Nat → Task) :
    Sim.Flight.Protocol Nat String (Task × Option Err) where
  key i := flightKey (asked i)
  capacity := 4
  zero := (zeroTask, none)
  shares i := ∃ now, readyResult (asked i) now = none
  direct i r := ∃ now, readyResult (asked i) now = some r.1 ∧ r.2 = none
  cancelled i r := ∃ message, r = (asked i, some (.io message))
  product i r := ∃ answers, r = refresh lib net answers (asked i)

theorem readyResult_same {t u : Task} {now : Int} (h : readyResult t now = some u) : SameTask u t := by
  unfold readyResult at h
  split at h
  · exact Option.some.inj h ▸ .refl t
  split at h
  · exact Option.some.inj h ▸ .refl t
  split at h
  · exact Option.some.inj h ▸ publicResult_same t
  · cases h

/-- The ids of a task have no NUL. -/
def PlainIDs (t : Task) : Prop := '\x00' ∉ t.apiKeyID.toList ∧ '\x00' ∉ t.taskID.toList

/-- So a key is that of one task of one owner. -/
theorem flightKey_same {t u : Task} (ht : PlainIDs t) (hu : PlainIDs u) (same : flightKey t = flightKey u) : SameTask t u := by
  have split (v : Task) : (flightKey v).toList = v.apiKeyID.toList ++ '\x00' :: v.taskID.toList := by
    simp [flightKey, String.toList_append]
  have chars := congrArg String.toList same
  rw [split, split] at chars
  obtain ⟨owner, id⟩ := Text.field_unique ht.1 hu.1 chars
  exact ⟨String.toList_inj.mp owner, String.toList_inj.mp id⟩

/-- What holds of the calls in a state. -/
structure Shared (asked : Nat → Task) (s : Sim.Flight.State Nat String (Task × Option Err)) : Prop where
  /-- One call leads a refresh for a task of an owner, from before it has a slot until after. -/
  one : ∀ i j, (s.phase i).Leading → (s.phase j).Leading → SameTask (asked i) (asked j) → i = j
  four : ∀ workers : Finset Nat, (∀ i ∈ workers, (s.phase i).Holding) → workers.card ≤ 4
  /-- A flight is open until its leader returns, and then closed once. -/
  closed : ∀ i f, s.heap i = some f → f.closed = (if (s.phase i).isReturned then 1 else 0)
  /-- A call returns the task it has asked for. -/
  own : ∀ i r, s.phase i = .returned r → SameTask r.1 (asked i)

/-- In every interleaving of calls, of which any may be cancelled at any time. -/
theorem refreshes_shared {lib : Tk2sd.Library} {net : Netguard.Network} {asked : Nat → Task} (plain : ∀ i, PlainIDs (asked i))
    {s : Sim.Flight.State Nat String (Task × Option Err)} (reached : (refreshing lib net asked).Reaches s) : Shared asked s := by
  have inv := reached.inv
  constructor
  case one =>
    rintro i j first second ⟨owner, id⟩
    exact inv.one_leader first second (by simp only [refreshing, flightKey, owner, id])
  case four => exact fun workers work => inv.workers_le work
  case closed =>
    intro i f isFlight
    rcases inv.flight i f isFlight with leading | ⟨returned, once, -⟩
    · obtain ⟨-, g, isFlight', isOpen⟩ := inv.leading i leading
      cases isFlight.symm.trans isFlight'
      rw [if_neg (leading.not_returned), isOpen]
    · rw [returned, once]
      rfl
  case own =>
    intro i r returned
    have mine {j : Nat} {r : Task × Option Err} (ends : (refreshing lib net asked).Ends j r) : SameTask r.1 (asked j) := by
      rcases ends with ⟨answers, rfl⟩ | ⟨message, rfl⟩
      · exact refresh_same lib net answers (asked j)
      · exact .refl _
    rcases inv.returned i r returned with ⟨now, ready, -⟩ | ⟨message, rfl⟩ | ⟨l, same, ends⟩
    · exact readyResult_same ready
    · exact .refl _
    · exact (mine ends).trans (flightKey_same (plain l) (plain i) same)

/-- Every call asks for a succeeded task without a result URL. -/
def askedAlike (_ : Nat) : Task :=
  { queueSeq := 1, taskID := "t1", apiKeyID := "k1", requestJSON := .unreadable none, status := .succeeded, protocolVersion := some .tk2sd
    createdAt := 0, updatedAt := 0, expiresAt := 0 }

/-- The store fails. -/
def brokenAnswers : Answers where
  db := Sql.DB.empty
  fetchError := some (.io "disk")
  run := .error .noRows
  resolve := none
  query _ := none
  metadata _ := none
  updateError := none
  now := 0
  later := 0

/-- A call leads a flight, another waits for it, and both get its result. -/
def sharedFlight : List (Nat × Sim.Flight.Act (Task × Option Err)) :=
  [(0, .enter), (1, .enter), (0, .acquire), (0, .finish (askedAlike 0, some (.io "disk"))), (0, .release), (0, .close), (1, .receive)]

theorem refreshes_shared_flight : ((Sim.after (refreshing
    (cdnLibrary "" nodeURL) Netguard.publicNetwork askedAlike).next .start sharedFlight).phase 1
      = .returned (askedAlike 0, some (.io "disk")))
    ∧ Shared askedAlike (Sim.after (refreshing (cdnLibrary "" nodeURL) Netguard.publicNetwork askedAlike).next .start sharedFlight) := by
  have plain : PlainIDs (askedAlike 0) := ⟨by decide, by decide⟩
  refine ⟨rfl, refreshes_shared (fun _ => plain) (Sim.run_after (fun _ _ _ => id) ?_)⟩
  exact ⟨⟨0, rfl⟩, ⟨0, rfl⟩, trivial, ⟨brokenAnswers, rfl⟩, trivial, trivial, trivial, trivial⟩

end MinimaxProxy.Remote
