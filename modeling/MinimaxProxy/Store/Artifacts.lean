import MinimaxProxy.Store.Stages

/-!
# Artifacts and where they are stored

`artifact_store.go` and `artifact_location_store.go`. `validMedia` says whether the media
text is valid JSON, and `sha` gives the first 16 bytes of `sha256.Sum256` in hex. Times are
in milliseconds.
-/

namespace MinimaxProxy.Store
open Sql Sql.Prog

/-- `stableArtifactID` (artifact_store.go:161). `sha` gives the first 16 bytes of the SHA-256 in hex. -/
def stableArtifactID (sha : String → String) (kind value : String) : String := kind ++ "_" ++ sha value

/-- `hex.DecodeString` accepts the text. -/
def isHex (s : String) : Bool := s.toList.all fun c => c.isDigit || ('a' ≤ c && c ≤ 'f') || ('A' ≤ c && c ≤ 'F')

/-- What a node reports about a finished stage. -/
structure StageOutput where
  taskID : String
  stageID : String
  nodeID : String
  nodeArtifactID : String
  sizeBytes : Int
  digest : String
  mediaJSON : String

/-- `validateStageOutput` (artifact_store.go:151). -/
def validateStageOutput (validMedia : Bool) (out : StageOutput) : Except Err Unit :=
  if out.taskID = "" ∨ out.stageID = "" ∨ out.nodeID = "" ∨ out.nodeArtifactID = "" ∨ out.sizeBytes ≤ 0
      ∨ out.digest.length ≠ 64 ∨ !validMedia then .error (.other "节点阶段产物元数据无效")
  else if !isHex out.digest then .error (.other "节点阶段产物 SHA-256 无效")
  else .ok ()

/-- `registerStageOutputWithConn` (artifact_store.go:93): an artifact and its primary copy,
or the ones an earlier call left, if they are the same. -/
def registerStageOutputBody (sha : String → String) (out : StageOutput) (now : Int) : Prog String := do
  let artifactID := stableArtifactID sha "art" out.stageID
  let locationID := stableArtifactID sha "loc" (out.nodeID ++ "\x00" ++ out.nodeArtifactID)
  let stage ← query fun (db : Database) => (findStage db out.stageID).elim (.error (.other "阶段不存在")) .ok
  require (stage.taskID == out.taskID) (.other "阶段不属于任务")
  let t ← query fun (db : Database) => (db.tasks.find? fun t => t.taskID == out.taskID && t.deletedAt.isNone).elim
    (.error .noRows) .ok
  let later ← select fun (db : Database) => (db.stages.filter fun s => s.taskID == out.taskID
    && s.stageOrder > stage.stageOrder).length
  let kind : ArtifactKind := if later = 0 then .finalVideo else .intermediateVideo
  let _ ← exec (.insert Tbl.taskArtifacts fun (db : Database) _ =>
    if db.artifacts.any (·.id == artifactID) then []
    else [{ id := artifactID, taskID := out.taskID, stageID := some out.stageID, kind := kind, sizeBytes := out.sizeBytes
            sha256 := some out.digest, mediaJSON := some out.mediaJSON, createdAt := now, expiresAt := t.expiresAt * 1000 }])
  let a ← query fun (db : Database) => (db.artifacts.find? (·.id == artifactID)).elim (.error .noRows) .ok
  require (a.taskID == out.taskID && a.stageID.getD "" == out.stageID && a.kind == kind && a.sizeBytes == out.sizeBytes
    && a.sha256.getD "" == out.digest && a.mediaJSON.getD "" == out.mediaJSON) (.other "阶段产物幂等冲突")
  let _ ← exec (.insert Tbl.artifactLocations fun (db : Database) _ =>
    if db.locations.any (·.id == locationID) then []
    else [{ id := locationID, artifactID := artifactID, nodeID := out.nodeID, nodeArtifactID := out.nodeArtifactID
            isPrimary := true, sizeBytes := out.sizeBytes, sha256 := out.digest, createdAt := now, verifiedAt := some now }])
  let l ← query fun (db : Database) => (db.locations.find? (·.id == locationID)).elim (.error .noRows) .ok
  require (l.artifactID == artifactID && l.nodeID == out.nodeID && l.nodeArtifactID == out.nodeArtifactID && l.state == .active
    && l.isPrimary && l.sizeBytes == out.sizeBytes && l.sha256 == out.digest) (.other "阶段产物位置幂等冲突")
  pure artifactID

/-- `RegisterStageOutput` (artifact_store.go:52). -/
def registerStageOutput (sha : String → String) (validMedia : Bool) (out : StageOutput) (now : Int) : Call String :=
  match validateStageOutput validMedia out with
  | .error e => direct (.fail e)
  | .ok () => immediate (registerStageOutputBody sha out now)

/-- `CompleteStageWithOutput` (artifact_store.go:69). -/
def completeStageWithOutputBody (sha : String → String) (out : StageOutput) (leaseToken attemptID callbackID : String) (now : Int) :
    Prog String := do
  let artifactID ← registerStageOutputBody sha out now
  completeStageBody out.stageID leaseToken attemptID (some artifactID) callbackID now
  pure artifactID

def completeStageWithOutput (sha : String → String) (validMedia : Bool) (out : StageOutput) (leaseToken attemptID callbackID : String)
    (now : Int) : Call String :=
  match validateStageOutput validMedia out with
  | .error e => direct (.fail e)
  | .ok () => immediate (completeStageWithOutputBody sha out leaseToken attemptID callbackID now)

/-- `RegisterInputArtifact` (artifact_store.go:166); its checks come first. -/
def registerInputArtifactBody (sha : String → String) (artifactID taskID : String) (kind : ArtifactKind) (nodeID nodeArtifactID : String)
    (sizeBytes : Int) (digest mediaJSON : String) (now : Int) : Prog Unit := do
  let t ← query fun (db : Database) => (db.tasks.find? fun t => t.taskID == taskID && t.deletedAt.isNone).elim
    (.error .noRows) .ok
  let _ ← exec (.insert Tbl.taskArtifacts fun (db : Database) _ =>
    if db.artifacts.any (·.id == artifactID) then []
    else [{ id := artifactID, taskID := taskID, kind := kind, sizeBytes := sizeBytes, sha256 := some digest
            mediaJSON := nullEmpty mediaJSON, createdAt := now, expiresAt := t.expiresAt * 1000 }])
  let _ ← exec (.update Tbl.artifactLocations (fun _ (l : Location) => l.artifactID == artifactID && l.isPrimary)
    fun _ (l : Location) => { l with isPrimary := false })
  let _ ← exec (.upsert Tbl.artifactLocations
    (fun _ => some { id := stableArtifactID sha "loc" (artifactID ++ "\x00" ++ nodeID), artifactID := artifactID, nodeID := nodeID
                     nodeArtifactID := nodeArtifactID, isPrimary := true, sizeBytes := sizeBytes, sha256 := digest
                     createdAt := now, verifiedAt := some now })
    (fun (new old : Location) => new.id == old.id)
    fun (new old : Location) =>
      some { old with nodeArtifactID := new.nodeArtifactID, state := .active, isPrimary := true, sizeBytes := new.sizeBytes
                      sha256 := new.sha256, verifiedAt := new.verifiedAt })

def registerInputArtifact (sha : String → String) (validMedia : Bool) (artifactID taskID : String) (kind : ArtifactKind)
    (nodeID nodeArtifactID : String) (sizeBytes : Int) (digest mediaJSON : String) (now : Int) : Call Unit :=
  if artifactID = "" ∨ taskID = "" ∨ nodeID = "" ∨ nodeArtifactID = "" ∨ sizeBytes ≤ 0 ∨ digest.length ≠ 64 then
    direct (.fail (.other "输入素材元数据无效"))
  else if ¬ (kind = .audioSource ∨ kind = .intermediateVideo ∨ kind = .testOutput) then
    direct (.fail (.other "输入素材类型无效"))
  else if mediaJSON ≠ "" ∧ !validMedia then direct (.fail (.other "输入素材媒体清单无效"))
  else immediate (registerInputArtifactBody sha artifactID taskID kind nodeID nodeArtifactID sizeBytes digest mediaJSON now)

/-! ## Locations -/

/-- `CreateArtifactLocation` (artifact_location_store.go:73), one statement outside a
transaction. A location that is not given its time is created now. -/
def createArtifactLocation (l : Location) (now : Int) : Call Unit := direct do
  let _ ← exec (.insert Tbl.artifactLocations fun _ _ =>
    [{ l with createdAt := if l.createdAt = 0 then now else l.createdAt, deletedAt := none }])

/-- `UpdateImportingArtifactLocation` (artifact_location_store.go:84), one statement. -/
def updateImportingArtifactLocation (locationID nodeArtifactID : String) (sizeBytes : Int) (digest : String) : Call Unit := direct do
  let n ← exec (.update Tbl.artifactLocations
    (fun _ (l : Location) => l.id == locationID && (l.state == .importing || (l.state == .active
      && l.nodeArtifactID == nodeArtifactID && l.sizeBytes == sizeBytes && l.sha256 == digest)))
    fun _ (l : Location) => { l with nodeArtifactID := nodeArtifactID, sizeBytes := sizeBytes, sha256 := digest })
  oneRow n

/-- No copy of the artifact is primary. -/
def clearPrimary (artifactID : String) : Prog Unit := do
  let _ ← exec (.update Tbl.artifactLocations (fun _ (l : Location) => l.artifactID == artifactID)
    fun _ (l : Location) => { l with isPrimary := false })

/-- `SetPrimaryArtifactLocation` (artifact_location_store.go:89). -/
def setPrimaryArtifactLocationBody (artifactID locationID : String) : Prog Unit := do
  clearPrimary artifactID
  let n ← exec (.update Tbl.artifactLocations
    (fun _ (l : Location) => l.id == locationID && l.artifactID == artifactID && l.state == .active)
    fun _ (l : Location) => { l with isPrimary := true })
  oneRow n

def setPrimaryArtifactLocation (artifactID locationID : String) : Call Unit :=
  immediate (setPrimaryArtifactLocationBody artifactID locationID)

/-- `ActivatePrimaryArtifactLocation` (artifact_location_store.go:108). -/
def activatePrimaryArtifactLocationBody (artifactID locationID : String) (sizeBytes : Int) (digest : String) (now : Int) :
    Prog Unit := do
  let a ← query fun (db : Database) => (db.artifacts.find? fun a => a.id == artifactID && a.state == .active).elim
    (.error .artifactNotFound) .ok
  require (a.sizeBytes == sizeBytes && a.sha256.getD "" == digest) (.other "产物迁移完整性不匹配")
  clearPrimary artifactID
  let n ← exec (.update Tbl.artifactLocations
    (fun _ (l : Location) => l.id == locationID && l.artifactID == artifactID && (l.state == .importing || l.state == .active))
    fun _ (l : Location) =>
      { l with state := .active, isPrimary := true, sizeBytes := sizeBytes, sha256 := digest, verifiedAt := some now })
  oneRow n

def activatePrimaryArtifactLocation (artifactID locationID : String) (sizeBytes : Int) (digest : String) (now : Int) :
    Call Unit :=
  immediate (activatePrimaryArtifactLocationBody artifactID locationID sizeBytes digest now)

end MinimaxProxy.Store
