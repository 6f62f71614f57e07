import MinimaxProxy.Sql.Rules
import MinimaxProxy.Schema.Constraints

/-!
# The database

`schema` puts the tables of `src/migrations` together, and `Database` is the stored
state under it. Foreign keys are enforced (store.go:45 sets `foreign_keys(1)`), and
one connection serves all callers (store.go:53), so transactions never overlap.
-/

namespace MinimaxProxy

/-- The tables. -/
inductive Tbl
  | videoTasks | idempotencyKeys | modelServiceNodes | nodeConfigBootstrap | taskStages | stageAttempts
  | taskArtifacts | artifactLocations | artifactDeletionJobs | artifactDeletionItems | callbackDeliveries
  | externalAPIKeys | apiKeyConfigBootstrap | requestProfiles | modelRequestProfiles | profileTestRuns
  | nodeDispatchBarriers | taskInputSpoolFiles | objectStorageConfigs | resultUploadJobs | routingState
  | nodeModelCatalogs | nodeModels | modelRoutes | taskRemoteRuns | taskNodeAssets
deriving DecidableEq

namespace Tbl

@[reducible] def Row : Tbl → Type
  | videoTasks => Task
  | idempotencyKeys => IdempotencyKey
  | modelServiceNodes => Node
  | nodeConfigBootstrap => Bootstrap
  | taskStages => Stage
  | stageAttempts => Attempt
  | taskArtifacts => Artifact
  | artifactLocations => Location
  | artifactDeletionJobs => DeletionJob
  | artifactDeletionItems => DeletionItem
  | callbackDeliveries => CallbackDelivery
  | externalAPIKeys => APIKey
  | apiKeyConfigBootstrap => Bootstrap
  | requestProfiles => Profile
  | modelRequestProfiles => RetiredProfile
  | profileTestRuns => ProfileTestRun
  | nodeDispatchBarriers => Barrier
  | taskInputSpoolFiles => SpoolFile
  | objectStorageConfigs => ObjectStorageConfig
  | resultUploadJobs => UploadJob
  | routingState => RoutingState
  | nodeModelCatalogs => Catalog
  | nodeModels => NodeModel
  | modelRoutes => ModelRoute
  | taskRemoteRuns => RemoteRun
  | taskNodeAssets => NodeAsset

def all : List Tbl :=
  [videoTasks, idempotencyKeys, modelServiceNodes, nodeConfigBootstrap, taskStages, stageAttempts, taskArtifacts,
    artifactLocations, artifactDeletionJobs, artifactDeletionItems, callbackDeliveries, externalAPIKeys,
    apiKeyConfigBootstrap, requestProfiles, modelRequestProfiles, profileTestRuns, nodeDispatchBarriers,
    taskInputSpoolFiles, objectStorageConfigs, resultUploadJobs, routingState, nodeModelCatalogs, nodeModels,
    modelRoutes, taskRemoteRuns, taskNodeAssets]

/-- The column foreign keys point to; tables nothing refers to have none. -/
def key : (t : Tbl) → t.Row → String
  | videoTasks, r => r.taskID
  | modelServiceNodes, r => r.id
  | taskStages, r => r.id
  | stageAttempts, r => r.id
  | taskArtifacts, r => r.id
  | artifactLocations, r => r.id
  | artifactDeletionJobs, r => r.id
  | modelRequestProfiles, r => r.id
  | _, _ => ""

def fits : (t : Tbl) → t.Row → t.Row → Bool
  | videoTasks => Task.fits
  | idempotencyKeys => IdempotencyKey.fits
  | modelServiceNodes => Node.fits
  | nodeConfigBootstrap => fun a b => a.source != b.source
  | taskStages => Stage.fits
  | stageAttempts => Attempt.fits
  | taskArtifacts => fun a b => a.id != b.id
  | artifactLocations => Location.fits
  | artifactDeletionJobs => fun a b => a.id != b.id
  | artifactDeletionItems => DeletionItem.fits
  | callbackDeliveries => CallbackDelivery.fits
  | externalAPIKeys => APIKey.fits
  | apiKeyConfigBootstrap => fun a b => a.source != b.source
  | requestProfiles => Profile.fits
  | modelRequestProfiles => fun a b => a.id != b.id
  | profileTestRuns => fun a b => a.id != b.id
  | nodeDispatchBarriers => Barrier.fits
  | taskInputSpoolFiles => SpoolFile.fits
  | objectStorageConfigs => fun _ _ => false
  | resultUploadJobs => UploadJob.fits
  | routingState => fun _ _ => false
  | nodeModelCatalogs => fun a b => a.nodeID != b.nodeID
  | nodeModels => NodeModel.fits
  | modelRoutes => fun a b => a.modelID != b.modelID
  | taskRemoteRuns => RemoteRun.fits
  | taskNodeAssets => NodeAsset.fits

def check : (t : Tbl) → Nat → t.Row → Bool
  | videoTasks, seq, r => r.check seq
  | idempotencyKeys, seq, r => r.id ≤ seq
  | modelServiceNodes, _, r => r.check
  | nodeConfigBootstrap, _, r => r.source == "yaml_upstreams" && 0 ≤ r.importedCount
  | taskStages, _, r => r.check
  | stageAttempts, _, r => 1 ≤ r.attemptNo
  | taskArtifacts, _, r => 0 ≤ r.sizeBytes && r.state != .importing
  | artifactLocations, _, r => 0 ≤ r.sizeBytes
  | artifactDeletionJobs, _, r => r.check
  | artifactDeletionItems, _, r => 0 ≤ r.attemptCount && 0 ≤ r.deletedBytes
  | callbackDeliveries, _, r => 1 ≤ r.stateVersion && 0 ≤ r.attemptCount
  | externalAPIKeys, _, r => r.check
  | apiKeyConfigBootstrap, _, r => r.source == "yaml_api_keys" && 0 ≤ r.importedCount
  | requestProfiles, _, r => r.check
  | nodeDispatchBarriers, _, r => r.check
  | taskInputSpoolFiles, _, r => r.check
  | objectStorageConfigs, _, r => r.check
  | resultUploadJobs, _, r => r.check
  | routingState, _, r => 1 ≤ r.revision && r.instanceID != ""
  | nodeModelCatalogs, _, r => 1 ≤ r.revision
  | nodeModels, _, r => 1 ≤ r.modelID.length && r.modelID.length ≤ 128
  | modelRoutes, _, r => r.check
  | taskRemoteRuns, _, r => r.check
  | taskNodeAssets, _, r => r.check
  | modelRequestProfiles, _, _ => true
  | profileTestRuns, _, _ => true

def trigger : (t : Tbl) → Option t.Row → t.Row → Option String
  | videoTasks => Task.trigger
  | taskRemoteRuns => RemoteRun.trigger
  | _ => fun _ _ => none

/-- A foreign key to `parent`, if the column is not NULL. -/
def ref (parent : Tbl) (column : Option String) : List (Sql.Ref Tbl) :=
  column.toList.map fun id => { parent := parent, id := id }

def refs : (t : Tbl) → t.Row → List (Sql.Ref Tbl)
  | videoTasks, r => ref modelRequestProfiles r.profileID ++ ref taskStages r.activeStageID
      ++ ref taskArtifacts r.resultArtifactID
  | taskStages, r => ref videoTasks r.taskID ++ ref modelServiceNodes r.preferredNodeID
      ++ ref modelServiceNodes r.currentNodeID ++ ref taskArtifacts r.inputArtifactID
      ++ ref taskArtifacts r.outputArtifactID
  | stageAttempts, r => ref taskStages r.stageID ++ ref modelServiceNodes r.nodeID
      ++ ref taskArtifacts r.inputArtifactID ++ ref taskArtifacts r.outputArtifactID
  | taskArtifacts, r => ref videoTasks r.taskID ++ ref taskStages r.stageID
  | artifactLocations, r => ref taskArtifacts r.artifactID ++ ref modelServiceNodes r.nodeID
  | artifactDeletionItems, r => ref artifactDeletionJobs r.jobID ++ ref taskArtifacts r.artifactID
      ++ ref artifactLocations r.locationID ++ ref modelServiceNodes r.nodeID
  | callbackDeliveries, r => ref videoTasks r.taskID
  | profileTestRuns, r => ref modelServiceNodes r.nodeID ++ ref taskArtifacts r.artifactID
  | nodeDispatchBarriers, r => ref modelServiceNodes r.nodeID ++ ref videoTasks r.taskID
      ++ ref taskStages r.stageID ++ ref stageAttempts r.attemptID
  | taskInputSpoolFiles, r => ref videoTasks r.taskID
  | resultUploadJobs, r => ref videoTasks r.taskID
  | nodeModelCatalogs, r => ref modelServiceNodes r.nodeID
  | nodeModels, r => ref modelServiceNodes r.nodeID
  | taskRemoteRuns, r => { parent := videoTasks, id := r.taskID, cascade := true } :: ref modelServiceNodes r.nodeID
  | taskNodeAssets, r => { parent := videoTasks, id := r.taskID, cascade := true } :: ref modelServiceNodes r.nodeID
  | _, _ => []

end Tbl

abbrev schema : Sql.Schema where
  Tbl := Tbl
  tables := Tbl.all
  Row := Tbl.Row
  key := Tbl.key
  fits := Tbl.fits
  check := Tbl.check
  trigger := Tbl.trigger
  refs := Tbl.refs

/-- The stored state of the proxy. -/
abbrev Database : Type := Sql.DB schema

/-- A program over the database. -/
abbrev Prog (α : Type) : Type := Sql.Prog schema Err α

/-- A call of a store operation. -/
abbrev Call (α : Type) : Type := Sql.Call schema Err α

/-- A data statement. -/
abbrev Dml : Type := Sql.Dml schema

namespace Database
variable (db : Database)

/-- `video_tasks` in `queue_seq` order. -/
def tasks : List Task := db.rows Tbl.videoTasks
def stages : List Stage := db.rows Tbl.taskStages
def attempts : List Attempt := db.rows Tbl.stageAttempts
def nodes : List Node := db.rows Tbl.modelServiceNodes
def barriers : List Barrier := db.rows Tbl.nodeDispatchBarriers
def remoteRuns : List RemoteRun := db.rows Tbl.taskRemoteRuns
def uploadJobs : List UploadJob := db.rows Tbl.resultUploadJobs
def spoolFiles : List SpoolFile := db.rows Tbl.taskInputSpoolFiles
def catalogs : List Catalog := db.rows Tbl.nodeModelCatalogs
def nodeModels : List NodeModel := db.rows Tbl.nodeModels
def artifacts : List Artifact := db.rows Tbl.taskArtifacts
def locations : List Location := db.rows Tbl.artifactLocations
def callbacks : List CallbackDelivery := db.rows Tbl.callbackDeliveries

end Database

end MinimaxProxy
