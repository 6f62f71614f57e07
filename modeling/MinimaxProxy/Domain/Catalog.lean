import MinimaxProxy.Domain.Types

/-!
# Protocol definitions and model catalogs

`internal/protocol/registry.go` and the catalog values of
`internal/domain/model_routing.go`. The definitions leave out the display name.
-/

namespace MinimaxProxy

/-- `protocol.Definition`. -/
structure Definition where
  modelSource : CatalogSource
  parameterPlan : String
  creatable : Bool
deriving DecidableEq

/-- `protocol.Lookup` (registry.go:20). -/
def Protocol.lookup : Protocol → Option Definition
  | .h3 => some ⟨.builtin, "h3_profile", true⟩
  | .official => some ⟨.manual, "direct", true⟩
  | .tk2sd => some ⟨.discovered, "direct", true⟩
  | .legacy => some ⟨.builtin, "h3_profile", false⟩
  | .other _ => none

/-- The text of `protocol_version`. -/
def Protocol.name : Protocol → String
  | .h3 => "h3-node-v1"
  | .official => "minimax-v2"
  | .tk2sd => "tk2sd-v1"
  | .legacy => "legacy-gradio-v1"
  | .other s => s

/-- `protocol.BuiltinCapability` (registry.go:28). -/
def Protocol.builtinCapability (p : Protocol) : ModelCapability :=
  let d : List Int := [4, 5, 6, 7, 8, 9, 10, 11, 12, 13, 14, 15]
  { schemaVersion := 1
    modes := [⟨"t2va", d, []⟩, ⟨"i2va", d, ["first_frame", "last_frame"]⟩,
      ⟨"r2va", d, ["reference_image", "reference_video", "reference_audio"]⟩]
    inputSources := ["http", "https", "data"] ++ (if p = .official then ["mm_file"] else [])
    resolutionPolicy := "required"
    resolutions := if p = .official then ["768P", "2K"] else []
    maxMedia := 15 }

/-- `unicode.IsControl` or `unicode.IsSpace`. -/
def isControlOrSpace (c : Char) : Bool :=
  let n := c.toNat
  n ≤ 0x20 || (0x7f ≤ n && n ≤ 0xa0) || n == 0x1680 || (0x2000 ≤ n && n ≤ 0x200a) || n == 0x2028 || n == 0x2029
    || n == 0x202f || n == 0x205f || n == 0x3000

/-- `domain.ValidModelID` (model_routing.go:27). -/
def validModelID (id : String) : Bool :=
  1 ≤ id.length && id.length ≤ 128 && !id.toList.contains '*' && !id.toList.any isControlOrSpace

/-- `domain.NodeModel`: one model of a catalog. -/
structure CatalogItem where
  modelID : String
  enabled : Bool := false
  present : Bool := false
  verified : Bool := false
  capabilities : ModelCapability := {}
deriving DecidableEq

/-- `domain.ModelCatalog`. -/
structure ModelCatalog where
  nodeID : String := ""
  source : CatalogSource
  revision : Int := 0
  status : CatalogStatus
  fingerprint : String := ""
  lastAttemptAt : Int := 0
  lastSuccessAt : Int := 0
  validUntil : Int := 0
  lastErrorCode : String := ""
  items : List CatalogItem := []

/-- `catalogHasEnabled` (model_catalog_store.go:131). -/
def ModelCatalog.hasEnabled (c : ModelCatalog) (now : Int) : Bool :=
  !(c.source == .discovered && (c.lastSuccessAt == 0 || c.validUntil ≤ now)) &&
    c.items.any fun m => m.enabled && m.present

/-- `validateCatalogItems` (model_catalog_store.go:142). -/
def validateCatalogItems : List CatalogItem → List String → Except Err Unit
  | [], _ => .ok ()
  | m :: items, seen =>
    if !validModelID m.modelID || seen.contains m.modelID then .error (.other "模型 ID 无效或重复")
    else if m.capabilities.modes.isEmpty then .error (.other "模型能力缺失")
    else validateCatalogItems items (m.modelID :: seen)

end MinimaxProxy
