import MinimaxProxy.Store.Effects
import MinimaxProxy.Store.QueueScan

/-!
# What the settings of the nodes change

The operations on nodes, catalogs and routes write the tables of the settings and no other.
-/

namespace MinimaxProxy.Store
open Sql Sql.Prog

/-- The tables of catalogs and routes. -/
def catalogTables : List Tbl := [.nodeModelCatalogs, .nodeModels, .modelRoutes, .routingState]

/-- The tables of the settings of nodes. -/
def nodeTables : List Tbl := [.modelServiceNodes, .nodeConfigBootstrap] ++ catalogTables

def catalogEffect : Effect := { kinds := [], tables := catalogTables }

def nodeEffect : Effect := { kinds := [], tables := nodeTables }

/-- A catalog under an effect that allows it. -/
theorem writes_writeNodeCatalog {e : Effect} (tables : ∀ t ∈ catalogTables, t ∈ e.tables) {input : NodeInput} {now : Int} :
    (writeNodeCatalog input now).Writes (Obeys e.law) := by
  simp only [catalogTables, List.forall_mem_cons] at tables
  refine writes_bind (writes_attempt.mpr (writes_catalogWith _)) fun found => writes_bind ?_ fun old => ?_
  · split <;> simp
  extract_lets fingerprint
  split
  · simp [syncModelRoutes, bumpRouting, tables]
  split
  · exact writes_fail
  refine writes_bind writes_require fun _ => ?_
  split
  · exact writes_fail
  · simp [hideNodeModels, writeNodeModel, syncModelRoutes, bumpRouting, tables]

@[simp] theorem writes_routeWith {P : Dml → Prop} (model : String) : (routeWith model).Writes P := by simp [routeWith]

section
variable {admin errorCode id model nodeID : String}
  {expectedVersion now nodeVersion catalogRevision revision version : Int} {input : NodeInput}

theorem bindModelRoute_lawful {protocol : Protocol} : Lawful catalogEffect.law (bindModelRoute model protocol admin version revision now) :=
  lawful_immediate (writes_bind (writes_routeWith model) fun r => by simp [bumpRouting, catalogEffect, catalogTables])

theorem refreshModelCatalog_lawful {items : List CatalogItem} :
    Lawful catalogEffect.law (refreshModelCatalog nodeID nodeVersion catalogRevision items errorCode now) := by
  refine lawful_ite lawful_fail ?_
  split
  · exact lawful_fail
  refine lawful_immediate (writes_bind writes_query fun node => writes_bind writes_require fun _ => ?_)
  refine writes_bind (writes_catalogWith _) fun old => ?_
  simp [hideNodeModels, writeNodeModel, syncModelRoutes, bumpRouting, catalogEffect, catalogTables]

@[simp] theorem nodeEffect_tables : nodeEffect.tables =
    [.modelServiceNodes, .nodeConfigBootstrap, .nodeModelCatalogs, .nodeModels, .modelRoutes, .routingState] := rfl

@[simp] theorem writes_nodeCatalog : (writeNodeCatalog input now).Writes (Obeys nodeEffect.law) :=
  writes_writeNodeCatalog fun _ mem => List.mem_append_right _ mem

end

end MinimaxProxy.Store
