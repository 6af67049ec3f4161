import DemoService.ContextService
import DemoService.SecondaryIndex
import Mathlib.Data.List.Sort

/-! The list operations of the context repositories. The in-memory ones go through the indexes
and raise (`none`) where an index names a record that is not stored. -/

namespace DemoService.Context

open PyText
open SecondaryIndex (getAll entries extend rowsOf)

section InMemory

variable (memory : Memory) (owner : Owner)

def Memory.listArtifacts : Option (List Artifact) :=
  getAll memory.artifacts (entries memory.artifactIndex owner)

def Memory.listChunksForArtifact (artifactId : Text) : List ArtifactChunk :=
  (memory.chunks.map Prod.snd).filter fun chunk => chunk.artifactId = artifactId

def Memory.listChunksForArtifacts (artifactIds : List Text) : List ArtifactChunk :=
  (memory.chunks.map Prod.snd).filter fun chunk => chunk.artifactId ∈ artifactIds

def Memory.listEntities : Option (List ContextEntity) :=
  getAll memory.entities (entries memory.entityIndex owner)

def Memory.listRelationships : Option (List ContextRelationship) :=
  getAll memory.relationships (entries memory.relationshipIndex owner)

def Memory.listSignals : Option (List ContextSignal) :=
  getAll memory.signals (entries memory.signalIndex owner)

def Memory.listActionableItems : Option (List ActionableItem) :=
  getAll memory.actionableItems (entries memory.taskIndex owner)

end InMemory

section SqlAlchemy

/-- The order of text columns. -/
def textLe : Text → Text → Bool
  | [], _ => true
  | _ :: _, [] => false
  | c :: cs, d :: ds => if c = d then textLe cs ds else decide (c.toNat < d.toNat)

/-- The records of an owner's rows, `ORDER BY id`. -/
def selectOwned {ρ : Type} (kind : RecordKind ρ) (rows : List (Owner × ρ)) (owner : Owner) : List ρ :=
  (rowsOf rows owner).insertionSort fun a b => textLe (kind.id a) (kind.id b) = true

theorem selectOwned_perm {ρ : Type} (kind : RecordKind ρ) (rows : List (Owner × ρ))
    (owner : Owner) : (selectOwned kind rows owner).Perm (rowsOf rows owner) :=
  List.perm_insertionSort _ _

variable (tables : Tables) (owner : Owner)

def Tables.listArtifacts : List Artifact :=
  (tables.artifacts.filter fun artifact => artifact.owner = owner).insertionSort fun a b =>
    a.createdAt < b.createdAt ∨ (a.createdAt = b.createdAt ∧ textLe a.id b.id = true)

def Tables.listChunksForArtifact (artifactId : Text) : List ArtifactChunk :=
  (tables.chunks.filter fun chunk => chunk.artifactId = artifactId).insertionSort fun a b =>
    a.chunkIndex ≤ b.chunkIndex

def Tables.listChunksForArtifacts (artifactIds : List Text) : List ArtifactChunk :=
  if artifactIds = [] then [] else
    (tables.chunks.filter fun chunk => chunk.artifactId ∈ artifactIds).insertionSort fun a b =>
      if a.artifactId = b.artifactId then a.chunkIndex ≤ b.chunkIndex
      else textLe a.artifactId b.artifactId = true

def Tables.listEntities : List ContextEntity := selectOwned entityKind tables.entities owner

def Tables.listRelationships : List ContextRelationship :=
  selectOwned relationshipKind tables.relationships owner

def Tables.listSignals : List ContextSignal := selectOwned signalKind tables.signals owner

def Tables.listActionableItems : List ActionableItem :=
  selectOwned itemKind tables.actionableItems owner

end SqlAlchemy

end DemoService.Context
