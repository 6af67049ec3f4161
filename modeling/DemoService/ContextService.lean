import DemoService.ContextStorage

/-! Domain packs and the ingestion of one artifact through them. The pack's parts are arbitrary
functions that may raise; `χ` is the execution context handed to those that take one. -/

namespace DemoService.Context

open PyText

structure Extractor (χ : Type) where
  id : Text
  artifactTypeIds : Option (List Text)
  extract : Artifact → List ArtifactChunk → Except Raised ExtractionResult
  extractWithExecution :
    Option (Artifact → List ArtifactChunk → Option χ → Except Raised ExtractionResult)

structure TaskGenerator (χ : Type) where
  id : Text
  generate : Artifact → Except Raised (List ActionableItem)
  generateWithExecution : Option (Artifact → List ArtifactChunk → List ActionableItem →
    Option χ → Except Raised (List ActionableItem))

structure DomainPack (χ : Type) where
  id : Text
  artifactTypeIds : List Text
  chunker : Option (Artifact → Except Raised (List ArtifactChunk))
  extractors : List (Extractor χ)
  taskGenerators : List (TaskGenerator χ)

/-- The registered packs by their id. -/
abbrev DomainRegistry (χ : Type) := Dict Text (DomainPack χ)

def getDomain {χ : Type} (registry : DomainRegistry χ) (domainId : Text) :
    Except Raised (DomainPack χ) :=
  match registry.get? domainId with
  | some pack => .ok pack
  | none => .error ⟨.keyError, "Domain ".toList ++ quote domainId ++ " is not registered.".toList⟩

structure ContextEngineService (χ σ : Type) where
  registry : DomainRegistry χ
  repository : ContextRepository σ
  defaultChunker : Artifact → Except Raised (List ArtifactChunk)
  executionContext : Option χ

/-- What the extractors and task generators of a pack have produced so far. -/
structure Outputs where
  entities : List ContextEntity
  relationships : List ContextRelationship
  signals : List ContextSignal
  actionableItems : List ActionableItem
  extractorIds : List Text
  deriving DecidableEq, Repr

def Outputs.add (outputs : Outputs) (extractorId : Text) (result : ExtractionResult) : Outputs where
  entities := outputs.entities ++ result.entities
  relationships := outputs.relationships ++ result.relationships
  signals := outputs.signals ++ result.signals
  actionableItems := outputs.actionableItems ++ result.actionableItems
  extractorIds := outputs.extractorIds ++ [extractorId]

section Pack

variable {χ : Type}

/-- The extractor's dispatch hint admits the artifact type. -/
def Extractor.Supports (extractor : Extractor χ) (artifactTypeId : Text) : Prop :=
  ∀ ids ∈ extractor.artifactTypeIds, artifactTypeId ∈ ids

instance (extractor : Extractor χ) (artifactTypeId : Text) :
    Decidable (extractor.Supports artifactTypeId) :=
  match h : extractor.artifactTypeIds with
  | none => .isTrue (by simp [Extractor.Supports, h])
  | some ids => decidable_of_iff (artifactTypeId ∈ ids) (by simp [Extractor.Supports, h])

def Extractor.run (extractor : Extractor χ) (artifact : Artifact) (chunks : List ArtifactChunk)
    (execution : Option χ) : Except Raised ExtractionResult :=
  match extractor.extractWithExecution with
  | some extractWithExecution => extractWithExecution artifact chunks execution
  | none => extractor.extract artifact chunks

def runExtractors (artifact : Artifact) (chunks : List ArtifactChunk) (execution : Option χ) :
    List (Extractor χ) → Outputs → Except Raised Outputs
  | [], outputs => .ok outputs
  | extractor :: extractors, outputs =>
    if extractor.Supports artifact.artifactTypeId then do
      let result ← extractor.run artifact chunks execution
      runExtractors artifact chunks execution extractors (outputs.add extractor.id result)
    else runExtractors artifact chunks execution extractors outputs

def TaskGenerator.run (generator : TaskGenerator χ) (artifact : Artifact)
    (chunks : List ArtifactChunk) (execution : Option χ) (items : List ActionableItem) :
    Except Raised (List ActionableItem) :=
  match generator.generateWithExecution with
  | some generateWithExecution => generateWithExecution artifact chunks items execution
  | none => do
    let generated ← generator.generate artifact
    pure (items ++ generated)

def runTaskGenerators (artifact : Artifact) (chunks : List ArtifactChunk) (execution : Option χ) :
    List (TaskGenerator χ) → List ActionableItem → Except Raised (List ActionableItem)
  | [], items => .ok items
  | generator :: generators, items => do
    let items ← generator.run artifact chunks execution items
    runTaskGenerators artifact chunks execution generators items

def noOutputs : Outputs := ⟨[], [], [], [], []⟩

/-- What the pack derives from a stored artifact and its chunks. -/
def derive (pack : DomainPack χ) (execution : Option χ) (artifact : Artifact)
    (chunks : List ArtifactChunk) : Except Raised Outputs := do
  let outputs ← runExtractors artifact chunks execution pack.extractors noOutputs
  let items ← runTaskGenerators artifact chunks execution pack.taskGenerators
    outputs.actionableItems
  pure { outputs with actionableItems := items }

end Pack

/-- The id and the time that a new artifact is stamped with. -/
structure Stamp where
  id : Text
  createdAt : Nat
  deriving DecidableEq, Repr

def IngestionRequest.artifact (request : IngestionRequest) (stamp : Stamp) : Artifact where
  id := stamp.id
  domainId := request.domainId
  artifactTypeId := request.artifactTypeId
  ownerType := request.ownerType
  ownerId := request.ownerId
  title := request.title
  text := request.text
  sourceUri := request.sourceUri
  metadata := request.metadata
  createdAt := stamp.createdAt

section Ingest

variable {χ σ : Type}

/-- The checks before anything is stored. -/
def admitRequest (registry : DomainRegistry χ) (request : IngestionRequest) :
    Except Raised (DomainPack χ) := do
  let domain ← getDomain registry request.domainId
  if request.artifactTypeId ∈ domain.artifactTypeIds then
    if strip request.text = [] then .error (valueError "Artifact text cannot be empty.".toList)
    else pure domain
  else .error (valueError ("Artifact type ".toList ++ quote request.artifactTypeId ++
    " is not registered for domain ".toList ++ quote request.domainId ++ ['.']))

def ingestArtifact (service : ContextEngineService χ σ) (stamp : Stamp)
    (request : IngestionRequest) : Effect σ Raised IngestionResult := do
  let domain ← Effect.lift (admitRequest service.registry request)
  let artifact := request.artifact stamp
  service.repository.storeArtifact artifact
  let chunks ← Effect.lift ((domain.chunker.getD service.defaultChunker) artifact)
  service.repository.storeChunks chunks
  let outputs ← Effect.lift (derive domain service.executionContext artifact chunks)
  service.repository.storeEntities outputs.entities
  service.repository.storeRelationships outputs.relationships
  service.repository.storeSignals outputs.signals
  service.repository.storeActionableItems outputs.actionableItems
  service.repository.indexArtifactOutputs artifact outputs.signals outputs.actionableItems
  pure ⟨artifact, chunks, outputs.entities, outputs.relationships, outputs.signals,
    outputs.actionableItems, outputs.extractorIds⟩

end Ingest

end DemoService.Context
