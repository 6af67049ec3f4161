import DemoService.ContextModel
import DemoService.Effects

/-! The context repositories: the contract, the in-memory adapter and the SQLAlchemy adapter.
Each store method returns its argument, so only its effect is modelled. -/

namespace DemoService.Context

open PyText

structure ContextRepository (σ : Type) where
  storeArtifact : Artifact → Effect σ Raised Unit
  storeChunks : List ArtifactChunk → Effect σ Raised Unit
  storeEntities : List ContextEntity → Effect σ Raised Unit
  storeRelationships : List ContextRelationship → Effect σ Raised Unit
  storeSignals : List ContextSignal → Effect σ Raised Unit
  storeActionableItems : List ActionableItem → Effect σ Raised Unit
  indexArtifactOutputs : Artifact → List ContextSignal → List ActionableItem → Effect σ Raised Unit

def missingLinks {ρ : Type} (kind : RecordKind ρ) (record : ρ) : Raised :=
  valueError (kind.recordType ++ ' ' :: quote (kind.id record) ++
    " must include source links.".toList)

section InMemory

structure Memory where
  artifacts : Dict Text Artifact
  chunks : Dict Text ArtifactChunk
  entities : Dict Text ContextEntity
  relationships : Dict Text ContextRelationship
  signals : Dict Text ContextSignal
  actionableItems : Dict Text ActionableItem
  artifactIndex : Dict Owner (List Text)
  entityIndex : Dict Owner (List Text)
  relationshipIndex : Dict Owner (List Text)
  signalIndex : Dict Owner (List Text)
  taskIndex : Dict Owner (List Text)
  deriving DecidableEq, Repr

def emptyMemory : Memory := ⟨[], [], [], [], [], [], [], [], [], [], []⟩

def extendIndex (index : Dict Owner (List Text)) (key : Owner) (ids : List Text) :
    Dict Owner (List Text) :=
  index.set key ((index.get? key).getD [] ++ ids)

def artifactForRequiredSourceLink {ρ : Type} (kind : RecordKind ρ) (artifacts : Dict Text Artifact)
    (record : ρ) : Except Raised Artifact :=
  match kind.sourceLinks record with
  | [] => .error (missingLinks kind record)
  | link :: _ =>
    match artifacts.get? link.artifactId with
    | some artifact => .ok artifact
    | none => .error (valueError (kind.recordType ++ ' ' :: quote (kind.id record) ++
        " references unknown artifact ".toList ++ quote link.artifactId ++ ['.']))

def Memory.putArtifact (memory : Memory) (artifact : Artifact) : Memory :=
  { memory with
    artifacts := memory.artifacts.set artifact.id artifact
    artifactIndex := extendIndex memory.artifactIndex artifact.owner [artifact.id] }

def Memory.putChunk (memory : Memory) (chunk : ArtifactChunk) : Memory :=
  { memory with chunks := memory.chunks.set chunk.id chunk }

def Memory.putEntity (artifact : Artifact) (memory : Memory) (entity : ContextEntity) : Memory :=
  { memory with
    entities := memory.entities.set entity.id entity
    entityIndex := extendIndex memory.entityIndex artifact.owner [entity.id] }

def Memory.putRelationship (artifact : Artifact) (memory : Memory)
    (relationship : ContextRelationship) : Memory :=
  { memory with
    relationships := memory.relationships.set relationship.id relationship
    relationshipIndex := extendIndex memory.relationshipIndex artifact.owner [relationship.id] }

def Memory.putSignal (_ : Artifact) (memory : Memory) (signal : ContextSignal) : Memory :=
  { memory with signals := memory.signals.set signal.id signal }

def Memory.putActionableItem (_ : Artifact) (memory : Memory) (item : ActionableItem) : Memory :=
  { memory with actionableItems := memory.actionableItems.set item.id item }

def Memory.indexOutputs (artifact : Artifact) (signals : List ContextSignal)
    (items : List ActionableItem) (memory : Memory) : Memory :=
  { memory with
    signalIndex := extendIndex memory.signalIndex artifact.owner (signals.map ContextSignal.id)
    taskIndex := extendIndex memory.taskIndex artifact.owner (items.map ActionableItem.id) }

/-- One record of a batch: its first source link must name a stored artifact. -/
def storeLinked {ρ : Type} (kind : RecordKind ρ) (put : Artifact → Memory → ρ → Memory)
    (record : ρ) : Effect Memory Raised Unit := fun memory =>
  match artifactForRequiredSourceLink kind memory.artifacts record with
  | .error raised => (.error raised, memory)
  | .ok artifact => (.ok (), put artifact memory record)

def inMemoryRepository : ContextRepository Memory where
  storeArtifact artifact := Effect.modify fun memory => memory.putArtifact artifact
  storeChunks := Effect.forEach fun chunk => Effect.modify fun memory => memory.putChunk chunk
  storeEntities := Effect.forEach (storeLinked entityKind Memory.putEntity)
  storeRelationships := Effect.forEach (storeLinked relationshipKind Memory.putRelationship)
  storeSignals := Effect.forEach (storeLinked signalKind Memory.putSignal)
  storeActionableItems := Effect.forEach (storeLinked itemKind Memory.putActionableItem)
  indexArtifactOutputs artifact signals items :=
    Effect.modify (Memory.indexOutputs artifact signals items)

end InMemory

section SqlAlchemy

/-- The tables; a derived record's row also holds the owner found through its links. -/
structure Tables where
  artifacts : List Artifact
  chunks : List ArtifactChunk
  entities : List (Owner × ContextEntity)
  relationships : List (Owner × ContextRelationship)
  signals : List (Owner × ContextSignal)
  actionableItems : List (Owner × ActionableItem)
  sourceLinks : List SourceLink
  deriving DecidableEq, Repr

def emptyTables : Tables := ⟨[], [], [], [], [], [], []⟩

instance : Append Tables where
  append stored added :=
    ⟨stored.artifacts ++ added.artifacts, stored.chunks ++ added.chunks,
      stored.entities ++ added.entities, stored.relationships ++ added.relationships,
      stored.signals ++ added.signals, stored.actionableItems ++ added.actionableItems,
      stored.sourceLinks ++ added.sourceLinks⟩

/-- Why the database refuses to commit pending rows over the stored ones, if it does. -/
abbrev Database := Tables → Tables → Option Text

/-- A session with pending rows commits all of them or none. -/
def commit (db : Database) (pending : Tables) : Effect Tables Raised Unit := fun stored =>
  match db stored pending with
  | some reason => (.error ⟨.other, reason⟩, stored)
  | none => (.ok (), stored ++ pending)

def MetaValue.serializable : MetaValue → Bool
  | .foreign _ => false
  | _ => true

/-- `json.dumps` of a record's metadata, of which only the refusal is modelled. -/
def jsonDump (metadata : Metadata) : Except Raised Unit :=
  if metadata.all (fun item => item.2.serializable) then .ok ()
  else .error ⟨.typeError, "Object is not JSON serializable".toList⟩

def artifactRow (artifact : Artifact) : Except Raised Tables := do
  jsonDump artifact.metadata
  pure { emptyTables with artifacts := [artifact] }

def chunkRow (chunk : ArtifactChunk) : Except Raised Tables := do
  jsonDump chunk.metadata
  pure { emptyTables with chunks := [chunk], sourceLinks := [chunk.sourceLink] }

def ownerFromRequiredSources {ρ : Type} (kind : RecordKind ρ) (stored : Tables) (record : ρ) :
    Except Raised Owner :=
  match kind.sourceLinks record with
  | [] => .error (missingLinks kind record)
  | link :: links =>
    match (link :: links).findSome? fun l => stored.artifacts.find? fun a => a.id = l.artifactId with
    | some artifact => .ok artifact.owner
    | none => .error (valueError (kind.recordType ++ ' ' :: quote (kind.id record) ++
        " references unknown source artifact ".toList ++ quote link.artifactId ++ ['.']))

def entityRow (stored : Tables) (entity : ContextEntity) : Except Raised Tables := do
  let owner ← ownerFromRequiredSources entityKind stored entity
  jsonDump entity.metadata
  pure { emptyTables with entities := [(owner, entity)], sourceLinks := entity.sourceLinks }

def relationshipRow (stored : Tables) (relationship : ContextRelationship) :
    Except Raised Tables := do
  let owner ← ownerFromRequiredSources relationshipKind stored relationship
  jsonDump relationship.metadata
  pure { emptyTables with
    relationships := [(owner, relationship)], sourceLinks := relationship.sourceLinks }

def signalRow (stored : Tables) (signal : ContextSignal) : Except Raised Tables := do
  let owner ← ownerFromRequiredSources signalKind stored signal
  jsonDump signal.metadata
  pure { emptyTables with signals := [(owner, signal)], sourceLinks := signal.sourceLinks }

def itemRow (stored : Tables) (item : ActionableItem) : Except Raised Tables := do
  let owner ← ownerFromRequiredSources itemKind stored item
  jsonDump item.metadata
  pure { emptyTables with actionableItems := [(owner, item)], sourceLinks := item.sourceLinks }

/-- The rows one session adds for a batch. -/
def batchRows {ρ : Type} (row : ρ → Except Raised Tables) : List ρ → Except Raised Tables
  | [] => .ok emptyTables
  | record :: records => do
    let first ← row record
    let rest ← batchRows row records
    pure (first ++ rest)

/-- One store method: the rows are built from the stored tables, then committed together. -/
def inSession (db : Database) (rows : Tables → Except Raised Tables) : Effect Tables Raised Unit :=
  fun stored =>
    match rows stored with
    | .error raised => (.error raised, stored)
    | .ok pending => commit db pending stored

def sqlAlchemyRepository (db : Database) : ContextRepository Tables where
  storeArtifact artifact := inSession db fun _ => artifactRow artifact
  storeChunks chunks := inSession db fun _ => batchRows chunkRow chunks
  storeEntities entities := inSession db fun stored => batchRows (entityRow stored) entities
  storeRelationships relationships :=
    inSession db fun stored => batchRows (relationshipRow stored) relationships
  storeSignals signals := inSession db fun stored => batchRows (signalRow stored) signals
  storeActionableItems items := inSession db fun stored => batchRows (itemRow stored) items
  indexArtifactOutputs _ _ _ := pure ()

end SqlAlchemy

end DemoService.Context
