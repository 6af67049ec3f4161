import DemoService.PyDict
import DemoService.ServiceErrors

/-! The records of the context engine. -/

namespace DemoService.Context

open PyText

inductive OwnerType
  | invitationCode
  | system
  deriving DecidableEq, Repr

inductive ReadinessStatus
  | readyForAgent
  | needsHumanClarification
  | needsSourceMaterial
  | needsDecision
  | blocked
  | needsReview
  deriving DecidableEq, Repr

/-- A metadata value: a text, a list of texts, another JSON value in its serialized form, or an
object that has none. -/
inductive MetaValue
  | text (value : Text)
  | texts (values : List Text)
  | json (serialized : Text)
  | foreign (description : Text)
  deriving DecidableEq, Repr

abbrev Metadata := Dict Text MetaValue

structure SourceLink where
  artifactId : Text
  chunkId : Option Text
  startOffset : Option Nat
  endOffset : Option Nat
  label : Option Text
  excerpt : Option Text
  deriving DecidableEq, Repr

structure Artifact where
  id : Text
  domainId : Text
  artifactTypeId : Text
  ownerType : OwnerType
  ownerId : Text
  title : Option Text
  text : Text
  sourceUri : Option Text
  metadata : Metadata
  createdAt : Nat
  deriving DecidableEq, Repr

structure ArtifactChunk where
  id : Text
  artifactId : Text
  chunkIndex : Nat
  text : Text
  startOffset : Nat
  endOffset : Nat
  sourceLink : SourceLink
  metadata : Metadata
  deriving DecidableEq, Repr

structure ContextEntity where
  id : Text
  entityType : Text
  name : Text
  sourceLinks : List SourceLink
  metadata : Metadata
  deriving DecidableEq, Repr

structure ContextRelationship where
  id : Text
  relationshipType : Text
  sourceEntityId : Text
  targetEntityId : Text
  sourceLinks : List SourceLink
  metadata : Metadata
  deriving DecidableEq, Repr

structure ContextSignal where
  id : Text
  signalType : Text
  label : Text
  value : MetaValue
  sourceLinks : List SourceLink
  metadata : Metadata
  deriving DecidableEq, Repr

structure ActionableItem where
  id : Text
  itemType : Text
  title : Text
  description : Option Text
  readinessStatus : ReadinessStatus
  sourceLinks : List SourceLink
  metadata : Metadata
  deriving DecidableEq, Repr

structure ExtractionResult where
  entities : List ContextEntity
  relationships : List ContextRelationship
  signals : List ContextSignal
  actionableItems : List ActionableItem
  metadata : Metadata
  deriving DecidableEq, Repr

structure IngestionRequest where
  domainId : Text
  artifactTypeId : Text
  ownerType : OwnerType
  ownerId : Text
  text : Text
  title : Option Text
  sourceUri : Option Text
  metadata : Metadata
  deriving DecidableEq, Repr

structure IngestionResult where
  artifact : Artifact
  chunks : List ArtifactChunk
  entities : List ContextEntity
  relationships : List ContextRelationship
  signals : List ContextSignal
  actionableItems : List ActionableItem
  extractorIds : List Text
  deriving DecidableEq, Repr

structure Owner where
  domainId : Text
  ownerType : OwnerType
  ownerId : Text
  deriving DecidableEq, Repr

def Artifact.owner (artifact : Artifact) : Owner :=
  ⟨artifact.domainId, artifact.ownerType, artifact.ownerId⟩

/-- What the repositories read of a record that needs source links. -/
structure RecordKind (ρ : Type) where
  recordType : Text
  id : ρ → Text
  sourceLinks : ρ → List SourceLink

def entityKind : RecordKind ContextEntity :=
  ⟨"ContextEntity".toList, ContextEntity.id, ContextEntity.sourceLinks⟩

def relationshipKind : RecordKind ContextRelationship :=
  ⟨"ContextRelationship".toList, ContextRelationship.id, ContextRelationship.sourceLinks⟩

def signalKind : RecordKind ContextSignal :=
  ⟨"ContextSignal".toList, ContextSignal.id, ContextSignal.sourceLinks⟩

def itemKind : RecordKind ActionableItem :=
  ⟨"ActionableItem".toList, ActionableItem.id, ActionableItem.sourceLinks⟩

end DemoService.Context
