import DemoService.ContextListings
import DemoService.EffectRules
import Mathlib.Logic.Function.Basic

/-! Perspective views: how the service builds, caches and annotates them, over either repository.
A view is an object that its holders may write to, so views are kept behind references; the rows
of the SQL repository hold serialized views. -/

namespace DemoService.Context

open PyText Effect

structure EvidenceLink where
  source : SourceLink
  note : Option Text
  deriving DecidableEq, Repr

structure ViewSection where
  id : Text
  title : Text
  content : Option Text
  evidenceLinks : List EvidenceLink
  metadata : Metadata
  deriving DecidableEq, Repr

structure PerspectiveView where
  id : Text
  viewDefinitionId : Text
  title : Text
  sections : List ViewSection
  metadata : Metadata
  deriving DecidableEq, Repr

structure PerspectiveBuildContext where
  domainId : Text
  ownerType : OwnerType
  ownerId : Text
  artifacts : List Artifact
  chunks : List ArtifactChunk
  entities : List ContextEntity
  relationships : List ContextRelationship
  signals : List ContextSignal
  actionableItems : List ActionableItem
  deriving DecidableEq, Repr

structure PerspectiveBuilder (χ : Type) where
  id : Text
  build : PerspectiveBuildContext → Except Raised PerspectiveView
  buildWithExecution :
    Option (PerspectiveBuildContext → Option χ → Except Raised PerspectiveView)

def PerspectiveBuilder.run {χ : Type} (builder : PerspectiveBuilder χ)
    (context : PerspectiveBuildContext) (execution : Option χ) : Except Raised PerspectiveView :=
  match builder.buildWithExecution with
  | some buildWithExecution => buildWithExecution context execution
  | none => builder.build context

structure ViewKey where
  owner : Owner
  viewDefinitionId : Text
  deriving DecidableEq, Repr

/-- What the history of a service is about. -/
inductive Event
  | ingested (owner : Owner)
  | generated (key : ViewKey)
  deriving DecidableEq, Repr

abbrev Ref := Nat

/-- The repository, the view objects, the references that code outside it was given, and what has
happened so far. -/
structure Shelf (σ υ : Type) where
  store : σ
  cache : υ
  objects : Ref → PerspectiveView
  next : Ref
  handed : List Ref
  history : List Event

def emptyShelf {σ υ : Type} (store : σ) (cache : υ) : Shelf σ υ :=
  ⟨store, cache, fun _ => ⟨[], [], [], [], []⟩, 0, [], []⟩

section Objects

variable {σ υ α : Type}

def alloc (view : PerspectiveView) : Effect (Shelf σ υ) Raised Ref := fun s =>
  (.ok s.next, { s with objects := Function.update s.objects s.next view, next := s.next + 1 })

def deref (ref : Ref) : Effect (Shelf σ υ) Raised PerspectiveView :=
  fun s => (.ok (s.objects ref), s)

def Shelf.write (s : Shelf σ υ) (ref : Ref) (view : PerspectiveView) : Shelf σ υ :=
  { s with objects := Function.update s.objects ref view }

def mutate (ref : Ref) (change : PerspectiveView → PerspectiveView) :
    Effect (Shelf σ υ) Raised Unit := modify fun s => s.write ref (change (s.objects ref))

/-- `model_copy(deep=True)`. -/
def modelCopy (ref : Ref) : Effect (Shelf σ υ) Raised Ref := do
  let view ← deref ref
  alloc view

def hand (ref : Ref) : Effect (Shelf σ υ) Raised Unit :=
  modify fun s => { s with handed := ref :: s.handed }

def log (event : Event) : Effect (Shelf σ υ) Raised Unit :=
  modify fun s => { s with history := s.history ++ [event] }

def onStore (x : Effect σ Raised α) : Effect (Shelf σ υ) Raised α := fun s =>
  ((x s.store).1, { s with store := (x s.store).2 })

end Objects

/-- What a context repository adds for the views. -/
structure PerspectiveRepository (σ υ : Type) where
  listArtifacts : σ → Owner → Except Raised (List Artifact)
  listChunksForArtifacts : σ → List Text → List ArtifactChunk
  listEntities : σ → Owner → Except Raised (List ContextEntity)
  listRelationships : σ → Owner → Except Raised (List ContextRelationship)
  listSignals : σ → Owner → Except Raised (List ContextSignal)
  listActionableItems : σ → Owner → Except Raised (List ActionableItem)
  getPerspectiveView : ViewKey → Effect (Shelf σ υ) Raised (Option Ref)
  storePerspectiveView : Ref → Owner → List Artifact → Effect (Shelf σ υ) Raised Ref

def sourceArtifactIds : Text := "source_artifact_ids".toList

def sourceArtifactCount : Text := "source_artifact_count".toList

def latestArtifactCreatedAt : Text := "latest_artifact_created_at".toList

def isStale : Text := "is_stale".toList

def currentArtifactCount : Text := "current_artifact_count".toList

def staleReason : Text := "stale_reason".toList

def metaBool (value : Bool) : MetaValue := .json (if value then "true" else "false").toList

def metaCount (n : Nat) : MetaValue := .json (Nat.toDigits 10 n)

section Cached

variable (isoformat : Nat → Text)

def metaTime : Option Nat → MetaValue
  | some time => .text (isoformat time)
  | none => .json "null".toList

def latestCreatedAt (artifacts : List Artifact) : Option Nat :=
  (artifacts.map Artifact.createdAt).max?

def perspectiveCacheMetadata (artifacts : List Artifact) : Metadata :=
  [(sourceArtifactIds, .texts (artifacts.map Artifact.id)),
    (sourceArtifactCount, metaCount artifacts.length),
    (latestArtifactCreatedAt, metaTime isoformat (latestCreatedAt artifacts)),
    (isStale, metaBool false)]

def cachedForm (artifacts : List Artifact) (view : PerspectiveView) : PerspectiveView :=
  { view with metadata := Dict.merge view.metadata (perspectiveCacheMetadata isoformat artifacts) }

/-- The lists of the in-memory repository raise where an index names a record it does not have. -/
def orKeyError {α : Type} : Option α → Except Raised α
  | some a => .ok a
  | none => .error ⟨.keyError, []⟩

abbrev MemoryViews := Dict ViewKey Ref

def inMemoryViews : PerspectiveRepository Memory MemoryViews where
  listArtifacts memory owner := orKeyError (memory.listArtifacts owner)
  listChunksForArtifacts memory ids := memory.listChunksForArtifacts ids
  listEntities memory owner := orKeyError (memory.listEntities owner)
  listRelationships memory owner := orKeyError (memory.listRelationships owner)
  listSignals memory owner := orKeyError (memory.listSignals owner)
  listActionableItems memory owner := orKeyError (memory.listActionableItems owner)
  getPerspectiveView key := do
    let s ← read
    match Dict.get? s.cache key with
    | some ref => do
      let copy ← modelCopy ref
      pure (some copy)
    | none => pure none
  storePerspectiveView ref owner artifacts := do
    let view ← deref ref
    let stored ← alloc view
    mutate stored (cachedForm isoformat artifacts)
    modify fun s => { s with cache := Dict.set s.cache ⟨owner, view.viewDefinitionId⟩ stored }
    modelCopy stored

end Cached

structure ViewRecord where
  id : Text
  viewJson : Text
  sourceArtifactIds : List Text
  artifactCount : Nat
  latestArtifactCreatedAt : Option Nat
  generatedAt : Nat
  deriving DecidableEq, Repr

/-- The rows under their unique key. -/
abbrev ViewRecords := Dict ViewKey ViewRecord

/-- Serialization, the server's clock and the constraints of the database. -/
structure ViewDatabase where
  isoformat : Nat → Text
  dump : PerspectiveView → Except Raised Text
  load : Text → Except Raised PerspectiveView
  generatedAt : ViewRecords → Nat
  refuses : ViewRecords → ViewKey → ViewRecord → Option Text

section SqlAlchemy

variable (db : ViewDatabase)

def viewFromRecord (record : ViewRecord) : Except Raised PerspectiveView := do
  let view ← db.load record.viewJson
  let metadata := Dict.setdefault view.metadata sourceArtifactIds (.texts record.sourceArtifactIds)
  let metadata := Dict.setdefault metadata sourceArtifactCount (metaCount record.artifactCount)
  let metadata := Dict.setdefault metadata latestArtifactCreatedAt
    (metaTime db.isoformat record.latestArtifactCreatedAt)
  let metadata := Dict.setdefault metadata "generated_at".toList
    (.text (db.isoformat record.generatedAt))
  pure { view with metadata := metadata }

/-- The pending row replaces the one with its key, and the session commits it or raises. -/
def commitView (key : ViewKey) (record : ViewRecord) {σ : Type} :
    Effect (Shelf σ ViewRecords) Raised Unit := fun s =>
  match db.refuses s.cache key record with
  | some reason => (.error ⟨.other, reason⟩, s)
  | none => (.ok (), { s with cache := Dict.set s.cache key record })

def sqlAlchemyViews : PerspectiveRepository Tables ViewRecords where
  listArtifacts tables owner := .ok (tables.listArtifacts owner)
  listChunksForArtifacts tables ids := tables.listChunksForArtifacts ids
  listEntities tables owner := .ok (tables.listEntities owner)
  listRelationships tables owner := .ok (tables.listRelationships owner)
  listSignals tables owner := .ok (tables.listSignals owner)
  listActionableItems tables owner := .ok (tables.listActionableItems owner)
  getPerspectiveView key := do
    let s ← read
    match Dict.get? s.cache key with
    | some record => do
      let view ← lift (viewFromRecord db record)
      let ref ← alloc view
      pure (some ref)
    | none => pure none
  storePerspectiveView ref owner artifacts := do
    let view ← deref ref
    let viewToStore ← alloc (cachedForm db.isoformat artifacts view)
    let viewJson ← lift (db.dump (cachedForm db.isoformat artifacts view))
    let s ← read
    let key : ViewKey := ⟨owner, view.viewDefinitionId⟩
    commitView db key
      { id := view.id
        viewJson := viewJson
        sourceArtifactIds := artifacts.map Artifact.id
        artifactCount := artifacts.length
        latestArtifactCreatedAt := latestCreatedAt artifacts
        generatedAt := ((Dict.get? s.cache key).map ViewRecord.generatedAt).getD
          (db.generatedAt s.cache) }
    pure viewToStore

end SqlAlchemy

/-- `perspective_builders` by the id of their domain, and the repository's views. -/
structure PerspectiveService (χ σ υ : Type) extends ContextEngineService χ σ where
  perspectiveBuilders : Text → List (PerspectiveBuilder χ)
  views : PerspectiveRepository σ υ

section Service

variable {χ σ υ : Type} (service : PerspectiveService χ σ υ)

def storedIds (view : PerspectiveView) : List Text :=
  match Dict.get? view.metadata sourceArtifactIds with
  | some (.texts ids) => ids
  | _ => []

def annotate (currentIds : List Text) (view : PerspectiveView) : PerspectiveView :=
  let stale := decide (currentIds ≠ storedIds view)
  let metadata := Dict.set view.metadata isStale (metaBool stale)
  let metadata := Dict.set metadata currentArtifactCount (metaCount currentIds.length)
  let metadata := Dict.set metadata sourceArtifactCount (metaCount (storedIds view).length)
  { view with
    metadata :=
      if stale then
        Dict.set metadata staleReason
          (.text "Artifacts changed after this view was generated.".toList)
      else metadata.filter (·.1 ≠ staleReason) }

def withStaleMetadata (ref : Ref) (currentArtifacts : List Artifact) :
    Effect (Shelf σ υ) Raised Unit := mutate ref (annotate (currentArtifacts.map Artifact.id))

def listArtifacts (owner : Owner) : Effect (Shelf σ υ) Raised (List Artifact) := do
  let s ← read
  lift (service.views.listArtifacts s.store owner)

def buildContext (owner : Owner) (artifacts : List Artifact) (store : σ) :
    Except Raised PerspectiveBuildContext := do
  let entities ← service.views.listEntities store owner
  let relationships ← service.views.listRelationships store owner
  let signals ← service.views.listSignals store owner
  let actionableItems ← service.views.listActionableItems store owner
  pure {
    domainId := owner.domainId
    ownerType := owner.ownerType
    ownerId := owner.ownerId
    artifacts := artifacts
    chunks := service.views.listChunksForArtifacts store (artifacts.map Artifact.id)
    entities := entities
    relationships := relationships
    signals := signals
    actionableItems := actionableItems }

/-- `artifacts or self.repository.list_artifacts(...)`. -/
def orListArtifacts (owner : Owner) (artifacts : List Artifact) :
    Effect (Shelf σ υ) Raised (List Artifact) :=
  if artifacts = [] then listArtifacts service owner else pure artifacts

/-- `_build_perspective`; a builder may go on writing to the view it returns. -/
def buildView (owner : Owner) (viewDefinitionId : Text) (artifacts : List Artifact) :
    Effect (Shelf σ υ) Raised (Ref × List Artifact) := do
  let _ ← lift (getDomain service.registry owner.domainId)
  match (service.perspectiveBuilders owner.domainId).find? (·.id = viewDefinitionId) with
  | none => fail (valueError ("Perspective ".toList ++ quote viewDefinitionId ++
      " is not registered for domain ".toList ++ quote owner.domainId ++ ['.']))
  | some builder => do
    let artifacts ← orListArtifacts service owner artifacts
    let s ← read
    let context ← lift (buildContext service owner artifacts s.store)
    let view ← lift (builder.run context service.executionContext)
    let ref ← alloc view
    hand ref
    pure (ref, artifacts)

/-- The view becomes the cached one of its own definition. -/
def storeView (ref : Ref) (owner : Owner) (artifacts : List Artifact) :
    Effect (Shelf σ υ) Raised Ref := do
  let view ← deref ref
  let stored ← service.views.storePerspectiveView ref owner artifacts
  log (.generated ⟨owner, view.viewDefinitionId⟩)
  hand stored
  pure stored

def buildPerspective (owner : Owner) (viewDefinitionId : Text) :
    Effect (Shelf σ υ) Raised Ref := do
  let built ← buildView service owner viewDefinitionId []
  storeView service built.1 owner built.2

def lookUp (key : ViewKey) (regenerate : Bool) : Effect (Shelf σ υ) Raised (Option Ref) :=
  if regenerate then pure none else service.views.getPerspectiveView key

def getPerspective (owner : Owner) (viewDefinitionId : Text) (regenerate : Bool) :
    Effect (Shelf σ υ) Raised Ref := do
  let artifacts ← listArtifacts service owner
  let cached ← lookUp service ⟨owner, viewDefinitionId⟩ regenerate
  match cached with
  | some ref => do
    withStaleMetadata ref artifacts
    hand ref
    pure ref
  | none => do
    let built ← buildView service owner viewDefinitionId artifacts
    storeView service built.1 owner built.2

/-- The ingestion gets as far as storing its artifact. -/
def stores (stamp : Stamp) (request : IngestionRequest) (store : σ) : Bool :=
  match admitRequest service.registry request with
  | .error _ => false
  | .ok _ =>
    match service.repository.storeArtifact (request.artifact stamp) store with
    | (.ok (), _) => true
    | (.error _, _) => false

def IngestionRequest.owner (request : IngestionRequest) : Owner :=
  ⟨request.domainId, request.ownerType, request.ownerId⟩

def ingest (stamp : Stamp) (request : IngestionRequest) :
    Effect (Shelf σ υ) Raised IngestionResult := do
  let s ← read
  if stores service stamp request s.store then log (.ingested request.owner) else pure ()
  onStore (ingestArtifact service.toContextEngineService stamp request)

inductive Action
  | ingest (stamp : Stamp) (request : IngestionRequest)
  | getPerspective (owner : Owner) (viewDefinitionId : Text) (regenerate : Bool)
  | buildPerspective (owner : Owner) (viewDefinitionId : Text)
  /-- Someone who was given a view writes to it. -/
  | write (ref : Ref) (view : PerspectiveView)

def step (s : Shelf σ υ) : Action → Option (Shelf σ υ)
  | .ingest stamp request => some (ingest service stamp request s).2
  | .getPerspective owner viewDefinitionId regenerate =>
    some (getPerspective service owner viewDefinitionId regenerate s).2
  | .buildPerspective owner viewDefinitionId =>
    some (buildPerspective service owner viewDefinitionId s).2
  | .write ref view => if ref ∈ s.handed then some (s.write ref view) else none

end Service

end DemoService.Context
