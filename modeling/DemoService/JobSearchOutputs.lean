import DemoService.ContextSteps
import DemoService.Fallible
import DemoService.TextLayout

/-! The structured model outputs of the job search domain, and their mapping to context records. -/

namespace DemoService.JobSearch

open PyText Context
open Fallible
open TextLayout (words unwords)

inductive ConfidenceLabel
  | low
  | medium
  | high
  deriving DecidableEq, Repr

def ConfidenceLabel.value : ConfidenceLabel → Text
  | .low => "low".toList
  | .medium => "medium".toList
  | .high => "high".toList

inductive EvidenceKind
  | explicit
  | inferred
  deriving DecidableEq, Repr

def EvidenceKind.value : EvidenceKind → Text
  | .explicit => "explicit".toList
  | .inferred => "inferred".toList

inductive ItemOwner
  | human
  | agent
  | shared
  deriving DecidableEq, Repr

def ItemOwner.value : ItemOwner → Text
  | .human => "human".toList
  | .agent => "agent".toList
  | .shared => "shared".toList

/-- A field with `min_length=1`. -/
abbrev Filled (α : Type) : Type := { values : List α // values ≠ [] }

def Filled.cons {α : Type} (value : α) (values : List α) : Filled α :=
  ⟨value :: values, List.cons_ne_nil value values⟩

structure LLMSourceReference where
  chunkId : Text
  excerpt : Filled Char
  label : Option Text
  deriving DecidableEq, Repr

structure LLMContextEntity where
  entityType : Filled Char
  name : Filled Char
  explicitOrInferred : EvidenceKind
  confidence : ConfidenceLabel
  sourceReferences : Filled LLMSourceReference
  rationale : Filled Char
  deriving DecidableEq, Repr

structure LLMContextSignal where
  title : Filled Char
  summary : Filled Char
  signalType : Filled Char
  explicitOrInferred : EvidenceKind
  confidence : ConfidenceLabel
  sourceReferences : Filled LLMSourceReference
  rationale : Filled Char
  deriving DecidableEq, Repr

structure LLMContextRelationship where
  relationshipType : Filled Char
  sourceEntityName : Filled Char
  targetEntityName : Filled Char
  explicitOrInferred : EvidenceKind
  confidence : ConfidenceLabel
  sourceReferences : Filled LLMSourceReference
  rationale : Filled Char
  deriving DecidableEq, Repr

structure LLMActionableItem where
  itemType : Filled Char
  title : Filled Char
  description : Filled Char
  priority : ConfidenceLabel
  readinessStatus : ReadinessStatus
  ownerType : ItemOwner
  rationale : Filled Char
  evidenceLinks : Filled LLMSourceReference
  deriving DecidableEq, Repr

structure LLMExtractionOutput where
  entities : List LLMContextEntity
  signals : List LLMContextSignal
  relationships : List LLMContextRelationship
  actionableItems : List LLMActionableItem
  warnings : List Text
  deriving DecidableEq, Repr

structure LLMActionableItemOutput where
  actionableItems : List LLMActionableItem
  warnings : List Text
  deriving DecidableEq, Repr

/-- The clock, the fresh ids and the Unicode tables that the mapping draws on; ids are numbered
by kind and position. -/
structure Runtime where
  now : Nat → Text
  newContextId : Text → Nat → Text
  lower : Text → Text
  repr : Text → Text

section Mapping

variable (runtime : Runtime) (artifact : Artifact) (chunks : List ArtifactChunk)

def sourceLink (chunksById : Dict Text ArtifactChunk) (reference : LLMSourceReference) :
    Except Raised SourceLink :=
  match chunksById.get? reference.chunkId with
  | none => .error (valueError ("Unknown source chunk ".toList ++ quote reference.chunkId ++ ['.']))
  | some chunk =>
    if strip reference.excerpt = [] then
      .error (valueError "LLM source reference excerpt cannot be empty.".toList)
    else .ok {
      artifactId := artifact.id
      chunkId := some chunk.id
      startOffset := some chunk.startOffset
      endOffset := some chunk.endOffset
      label := some (orText reference.label artifact.artifactTypeId)
      excerpt := some ((strip reference.excerpt).take 1000) }

def sourceLinks (references : List LLMSourceReference) : Except Raised (List SourceLink) := do
  let chunksById := Dict.ofList (chunks.map fun chunk => (chunk.id, chunk))
  let links ← mapAll (sourceLink artifact chunksById) references
  if links = [] then .error (valueError "LLM output must include source references.".toList)
  else pure links

/-- `" ".join(value.lower().split())`. -/
def normalizeEntityName (value : Text) : Text := unwords (words isSpace (runtime.lower value))

/-- The fields that entities, signals and relationships share. -/
def gradedMetadata (explicitOrInferred : EvidenceKind) (confidence : ConfidenceLabel)
    (rationale : Text) : Metadata :=
  [("explicit_or_inferred".toList, .text explicitOrInferred.value),
    ("confidence".toList, .text confidence.value), ("rationale".toList, .text rationale)]

def mapEntity (metadata : Metadata) (item : LLMContextEntity × Nat) :
    Except Raised ContextEntity := do
  let links ← sourceLinks artifact chunks item.1.sourceReferences
  pure {
    id := runtime.newContextId "entity".toList item.2
    entityType := item.1.entityType
    name := item.1.name
    sourceLinks := links
    metadata := metadata.merge
      (gradedMetadata item.1.explicitOrInferred item.1.confidence item.1.rationale) }

def mapSignal (metadata : Metadata) (item : LLMContextSignal × Nat) :
    Except Raised ContextSignal := do
  let links ← sourceLinks artifact chunks item.1.sourceReferences
  pure {
    id := runtime.newContextId "signal".toList item.2
    signalType := item.1.signalType
    label := item.1.title
    value := .text item.1.summary
    sourceLinks := links
    metadata := metadata.merge (("summary".toList, .text item.1.summary) ::
      gradedMetadata item.1.explicitOrInferred item.1.confidence item.1.rationale) }

def unresolvedNames (item : LLMContextRelationship) : Text :=
  "Dropped relationship with unresolved entity names: ".toList ++
    runtime.repr item.sourceEntityName ++ " -> ".toList ++ runtime.repr item.targetEntityName ++ ['.']

def mapRelationship (metadata : Metadata) (sourceEntityId targetEntityId : Text)
    (item : LLMContextRelationship × Nat) : Except Raised ContextRelationship := do
  let links ← sourceLinks artifact chunks item.1.sourceReferences
  pure {
    id := runtime.newContextId "rel".toList item.2
    relationshipType := item.1.relationshipType
    sourceEntityId := sourceEntityId
    targetEntityId := targetEntityId
    sourceLinks := links
    metadata := metadata.merge (("source_entity_name".toList, .text item.1.sourceEntityName) ::
      ("target_entity_name".toList, .text item.1.targetEntityName) ::
      gradedMetadata item.1.explicitOrInferred item.1.confidence item.1.rationale) }

def mapRelationships (metadata : Metadata) (entityIdsByName : Dict Text Text) :
    List (LLMContextRelationship × Nat) → List Text →
      Except Raised (List ContextRelationship × List Text)
  | [], warnings => .ok ([], warnings)
  | item :: items, warnings =>
    match entityIdsByName.get? (normalizeEntityName runtime item.1.sourceEntityName),
      entityIdsByName.get? (normalizeEntityName runtime item.1.targetEntityName) with
    | some sourceEntityId, some targetEntityId => do
      let relationship ←
        mapRelationship runtime artifact chunks metadata sourceEntityId targetEntityId item
      let mapped ← mapRelationships metadata entityIdsByName items warnings
      pure (relationship :: mapped.1, mapped.2)
    | _, _ =>
      mapRelationships metadata entityIdsByName items
        (warnings ++ [unresolvedNames runtime item.1])

def mapActionableItem (metadata : Metadata) (item : LLMActionableItem × Nat) :
    Except Raised ActionableItem := do
  let links ← sourceLinks artifact chunks item.1.evidenceLinks
  pure {
    id := runtime.newContextId "item".toList item.2
    itemType := item.1.itemType
    title := item.1.title
    description := some item.1.description
    readinessStatus := item.1.readinessStatus
    sourceLinks := links
    metadata := metadata.merge
      [("priority".toList, .text item.1.priority.value),
        ("owner_type".toList, .text item.1.ownerType.value),
        ("rationale".toList, .text item.1.rationale),
        ("explicit_or_inferred".toList, .text "inferred".toList),
        ("confidence".toList, .text "medium".toList)] }

/-- `_map_actionable_items`, which reads the clock for itself. -/
def mapActionableItems (step : ResolvedContextModelStep) (reading : Nat)
    (items : List LLMActionableItem) : Except Raised (List ActionableItem) :=
  mapAll (mapActionableItem runtime artifact chunks
    (metadataForGeneratedStep (runtime.now reading) step)) items.zipIdx

def mapExtractionOutput (step : ResolvedContextModelStep) (output : LLMExtractionOutput) :
    Except Raised ExtractionResult := do
  let metadata := metadataForGeneratedStep (runtime.now 0) step
  let entities ← mapAll (mapEntity runtime artifact chunks metadata) output.entities.zipIdx
  let entityIdsByName := Dict.ofList
    (entities.map fun entity => (normalizeEntityName runtime entity.name, entity.id))
  let signals ← mapAll (mapSignal runtime artifact chunks metadata) output.signals.zipIdx
  let relationships ← mapRelationships runtime artifact chunks metadata entityIdsByName
    output.relationships.zipIdx output.warnings
  let actionableItems ←
    mapActionableItems runtime artifact chunks step 1 output.actionableItems
  pure {
    entities := entities
    relationships := relationships.1
    signals := signals
    actionableItems := actionableItems
    metadata := [("generated_by".toList, .text "llm".toList),
      ("warnings".toList, .texts relationships.2)] }

end Mapping

section Spec

variable {runtime : Runtime} {artifact : Artifact} {chunks : List ArtifactChunk}

theorem sourceLink_ok {chunksById : Dict Text ArtifactChunk} {reference : LLMSourceReference}
    {link : SourceLink} (h : sourceLink artifact chunksById reference = .ok link) :
    ∃ chunk, chunksById.get? reference.chunkId = some chunk ∧ link.chunkId = some chunk.id ∧
      link.excerpt = some ((strip reference.excerpt).take 1000) := by
  rw [sourceLink] at h
  cases hchunk : chunksById.get? reference.chunkId with
  | none => simp [hchunk] at h
  | some chunk =>
    simp only [hchunk] at h
    by_cases hblank : strip reference.excerpt = []
    · simp [hblank] at h
    · rw [if_neg hblank] at h
      obtain rfl := Except.ok.inj h
      exact ⟨chunk, rfl, rfl, rfl⟩

theorem mapEntity_ok {metadata : Metadata} {item : LLMContextEntity × Nat} {record : ContextEntity}
    (h : mapEntity runtime artifact chunks metadata item = .ok record) :
    sourceLinks artifact chunks item.1.sourceReferences = .ok record.sourceLinks ∧
      record.name = item.1.name := by
  obtain ⟨links, hlinks, h⟩ := bind_eq_ok.mp h
  obtain rfl := pure_eq_ok.mp h
  exact ⟨hlinks, rfl⟩

theorem mapSignal_ok {metadata : Metadata} {item : LLMContextSignal × Nat} {record : ContextSignal}
    (h : mapSignal runtime artifact chunks metadata item = .ok record) :
    sourceLinks artifact chunks item.1.sourceReferences = .ok record.sourceLinks := by
  obtain ⟨links, hlinks, h⟩ := bind_eq_ok.mp h
  obtain rfl := pure_eq_ok.mp h
  exact hlinks

theorem mapRelationship_ok {metadata : Metadata} {sourceEntityId targetEntityId : Text}
    {item : LLMContextRelationship × Nat} {record : ContextRelationship}
    (h : mapRelationship runtime artifact chunks metadata sourceEntityId targetEntityId item =
      .ok record) :
    sourceLinks artifact chunks item.1.sourceReferences = .ok record.sourceLinks := by
  obtain ⟨links, hlinks, h⟩ := bind_eq_ok.mp h
  obtain rfl := pure_eq_ok.mp h
  exact hlinks

theorem mapActionableItem_ok {metadata : Metadata} {item : LLMActionableItem × Nat}
    {record : ActionableItem}
    (h : mapActionableItem runtime artifact chunks metadata item = .ok record) :
    sourceLinks artifact chunks item.1.evidenceLinks = .ok record.sourceLinks := by
  obtain ⟨links, hlinks, h⟩ := bind_eq_ok.mp h
  obtain rfl := pure_eq_ok.mp h
  exact hlinks

end Spec

section Relationships

variable {runtime : Runtime} {artifact : Artifact} {chunks : List ArtifactChunk}
  {metadata : Metadata} {ids : Dict Text Text}

/-- Both endpoints of the relationship have an id. -/
def Identified (runtime : Runtime) (ids : Dict Text Text) (item : LLMContextRelationship) : Prop :=
  (ids.get? (normalizeEntityName runtime item.sourceEntityName)).isSome = true ∧
    (ids.get? (normalizeEntityName runtime item.targetEntityName)).isSome = true

instance (item : LLMContextRelationship) : Decidable (Identified runtime ids item) :=
  inferInstanceAs (Decidable (_ ∧ _))

theorem mapRelationships_identified (artifact : Artifact) (chunks : List ArtifactChunk)
    (metadata : Metadata) {item : LLMContextRelationship × Nat}
    (h : Identified runtime ids item.1) (items : List (LLMContextRelationship × Nat))
    (warnings : List Text) : ∃ sourceEntityId targetEntityId,
      ids.get? (normalizeEntityName runtime item.1.sourceEntityName) = some sourceEntityId ∧
      ids.get? (normalizeEntityName runtime item.1.targetEntityName) = some targetEntityId ∧
      mapRelationships runtime artifact chunks metadata ids (item :: items) warnings = (do
        let relationship ←
          mapRelationship runtime artifact chunks metadata sourceEntityId targetEntityId item
        let mapped ← mapRelationships runtime artifact chunks metadata ids items warnings
        pure (relationship :: mapped.1, mapped.2)) := by
  obtain ⟨sourceEntityId, hsource⟩ := Option.isSome_iff_exists.mp h.1
  obtain ⟨targetEntityId, htarget⟩ := Option.isSome_iff_exists.mp h.2
  refine ⟨sourceEntityId, targetEntityId, hsource, htarget, ?_⟩
  simp only [mapRelationships, hsource, htarget]

theorem mapRelationships_dropped {item : LLMContextRelationship × Nat}
    (h : ¬ Identified runtime ids item.1) (items : List (LLMContextRelationship × Nat))
    (warnings : List Text) :
    mapRelationships runtime artifact chunks metadata ids (item :: items) warnings =
      mapRelationships runtime artifact chunks metadata ids items
        (warnings ++ [unresolvedNames runtime item.1]) := by
  rw [mapRelationships]
  cases hsource : ids.get? (normalizeEntityName runtime item.1.sourceEntityName) with
  | none => rfl
  | some sourceEntityId =>
    cases htarget : ids.get? (normalizeEntityName runtime item.1.targetEntityName) with
    | none => rfl
    | some targetEntityId => exact absurd ⟨by simp [hsource], by simp [htarget]⟩ h

/-- The inversion of one round: the item is mapped in front of the others, or left out. -/
theorem mapRelationships_cons_ok {item : LLMContextRelationship × Nat}
    {items : List (LLMContextRelationship × Nat)} {warnings : List Text}
    {mapped : List ContextRelationship × List Text}
    (h : mapRelationships runtime artifact chunks metadata ids (item :: items) warnings =
      .ok mapped) :
    (Identified runtime ids item.1 ∧ ∃ sourceEntityId targetEntityId record rest,
      ids.get? (normalizeEntityName runtime item.1.sourceEntityName) = some sourceEntityId ∧
      ids.get? (normalizeEntityName runtime item.1.targetEntityName) = some targetEntityId ∧
      mapRelationship runtime artifact chunks metadata sourceEntityId targetEntityId item =
        .ok record ∧
      mapRelationships runtime artifact chunks metadata ids items warnings = .ok rest ∧
      mapped = (record :: rest.1, rest.2)) ∨
    (¬ Identified runtime ids item.1 ∧
      mapRelationships runtime artifact chunks metadata ids items
        (warnings ++ [unresolvedNames runtime item.1]) = .ok mapped) := by
  by_cases hitem : Identified runtime ids item.1
  · obtain ⟨sourceEntityId, targetEntityId, hsource, htarget, heq⟩ :=
      mapRelationships_identified artifact chunks metadata hitem items warnings
    rw [heq] at h
    obtain ⟨record, hrecord, h⟩ := bind_eq_ok.mp h
    obtain ⟨rest, hrest, h⟩ := bind_eq_ok.mp h
    have hmapped := (pure_eq_ok.mp h).symm
    exact .inl ⟨hitem, _, _, record, rest, hsource, htarget, hrecord, hrest, hmapped⟩
  · rw [mapRelationships_dropped hitem] at h
    exact .inr ⟨hitem, h⟩

end Relationships

end DemoService.JobSearch
