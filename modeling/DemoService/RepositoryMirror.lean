import DemoService.ContextListings

/-! What it means that the memory and the tables of the context repositories stand for the same
records, and that storing a record in both keeps it so. -/

namespace DemoService.Context

open PyText (Text)
open SecondaryIndex

section Schema

def Tables.Known (stored : Tables) (artifactId : Text) : Prop :=
  artifactId ∈ stored.artifacts.map Artifact.id

/-- The primary keys, the uniqueness constraint of the chunks and the foreign keys. -/
structure Tables.Consistent (stored : Tables) : Prop where
  artifacts : (stored.artifacts.map Artifact.id).Nodup
  chunks : (stored.chunks.map ArtifactChunk.id).Nodup
  slots : (stored.chunks.map fun chunk => (chunk.artifactId, chunk.chunkIndex)).Nodup
  entities : ((stored.entities.map Prod.snd).map ContextEntity.id).Nodup
  relationships : ((stored.relationships.map Prod.snd).map ContextRelationship.id).Nodup
  signals : ((stored.signals.map Prod.snd).map ContextSignal.id).Nodup
  actionableItems : ((stored.actionableItems.map Prod.snd).map ActionableItem.id).Nodup
  chunkArtifacts : ∀ chunk ∈ stored.chunks, stored.Known chunk.artifactId
  linkArtifacts : ∀ link ∈ stored.sourceLinks, stored.Known link.artifactId

/-- The ids of the stored records of all kinds. -/
def Tables.recordIds (stored : Tables) : List Text :=
  stored.artifacts.map Artifact.id ++ stored.chunks.map ArtifactChunk.id ++
    (stored.entities.map Prod.snd).map ContextEntity.id ++
    (stored.relationships.map Prod.snd).map ContextRelationship.id ++
    (stored.signals.map Prod.snd).map ContextSignal.id ++
    (stored.actionableItems.map Prod.snd).map ActionableItem.id

@[simp] theorem append_artifacts (s t : Tables) :
    (s ++ t).artifacts = s.artifacts ++ t.artifacts := rfl

@[simp] theorem append_chunks (s t : Tables) : (s ++ t).chunks = s.chunks ++ t.chunks := rfl

@[simp] theorem append_entities (s t : Tables) : (s ++ t).entities = s.entities ++ t.entities := rfl

@[simp] theorem append_relationships (s t : Tables) :
    (s ++ t).relationships = s.relationships ++ t.relationships := rfl

@[simp] theorem append_signals (s t : Tables) : (s ++ t).signals = s.signals ++ t.signals := rfl

@[simp] theorem append_actionableItems (s t : Tables) :
    (s ++ t).actionableItems = s.actionableItems ++ t.actionableItems := rfl

@[simp] theorem append_sourceLinks (s t : Tables) :
    (s ++ t).sourceLinks = s.sourceLinks ++ t.sourceLinks := rfl

theorem Tables.append_assoc (s t u : Tables) : s ++ t ++ u = s ++ (t ++ u) := by
  change Tables.mk _ _ _ _ _ _ _ = Tables.mk _ _ _ _ _ _ _
  simp

theorem mem_recordIds_append {s t : Tables} {id : Text} :
    id ∈ (s ++ t).recordIds ↔ id ∈ s.recordIds ∨ id ∈ t.recordIds := by
  simp only [Tables.recordIds, append_artifacts, append_chunks, append_entities,
    append_relationships, append_signals, append_actionableItems, List.map_append, List.mem_append]
  tauto

end Schema

section Mirror

/-- The row's owner is that of the artifact its record's first link names. -/
def FirstLinkOwner {ρ : Type} (kind : RecordKind ρ) (artifacts : Dict Text Artifact)
    (row : Owner × ρ) : Prop :=
  ∃ artifact, artifactForRequiredSourceLink kind artifacts row.2 = .ok artifact ∧
    artifact.owner = row.1

/-- The memory and the tables stand for the same records, of which the memory may not have
indexed all signals and items. -/
structure Mirror (memory : Memory) (tables : Tables) : Prop where
  artifacts : Holds Artifact.id memory.artifacts tables.artifacts
  chunks : Holds ArtifactChunk.id memory.chunks tables.chunks
  entities : Holds ContextEntity.id memory.entities (tables.entities.map Prod.snd)
  relationships :
    Holds ContextRelationship.id memory.relationships (tables.relationships.map Prod.snd)
  signals : Holds ContextSignal.id memory.signals (tables.signals.map Prod.snd)
  actionableItems :
    Holds ActionableItem.id memory.actionableItems (tables.actionableItems.map Prod.snd)
  artifactIndex : Indexes Artifact.id memory.artifactIndex
    (tables.artifacts.map fun artifact => (artifact.owner, artifact))
  entityIndex : Indexes ContextEntity.id memory.entityIndex tables.entities
  relationshipIndex :
    Indexes ContextRelationship.id memory.relationshipIndex tables.relationships
  signalIndex : Covers ContextSignal.id memory.signalIndex tables.signals
  taskIndex : Covers ActionableItem.id memory.taskIndex tables.actionableItems
  signalOwners : ∀ row ∈ tables.signals, FirstLinkOwner signalKind memory.artifacts row
  itemOwners : ∀ row ∈ tables.actionableItems, FirstLinkOwner itemKind memory.artifacts row
  slots : (tables.chunks.map fun chunk => (chunk.artifactId, chunk.chunkIndex)).Nodup
  chunkArtifacts : ∀ chunk ∈ tables.chunks, tables.Known chunk.artifactId
  linkArtifacts : ∀ link ∈ tables.sourceLinks, tables.Known link.artifactId

theorem mirror_empty : Mirror emptyMemory emptyTables := by
  constructor <;> first
    | exact ⟨rfl, List.nodup_nil⟩
    | exact fun _ => rfl
    | exact fun _ => ⟨List.nodup_nil, fun _ h => absurd h List.not_mem_nil⟩
    | exact List.nodup_nil
    | exact fun _ h => absurd h List.not_mem_nil

theorem Mirror.consistent {memory : Memory} {tables : Tables} (h : Mirror memory tables) :
    tables.Consistent where
  artifacts := h.artifacts.nodup
  chunks := h.chunks.nodup
  slots := h.slots
  entities := h.entities.nodup
  relationships := h.relationships.nodup
  signals := h.signals.nodup
  actionableItems := h.actionableItems.nodup
  chunkArtifacts := h.chunkArtifacts
  linkArtifacts := h.linkArtifacts

variable {ρ : Type} {kind : RecordKind ρ} {memory : Memory} {tables : Tables}

theorem known_iff {id : Text} :
    tables.Known id ↔ (tables.artifacts.find? fun artifact => artifact.id = id).isSome := by
  simp [Tables.Known]

theorem Mirror.resolved (h : Mirror memory tables) {record : ρ} (hne : kind.sourceLinks record ≠ [])
    (hknown : ∀ link ∈ kind.sourceLinks record, tables.Known link.artifactId) :
    ∃ artifact, artifactForRequiredSourceLink kind memory.artifacts record = .ok artifact ∧
      ownerFromRequiredSources kind tables record = .ok artifact.owner := by
  cases hlinks : kind.sourceLinks record with
  | nil => exact absurd hlinks hne
  | cons link links =>
    rw [hlinks, List.forall_mem_cons, known_iff, Option.isSome_iff_exists] at hknown
    obtain ⟨⟨artifact, hfind⟩, -⟩ := hknown
    refine ⟨artifact, ?_, ?_⟩
    · simp only [artifactForRequiredSourceLink, hlinks]
      rw [h.artifacts.get?_eq_find?, hfind]
    · simp only [ownerFromRequiredSources, hlinks]
      rw [List.findSome?_cons, hfind]

theorem Mirror.unresolved (h : Mirror memory tables) {record : ρ}
    (hunknown : ∀ link ∈ kind.sourceLinks record, ¬ tables.Known link.artifactId) :
    (∃ raised, artifactForRequiredSourceLink kind memory.artifacts record = .error raised) ∧
      ∃ raised, ownerFromRequiredSources kind tables record = .error raised := by
  cases hlinks : kind.sourceLinks record with
  | nil => exact ⟨⟨_, by rw [artifactForRequiredSourceLink, hlinks]⟩,
      ⟨_, by rw [ownerFromRequiredSources, hlinks]⟩⟩
  | cons link links =>
    have hnone : ∀ l ∈ link :: links,
        (tables.artifacts.find? fun artifact => artifact.id = l.artifactId) = none := by
      intro l hl
      rw [← hlinks] at hl
      simpa only [known_iff, Bool.not_eq_true, Option.isSome_eq_false_iff,
        Option.isNone_iff_eq_none] using hunknown l hl
    constructor
    · simp only [artifactForRequiredSourceLink, hlinks]
      rw [h.artifacts.get?_eq_find?, hnone link List.mem_cons_self]
      exact ⟨_, rfl⟩
    · simp only [ownerFromRequiredSources, hlinks]
      rw [List.findSome?_eq_none_iff.mpr hnone]
      exact ⟨_, rfl⟩

end Mirror

section Additions

variable {memory : Memory} {tables : Tables}

theorem known_append {s t : Tables} {id : Text} : (s ++ t).Known id ↔ s.Known id ∨ t.Known id := by
  simp [Tables.Known]

theorem append_artifact (tables : Tables) (artifact : Artifact) :
    tables ++ { emptyTables with artifacts := [artifact] } =
      { tables with artifacts := tables.artifacts ++ [artifact] } := by
  change Tables.mk _ _ _ _ _ _ _ = _
  simp [emptyTables]

theorem fresh_artifact {artifact : Artifact} (hfresh : artifact.id ∉ tables.recordIds) :
    artifact.id ∉ tables.artifacts.map Artifact.id := by
  intro hmem
  simp only [Tables.recordIds, List.mem_append] at hfresh
  tauto

theorem FirstLinkOwner.set {ρ : Type} {kind : RecordKind ρ} {artifacts : Dict Text Artifact}
    {row : Owner × ρ} (h : FirstLinkOwner kind artifacts row) {artifact : Artifact}
    (hfresh : artifacts.get? artifact.id = none) :
    FirstLinkOwner kind (artifacts.set artifact.id artifact) row := by
  obtain ⟨linked, hlinked, howner⟩ := h
  refine ⟨linked, ?_, howner⟩
  rw [artifactForRequiredSourceLink] at hlinked ⊢
  cases hlinks : kind.sourceLinks row.2 with
  | nil =>
    rw [hlinks] at hlinked
    cases hlinked
  | cons link links =>
    simp only [hlinks] at hlinked ⊢
    have hne : artifact.id ≠ link.artifactId := by
      intro heq
      rw [← heq, hfresh] at hlinked
      cases hlinked
    rw [Dict.get?_set_ne hne]
    exact hlinked

theorem Mirror.putArtifact (h : Mirror memory tables) {artifact : Artifact}
    (hfresh : artifact.id ∉ tables.recordIds) :
    Mirror (memory.putArtifact artifact)
      (tables ++ { emptyTables with artifacts := [artifact] }) := by
  have hnew := fresh_artifact hfresh
  have hnone : memory.artifacts.get? artifact.id = none := by
    rw [h.artifacts.get?_eq_find?, List.find?_eq_none]
    intro stored hstored heq
    exact hnew (List.mem_map.mpr ⟨stored, hstored, of_decide_eq_true heq⟩)
  have hknown : ∀ id, tables.Known id →
      Tables.Known { tables with artifacts := tables.artifacts ++ [artifact] } id := by
    intro id hid
    rw [← append_artifact]
    exact known_append.mpr (.inl hid)
  rw [append_artifact]
  exact { h with
    artifacts := h.artifacts.set hnew
    artifactIndex := by
      rw [List.map_append, List.map_singleton]
      exact h.artifactIndex.extend artifact.owner artifact
    signalOwners := fun row hrow => (h.signalOwners row hrow).set hnone
    itemOwners := fun row hrow => (h.itemOwners row hrow).set hnone
    chunkArtifacts := fun chunk hchunk => hknown _ (h.chunkArtifacts chunk hchunk)
    linkArtifacts := fun link hlink => hknown _ (h.linkArtifacts link hlink) }

theorem append_chunk (tables : Tables) (chunk : ArtifactChunk) :
    tables ++ { emptyTables with chunks := [chunk], sourceLinks := [chunk.sourceLink] } =
      { tables with
        chunks := tables.chunks ++ [chunk]
        sourceLinks := tables.sourceLinks ++ [chunk.sourceLink] } := by
  change Tables.mk _ _ _ _ _ _ _ = _
  simp [emptyTables]

theorem Mirror.putChunk (h : Mirror memory tables) {chunk : ArtifactChunk}
    (hfresh : chunk.id ∉ tables.recordIds)
    (hslots : ((tables.chunks ++ [chunk]).map fun c => (c.artifactId, c.chunkIndex)).Nodup)
    (hartifact : tables.Known chunk.artifactId) (hlink : tables.Known chunk.sourceLink.artifactId) :
    Mirror (memory.putChunk chunk)
      (tables ++ { emptyTables with chunks := [chunk], sourceLinks := [chunk.sourceLink] }) := by
  have hnew : chunk.id ∉ tables.chunks.map ArtifactChunk.id := by
    simp only [Tables.recordIds, List.mem_append] at hfresh
    tauto
  rw [append_chunk]
  exact { h with
    chunks := h.chunks.set hnew
    slots := hslots
    chunkArtifacts := by
      intro c hc
      rcases List.mem_append.mp hc with hc | hc
      · exact h.chunkArtifacts c hc
      · rw [List.mem_singleton.mp hc]
        exact hartifact
    linkArtifacts := by
      intro link hl
      rcases List.mem_append.mp hl with hl | hl
      · exact h.linkArtifacts link hl
      · rw [List.mem_singleton.mp hl]
        exact hlink }

end Additions

section Linked

/-- A kind of records with source links, as both repositories store it: a record put into memory
and a row of its first link's owner added to the tables leave the two alike. -/
structure LinkedStore (ρ : Type) where
  kind : RecordKind ρ
  metadata : ρ → Metadata
  put : Artifact → Memory → ρ → Memory
  added : Owner → ρ → Tables
  row : Tables → ρ → Except Raised Tables
  row_eq : ∀ stored record, row stored record = do
    let owner ← ownerFromRequiredSources kind stored record
    jsonDump (metadata record)
    pure (added owner record)
  added_artifacts : ∀ owner record, (added owner record).artifacts = []
  added_ids : ∀ owner record, (added owner record).recordIds = [kind.id record]
  mirror : ∀ {memory : Memory} {tables : Tables} {artifact : Artifact} {record : ρ},
    Mirror memory tables →
    artifactForRequiredSourceLink kind memory.artifacts record = .ok artifact →
    (∀ link ∈ kind.sourceLinks record, tables.Known link.artifactId) →
    kind.id record ∉ tables.recordIds →
    Mirror (put artifact memory record) (tables ++ added artifact.owner record)

variable {memory : Memory} {tables : Tables} {artifact : Artifact}

theorem linked_append {links : List SourceLink}
    (hstored : ∀ link ∈ tables.sourceLinks, tables.Known link.artifactId)
    (hlinks : ∀ link ∈ links, tables.Known link.artifactId) :
    ∀ link ∈ tables.sourceLinks ++ links, tables.Known link.artifactId := by
  intro link hlink
  rcases List.mem_append.mp hlink with hlink | hlink
  · exact hstored link hlink
  · exact hlinks link hlink

theorem firstLinkOwners_append {ρ : Type} {kind : RecordKind ρ} {artifacts : Dict Text Artifact}
    {rows : List (Owner × ρ)} (hrows : ∀ row ∈ rows, FirstLinkOwner kind artifacts row) {record : ρ}
    (hlinked : artifactForRequiredSourceLink kind artifacts record = .ok artifact) :
    ∀ row ∈ rows ++ [(artifact.owner, record)], FirstLinkOwner kind artifacts row := by
  intro row hrow
  rcases List.mem_append.mp hrow with hrow | hrow
  · exact hrows row hrow
  · rw [List.mem_singleton.mp hrow]
    exact ⟨artifact, hlinked, rfl⟩

def entityAdded (owner : Owner) (entity : ContextEntity) : Tables :=
  { emptyTables with entities := [(owner, entity)], sourceLinks := entity.sourceLinks }

def relationshipAdded (owner : Owner) (relationship : ContextRelationship) : Tables :=
  { emptyTables with
    relationships := [(owner, relationship)], sourceLinks := relationship.sourceLinks }

def signalAdded (owner : Owner) (signal : ContextSignal) : Tables :=
  { emptyTables with signals := [(owner, signal)], sourceLinks := signal.sourceLinks }

def itemAdded (owner : Owner) (item : ActionableItem) : Tables :=
  { emptyTables with actionableItems := [(owner, item)], sourceLinks := item.sourceLinks }

theorem append_entity (tables : Tables) (owner : Owner) (entity : ContextEntity) :
    tables ++ entityAdded owner entity = { tables with
      entities := tables.entities ++ [(owner, entity)]
      sourceLinks := tables.sourceLinks ++ entity.sourceLinks } := by
  change Tables.mk _ _ _ _ _ _ _ = _
  simp [emptyTables, entityAdded]

theorem append_relationship (tables : Tables) (owner : Owner) (relationship : ContextRelationship) :
    tables ++ relationshipAdded owner relationship = { tables with
      relationships := tables.relationships ++ [(owner, relationship)]
      sourceLinks := tables.sourceLinks ++ relationship.sourceLinks } := by
  change Tables.mk _ _ _ _ _ _ _ = _
  simp [emptyTables, relationshipAdded]

theorem append_signal (tables : Tables) (owner : Owner) (signal : ContextSignal) :
    tables ++ signalAdded owner signal = { tables with
      signals := tables.signals ++ [(owner, signal)]
      sourceLinks := tables.sourceLinks ++ signal.sourceLinks } := by
  change Tables.mk _ _ _ _ _ _ _ = _
  simp [emptyTables, signalAdded]

theorem append_item (tables : Tables) (owner : Owner) (item : ActionableItem) :
    tables ++ itemAdded owner item = { tables with
      actionableItems := tables.actionableItems ++ [(owner, item)]
      sourceLinks := tables.sourceLinks ++ item.sourceLinks } := by
  change Tables.mk _ _ _ _ _ _ _ = _
  simp [emptyTables, itemAdded]

theorem Mirror.putEntity (h : Mirror memory tables) {entity : ContextEntity}
    (hlinks : ∀ link ∈ entity.sourceLinks, tables.Known link.artifactId)
    (hfresh : entity.id ∉ tables.recordIds) :
    Mirror (memory.putEntity artifact entity) (tables ++ entityAdded artifact.owner entity) := by
  have hnew : entity.id ∉ (tables.entities.map Prod.snd).map ContextEntity.id := by
    simp only [Tables.recordIds, List.mem_append] at hfresh
    tauto
  rw [append_entity]
  exact { h with
    entities := by
      rw [List.map_append, List.map_singleton]
      exact h.entities.set hnew
    entityIndex := h.entityIndex.extend artifact.owner entity
    linkArtifacts := linked_append h.linkArtifacts hlinks }

theorem Mirror.putRelationship (h : Mirror memory tables) {relationship : ContextRelationship}
    (hlinks : ∀ link ∈ relationship.sourceLinks, tables.Known link.artifactId)
    (hfresh : relationship.id ∉ tables.recordIds) :
    Mirror (memory.putRelationship artifact relationship)
      (tables ++ relationshipAdded artifact.owner relationship) := by
  have hnew : relationship.id ∉
      (tables.relationships.map Prod.snd).map ContextRelationship.id := by
    simp only [Tables.recordIds, List.mem_append] at hfresh
    tauto
  rw [append_relationship]
  exact { h with
    relationships := by
      rw [List.map_append, List.map_singleton]
      exact h.relationships.set hnew
    relationshipIndex := h.relationshipIndex.extend artifact.owner relationship
    linkArtifacts := linked_append h.linkArtifacts hlinks }

theorem Mirror.putSignal (h : Mirror memory tables) {signal : ContextSignal}
    (hlinked : artifactForRequiredSourceLink signalKind memory.artifacts signal = .ok artifact)
    (hlinks : ∀ link ∈ signal.sourceLinks, tables.Known link.artifactId)
    (hfresh : signal.id ∉ tables.recordIds) :
    Mirror (memory.putSignal artifact signal) (tables ++ signalAdded artifact.owner signal) := by
  have hnew : signal.id ∉ (tables.signals.map Prod.snd).map ContextSignal.id := by
    simp only [Tables.recordIds, List.mem_append] at hfresh
    tauto
  rw [append_signal]
  exact { h with
    signals := by
      rw [List.map_append, List.map_singleton]
      exact h.signals.set hnew
    signalIndex := h.signalIndex.append _
    signalOwners := firstLinkOwners_append h.signalOwners hlinked
    linkArtifacts := linked_append h.linkArtifacts hlinks }

theorem Mirror.putActionableItem (h : Mirror memory tables) {item : ActionableItem}
    (hlinked : artifactForRequiredSourceLink itemKind memory.artifacts item = .ok artifact)
    (hlinks : ∀ link ∈ item.sourceLinks, tables.Known link.artifactId)
    (hfresh : item.id ∉ tables.recordIds) :
    Mirror (memory.putActionableItem artifact item) (tables ++ itemAdded artifact.owner item) := by
  have hnew : item.id ∉ (tables.actionableItems.map Prod.snd).map ActionableItem.id := by
    simp only [Tables.recordIds, List.mem_append] at hfresh
    tauto
  rw [append_item]
  exact { h with
    actionableItems := by
      rw [List.map_append, List.map_singleton]
      exact h.actionableItems.set hnew
    taskIndex := h.taskIndex.append _
    itemOwners := firstLinkOwners_append h.itemOwners hlinked
    linkArtifacts := linked_append h.linkArtifacts hlinks }

def entityStore : LinkedStore ContextEntity where
  kind := entityKind
  metadata := ContextEntity.metadata
  put := Memory.putEntity
  added := entityAdded
  row := entityRow
  row_eq _ _ := rfl
  added_artifacts _ _ := rfl
  added_ids _ _ := rfl
  mirror h _ hlinks hfresh := h.putEntity hlinks hfresh

def relationshipStore : LinkedStore ContextRelationship where
  kind := relationshipKind
  metadata := ContextRelationship.metadata
  put := Memory.putRelationship
  added := relationshipAdded
  row := relationshipRow
  row_eq _ _ := rfl
  added_artifacts _ _ := rfl
  added_ids _ _ := rfl
  mirror h _ hlinks hfresh := h.putRelationship hlinks hfresh

def signalStore : LinkedStore ContextSignal where
  kind := signalKind
  metadata := ContextSignal.metadata
  put := Memory.putSignal
  added := signalAdded
  row := signalRow
  row_eq _ _ := rfl
  added_artifacts _ _ := rfl
  added_ids _ _ := rfl
  mirror h hlinked hlinks hfresh := h.putSignal hlinked hlinks hfresh

def itemStore : LinkedStore ActionableItem where
  kind := itemKind
  metadata := ActionableItem.metadata
  put := Memory.putActionableItem
  added := itemAdded
  row := itemRow
  row_eq _ _ := rfl
  added_artifacts _ _ := rfl
  added_ids _ _ := rfl
  mirror h hlinked hlinks hfresh := h.putActionableItem hlinked hlinks hfresh

end Linked

end DemoService.Context
