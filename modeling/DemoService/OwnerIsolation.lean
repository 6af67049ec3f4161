import DemoService.ContextListings
import DemoService.IngestAtomicity
import Mathlib.Data.List.Pairwise

/-! Owner isolation of the in-memory context repository: after successful ingestions whose records
link to their own artifacts, every owner's listings have exactly what was derived for it. -/

namespace DemoService.Context

open PyText (Text)
open Effect (forEach)
open SecondaryIndex

section Results

variable {χ σ : Type}

/-- The store calls of an ingestion that returned the result. -/
def IngestionResult.storeCalls (result : IngestionResult) : List StoreCall :=
  [.artifact result.artifact, .chunks result.chunks, .entities result.entities,
    .relationships result.relationships, .signals result.signals,
    .actionableItems result.actionableItems,
    .indexOutputs result.artifact result.signals result.actionableItems]

/-- What the pack of the request's domain makes of a new artifact, whatever is stored. -/
def derived (registry : DomainRegistry χ)
    (defaultChunker : Artifact → Except Raised (List ArtifactChunk)) (execution : Option χ)
    (stamp : Stamp) (request : IngestionRequest) : Except Raised IngestionResult := do
  let domain ← admitRequest registry request
  let artifact := request.artifact stamp
  let chunks ← (domain.chunker.getD defaultChunker) artifact
  let outputs ← derive domain execution artifact chunks
  pure ⟨artifact, chunks, outputs.entities, outputs.relationships, outputs.signals,
    outputs.actionableItems, outputs.extractorIds⟩

/-- A successful ingestion returns what the pack derives, all of whose store calls succeeded. -/
theorem ingestArtifact_ok {service : ContextEngineService χ σ} {stamp : Stamp}
    {request : IngestionRequest} {s s' : σ} {result : IngestionResult}
    (h : ingestArtifact service stamp request s = (.ok result, s')) :
    derived service.registry service.defaultChunker service.executionContext stamp request =
        .ok result ∧
      forEach (StoreCall.perform service.repository) result.storeCalls s = (.ok (), s') := by
  rw [ingestArtifact] at h
  obtain ⟨domain, s₀, hlift, h⟩ := Effect.bind_eq_ok h
  obtain ⟨hadmitted, rfl⟩ := Effect.lift_eq_ok hlift
  obtain ⟨⟨⟩, s₁, hartifact, h⟩ := Effect.bind_eq_ok h
  obtain ⟨chunks, s₁', hlift, h⟩ := Effect.bind_eq_ok h
  obtain ⟨hchunks, rfl⟩ := Effect.lift_eq_ok hlift
  obtain ⟨⟨⟩, s₂, hstored, h⟩ := Effect.bind_eq_ok h
  obtain ⟨outputs, s₂', hlift, h⟩ := Effect.bind_eq_ok h
  obtain ⟨houtputs, rfl⟩ := Effect.lift_eq_ok hlift
  obtain ⟨⟨⟩, s₃, hentities, h⟩ := Effect.bind_eq_ok h
  obtain ⟨⟨⟩, s₄, hrelationships, h⟩ := Effect.bind_eq_ok h
  obtain ⟨⟨⟩, s₅, hsignals, h⟩ := Effect.bind_eq_ok h
  obtain ⟨⟨⟩, s₆, hitems, h⟩ := Effect.bind_eq_ok h
  obtain ⟨⟨⟩, s₇, hindex, h⟩ := Effect.bind_eq_ok h
  obtain ⟨hresult, rfl⟩ := Effect.lift_eq_ok (x := .ok _) h
  obtain rfl := Except.ok.inj hresult
  constructor
  · simp only [derived, hadmitted, hchunks, houtputs, bind, Except.bind, pure, Except.pure]
  · exact Effect.forEach_cons_ok hartifact <| Effect.forEach_cons_ok hstored <|
      Effect.forEach_cons_ok hentities <| Effect.forEach_cons_ok hrelationships <|
      Effect.forEach_cons_ok hsignals <| Effect.forEach_cons_ok hitems <|
      Effect.forEach_cons_ok hindex rfl

end Results

section Stored

/-- All source links of the records that came with the artifact name it. -/
structure IngestionResult.LinksToOwn (result : IngestionResult) : Prop where
  entities : ∀ entity ∈ result.entities, ∀ link ∈ entity.sourceLinks,
    link.artifactId = result.artifact.id
  relationships : ∀ relationship ∈ result.relationships, ∀ link ∈ relationship.sourceLinks,
    link.artifactId = result.artifact.id
  signals : ∀ signal ∈ result.signals, ∀ link ∈ signal.sourceLinks,
    link.artifactId = result.artifact.id
  actionableItems : ∀ item ∈ result.actionableItems, ∀ link ∈ item.sourceLinks,
    link.artifactId = result.artifact.id

def putAll {ρ : Type} (key : ρ → Text) (d : Dict Text ρ) (records : List ρ) : Dict Text ρ :=
  records.foldl (fun d record => d.set (key record) record) d

def indexEach {ρ : Type} (key : ρ → Text) (index : Dict Owner (List Text)) (owner : Owner)
    (records : List ρ) : Dict Owner (List Text) :=
  records.foldl (fun index record => extend index owner [key record]) index

theorem foldl_putChunk (batch : List ArtifactChunk) (memory : Memory) :
    batch.foldl Memory.putChunk memory =
      { memory with chunks := putAll ArtifactChunk.id memory.chunks batch } := by
  induction batch generalizing memory with
  | nil => rfl
  | cons chunk batch ih => exact ih _

theorem foldl_putEntity (artifact : Artifact) (batch : List ContextEntity) (memory : Memory) :
    batch.foldl (Memory.putEntity artifact) memory = { memory with
      entities := putAll ContextEntity.id memory.entities batch
      entityIndex := indexEach ContextEntity.id memory.entityIndex artifact.owner batch } := by
  induction batch generalizing memory with
  | nil => rfl
  | cons entity batch ih => exact ih _

theorem foldl_putRelationship (artifact : Artifact) (batch : List ContextRelationship)
    (memory : Memory) :
    batch.foldl (Memory.putRelationship artifact) memory = { memory with
      relationships := putAll ContextRelationship.id memory.relationships batch
      relationshipIndex :=
        indexEach ContextRelationship.id memory.relationshipIndex artifact.owner batch } := by
  induction batch generalizing memory with
  | nil => rfl
  | cons relationship batch ih => exact ih _

theorem foldl_putSignal (artifact : Artifact) (batch : List ContextSignal) (memory : Memory) :
    batch.foldl (Memory.putSignal artifact) memory =
      { memory with signals := putAll ContextSignal.id memory.signals batch } := by
  induction batch generalizing memory with
  | nil => rfl
  | cons signal batch ih => exact ih _

theorem foldl_putActionableItem (artifact : Artifact) (batch : List ActionableItem)
    (memory : Memory) :
    batch.foldl (Memory.putActionableItem artifact) memory =
      { memory with actionableItems := putAll ActionableItem.id memory.actionableItems batch } := by
  induction batch generalizing memory with
  | nil => rfl
  | cons item batch ih => exact ih _

/-- A batch that was stored and links to one artifact only is put under that artifact. -/
theorem forEach_storeLinked_own {ρ : Type} (kind : RecordKind ρ)
    (put : Artifact → Memory → ρ → Memory)
    (hput : ∀ artifact memory record, (put artifact memory record).artifacts = memory.artifacts)
    {artifact : Artifact} {batch : List ρ} {memory memory' : Memory}
    (hstored : memory.artifacts.get? artifact.id = some artifact)
    (hlinks : ∀ record ∈ batch, ∀ link ∈ kind.sourceLinks record, link.artifactId = artifact.id)
    (h : forEach (storeLinked kind put) batch memory = (.ok (), memory')) :
    memory' = batch.foldl (put artifact) memory := by
  induction batch generalizing memory with
  | nil => exact (Prod.mk.inj h).2.symm
  | cons record batch ih =>
    rw [List.forall_mem_cons] at hlinks
    obtain ⟨⟨⟩, memory₁, hstep, hrest⟩ := Effect.bind_eq_ok h
    have hput₁ : memory₁ = put artifact memory record := by
      rw [storeLinked, artifactForRequiredSourceLink] at hstep
      cases hrecord : kind.sourceLinks record with
      | nil => simp [hrecord] at hstep
      | cons link links =>
        have hlink := hlinks.1 link (hrecord ▸ List.mem_cons_self)
        simp only [hrecord, hlink, hstored] at hstep
        exact (Prod.mk.inj hstep).2.symm
    subst hput₁
    exact ih (by rw [hput, hstored]) hlinks.2 hrest

/-- The memory after a successful ingestion. -/
def Memory.ingested (memory : Memory) (result : IngestionResult) : Memory where
  artifacts := memory.artifacts.set result.artifact.id result.artifact
  chunks := putAll ArtifactChunk.id memory.chunks result.chunks
  entities := putAll ContextEntity.id memory.entities result.entities
  relationships := putAll ContextRelationship.id memory.relationships result.relationships
  signals := putAll ContextSignal.id memory.signals result.signals
  actionableItems := putAll ActionableItem.id memory.actionableItems result.actionableItems
  artifactIndex := extend memory.artifactIndex result.artifact.owner [result.artifact.id]
  entityIndex :=
    indexEach ContextEntity.id memory.entityIndex result.artifact.owner result.entities
  relationshipIndex := indexEach ContextRelationship.id memory.relationshipIndex
    result.artifact.owner result.relationships
  signalIndex := extend memory.signalIndex result.artifact.owner
    (result.signals.map ContextSignal.id)
  taskIndex := extend memory.taskIndex result.artifact.owner
    (result.actionableItems.map ActionableItem.id)

theorem ingested_eq (memory : Memory) (result : IngestionResult) :
    memory.ingested result = Memory.indexOutputs result.artifact result.signals
      result.actionableItems (result.actionableItems.foldl (Memory.putActionableItem result.artifact)
        (result.signals.foldl (Memory.putSignal result.artifact)
          (result.relationships.foldl (Memory.putRelationship result.artifact)
            (result.entities.foldl (Memory.putEntity result.artifact)
              (result.chunks.foldl Memory.putChunk (memory.putArtifact result.artifact)))))) := by
  rw [foldl_putChunk, foldl_putEntity, foldl_putRelationship, foldl_putSignal,
    foldl_putActionableItem]
  rfl

theorem stored_ingested {result : IngestionResult} (hlinks : result.LinksToOwn)
    {memory memory' : Memory}
    (h : forEach (StoreCall.perform inMemoryRepository) result.storeCalls memory =
      (.ok (), memory')) : memory' = memory.ingested result := by
  obtain ⟨⟨⟩, m₁, hartifact, h⟩ := Effect.bind_eq_ok h
  obtain ⟨⟨⟩, m₂, hchunks, h⟩ := Effect.bind_eq_ok h
  obtain ⟨⟨⟩, m₃, hentities, h⟩ := Effect.bind_eq_ok h
  obtain ⟨⟨⟩, m₄, hrelationships, h⟩ := Effect.bind_eq_ok h
  obtain ⟨⟨⟩, m₅, hsignals, h⟩ := Effect.bind_eq_ok h
  obtain ⟨⟨⟩, m₆, hitems, h⟩ := Effect.bind_eq_ok h
  obtain ⟨⟨⟩, m₇, hindex, h⟩ := Effect.bind_eq_ok h
  have hm₁ : m₁ = memory.putArtifact result.artifact := (Prod.mk.inj hartifact).2.symm
  have hm₂ := (Prod.mk.inj ((forEach_putChunk _ _).symm.trans hchunks)).2.symm
  have hstored₂ : m₂.artifacts.get? result.artifact.id = some result.artifact := by
    rw [hm₂, foldl_putChunk, hm₁]
    exact Dict.get?_set_self _ _ _
  have hm₃ := forEach_storeLinked_own entityKind Memory.putEntity (fun _ _ _ => rfl) hstored₂
    hlinks.entities hentities
  have hstored₃ : m₃.artifacts.get? result.artifact.id = some result.artifact := by
    rw [hm₃, foldl_putEntity, hstored₂]
  have hm₄ := forEach_storeLinked_own relationshipKind Memory.putRelationship (fun _ _ _ => rfl)
    hstored₃ hlinks.relationships hrelationships
  have hstored₄ : m₄.artifacts.get? result.artifact.id = some result.artifact := by
    rw [hm₄, foldl_putRelationship, hstored₃]
  have hm₅ := forEach_storeLinked_own signalKind Memory.putSignal (fun _ _ _ => rfl) hstored₄
    hlinks.signals hsignals
  have hstored₅ : m₅.artifacts.get? result.artifact.id = some result.artifact := by
    rw [hm₅, foldl_putSignal, hstored₄]
  have hm₆ := forEach_storeLinked_own itemKind Memory.putActionableItem (fun _ _ _ => rfl)
    hstored₅ hlinks.actionableItems hitems
  have hm₇ : m₇ = Memory.indexOutputs result.artifact result.signals result.actionableItems m₆ :=
    (Prod.mk.inj hindex).2.symm
  rw [← (Prod.mk.inj h).2, hm₇, hm₆, hm₅, hm₄, hm₃, hm₂, hm₁, ingested_eq]

end Stored

section Runs

/-- One ingestion, with the packs and the execution context that it meets. -/
structure Ingestion (χ : Type) where
  registry : DomainRegistry χ
  defaultChunker : Artifact → Except Raised (List ArtifactChunk)
  execution : Option χ
  stamp : Stamp
  request : IngestionRequest

variable {χ : Type}

def Ingestion.run (ingestion : Ingestion χ) : Effect Memory Raised IngestionResult :=
  ingestArtifact
    (processService ingestion.registry ingestion.defaultChunker ingestion.execution)
    ingestion.stamp ingestion.request

def Ingestion.derived (ingestion : Ingestion χ) : Except Raised IngestionResult :=
  Context.derived ingestion.registry ingestion.defaultChunker ingestion.execution ingestion.stamp
    ingestion.request

def ingestAll : List (Ingestion χ) → Effect Memory Raised (List IngestionResult)
  | [] => pure []
  | ingestion :: ingestions => do
    let result ← ingestion.run
    let results ← ingestAll ingestions
    pure (result :: results)

/-- The ids of the artifacts and of the records of each kind are pairwise distinct. -/
structure DistinctIds (results : List IngestionResult) : Prop where
  artifacts : ((results.map IngestionResult.artifact).map Artifact.id).Nodup
  entities : ((results.flatMap IngestionResult.entities).map ContextEntity.id).Nodup
  relationships :
    ((results.flatMap IngestionResult.relationships).map ContextRelationship.id).Nodup
  signals : ((results.flatMap IngestionResult.signals).map ContextSignal.id).Nodup
  actionableItems :
    ((results.flatMap IngestionResult.actionableItems).map ActionableItem.id).Nodup

/-- The records of the results, each with the owner of its artifact. -/
def ownedBy {ρ : Type} (results : List IngestionResult) (records : IngestionResult → List ρ) :
    List (Owner × ρ) :=
  results.flatMap fun result => (records result).map fun record => (result.artifact.owner, record)

/-- The memory has the records of the results under their ids, and their ids under their owners. -/
structure Filed (memory : Memory) (results : List IngestionResult) : Prop where
  artifacts : Holds Artifact.id memory.artifacts (results.map IngestionResult.artifact)
  entities : Holds ContextEntity.id memory.entities (results.flatMap IngestionResult.entities)
  relationships : Holds ContextRelationship.id memory.relationships
    (results.flatMap IngestionResult.relationships)
  signals : Holds ContextSignal.id memory.signals (results.flatMap IngestionResult.signals)
  actionableItems : Holds ActionableItem.id memory.actionableItems
    (results.flatMap IngestionResult.actionableItems)
  artifactIndex : Indexes Artifact.id memory.artifactIndex
    (ownedBy results fun result => [result.artifact])
  entityIndex : Indexes ContextEntity.id memory.entityIndex
    (ownedBy results IngestionResult.entities)
  relationshipIndex : Indexes ContextRelationship.id memory.relationshipIndex
    (ownedBy results IngestionResult.relationships)
  signalIndex : Indexes ContextSignal.id memory.signalIndex
    (ownedBy results IngestionResult.signals)
  taskIndex : Indexes ActionableItem.id memory.taskIndex
    (ownedBy results IngestionResult.actionableItems)

theorem filed_empty : Filed emptyMemory [] := by
  constructor <;> first
    | exact ⟨rfl, List.nodup_nil⟩
    | exact fun _ => rfl

theorem ownedBy_concat {ρ : Type} (results : List IngestionResult) (result : IngestionResult)
    (records : IngestionResult → List ρ) :
    ownedBy (results ++ [result]) records =
      ownedBy results records ++ (records result).map fun r => (result.artifact.owner, r) := by
  simp [ownedBy]

theorem flatMap_concat {ρ : Type} (results : List IngestionResult) (result : IngestionResult)
    (records : IngestionResult → List ρ) :
    (results ++ [result]).flatMap records = results.flatMap records ++ records result := by
  simp

/-- The step lemma: an ingestion with fresh ids files its records. -/
theorem Filed.ingested {memory : Memory} {results : List IngestionResult} {result : IngestionResult}
    (h : Filed memory results) (hids : DistinctIds (results ++ [result])) :
    Filed (memory.ingested result) (results ++ [result]) := by
  have hartifact := hids.artifacts
  have hentities := hids.entities
  have hrelationships := hids.relationships
  have hsignals := hids.signals
  have hitems := hids.actionableItems
  rw [flatMap_concat] at hentities hrelationships hsignals hitems
  rw [List.map_append, List.map_append, List.nodup_append] at hartifact
  have hfresh : result.artifact.id ∉ (results.map IngestionResult.artifact).map Artifact.id :=
    fun hmem => hartifact.2.2 _ hmem _ List.mem_cons_self rfl
  constructor
  case artifacts =>
    rw [List.map_append]
    exact h.artifacts.set hfresh
  case entities => exact (flatMap_concat _ _ _).symm ▸ h.entities.set_each hentities
  case relationships => exact (flatMap_concat _ _ _).symm ▸ h.relationships.set_each hrelationships
  case signals => exact (flatMap_concat _ _ _).symm ▸ h.signals.set_each hsignals
  case actionableItems => exact (flatMap_concat _ _ _).symm ▸ h.actionableItems.set_each hitems
  case artifactIndex =>
    rw [ownedBy_concat]
    exact h.artifactIndex.extend _ _
  case entityIndex =>
    rw [ownedBy_concat]
    exact h.entityIndex.extend_each _ _
  case relationshipIndex =>
    rw [ownedBy_concat]
    exact h.relationshipIndex.extend_each _ _
  case signalIndex =>
    rw [ownedBy_concat]
    exact h.signalIndex.extend_all _ _
  case taskIndex =>
    rw [ownedBy_concat]
    exact h.taskIndex.extend_all _ _

theorem nodup_flatMap_front {ρ : Type} (key : ρ → Text) (records : IngestionResult → List ρ)
    {results more : List IngestionResult}
    (h : (((results ++ more).flatMap records).map key).Nodup) :
    ((results.flatMap records).map key).Nodup := by
  rw [List.flatMap_append, List.map_append, List.nodup_append] at h
  exact h.1

theorem DistinctIds.front {results more : List IngestionResult}
    (h : DistinctIds (results ++ more)) : DistinctIds results where
  artifacts := h.artifacts.sublist (((List.sublist_append_left _ _).map _).map _)
  entities := nodup_flatMap_front _ _ h.entities
  relationships := nodup_flatMap_front _ _ h.relationships
  signals := nodup_flatMap_front _ _ h.signals
  actionableItems := nodup_flatMap_front _ _ h.actionableItems

/-- The run lemma: successful ingestions return what the packs derive, and file all of it. -/
theorem ingestAll_filed {ingestions : List (Ingestion χ)} {memory memory' : Memory}
    {before results : List IngestionResult} (hfiled : Filed memory before)
    (hids : DistinctIds (before ++ results)) (hlinks : ∀ result ∈ results, result.LinksToOwn)
    (h : ingestAll ingestions memory = (.ok results, memory')) :
    List.Forall₂ (fun ingestion result => Ingestion.derived ingestion = .ok result) ingestions
        results ∧
      Filed memory' (before ++ results) := by
  induction ingestions generalizing memory before results with
  | nil =>
    obtain ⟨hresults, rfl⟩ := Effect.lift_eq_ok (x := .ok _) h
    obtain rfl := Except.ok.inj hresults
    exact ⟨.nil, by rwa [List.append_nil]⟩
  | cons ingestion ingestions ih =>
    obtain ⟨result, memory₁, hrun, h⟩ := Effect.bind_eq_ok h
    obtain ⟨rest, memory₂, hrest, h⟩ := Effect.bind_eq_ok h
    obtain ⟨hresults, rfl⟩ := Effect.lift_eq_ok (x := .ok _) h
    obtain rfl := Except.ok.inj hresults
    rw [List.forall_mem_cons] at hlinks
    obtain ⟨hderived, hcalls⟩ := ingestArtifact_ok hrun
    obtain rfl := stored_ingested hlinks.1 hcalls
    rw [← List.singleton_append, ← List.append_assoc] at hids
    obtain ⟨hrests, hfiled'⟩ := ih (hfiled.ingested hids.front) hids hlinks.2 hrest
    rw [List.append_assoc, List.singleton_append] at hfiled'
    exact ⟨.cons hderived hrests, hfiled'⟩

end Runs

section Isolation

variable {χ ρ : Type}

/-- The records of the results whose artifacts are the owner's. -/
def ofOwner (results : List IngestionResult) (owner : Owner)
    (records : IngestionResult → List ρ) : List ρ :=
  (results.filter fun result => result.artifact.owner = owner).flatMap records

/-- A listing for an owner has exactly the records of its artifacts, each once, and none that
came with an artifact of another owner. -/
structure ListsOwn (results : List IngestionResult) (owner : Owner)
    (records : IngestionResult → List ρ) (listed : Option (List ρ)) : Prop where
  exactly : listed = some (ofOwner results owner records)
  once : (ofOwner results owner records).Nodup
  isolated : ∀ result ∈ results, result.artifact.owner ≠ owner →
    ∀ record ∈ records result, record ∉ ofOwner results owner records

theorem nodup_ofOwner {results : List IngestionResult} {records : IngestionResult → List ρ}
    (h : (results.flatMap records).Nodup) (owner : Owner) :
    (ofOwner results owner records).Nodup := by
  rw [List.nodup_flatMap] at h
  rw [ofOwner, List.nodup_flatMap]
  refine ⟨fun result hresult => h.1 result (List.mem_of_mem_filter hresult), ?_⟩
  exact h.2.sublist List.filter_sublist

theorem not_mem_ofOwner {results : List IngestionResult} {records : IngestionResult → List ρ}
    (h : (results.flatMap records).Nodup) {owner : Owner} {result : IngestionResult}
    (hresult : result ∈ results) (hother : result.artifact.owner ≠ owner) {record : ρ}
    (hrecord : record ∈ records result) : record ∉ ofOwner results owner records := by
  intro hmem
  rw [List.nodup_flatMap] at h
  obtain ⟨own, hown, hmem⟩ := List.mem_flatMap.mp hmem
  obtain ⟨hown, howner⟩ := List.mem_filter.mp hown
  have hne : own ≠ result := by
    intro heq
    rw [heq] at howner
    exact hother (of_decide_eq_true howner)
  have hsymm : Std.Symm (Function.onFun List.Disjoint records) :=
    ⟨fun _ _ hdisjoint _ ha hb => hdisjoint hb ha⟩
  exact h.2.forall hown hresult hne hmem hrecord

theorem listsOwn {results : List IngestionResult} {records : IngestionResult → List ρ}
    {key : ρ → Text} {d : Dict Text ρ} {index : Dict Owner (List Text)}
    (hd : Holds key d (results.flatMap records)) (hindex : Indexes key index (ownedBy results records))
    (owner : Owner) : ListsOwn results owner records (getAll d (entries index owner)) := by
  have hvalues : (ownedBy results records).map Prod.snd = results.flatMap records := by
    simp [ownedBy, List.map_flatMap, Function.comp_def]
  have hrows : rowsOf (ownedBy results records) owner = ofOwner results owner records :=
    rowsOf_flatMap results (fun result => result.artifact.owner) records owner
  constructor
  case exactly => rw [hindex.getAll (hvalues.symm ▸ hd) owner, hrows]
  case once => exact nodup_ofOwner hd.nodup.of_map owner
  case isolated =>
    exact fun result hresult hother _ hrecord =>
      not_mem_ofOwner hd.nodup.of_map hresult hother hrecord

/-- After any successful ingestions, each with records that link to its own artifact only and ids
that are pairwise distinct, every listing of the in-memory repository for an owner has exactly
what was derived from that owner's artifacts. -/
theorem owner_isolation {ingestions : List (Ingestion χ)} {results : List IngestionResult}
    {memory : Memory} (h : ingestAll ingestions emptyMemory = (.ok results, memory))
    (hids : DistinctIds results) (hlinks : ∀ result ∈ results, result.LinksToOwn) :
    List.Forall₂ (fun ingestion result => Ingestion.derived ingestion = .ok result) ingestions
        results ∧
      ∀ owner,
        ListsOwn results owner (fun result => [result.artifact]) (memory.listArtifacts owner) ∧
        ListsOwn results owner IngestionResult.entities (memory.listEntities owner) ∧
        ListsOwn results owner IngestionResult.relationships (memory.listRelationships owner) ∧
        ListsOwn results owner IngestionResult.signals (memory.listSignals owner) ∧
        ListsOwn results owner IngestionResult.actionableItems
          (memory.listActionableItems owner) := by
  obtain ⟨hderived, hfiled⟩ := ingestAll_filed filed_empty hids hlinks h
  have hartifacts : results.flatMap (fun result => [result.artifact]) =
      results.map IngestionResult.artifact := List.map_eq_flatMap.symm
  exact ⟨hderived, fun owner => ⟨listsOwn (hartifacts ▸ hfiled.artifacts) hfiled.artifactIndex owner,
    listsOwn hfiled.entities hfiled.entityIndex owner,
    listsOwn hfiled.relationships hfiled.relationshipIndex owner,
    listsOwn hfiled.signals hfiled.signalIndex owner,
    listsOwn hfiled.actionableItems hfiled.taskIndex owner⟩⟩

end Isolation

section Examples

/-- An extractor that finds one entity and one signal in every artifact. -/
def markingExtractor : Extractor Unit where
  id := "marking".toList
  artifactTypeIds := none
  extract := fun artifact _ =>
    let link : SourceLink := ⟨artifact.id, none, none, none, none, none⟩
    .ok ⟨[⟨artifact.id ++ ['e'], "skill".toList, "Lean".toList, [link], []⟩], [],
      [⟨artifact.id ++ ['s'], "risk".toList, "late".toList, .json "null".toList, [link], []⟩], [], []⟩
  extractWithExecution := none

def markingRegistry : DomainRegistry Unit :=
  [("notes".toList, { failingPack with extractors := [markingExtractor] })]

/-- Notes of two owners. -/
def twoOwners : List (Ingestion Unit) :=
  [⟨markingRegistry, noChunks, none, noteStamp, noteRequest⟩,
    ⟨markingRegistry, noChunks, none, ⟨"art_2".toList, 1⟩, { noteRequest with ownerId := ['2'] }⟩]

def twoResults : List IngestionResult :=
  (twoOwners.map Ingestion.derived).filterMap Except.toOption

theorem two_owners_isolated :
    ∃ memory : Memory, memory.listEntities (noteRequest.artifact noteStamp).owner =
      some [⟨"art_1e".toList, "skill".toList, "Lean".toList,
        [⟨"art_1".toList, none, none, none, none, none⟩], []⟩] := by
  have hlinks : ∀ result ∈ twoResults, result.LinksToOwn := by
    intro result hresult
    simp only [twoResults, twoOwners, List.map_cons, List.map_nil] at hresult
    rcases List.mem_cons.mp hresult with rfl | hresult
    · constructor <;> decide
    · rw [List.mem_singleton.mp hresult]
      constructor <;> decide
  have hids : DistinctIds twoResults := by constructor <;> decide
  have hrun : ingestAll twoOwners emptyMemory =
      (.ok twoResults, (ingestAll twoOwners emptyMemory).2) := rfl
  obtain ⟨-, hlists⟩ := owner_isolation hrun hids hlinks
  exact ⟨_, (hlists _).2.1.exactly⟩

end Examples

end DemoService.Context
