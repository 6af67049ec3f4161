import DemoService.GuardedRuns
import DemoService.IngestAtomicity
import DemoService.RepositoryMirror

/-! The two context repositories side by side. The in-memory one looks at the first source link of
a record and stores a batch record by record; the SQLAlchemy one looks at all links and commits a
batch as a whole. Where neither makes a difference the two accept the same calls and list the
same records, but that a signal or an item is listed in memory only once it has been indexed. -/

namespace DemoService.Context

open PyText
open Effect (forEach)
open GuardedRuns
open SecondaryIndex

section Runs

structure Repositories where
  memory : Memory
  tables : Tables

def emptyRepositories : Repositories := ⟨emptyMemory, emptyTables⟩

/-- Both repositories after a call, which each of them has carried out or rejected. -/
def Repositories.store (db : Database) (s : Repositories) (call : StoreCall) : Repositories :=
  ⟨(call.perform inMemoryRepository s.memory).2, (call.perform (sqlAlchemyRepository db) s.tables).2⟩

def Repositories.step (db : Database) (s : Repositories) (call : StoreCall) : Option Repositories :=
  some (s.store db call)

def AcceptedAlike (db : Database) (s : Repositories) (call : StoreCall) : Prop :=
  (call.perform inMemoryRepository s.memory).1.isOk =
    (call.perform (sqlAlchemyRepository db) s.tables).1.isOk

/-- The stored records with a first source link of the owner that the owner's index lacks. -/
def Memory.unindexed {ρ : Type} (memory : Memory) (kind : RecordKind ρ) (records : Dict Text ρ)
    (index : Dict Owner (List Text)) (owner : Owner) : List ρ :=
  missing kind.id index owner ((records.map Prod.snd).filter fun record =>
    (artifactForRequiredSourceLink kind memory.artifacts record).toOption.map Artifact.owner =
      some owner)

/-- Every listing of the tables has the records that memory lists, each as often, and of signals
and items also those that are not indexed yet. -/
structure ListedAlike (s : Repositories) : Prop where
  artifacts : ∀ owner, ∃ listed, s.memory.listArtifacts owner = some listed ∧
    listed.Perm (s.tables.listArtifacts owner)
  chunksForArtifact : ∀ artifactId, (s.memory.listChunksForArtifact artifactId).Perm
    (s.tables.listChunksForArtifact artifactId)
  chunksForArtifacts : ∀ artifactIds, (s.memory.listChunksForArtifacts artifactIds).Perm
    (s.tables.listChunksForArtifacts artifactIds)
  entities : ∀ owner, ∃ listed, s.memory.listEntities owner = some listed ∧
    listed.Perm (s.tables.listEntities owner)
  relationships : ∀ owner, ∃ listed, s.memory.listRelationships owner = some listed ∧
    listed.Perm (s.tables.listRelationships owner)
  signals : ∀ owner, ∃ listed, s.memory.listSignals owner = some listed ∧
    (listed ++ s.memory.unindexed signalKind s.memory.signals s.memory.signalIndex owner).Perm
      (s.tables.listSignals owner)
  actionableItems : ∀ owner, ∃ listed, s.memory.listActionableItems owner = some listed ∧
    (listed ++ s.memory.unindexed itemKind s.memory.actionableItems s.memory.taskIndex owner).Perm
      (s.tables.listActionableItems owner)

end Runs

section Conditions

/-- All source links of the batch name stored artifacts, or none of its first record does. -/
def Resolves {ρ : Type} (kind : RecordKind ρ) (stored : Tables) (batch : List ρ) : Prop :=
  (∀ record ∈ batch, kind.sourceLinks record ≠ [] ∧
    ∀ link ∈ kind.sourceLinks record, stored.Known link.artifactId) ∨
  ∃ record rest, batch = record :: rest ∧
    ∀ link ∈ kind.sourceLinks record, ¬ stored.Known link.artifactId

/-- The records are stored for the owner, and each is indexed here for the first time. -/
def IndexesOwn {ρ : Type} (kind : RecordKind ρ) (rows : List (Owner × ρ))
    (index : Dict Owner (List Text)) (owner : Owner) (batch : List ρ) : Prop :=
  (batch.map kind.id).Nodup ∧
    ∀ record ∈ batch, (owner, record) ∈ rows ∧ kind.id record ∉ entries index owner

def StoreCall.Regular (s : Repositories) : StoreCall → Prop
  | .artifact _ => True
  | .chunks batch =>
    (∀ chunk ∈ batch, s.tables.Known chunk.artifactId ∧ s.tables.Known chunk.sourceLink.artifactId) ∧
      ((s.tables.chunks ++ batch).map fun chunk => (chunk.artifactId, chunk.chunkIndex)).Nodup
  | .entities batch => Resolves entityKind s.tables batch
  | .relationships batch => Resolves relationshipKind s.tables batch
  | .signals batch => Resolves signalKind s.tables batch
  | .actionableItems batch => Resolves itemKind s.tables batch
  | .indexOutputs indexed batch items =>
    IndexesOwn signalKind s.tables.signals s.memory.signalIndex indexed.owner batch ∧
      IndexesOwn itemKind s.tables.actionableItems s.memory.taskIndex indexed.owner items
  | .packRaises _ => True

/-- A call for which neither the handling of links and batches nor a constraint of the database
makes a difference; `fits` says that the values of new rows fit their columns. -/
def Agreeable (fits : Tables → Prop) (s : Repositories) (call : StoreCall) : Prop :=
  call.Regular s ∧ ∀ rows, call.rows s.tables = .ok rows → fits rows

def StoreCall.recordIds : StoreCall → List Text
  | .artifact stored => [stored.id]
  | .chunks batch => batch.map ArtifactChunk.id
  | .entities batch => batch.map ContextEntity.id
  | .relationships batch => batch.map ContextRelationship.id
  | .signals batch => batch.map ContextSignal.id
  | .actionableItems batch => batch.map ActionableItem.id
  | .indexOutputs _ _ _ => []
  | .packRaises _ => []

def StoreCall.metadata : StoreCall → List Metadata
  | .artifact stored => [stored.metadata]
  | .chunks batch => batch.map ArtifactChunk.metadata
  | .entities batch => batch.map ContextEntity.metadata
  | .relationships batch => batch.map ContextRelationship.metadata
  | .signals batch => batch.map ContextSignal.metadata
  | .actionableItems batch => batch.map ActionableItem.metadata
  | .indexOutputs _ _ _ => []
  | .packRaises _ => []

/-- `json.dumps` accepts the metadata of all records of the call. -/
def StoreCall.Serializable (call : StoreCall) : Prop :=
  ∀ metadata ∈ call.metadata, jsonDump metadata = .ok ()

end Conditions

section Calls

variable {memory : Memory} {tables : Tables}

theorem ownerFromRequiredSources_congr {ρ : Type} (kind : RecordKind ρ) {s t : Tables}
    (h : s.artifacts = t.artifacts) (record : ρ) :
    ownerFromRequiredSources kind s record = ownerFromRequiredSources kind t record := by
  unfold ownerFromRequiredSources
  rw [h]

theorem LinkedStore.row_ok {ρ : Type} (store : LinkedStore ρ) {record : ρ} {owner : Owner}
    (howner : ownerFromRequiredSources store.kind tables record = .ok owner)
    (hmetadata : jsonDump (store.metadata record) = .ok ()) :
    store.row tables record = .ok (store.added owner record) := by
  rw [store.row_eq, howner]
  change (do jsonDump (store.metadata record); pure (store.added owner record)) = _
  rw [hmetadata]
  rfl

theorem batchRows_cons {ρ : Type} {row : ρ → Except Raised Tables} {record : ρ} {batch : List ρ}
    {first rest : Tables} (hfirst : row record = .ok first) (hrest : batchRows row batch = .ok rest) :
    batchRows row (record :: batch) = .ok (first ++ rest) := by
  rw [batchRows, hfirst]
  change (do let rest ← batchRows row batch; pure (first ++ rest)) = _
  rw [hrest]
  rfl

/-- Records whose stores agree one by one, each under a condition that it leaves to the next ones,
are stored alike as a batch. -/
theorem forEach_batchRows {ρ : Type} {id : ρ → Text} {put : ρ → Effect Memory Raised Unit}
    {row : ρ → Except Raised Tables} (ready : Tables → List ρ → Prop)
    (hstep : ∀ memory tables record batch, Mirror memory tables → ready tables (record :: batch) →
      id record ∉ tables.recordIds → ∃ memory' added, put record memory = (.ok (), memory') ∧
        row record = .ok added ∧ Mirror memory' (tables ++ added) ∧
          (∀ i, i ∈ added.recordIds ↔ i = id record) ∧ ready (tables ++ added) batch)
    {batch : List ρ} (h : Mirror memory tables) (hready : ready tables batch)
    (hfresh : ∀ record ∈ batch, id record ∉ tables.recordIds) (hnodup : (batch.map id).Nodup) :
    ∃ memory' rows, forEach put batch memory = (.ok (), memory') ∧
      batchRows row batch = .ok rows ∧ Mirror memory' (tables ++ rows) ∧
        ∀ i ∈ (tables ++ rows).recordIds, i ∈ tables.recordIds ∨ i ∈ batch.map id := by
  induction batch generalizing memory tables with
  | nil =>
    refine ⟨memory, emptyTables, rfl, rfl, ?_, ?_⟩
    · rwa [Tables.append_empty]
    · rw [Tables.append_empty]
      exact fun i hi => .inl hi
  | cons record batch ih =>
    rw [List.forall_mem_cons] at hfresh
    rw [List.map_cons, List.nodup_cons] at hnodup
    obtain ⟨middle, added, hput, hrow, hmirror, hadded, hrest⟩ :=
      hstep memory tables record batch h hready hfresh.1
    have hids : ∀ i, i ∈ (tables ++ added).recordIds ↔ i ∈ tables.recordIds ∨ i = id record := by
      intro i
      rw [mem_recordIds_append, hadded]
    obtain ⟨memory', rows, hforEach, hrows, hmirror', hids'⟩ := ih hmirror hrest
      (by
        intro r hr hmem
        rcases (hids _).mp hmem with hmem | heq
        · exact hfresh.2 r hr hmem
        · exact hnodup.1 (heq ▸ List.mem_map_of_mem hr))
      hnodup.2
    refine ⟨memory', added ++ rows, ?_, batchRows_cons hrow hrows, ?_, ?_⟩
    · rw [Effect.forEach, Effect.bind_ok hput]
      exact hforEach
    · rwa [← Tables.append_assoc]
    · rw [← Tables.append_assoc]
      intro i hi
      rcases hids' i hi with hi | hi
      · rcases (hids i).mp hi with hi | rfl
        · exact .inl hi
        · exact .inr List.mem_cons_self
      · exact .inr (List.mem_cons_of_mem _ hi)

/-- A batch whose links all name stored artifacts is stored by both, record by record. -/
theorem LinkedStore.batch {ρ : Type} (store : LinkedStore ρ) {stored : Tables} {batch : List ρ}
    (h : Mirror memory tables) (hartifacts : tables.artifacts = stored.artifacts)
    (hlinks : ∀ record ∈ batch, store.kind.sourceLinks record ≠ [] ∧
      ∀ link ∈ store.kind.sourceLinks record, tables.Known link.artifactId)
    (hmetadata : ∀ record ∈ batch, jsonDump (store.metadata record) = .ok ())
    (hfresh : ∀ record ∈ batch, store.kind.id record ∉ tables.recordIds)
    (hnodup : (batch.map store.kind.id).Nodup) :
    ∃ memory' rows, forEach (storeLinked store.kind store.put) batch memory = (.ok (), memory') ∧
      batchRows (store.row stored) batch = .ok rows ∧ Mirror memory' (tables ++ rows) ∧
      ∀ id ∈ (tables ++ rows).recordIds, id ∈ tables.recordIds ∨ id ∈ batch.map store.kind.id := by
  refine forEach_batchRows (fun tables batch => tables.artifacts = stored.artifacts ∧
    ∀ record ∈ batch, (store.kind.sourceLinks record ≠ [] ∧
      ∀ link ∈ store.kind.sourceLinks record, tables.Known link.artifactId) ∧
        jsonDump (store.metadata record) = .ok ()) ?_ h
    ⟨hartifacts, fun r hr => ⟨hlinks r hr, hmetadata r hr⟩⟩ hfresh hnodup
  intro memory tables record batch h ⟨hartifacts, hready⟩ hfresh
  rw [List.forall_mem_cons] at hready
  obtain ⟨⟨⟨hne, hknown⟩, hmetadata⟩, hrest⟩ := hready
  obtain ⟨artifact, hlinked, howner⟩ := h.resolved hne hknown
  refine ⟨store.put artifact memory record, store.added artifact.owner record, ?_, ?_,
    store.mirror h hlinked hknown hfresh, ?_, ?_, ?_⟩
  · rw [storeLinked, hlinked]
  · refine store.row_ok ?_ hmetadata
    rw [← howner]
    exact ownerFromRequiredSources_congr _ hartifacts.symm record
  · intro id
    rw [store.added_ids, List.mem_singleton]
  · rw [append_artifacts, store.added_artifacts, List.append_nil, hartifacts]
  · exact fun r hr => ⟨⟨(hrest r hr).1.1, fun link hl =>
      known_append.mpr (.inl ((hrest r hr).1.2 link hl))⟩, (hrest r hr).2⟩

/-- Both repositories accept or reject a call, stand for the same records afterwards and have no
ids but the stored ones and the call's. -/
structure TakenAlike (tables : Tables) (ids : List Text) (memory' : Except Raised Unit × Memory)
    (tables' : Except Raised Unit × Tables) : Prop where
  accepted : memory'.1.isOk = tables'.1.isOk
  mirror : Mirror memory'.2 tables'.2
  recordIds : ∀ id ∈ tables'.2.recordIds, id ∈ tables.recordIds ∨ id ∈ ids

variable {db : Database} {fits : Tables → Prop}

/-- The database refuses only rows whose values do not fit or that break a constraint. -/
def RefusesOnlyFaults (fits : Tables → Prop) (db : Database) : Prop :=
  ∀ stored added, fits added → (stored ++ added).Consistent → db stored added = none

theorem inSession_ok (hdb : RefusesOnlyFaults fits db) {rows : Tables → Except Raised Tables}
    {added : Tables} (hrows : rows tables = .ok added) (hfits : fits added)
    (hconsistent : (tables ++ added).Consistent) :
    inSession db rows tables = (.ok (), tables ++ added) := by
  rw [inSession, hrows]
  simp only [commit, hdb tables added hfits hconsistent]

theorem takenAlike_rejected {ids : List Text} {memory' : Except Raised Unit × Memory}
    {tables' : Except Raised Unit × Tables} {raised raised' : Raised} (h : Mirror memory tables)
    (hmemory : memory' = (.error raised, memory)) (htables : tables' = (.error raised', tables)) :
    TakenAlike tables ids memory' tables' := by
  subst hmemory htables
  exact ⟨rfl, h, fun id hid => .inl hid⟩

theorem LinkedStore.call {ρ : Type} (store : LinkedStore ρ) (hdb : RefusesOnlyFaults fits db)
    (h : Mirror memory tables) {batch : List ρ} (hresolves : Resolves store.kind tables batch)
    (hmetadata : ∀ record ∈ batch, jsonDump (store.metadata record) = .ok ())
    (hfresh : ∀ id ∈ batch.map store.kind.id, id ∉ tables.recordIds)
    (hnodup : (batch.map store.kind.id).Nodup)
    (hfits : ∀ rows, batchRows (store.row tables) batch = .ok rows → fits rows) :
    TakenAlike tables (batch.map store.kind.id)
      (forEach (storeLinked store.kind store.put) batch memory)
      (inSession db (fun stored => batchRows (store.row stored) batch) tables) := by
  rcases hresolves with hlinks | ⟨record, rest, rfl, hunknown⟩
  · obtain ⟨memory', rows, hforEach, hrows, hmirror, hids⟩ :=
      store.batch h rfl hlinks hmetadata (fun r hr => hfresh _ (List.mem_map_of_mem hr)) hnodup
    have hsession : inSession db (fun stored => batchRows (store.row stored) batch) tables =
        (.ok (), tables ++ rows) := inSession_ok hdb hrows (hfits rows hrows) hmirror.consistent
    rw [hforEach, hsession]
    exact ⟨rfl, hmirror, hids⟩
  · obtain ⟨⟨raised, hmemory⟩, raised', howner⟩ := h.unresolved hunknown
    have hrow : store.row tables record = .error raised' := by
      rw [store.row_eq, howner]
      rfl
    have hrows : batchRows (store.row tables) (record :: rest) = .error raised' := by
      rw [batchRows, hrow]
      rfl
    have hstep : storeLinked store.kind store.put record memory = (.error raised, memory) := by
      rw [storeLinked, hmemory]
    have hsession : inSession db (fun stored => batchRows (store.row stored) (record :: rest)) tables =
        (.error raised', tables) := by rw [inSession, hrows]
    exact takenAlike_rejected h (Effect.bind_error hstep _) hsession

theorem Mirror.chunkBatch {batch : List ArtifactChunk} (h : Mirror memory tables)
    (hknown : ∀ chunk ∈ batch, tables.Known chunk.artifactId ∧
      tables.Known chunk.sourceLink.artifactId)
    (hslots : ((tables.chunks ++ batch).map fun chunk => (chunk.artifactId, chunk.chunkIndex)).Nodup)
    (hmetadata : ∀ chunk ∈ batch, jsonDump chunk.metadata = .ok ())
    (hfresh : ∀ chunk ∈ batch, chunk.id ∉ tables.recordIds)
    (hnodup : (batch.map ArtifactChunk.id).Nodup) :
    ∃ memory' rows, inMemoryRepository.storeChunks batch memory = (.ok (), memory') ∧
      batchRows chunkRow batch = .ok rows ∧ Mirror memory' (tables ++ rows) ∧
      ∀ id ∈ (tables ++ rows).recordIds, id ∈ tables.recordIds ∨ id ∈ batch.map ArtifactChunk.id := by
  refine forEach_batchRows (fun tables batch =>
    ((tables.chunks ++ batch).map fun chunk => (chunk.artifactId, chunk.chunkIndex)).Nodup ∧
    ∀ chunk ∈ batch, (tables.Known chunk.artifactId ∧ tables.Known chunk.sourceLink.artifactId) ∧
      jsonDump chunk.metadata = .ok ()) ?_ h
    ⟨hslots, fun c hc => ⟨hknown c hc, hmetadata c hc⟩⟩ hfresh hnodup
  intro memory tables chunk batch h ⟨hslots, hready⟩ hfresh
  rw [List.forall_mem_cons] at hready
  obtain ⟨⟨hknown, hmetadata⟩, hrest⟩ := hready
  have hslot : ((tables.chunks ++ [chunk]).map fun c => (c.artifactId, c.chunkIndex)).Nodup := by
    refine hslots.sublist (List.Sublist.map _ (List.Sublist.append_left ?_ _))
    exact List.singleton_sublist.mpr List.mem_cons_self
  refine ⟨memory.putChunk chunk,
    { emptyTables with chunks := [chunk], sourceLinks := [chunk.sourceLink] }, rfl, ?_,
    h.putChunk hfresh hslot hknown.1 hknown.2, ?_, ?_, ?_⟩
  · rw [chunkRow, hmetadata]
    rfl
  · intro id
    rw [← List.mem_singleton]
    rfl
  · rwa [append_chunks, List.append_assoc, List.singleton_append]
  · exact fun c hc => ⟨⟨known_append.mpr (.inl (hrest c hc).1.1),
      known_append.mpr (.inl (hrest c hc).1.2)⟩, (hrest c hc).2⟩

theorem Mirror.indexOutputs (h : Mirror memory tables) {artifact : Artifact}
    {signals : List ContextSignal} {items : List ActionableItem}
    (hsignals : IndexesOwn signalKind tables.signals memory.signalIndex artifact.owner signals)
    (hitems : IndexesOwn itemKind tables.actionableItems memory.taskIndex artifact.owner items) :
    Mirror (memory.indexOutputs artifact signals items) tables :=
  { h with
    signalIndex := h.signalIndex.extend hsignals.1 hsignals.2
    taskIndex := h.taskIndex.extend hitems.1 hitems.2 }

/-- The step lemma: an agreeable call with fresh ids is taken alike. -/
theorem takenAlike_of_agreeable (hdb : RefusesOnlyFaults fits db) (h : Mirror memory tables)
    {call : StoreCall} (hagreeable : Agreeable fits ⟨memory, tables⟩ call)
    (hserializable : call.Serializable) (hfresh : ∀ id ∈ call.recordIds, id ∉ tables.recordIds)
    (hnodup : call.recordIds.Nodup) :
    TakenAlike tables call.recordIds (call.perform inMemoryRepository memory)
      (call.perform (sqlAlchemyRepository db) tables) := by
  obtain ⟨hregular, hfits⟩ := hagreeable
  cases call with
  | artifact stored =>
    have hrow : artifactRow stored = .ok { emptyTables with artifacts := [stored] } := by
      rw [artifactRow, hserializable stored.metadata List.mem_cons_self]
      rfl
    have hmirror := h.putArtifact (hfresh stored.id List.mem_cons_self)
    have hsession : inSession db (fun _ => artifactRow stored) tables =
        (.ok (), tables ++ { emptyTables with artifacts := [stored] }) :=
      inSession_ok hdb hrow (hfits _ hrow) hmirror.consistent
    have hperform : StoreCall.perform (sqlAlchemyRepository db) (.artifact stored) tables =
        (.ok (), tables ++ { emptyTables with artifacts := [stored] }) := hsession
    rw [hperform]
    exact ⟨rfl, hmirror, fun id hid => mem_recordIds_append.mp hid⟩
  | chunks batch =>
    obtain ⟨memory', rows, hmemory, hrows, hmirror, hids⟩ := h.chunkBatch hregular.1 hregular.2
      (fun chunk hchunk => hserializable _ (List.mem_map_of_mem hchunk))
      (fun chunk hchunk => hfresh _ (List.mem_map_of_mem hchunk)) hnodup
    have hsession : inSession db (fun _ => batchRows chunkRow batch) tables =
        (.ok (), tables ++ rows) := inSession_ok hdb hrows (hfits _ hrows) hmirror.consistent
    have hperform : StoreCall.perform (sqlAlchemyRepository db) (.chunks batch) tables =
        (.ok (), tables ++ rows) := hsession
    have hstored : StoreCall.perform inMemoryRepository (.chunks batch) memory =
        (.ok (), memory') := hmemory
    rw [hperform, hstored]
    exact ⟨rfl, hmirror, hids⟩
  | entities batch =>
    exact entityStore.call hdb h hregular
      (fun r hr => hserializable _ (List.mem_map_of_mem hr)) hfresh hnodup hfits
  | relationships batch =>
    exact relationshipStore.call hdb h hregular
      (fun r hr => hserializable _ (List.mem_map_of_mem hr)) hfresh hnodup hfits
  | signals batch =>
    exact signalStore.call hdb h hregular
      (fun r hr => hserializable _ (List.mem_map_of_mem hr)) hfresh hnodup hfits
  | actionableItems batch =>
    exact itemStore.call hdb h hregular
      (fun r hr => hserializable _ (List.mem_map_of_mem hr)) hfresh hnodup hfits
  | indexOutputs artifact batch items =>
    exact ⟨rfl, h.indexOutputs hregular.1 hregular.2, fun id hid => .inl hid⟩
  | packRaises raised => exact takenAlike_rejected h rfl rfl

end Calls

section Listings

variable {memory : Memory} {tables : Tables}

theorem unindexed_eq {ρ : Type} {kind : RecordKind ρ} {records : Dict Text ρ}
    {index : Dict Owner (List Text)} {rows : List (Owner × ρ)}
    (hrecords : Holds kind.id records (rows.map Prod.snd))
    (howners : ∀ row ∈ rows, FirstLinkOwner kind memory.artifacts row) (owner : Owner) :
    memory.unindexed kind records index owner =
      missing kind.id index owner (rowsOf rows owner) := by
  rw [Memory.unindexed, hrecords.values, rowsOf, List.filter_map]
  congr 2
  refine List.filter_congr fun row hrow => ?_
  obtain ⟨artifact, hlinked, howner⟩ := howners row hrow
  rw [Function.comp_apply, hlinked, ← howner]
  simp [Except.toOption]

theorem indexedAlike {ρ : Type} (kind : RecordKind ρ) {records : Dict Text ρ}
    {index : Dict Owner (List Text)} {rows : List (Owner × ρ)} (hindex : Indexes kind.id index rows)
    (hrecords : Holds kind.id records (rows.map Prod.snd)) (owner : Owner) :
    ∃ listed, getAll records (entries index owner) = some listed ∧
      listed.Perm (selectOwned kind rows owner) :=
  ⟨_, hindex.getAll hrecords owner, (selectOwned_perm kind rows owner).symm⟩

theorem coveredAlike {ρ : Type} (kind : RecordKind ρ) {records : Dict Text ρ}
    {index : Dict Owner (List Text)} {rows : List (Owner × ρ)} (hindex : Covers kind.id index rows)
    (hrecords : Holds kind.id records (rows.map Prod.snd))
    (howners : ∀ row ∈ rows, FirstLinkOwner kind memory.artifacts row) (owner : Owner) :
    ∃ listed, getAll records (entries index owner) = some listed ∧
      (listed ++ memory.unindexed kind records index owner).Perm (selectOwned kind rows owner) := by
  obtain ⟨listed, hlisted, hperm⟩ := hindex.getAll hrecords owner
  refine ⟨listed, hlisted, ?_⟩
  rw [unindexed_eq hrecords howners]
  exact hperm.trans (selectOwned_perm kind rows owner).symm

theorem Mirror.listedAlike (h : Mirror memory tables) : ListedAlike ⟨memory, tables⟩ where
  artifacts owner := by
    have hvalues : (tables.artifacts.map fun a => (a.owner, a)).map Prod.snd = tables.artifacts := by
      rw [List.map_map]
      exact List.map_id _
    refine ⟨_, h.artifactIndex.getAll (hvalues.symm ▸ h.artifacts) owner, ?_⟩
    have hrows : rowsOf (tables.artifacts.map fun a => (a.owner, a)) owner =
        tables.artifacts.filter fun a => a.owner = owner := by
      rw [rowsOf, List.filter_map, List.map_map]
      exact List.map_id _
    rw [hrows]
    exact (List.perm_insertionSort _ _).symm
  chunksForArtifact artifactId := by
    change ((memory.chunks.map Prod.snd).filter _).Perm _
    rw [h.chunks.values]
    exact (List.perm_insertionSort _ _).symm
  chunksForArtifacts artifactIds := by
    change ((memory.chunks.map Prod.snd).filter _).Perm _
    rw [h.chunks.values, Tables.listChunksForArtifacts]
    split
    · next hnil => simp [hnil]
    · exact (List.perm_insertionSort _ _).symm
  entities owner := indexedAlike entityKind h.entityIndex h.entities owner
  relationships owner :=
    indexedAlike relationshipKind h.relationshipIndex h.relationships owner
  signals owner := coveredAlike signalKind h.signalIndex h.signals h.signalOwners owner
  actionableItems owner :=
    coveredAlike itemKind h.taskIndex h.actionableItems h.itemOwners owner

variable {db : Database} {fits : Tables → Prop}

theorem run_alike (hdb : RefusesOnlyFaults fits db) {calls : List StoreCall} {s : Repositories}
    (h : Mirror s.memory s.tables) (hnodup : (calls.flatMap StoreCall.recordIds).Nodup)
    (hfresh : ∀ id ∈ calls.flatMap StoreCall.recordIds, id ∉ s.tables.recordIds)
    (hserializable : ∀ call ∈ calls, call.Serializable)
    (hagreeable : AllSteps (Repositories.step db) (Agreeable fits) s calls) :
    AllSteps (Repositories.step db) (AcceptedAlike db) s calls ∧
      Always (Repositories.step db) ListedAlike s calls := by
  induction calls generalizing s with
  | nil => exact ⟨trivial, h.listedAlike⟩
  | cons call calls ih =>
    rw [List.forall_mem_cons] at hserializable
    rw [List.flatMap_cons] at hnodup hfresh
    obtain ⟨hcall, hcalls, hdisjoint⟩ := List.nodup_append.mp hnodup
    have htaken := takenAlike_of_agreeable hdb h hagreeable.1 hserializable.1
      (fun id hid => hfresh id (List.mem_append_left _ hid)) hcall
    have hrest := ih htaken.mirror hcalls
      (by
        intro id hid hmem
        rcases htaken.recordIds id hmem with hmem | hmem
        · exact hfresh id (List.mem_append_right _ hid) hmem
        · exact hdisjoint id hmem id hid rfl)
      hserializable.2 (hagreeable.2 _ rfl)
    refine ⟨⟨htaken.accepted, ?_⟩, ⟨h.listedAlike, ?_⟩⟩
    · intro t ht
      cases ht
      exact hrest.1
    · intro t ht
      cases ht
      exact hrest.2

end Listings

section Examples

instance consistentDecidable (stored : Tables) : Decidable stored.Consistent :=
  decidable_of_iff
    ((stored.artifacts.map Artifact.id).Nodup ∧ (stored.chunks.map ArtifactChunk.id).Nodup ∧
      (stored.chunks.map fun chunk => (chunk.artifactId, chunk.chunkIndex)).Nodup ∧
      ((stored.entities.map Prod.snd).map ContextEntity.id).Nodup ∧
      ((stored.relationships.map Prod.snd).map ContextRelationship.id).Nodup ∧
      ((stored.signals.map Prod.snd).map ContextSignal.id).Nodup ∧
      ((stored.actionableItems.map Prod.snd).map ActionableItem.id).Nodup ∧
      (∀ chunk ∈ stored.chunks, chunk.artifactId ∈ stored.artifacts.map Artifact.id) ∧
      ∀ link ∈ stored.sourceLinks, link.artifactId ∈ stored.artifacts.map Artifact.id)
    ⟨fun ⟨h₁, h₂, h₃, h₄, h₅, h₆, h₇, h₈, h₉⟩ => ⟨h₁, h₂, h₃, h₄, h₅, h₆, h₇, h₈, h₉⟩,
      fun ⟨h₁, h₂, h₃, h₄, h₅, h₆, h₇, h₈, h₉⟩ => ⟨h₁, h₂, h₃, h₄, h₅, h₆, h₇, h₈, h₉⟩⟩

/-- A database that enforces every constraint of the schema. -/
def strictDatabase : Database := fun stored added =>
  if (stored ++ added).Consistent then none else some "IntegrityError".toList

/-- A database without foreign keys, as SQLite is by default; no other constraint is broken here. -/
def laxDatabase : Database := fun _ _ => none

theorem strictDatabase_refuses : RefusesOnlyFaults (fun _ => True) strictDatabase := by
  intro stored added _ hconsistent
  exact if_pos hconsistent

def note : Artifact := noteRequest.artifact noteStamp

def otherNote : Artifact := { note with id := "art_2".toList, ownerId := ['2'] }

def linkTo (artifactId : Text) : SourceLink := ⟨artifactId, none, none, none, none, none⟩

def entityWith (id : Text) (links : List SourceLink) : ContextEntity :=
  ⟨id, "skill".toList, "Lean".toList, links, []⟩

def signalWith (id : Text) (links : List SourceLink) : ContextSignal :=
  ⟨id, "risk".toList, "late".toList, .json "null".toList, links, []⟩

def sampleCalls : List StoreCall :=
  [.artifact note, .entities [entityWith "entity_1".toList []],
    .signals [signalWith "signal_1".toList [linkTo note.id]],
    .indexOutputs note [signalWith "signal_1".toList [linkTo note.id]] []]

theorem sample_agreeable :
    AllSteps (Repositories.step strictDatabase) (Agreeable fun _ => True) emptyRepositories
      sampleCalls := by
  refine ⟨⟨trivial, fun _ _ => trivial⟩, fun t ht => ?_⟩
  cases ht
  refine ⟨⟨.inr ⟨_, _, rfl, fun _ h => absurd h List.not_mem_nil⟩, fun _ _ => trivial⟩,
    fun t ht => ?_⟩
  cases ht
  refine ⟨⟨.inl ?_, fun _ _ => trivial⟩, fun t ht => ?_⟩
  · intro record hrecord
    rw [List.mem_singleton.mp hrecord]
    exact ⟨List.cons_ne_nil _ _, fun link hlink => List.mem_singleton.mp hlink ▸ List.mem_cons_self⟩
  cases ht
  refine ⟨⟨⟨⟨by decide, ?_⟩, List.nodup_nil, fun _ h => absurd h List.not_mem_nil⟩,
    fun _ _ => trivial⟩, fun t ht => trivial⟩
  intro record hrecord
  rw [List.mem_singleton.mp hrecord]
  exact ⟨List.mem_cons_self, List.not_mem_nil⟩

theorem sample_serializable : ∀ call ∈ sampleCalls, call.Serializable := by
  have hempty : ∀ metadata ∈ [([] : Metadata)], jsonDump metadata = .ok () := by
    intro metadata h
    rw [List.mem_singleton.mp h]
    rfl
  intro call hcall
  simp only [sampleCalls, List.mem_cons, List.not_mem_nil, or_false] at hcall
  rcases hcall with rfl | rfl | rfl | rfl
  · exact hempty
  · exact hempty
  · exact hempty
  · exact fun _ h => absurd h List.not_mem_nil

def reached (db : Database) (calls : List StoreCall) : Repositories :=
  calls.foldl (Repositories.store db) emptyRepositories

def halfStored : Repositories := reached strictDatabase [.artifact note,
  .entities [entityWith "entity_1".toList [linkTo note.id], entityWith "entity_2".toList []]]

def awaitingIndex : Repositories := reached strictDatabase [.artifact note,
  .signals [signalWith "signal_1".toList [linkTo note.id]]]

def indexedForOther : Repositories := reached strictDatabase [.artifact note, .artifact otherNote,
  .signals [signalWith "signal_1".toList [linkTo otherNote.id]],
  .indexOutputs note [signalWith "signal_1".toList [linkTo otherNote.id]] []]

instance acceptedAlikeDecidable (db : Database) (s : Repositories) (call : StoreCall) :
    Decidable (AcceptedAlike db s call) := inferInstanceAs (Decidable (_ = _))

end Examples

end DemoService.Context
