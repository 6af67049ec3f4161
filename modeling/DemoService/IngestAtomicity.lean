import DemoService.ContextService

/-! What a failed ingestion leaves behind. An accepted ingestion is a sequence of store calls,
cut short where the pack's code raises; what stays is the effect of the calls before the failure. -/

namespace DemoService.Context

open PyText (Text)
open Effect (forEach forEach_eq_error)

inductive StoreCall
  | artifact (artifact : Artifact)
  | chunks (chunks : List ArtifactChunk)
  | entities (entities : List ContextEntity)
  | relationships (relationships : List ContextRelationship)
  | signals (signals : List ContextSignal)
  | actionableItems (items : List ActionableItem)
  | indexOutputs (artifact : Artifact) (signals : List ContextSignal) (items : List ActionableItem)
  | packRaises (raised : Raised)
  deriving DecidableEq, Repr

section Calls

variable {χ σ : Type}

def StoreCall.perform (repository : ContextRepository σ) : StoreCall → Effect σ Raised Unit
  | .artifact stored => repository.storeArtifact stored
  | .chunks batch => repository.storeChunks batch
  | .entities batch => repository.storeEntities batch
  | .relationships batch => repository.storeRelationships batch
  | .signals batch => repository.storeSignals batch
  | .actionableItems batch => repository.storeActionableItems batch
  | .indexOutputs stored batch items => repository.indexArtifactOutputs stored batch items
  | .packRaises raised => Effect.fail raised

def outputCalls (artifact : Artifact) (outputs : Outputs) : List StoreCall :=
  [.entities outputs.entities, .relationships outputs.relationships, .signals outputs.signals,
    .actionableItems outputs.actionableItems,
    .indexOutputs artifact outputs.signals outputs.actionableItems]

/-- The store calls of an accepted ingestion, in order, up to the point where the pack raises. -/
def plannedCalls (service : ContextEngineService χ σ) (domain : DomainPack χ)
    (artifact : Artifact) : List StoreCall :=
  .artifact artifact ::
    match (domain.chunker.getD service.defaultChunker) artifact with
    | .error raised => [.packRaises raised]
    | .ok chunks => .chunks chunks ::
      match derive domain service.executionContext artifact chunks with
      | .error raised => [.packRaises raised]
      | .ok outputs => outputCalls artifact outputs

theorem ingestArtifact_refused {service : ContextEngineService χ σ} {request : IngestionRequest}
    {raised : Raised} (h : admitRequest service.registry request = .error raised) (stamp : Stamp)
    (s : σ) : ingestArtifact service stamp request s = (.error raised, s) :=
  Effect.bind_error (by rw [h]; rfl) _

/-- An accepted ingestion that fails is its planned calls up to the one that fails. -/
theorem ingestArtifact_error_calls {service : ContextEngineService χ σ}
    {request : IngestionRequest} {domain : DomainPack χ}
    (hadmitted : admitRequest service.registry request = .ok domain) {stamp : Stamp} {s s' : σ}
    {raised : Raised} (h : ingestArtifact service stamp request s = (.error raised, s')) :
    forEach (StoreCall.perform service.repository)
      (plannedCalls service domain (request.artifact stamp)) s = (.error raised, s') := by
  rw [ingestArtifact, Effect.lift_bind_ok hadmitted] at h
  refine Effect.forEach_cons_error h fun _ s₁ h => ?_
  cases hchunks : (domain.chunker.getD service.defaultChunker) (request.artifact stamp) with
  | error raised' =>
    rw [Effect.lift_bind_error hchunks] at h
    obtain ⟨hraised, rfl⟩ := Prod.mk.inj h
    rw [← Except.error.inj hraised]
    rfl
  | ok chunks =>
    rw [Effect.lift_bind_ok hchunks] at h
    refine Effect.forEach_cons_error h fun _ s₂ h => ?_
    cases houtputs : derive domain service.executionContext (request.artifact stamp) chunks with
    | error raised' =>
      rw [Effect.lift_bind_error houtputs] at h
      obtain ⟨hraised, rfl⟩ := Prod.mk.inj h
      rw [← Except.error.inj hraised]
      rfl
    | ok outputs =>
      rw [Effect.lift_bind_ok houtputs] at h
      refine Effect.forEach_cons_error h fun _ _ h => ?_
      refine Effect.forEach_cons_error h fun _ _ h => ?_
      refine Effect.forEach_cons_error h fun _ _ h => ?_
      refine Effect.forEach_cons_error h fun _ _ h => ?_
      refine Effect.forEach_cons_error h fun _ _ h => ?_
      cases (Prod.mk.inj h).1

/-- A failed ingestion was refused, or completed some of its planned calls before one failed. -/
theorem ingestArtifact_error {service : ContextEngineService χ σ} {stamp : Stamp}
    {request : IngestionRequest} {s s' : σ} {raised : Raised}
    (h : ingestArtifact service stamp request s = (.error raised, s')) :
    (admitRequest service.registry request = .error raised ∧ s' = s) ∨
      ∃ domain completed failed rest s₁, admitRequest service.registry request = .ok domain ∧
        plannedCalls service domain (request.artifact stamp) = completed ++ failed :: rest ∧
        forEach (StoreCall.perform service.repository) completed s = (.ok (), s₁) ∧
        failed.perform service.repository s₁ = (.error raised, s') := by
  cases hadmitted : admitRequest service.registry request with
  | error raised' =>
    rw [ingestArtifact_refused hadmitted] at h
    obtain ⟨hraised, rfl⟩ := Prod.mk.inj h
    exact .inl ⟨congrArg Except.error (Except.error.inj hraised), rfl⟩
  | ok domain =>
    obtain ⟨completed, failed, rest, s₁, hcalls, hdone, hfailed⟩ :=
      forEach_eq_error (ingestArtifact_error_calls hadmitted h)
    exact .inr ⟨domain, completed, failed, rest, s₁, rfl, hcalls, hdone, hfailed⟩

end Calls

section SqlAlchemy

/-- The rows that a call adds when it is committed. -/
def StoreCall.rows (stored : Tables) : StoreCall → Except Raised Tables
  | .artifact added => artifactRow added
  | .chunks batch => batchRows chunkRow batch
  | .entities batch => batchRows (entityRow stored) batch
  | .relationships batch => batchRows (relationshipRow stored) batch
  | .signals batch => batchRows (signalRow stored) batch
  | .actionableItems batch => batchRows (itemRow stored) batch
  | .indexOutputs _ _ _ => .ok emptyTables
  | .packRaises _ => .ok emptyTables

def Tables.add (stored : Tables) : Except Raised Tables → Tables
  | .ok added => stored ++ added
  | .error _ => stored

/-- The tables after a completed call. -/
def Tables.applied (stored : Tables) (call : StoreCall) : Tables := stored.add (call.rows stored)

theorem Tables.append_empty (stored : Tables) : stored ++ emptyTables = stored := by
  obtain ⟨artifacts, chunks, entities, relationships, signals, items, links⟩ := stored
  change Tables.mk _ _ _ _ _ _ _ = _
  simp only [emptyTables, List.append_nil]

theorem inSession_result (db : Database) (rows : Tables → Except Raised Tables) (stored : Tables) :
    inSession db rows stored = (.ok (), stored.add (rows stored)) ∨
      ∃ raised, inSession db rows stored = (.error raised, stored) := by
  rw [inSession]
  cases hrows : rows stored with
  | error raised => exact .inr ⟨raised, rfl⟩
  | ok pending =>
    simp only [commit]
    cases hdb : db stored pending with
    | none => exact .inl rfl
    | some reason => exact .inr ⟨_, rfl⟩

/-- A call of the SQLAlchemy repository adds its rows, or fails and adds nothing. -/
theorem perform_sqlAlchemy (db : Database) (call : StoreCall) (stored : Tables) :
    call.perform (sqlAlchemyRepository db) stored = (.ok (), stored.applied call) ∨
      ∃ raised, call.perform (sqlAlchemyRepository db) stored = (.error raised, stored) := by
  cases call with
  | artifact added => exact inSession_result db (fun _ => artifactRow added) stored
  | chunks batch => exact inSession_result db (fun _ => batchRows chunkRow batch) stored
  | entities batch => exact inSession_result db (fun s => batchRows (entityRow s) batch) stored
  | relationships batch =>
    exact inSession_result db (fun s => batchRows (relationshipRow s) batch) stored
  | signals batch => exact inSession_result db (fun s => batchRows (signalRow s) batch) stored
  | actionableItems batch => exact inSession_result db (fun s => batchRows (itemRow s) batch) stored
  | indexOutputs artifact signals items =>
    exact .inl (congrArg (Prod.mk (Except.ok ())) (Tables.append_empty stored).symm)
  | packRaises raised => exact .inr ⟨raised, rfl⟩

theorem completed_sqlAlchemy {db : Database} {calls : List StoreCall} {stored stored' : Tables}
    (h : forEach (StoreCall.perform (sqlAlchemyRepository db)) calls stored = (.ok (), stored')) :
    stored' = calls.foldl Tables.applied stored := by
  refine Effect.forEach_modify (fun call _ s s' hcall => ?_) h
  rcases perform_sqlAlchemy db call s with hdone | ⟨raised, hfailed⟩
  · rw [hdone] at hcall
    exact (Prod.mk.inj hcall).2.symm
  · rw [hfailed] at hcall
    cases (Prod.mk.inj hcall).1

theorem failed_sqlAlchemy {db : Database} {call : StoreCall} {stored stored' : Tables}
    {raised : Raised} (h : call.perform (sqlAlchemyRepository db) stored = (.error raised, stored')) :
    stored' = stored := by
  rcases perform_sqlAlchemy db call stored with hdone | ⟨raised, hfailed⟩
  · rw [hdone] at h
    cases (Prod.mk.inj h).1
  · rw [hfailed] at h
    exact (Prod.mk.inj h).2.symm

end SqlAlchemy

section InMemory

/-- The first source link of the record names a stored artifact. -/
def Grounded {ρ : Type} (kind : RecordKind ρ) (artifacts : Dict Text Artifact) (record : ρ) : Bool :=
  (artifactForRequiredSourceLink kind artifacts record).isOk

def putLinked {ρ : Type} (kind : RecordKind ρ) (put : Artifact → Memory → ρ → Memory)
    (memory : Memory) (record : ρ) : Memory :=
  match artifactForRequiredSourceLink kind memory.artifacts record with
  | .ok artifact => put artifact memory record
  | .error _ => memory

/-- The memory after a call whose records are all accepted. -/
def Memory.applied (memory : Memory) : StoreCall → Memory
  | .artifact added => memory.putArtifact added
  | .chunks batch => batch.foldl Memory.putChunk memory
  | .entities batch => batch.foldl (putLinked entityKind Memory.putEntity) memory
  | .relationships batch => batch.foldl (putLinked relationshipKind Memory.putRelationship) memory
  | .signals batch => batch.foldl (putLinked signalKind Memory.putSignal) memory
  | .actionableItems batch => batch.foldl (putLinked itemKind Memory.putActionableItem) memory
  | .indexOutputs artifact signals items => memory.indexOutputs artifact signals items
  | .packRaises _ => memory

/-- A call cut down to the records before the first one that is rejected. -/
def StoreCall.accepted (artifacts : Dict Text Artifact) : StoreCall → StoreCall
  | .entities batch => .entities (batch.takeWhile (Grounded entityKind artifacts))
  | .relationships batch => .relationships (batch.takeWhile (Grounded relationshipKind artifacts))
  | .signals batch => .signals (batch.takeWhile (Grounded signalKind artifacts))
  | .actionableItems batch => .actionableItems (batch.takeWhile (Grounded itemKind artifacts))
  | call => call

theorem storeLinked_result {ρ : Type} (kind : RecordKind ρ) (put : Artifact → Memory → ρ → Memory)
    (record : ρ) (memory : Memory) :
    (Grounded kind memory.artifacts record = true ∧
      storeLinked kind put record memory = (.ok (), putLinked kind put memory record)) ∨
    (Grounded kind memory.artifacts record = false ∧
      ∃ raised, storeLinked kind put record memory = (.error raised, memory)) := by
  rw [storeLinked, putLinked, Grounded]
  cases artifactForRequiredSourceLink kind memory.artifacts record with
  | error raised => exact .inr ⟨rfl, raised, rfl⟩
  | ok artifact => exact .inl ⟨rfl, rfl⟩

/-- A batch of linked records that does not touch the artifacts stores its records up to the
first that is rejected. -/
theorem forEach_storeLinked {ρ : Type} (kind : RecordKind ρ)
    (put : Artifact → Memory → ρ → Memory)
    (hput : ∀ artifact memory record, (put artifact memory record).artifacts = memory.artifacts)
    (batch : List ρ) (memory : Memory) :
    forEach (storeLinked kind put) batch memory =
        (.ok (), batch.foldl (putLinked kind put) memory) ∨
      ∃ raised, forEach (storeLinked kind put) batch memory = (.error raised,
        (batch.takeWhile (Grounded kind memory.artifacts)).foldl (putLinked kind put) memory) := by
  induction batch generalizing memory with
  | nil => exact .inl rfl
  | cons record batch ih =>
    rcases storeLinked_result kind put record memory with ⟨hgrounded, hstep⟩ | ⟨hnot, raised, hstep⟩
    · have hartifacts : (putLinked kind put memory record).artifacts = memory.artifacts := by
        rw [putLinked]
        cases artifactForRequiredSourceLink kind memory.artifacts record with
        | error raised => rfl
        | ok artifact => exact hput artifact memory record
      rw [Effect.forEach, Effect.bind_ok hstep, List.takeWhile_cons_of_pos hgrounded,
        List.foldl_cons, List.foldl_cons, ← hartifacts]
      exact ih (putLinked kind put memory record)
    · refine .inr ⟨raised, ?_⟩
      rw [Effect.forEach, Effect.bind_error hstep, List.takeWhile_cons_of_neg (by simp [hnot])]
      rfl

theorem forEach_putChunk (batch : List ArtifactChunk) (memory : Memory) :
    inMemoryRepository.storeChunks batch memory = (.ok (), batch.foldl Memory.putChunk memory) := by
  induction batch generalizing memory with
  | nil => rfl
  | cons chunk batch ih => exact ih (memory.putChunk chunk)

/-- A call of the in-memory repository stores its batch, or the records before the rejected one. -/
theorem perform_inMemory (call : StoreCall) (memory : Memory) :
    call.perform inMemoryRepository memory = (.ok (), memory.applied call) ∨
      ∃ raised, call.perform inMemoryRepository memory =
        (.error raised, memory.applied (call.accepted memory.artifacts)) := by
  cases call with
  | artifact added => exact .inl rfl
  | chunks batch => exact .inl (forEach_putChunk batch memory)
  | entities batch =>
    exact forEach_storeLinked entityKind Memory.putEntity (fun _ _ _ => rfl) batch memory
  | relationships batch =>
    exact forEach_storeLinked relationshipKind Memory.putRelationship (fun _ _ _ => rfl) batch memory
  | signals batch =>
    exact forEach_storeLinked signalKind Memory.putSignal (fun _ _ _ => rfl) batch memory
  | actionableItems batch =>
    exact forEach_storeLinked itemKind Memory.putActionableItem (fun _ _ _ => rfl) batch memory
  | indexOutputs artifact signals items => exact .inl rfl
  | packRaises raised => exact .inr ⟨raised, rfl⟩

theorem completed_inMemory {calls : List StoreCall} {memory memory' : Memory}
    (h : forEach (StoreCall.perform inMemoryRepository) calls memory = (.ok (), memory')) :
    memory' = calls.foldl Memory.applied memory := by
  refine Effect.forEach_modify (fun call _ s s' hcall => ?_) h
  rcases perform_inMemory call s with hdone | ⟨raised, hfailed⟩
  · rw [hdone] at hcall
    exact (Prod.mk.inj hcall).2.symm
  · rw [hfailed] at hcall
    cases (Prod.mk.inj hcall).1

theorem failed_inMemory {call : StoreCall} {memory memory' : Memory} {raised : Raised}
    (h : call.perform inMemoryRepository memory = (.error raised, memory')) :
    memory' = memory.applied (call.accepted memory.artifacts) := by
  rcases perform_inMemory call memory with hdone | ⟨raised, hfailed⟩
  · rw [hdone] at h
    cases (Prod.mk.inj h).1
  · rw [hfailed] at h
    exact (Prod.mk.inj h).2.symm

end InMemory

section Service

variable {χ : Type}

def durableService (db : Database) (registry : DomainRegistry χ)
    (defaultChunker : Artifact → Except Raised (List ArtifactChunk)) (execution : Option χ) :
    ContextEngineService χ Tables :=
  ⟨registry, sqlAlchemyRepository db, defaultChunker, execution⟩

def processService (registry : DomainRegistry χ)
    (defaultChunker : Artifact → Except Raised (List ArtifactChunk)) (execution : Option χ) :
    ContextEngineService χ Memory :=
  ⟨registry, inMemoryRepository, defaultChunker, execution⟩

end Service

section Examples

/-- An extractor that raises on every artifact. -/
def failingExtractor : Extractor Unit where
  id := "failing".toList
  artifactTypeIds := none
  extract := fun _ _ => .error ⟨.runtimeError, "no model".toList⟩
  extractWithExecution := none

def failingPack : DomainPack Unit where
  id := "notes".toList
  artifactTypeIds := ["note".toList]
  chunker := none
  extractors := [failingExtractor]
  taskGenerators := []

def noChunks (_ : Artifact) : Except Raised (List ArtifactChunk) := .ok []

def noteRequest : IngestionRequest where
  domainId := "notes".toList
  artifactTypeId := "note".toList
  ownerType := .invitationCode
  ownerId := ['1']
  text := "ship it".toList
  title := none
  sourceUri := none
  metadata := []

def noteStamp : Stamp := ⟨"art_1".toList, 0⟩

def failingRegistry : DomainRegistry Unit := [("notes".toList, failingPack)]

end Examples

end DemoService.Context
