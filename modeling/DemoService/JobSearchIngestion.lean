import DemoService.IngestAtomicity
import DemoService.JobSearchSourcing

/-! The job search domain pack in the service. An artifact is refused before anything is stored, or
it is ingested as a whole: no part of the pack raises once the artifact has chunks, and every record
names the stored artifact. -/

namespace DemoService.JobSearch

open PyText Context
open Fallible

section Pack

/-- The artifact types of the manifest, with their `extractor_ids`. -/
def manifestTypes : Dict Text (List Text) :=
  [("job_description", ["job-description-extractor"]), ("resume", ["resume-extractor"]),
    ("recruiter_message", ["career-context-notes-extractor"]),
    ("interview_notes", ["interview-notes-extractor"]),
    ("company_research", ["career-context-notes-extractor"]),
    ("personal_story", ["personal-story-extractor"]),
    ("compensation_notes", ["career-context-notes-extractor"]),
    ("follow_up_notes", ["career-context-notes-extractor"])].map fun entry =>
      (entry.1.toList, entry.2.map String.toList)

/-- `extractor_routing`. -/
def extractorRouting (artifactTypeId : Text) : List Text :=
  (manifestTypes.get? artifactTypeId).getD []

structure PackRuntime where
  extraction : ExtractionRuntime
  taskIds : Artifact → Text → Nat → Text
  model : Artifact → Runtime

variable (rt : PackRuntime)

def assistedExtractors : List LLMAssistedExtractor :=
  [jobDescriptionExtractor rt.extraction, resumeExtractor rt.extraction,
    interviewNotesExtractor rt.extraction, personalStoryExtractor rt.extraction,
    careerContextNotesExtractor rt.extraction].map fun base => ⟨base, rt.model⟩

def assistedTaskGenerator : LLMAssistedTaskGenerator :=
  ⟨jobSearchTaskGenerator rt.taskIds, rt.model⟩

def jobSearchId : Text := "job_search".toList

/-- `build_job_search_domain_pack`. -/
def jobSearchPack : AssistedPack where
  id := jobSearchId
  artifactTypeIds := manifestTypes.map Prod.fst
  chunker := none
  extractors := (assistedExtractors rt).map PackExtractor.assisted
  taskGenerators := [.assisted (assistedTaskGenerator rt)]

/-- The extractors that run are those the manifest names. -/
theorem supported_routing {artifactTypeId : Text} (h : artifactTypeId ∈ manifestTypes.map Prod.fst) :
    (((jobSearchPack rt).toPack.extractors.filter
      fun extractor => extractor.Supports artifactTypeId).map Extractor.id) =
      extractorRouting artifactTypeId := by
  simp only [manifestTypes, List.map_cons, List.map_nil, List.mem_cons, List.not_mem_nil,
    or_false] at h
  rcases h with rfl | rfl | rfl | rfl | rfl | rfl | rfl | rfl
  all_goals rfl

theorem routing_single {artifactTypeId : Text} (h : artifactTypeId ∈ manifestTypes.map Prod.fst) :
    (extractorRouting artifactTypeId).length = 1 := by
  have hall : ∀ id ∈ manifestTypes.map Prod.fst, (extractorRouting id).length = 1 := by decide
  exact hall artifactTypeId h

/-- No type has more than three items of its own. -/
theorem length_typeItems {artifactTypeId : Text} (h : artifactTypeId ∈ manifestTypes.map Prod.fst)
    (source : SourceLink) : (typeItems artifactTypeId source).length ≤ 3 := by
  simp only [manifestTypes, List.map_cons, List.map_nil, List.mem_cons, List.not_mem_nil,
    or_false] at h
  rcases h with rfl | rfl | rfl | rfl | rfl | rfl | rfl | rfl
  all_goals exact Nat.le_of_ble_eq_true rfl

end Pack

section Running

variable {χ : Type} {artifact : Artifact} {chunks : List ArtifactChunk} {execution : Option χ}

def Outputs.addAll (outputs : Outputs) (results : List ExtractionResult) (ids : List Text) :
    Outputs where
  entities := outputs.entities ++ results.flatMap ExtractionResult.entities
  relationships := outputs.relationships ++ results.flatMap ExtractionResult.relationships
  signals := outputs.signals ++ results.flatMap ExtractionResult.signals
  actionableItems := outputs.actionableItems ++ results.flatMap ExtractionResult.actionableItems
  extractorIds := outputs.extractorIds ++ ids

/-- Extractors that all return run to the end, each of those that support the type once. -/
theorem runExtractors_yields {Q : ExtractionResult → Prop} {extractors : List (Extractor χ)}
    (hrun : ∀ extractor ∈ extractors, Yields Q (extractor.run artifact chunks execution))
    (outputs : Outputs) :
    Yields (fun final => ∃ results, (∀ result ∈ results, Q result) ∧
        results.length = (extractors.filter fun e => e.Supports artifact.artifactTypeId).length ∧
        final = Outputs.addAll outputs results
          ((extractors.filter fun e => e.Supports artifact.artifactTypeId).map Extractor.id))
      (runExtractors artifact chunks execution extractors outputs) := by
  induction extractors generalizing outputs with
  | nil => exact ⟨outputs, rfl, [], by simp, rfl, by simp [Outputs.addAll]⟩
  | cons extractor extractors ih =>
    obtain ⟨hfirst, hrest⟩ := List.forall_mem_cons.mp hrun
    rw [runExtractors]
    by_cases hsupports : extractor.Supports artifact.artifactTypeId
    · rw [if_pos hsupports, List.filter_cons_of_pos (by simpa using hsupports)]
      refine hfirst.bind fun result hresult => ?_
      obtain ⟨final, hfinal, results, hresults, hlength, rfl⟩ := ih hrest (outputs.add extractor.id result)
      refine ⟨_, hfinal, result :: results, List.forall_mem_cons.mpr ⟨hresult, hresults⟩, ?_, ?_⟩
      · rw [List.length_cons, List.length_cons, hlength]
      · simp [Outputs.addAll, Outputs.add]
    · rw [if_neg hsupports, List.filter_cons_of_neg (by simpa using hsupports)]
      exact ih hrest outputs

end Running

section Derivation

variable {rt : PackRuntime} {artifact : Artifact} {chunks : List ArtifactChunk}

theorem Extracts.mono {entityCount signalCount itemCount : Nat} {result : ExtractionResult}
    (h : Extracts artifact chunks entityCount signalCount itemCount result)
    (hentities : entityCount ≤ 38) (hsignals : signalCount ≤ 74) (hitems : itemCount ≤ 6) :
    Extracts artifact chunks 38 74 6 result :=
  ⟨⟨h.entities.1, h.entities.2.trans hentities⟩, h.relationships,
    ⟨h.signals.1, h.signals.2.trans hsignals⟩,
    ⟨h.actionableItems.1, h.actionableItems.2.trans hitems⟩⟩

theorem forTypes_yields {extract : Artifact → List ArtifactChunk → Except Raised ExtractionResult}
    {entityCount signalCount itemCount : Nat}
    (h : Yields (Extracts artifact chunks entityCount signalCount itemCount)
      (extract artifact chunks)) (hentities : entityCount ≤ 38) (hsignals : signalCount ≤ 74)
    (hitems : itemCount ≤ 6) (ids : List Text) :
    Yields (Extracts artifact chunks 38 74 6) (forTypes ids extract artifact chunks) := by
  rw [forTypes]
  split
  · obtain ⟨result, hresult, hextracts⟩ := h
    exact ⟨result, hresult, hextracts.mono hentities hsignals hitems⟩
  · exact .pure ⟨none_within, rfl, none_within, none_within⟩

theorem assistedExtractors_yield (h : ChunksOf artifact chunks) :
    ∀ extractor ∈ assistedExtractors rt,
      Yields (Extracts artifact chunks 38 74 6) (extractor.base.extract artifact chunks) := by
  have hnotes : Yields (Extracts artifact chunks 0 18 0)
      (extractCareerContextNotes rt.extraction artifact chunks) := by
    obtain ⟨result, hresult, hextracts, -⟩ := extractCareerContextNotes_yields rt.extraction h
    exact ⟨result, hresult, hextracts⟩
  simp only [assistedExtractors, List.map_cons, List.map_nil, List.forall_mem_cons,
    List.not_mem_nil, false_implies, implies_true, and_true]
  refine ⟨?_, ?_, ?_, ?_, ?_⟩
  · exact forTypes_yields (extractJobDescription_yields h) (by omega) (by omega) (by omega) _
  · exact forTypes_yields (extractResume_yields h) le_rfl le_rfl (by omega) _
  · exact forTypes_yields (extractInterviewNotes_yields h) (by omega) (by omega) le_rfl _
  · exact forTypes_yields (extractPersonalStory_yields h) (by omega) (by omega) (by omega) _
  · exact forTypes_yields hnotes (by omega) (by omega) (by omega) _

/-- What an extractor of the pack returns; without a model, so many records at most. -/
def Extracted (artifact : Artifact) (chunks : List ArtifactChunk) (call : Option JobSearchCall)
    (result : ExtractionResult) : Prop :=
  ResultSourced artifact chunks result ∧ (call = none → Extracts artifact chunks 38 74 6 result)

theorem assisted_yields {extractor : LLMAssistedExtractor}
    (h : Yields (Extracts artifact chunks 38 74 6) (extractor.base.extract artifact chunks))
    (call : Option JobSearchCall) :
    Yields (Extracted artifact chunks call) (extractor.extractWithExecution artifact chunks call) := by
  obtain ⟨base, hbase, hextracts⟩ := h
  obtain ⟨result, hresult, hsourced⟩ :=
    extractWithExecution_yields ⟨base, hbase, hextracts.sourced⟩ call
  refine ⟨result, hresult, hsourced, ?_⟩
  rintro rfl
  have hplain : extractor.extractWithExecution artifact chunks none =
      .ok (withFallbackWarning (markDeterministicExtraction base) notConfigured) := by
    rw [LLMAssistedExtractor.extractWithExecution, hbase]
    rfl
  obtain rfl := Except.ok.inj (hplain.symm.trans hresult)
  constructor
  · refine ⟨hsourced.entities, ?_⟩
    rw [withFallbackWarning, markDeterministicExtraction, List.length_map]
    exact hextracts.entities.2
  · rw [withFallbackWarning, markDeterministicExtraction, hextracts.relationships]
    rfl
  · refine ⟨hsourced.signals, ?_⟩
    rw [withFallbackWarning, markDeterministicExtraction, List.length_map, List.length_map]
    exact hextracts.signals.2
  · refine ⟨hsourced.actionableItems, ?_⟩
    rw [withFallbackWarning, markDeterministicExtraction, List.length_map, List.length_map]
    exact hextracts.actionableItems.2

/-- What the pack derives from an artifact: records that cite it, from the extractor that the
manifest names, with an item to work on; without a model, so many records at most. -/
structure Derived (artifact : Artifact) (chunks : List ArtifactChunk) (call : Option JobSearchCall)
    (outputs : Outputs) : Prop where
  entities : RecordsSourced entityStore artifact chunks outputs.entities
  relationships : RecordsSourced relationshipStore artifact chunks outputs.relationships
  signals : RecordsSourced signalStore artifact chunks outputs.signals
  actionableItems : RecordsSourced itemStore artifact chunks outputs.actionableItems
  extractorIds : outputs.extractorIds = extractorRouting artifact.artifactTypeId
  workable : outputs.actionableItems ≠ []
  bounded : call = none → outputs.entities.length ≤ 38 ∧ outputs.relationships = [] ∧
    outputs.signals.length ≤ 74 ∧ outputs.actionableItems.length ≤ 9

theorem length_generateTasks (h : artifact.artifactTypeId ∈ manifestTypes.map Prod.fst)
    {taskIds : Artifact → Text → Nat → Text} {items : List ActionableItem}
    (hitems : generateTasks taskIds artifact = .ok items) : items.length ≤ 3 := by
  obtain rfl := pure_eq_ok.mp hitems
  rw [length_stampAll]
  split
  · exact Nat.le_of_ble_eq_true rfl
  · exact length_typeItems h _

theorem derive_yields (rt : PackRuntime) (hchunks : ChunksOf artifact chunks)
    (htype : artifact.artifactTypeId ∈ manifestTypes.map Prod.fst) (call : Option JobSearchCall) :
    Yields (Derived artifact chunks call)
      (derive (jobSearchPack rt).toPack call artifact chunks) := by
  have hrun : ∀ extractor ∈ (jobSearchPack rt).toPack.extractors,
      Yields (Extracted artifact chunks call) (extractor.run artifact chunks call) := by
    intro extractor hextractor
    obtain ⟨packed, hpacked, rfl⟩ := List.mem_map.mp hextractor
    obtain ⟨assisted, hassisted, rfl⟩ := List.mem_map.mp hpacked
    exact assisted_yields (assistedExtractors_yield hchunks assisted hassisted) call
  obtain ⟨outputs, houtputs, results, hresults, hlength, rfl⟩ := runExtractors_yields hrun noOutputs
  -- the extractor of the type is the only one that runs
  obtain ⟨result, rfl⟩ : ∃ result, results = [result] := by
    rw [← List.length_map (f := Extractor.id), supported_routing rt htype,
      routing_single htype] at hlength
    exact List.length_eq_one_iff.mp hlength
  have hresult := hresults result List.mem_cons_self
  rw [supported_routing rt htype] at houtputs
  obtain ⟨generated, hgenerated, hsourced, hne⟩ :=
    generateTasks_yields artifact chunks rt.taskIds
  obtain ⟨items, hitems, hitemsSourced, added, hadded, rfl⟩ :=
    generateWithExecution_yields (assistedTaskGenerator rt) hresult.1.actionableItems
      ⟨generated, hgenerated, hsourced, hne⟩ call
  refine ⟨⟨result.entities, result.relationships, result.signals, result.actionableItems ++ added,
    extractorRouting artifact.artifactTypeId⟩, ?_, ?_⟩
  · refine bind_eq_ok.mpr ⟨_, houtputs, bind_eq_ok.mpr ⟨result.actionableItems ++ added, ?_, ?_⟩⟩
    · simp only [Outputs.addAll, noOutputs, List.flatMap_cons, List.flatMap_nil, List.nil_append,
        List.append_nil]
      exact bind_eq_ok.mpr ⟨_, hitems, rfl⟩
    · simp [Outputs.addAll, noOutputs]
      rfl
  · refine ⟨hresult.1.entities, hresult.1.relationships, hresult.1.signals, hitemsSourced, rfl,
      by simp [hadded], ?_⟩
    rintro rfl
    have hextracts := hresult.2 rfl
    have hcount := length_generateTasks htype hgenerated
    have hplain : (assistedTaskGenerator rt).generateWithExecution artifact chunks
        result.actionableItems none = .ok (result.actionableItems ++
          (generated.map markDeterministicItem).map (setWarning notConfigured)) := by
      rw [LLMAssistedTaskGenerator.generateWithExecution]
      exact bind_eq_ok.mpr ⟨generated, hgenerated, rfl⟩
    have hsame := congrArg List.length (Except.ok.inj (hplain.symm.trans hitems))
    simp only [List.length_append, List.length_map] at hsame ⊢
    have hitemCount := hextracts.actionableItems.2
    exact ⟨hextracts.entities.2, hextracts.relationships, hextracts.signals.2, by omega⟩

end Derivation

section Storing

variable {σ : Type}

def jobSearchService (registry : DomainRegistry JobSearchCall) (repository : ContextRepository σ)
    (chunker : SimpleTextChunker) (chunkIds : Artifact → Nat → Text) (call : Option JobSearchCall) :
    ContextEngineService JobSearchCall σ :=
  ⟨registry, repository, fun artifact => .ok (chunker.chunk (chunkIds artifact) artifact), call⟩

/-- The store calls of an ingestion. -/
def storeAll (repository : ContextRepository σ) (result : IngestionResult) :
    Effect σ Raised IngestionResult := do
  repository.storeArtifact result.artifact
  repository.storeChunks result.chunks
  repository.storeEntities result.entities
  repository.storeRelationships result.relationships
  repository.storeSignals result.signals
  repository.storeActionableItems result.actionableItems
  repository.indexArtifactOutputs result.artifact result.signals result.actionableItems
  pure result

def Admissible (request : IngestionRequest) : Prop :=
  request.artifactTypeId ∈ manifestTypes.map Prod.fst ∧ strip request.text ≠ []

def outputsOf (result : IngestionResult) : Outputs :=
  ⟨result.entities, result.relationships, result.signals, result.actionableItems,
    result.extractorIds⟩

/-- The result of an ingestion, of which every part names the artifact. -/
structure Ingested (artifact : Artifact) (call : Option JobSearchCall) (result : IngestionResult) :
    Prop where
  stored : result.artifact = artifact
  chunks : ChunksOf artifact result.chunks
  derived : Derived artifact result.chunks call (outputsOf result)

variable {rt : PackRuntime} {registry : DomainRegistry JobSearchCall} {request : IngestionRequest}

theorem admitRequest_eq (hpack : registry.get? jobSearchId = some (jobSearchPack rt).toPack)
    (hdomain : request.domainId = jobSearchId) :
    (Admissible request ∧ admitRequest registry request = .ok (jobSearchPack rt).toPack) ∨
      (¬ Admissible request ∧ ∃ message,
        admitRequest registry request = .error (valueError message)) := by
  have hget : getDomain registry request.domainId = .ok (jobSearchPack rt).toPack := by
    rw [getDomain, hdomain, hpack]
  rw [admitRequest, hget]
  change _ ∧ (if request.artifactTypeId ∈ manifestTypes.map Prod.fst then _ else _) = _ ∨
    _ ∧ ∃ _, (if request.artifactTypeId ∈ manifestTypes.map Prod.fst then _ else _) = _
  by_cases htype : request.artifactTypeId ∈ manifestTypes.map Prod.fst
  · rw [if_pos htype]
    by_cases hblank : strip request.text = []
    · rw [if_pos hblank]
      exact .inr ⟨fun h => h.2 hblank, _, rfl⟩
    · rw [if_neg hblank]
      exact .inl ⟨⟨htype, hblank⟩, rfl⟩
  · rw [if_neg htype]
    exact .inr ⟨fun h => htype h.1, _, rfl⟩

/-- Nothing in the pack raises, so an admitted ingestion is its store calls. -/
theorem ingestArtifact_storeAll
    (hpack : registry.get? jobSearchId = some (jobSearchPack rt).toPack)
    (hdomain : request.domainId = jobSearchId) (hadmissible : Admissible request)
    (chunker : SimpleTextChunker) (chunkIds : Artifact → Nat → Text) (call : Option JobSearchCall)
    (stamp : Stamp) : ∃ result, Ingested (request.artifact stamp) call result ∧
      ∀ (σ : Type) (repository : ContextRepository σ) (s : σ),
        ingestArtifact (jobSearchService registry repository chunker chunkIds call) stamp request s =
          storeAll repository result s := by
  let artifact := request.artifact stamp
  have htext : artifact.text ≠ [] := by
    intro hnil
    exact hadmissible.2 (by rw [show request.text = [] from hnil]; rfl)
  have hchunks := chunk_chunksOf chunker (chunkIds artifact) htext
  obtain ⟨outputs, houtputs, hderived⟩ := derive_yields rt hchunks hadmissible.1 call
  have hadmit : admitRequest registry request = .ok (jobSearchPack rt).toPack := by
    rcases admitRequest_eq hpack hdomain with ⟨-, hadmit⟩ | ⟨hnot, -⟩
    · exact hadmit
    · exact absurd hadmissible hnot
  refine ⟨⟨artifact, chunker.chunk (chunkIds artifact) artifact, outputs.entities,
    outputs.relationships, outputs.signals, outputs.actionableItems, outputs.extractorIds⟩,
    ⟨rfl, hchunks, hderived⟩, fun σ repository s => ?_⟩
  rw [ingestArtifact]
  refine (Effect.lift_bind_ok hadmit _ s).trans (Effect.bind_congr_ok fun _ s₁ _ => ?_)
  refine (Effect.lift_bind_ok rfl _ s₁).trans (Effect.bind_congr_ok fun _ s₂ _ => ?_)
  exact Effect.lift_bind_ok houtputs _ s₂

end Storing

section InMemory

variable {memory : Memory} {artifact : Artifact} {chunks : List ArtifactChunk}

/-- Memory after an ingestion whose records are all kept. -/
def Memory.ingested (memory : Memory) (result : IngestionResult) : Memory :=
  let stored := result.chunks.foldl Memory.putChunk (memory.putArtifact result.artifact)
  let stored := result.entities.foldl (Memory.putEntity result.artifact) stored
  let stored := result.relationships.foldl (Memory.putRelationship result.artifact) stored
  let stored := result.signals.foldl (Memory.putSignal result.artifact) stored
  let stored := result.actionableItems.foldl (Memory.putActionableItem result.artifact) stored
  stored.indexOutputs result.artifact result.signals result.actionableItems

theorem artifactForRequiredSourceLink_sourced {ρ : Type} {store : LinkedStore ρ} {record : ρ}
    (hstored : memory.artifacts.get? artifact.id = some artifact)
    (h : RecordSourced store artifact chunks record) :
    artifactForRequiredSourceLink store.kind memory.artifacts record = .ok artifact := by
  obtain ⟨link, links, hlinks⟩ := List.exists_cons_of_ne_nil h.links.1
  have hcites := h.links.2 link (hlinks ▸ List.mem_cons_self)
  rw [artifactForRequiredSourceLink, hlinks]
  simp only [hcites.artifactId, hstored]

theorem forEach_sourced {ρ : Type} (store : LinkedStore ρ)
    (hput : ∀ artifact memory record,
      (store.put artifact memory record).artifacts = memory.artifacts)
    {batch : List ρ} (hstored : memory.artifacts.get? artifact.id = some artifact)
    (h : RecordsSourced store artifact chunks batch) :
    Effect.forEach (storeLinked store.kind store.put) batch memory =
        (.ok (), batch.foldl (store.put artifact) memory) ∧
      (batch.foldl (store.put artifact) memory).artifacts = memory.artifacts := by
  induction batch generalizing memory with
  | nil => exact ⟨rfl, rfl⟩
  | cons record batch ih =>
    obtain ⟨hrecord, hrest⟩ := List.forall_mem_cons.mp h
    have hkept := hput artifact memory record
    obtain ⟨hlater, hartifacts⟩ := ih (hkept ▸ hstored) hrest
    refine ⟨Effect.forEach_cons_ok ?_ hlater, hartifacts.trans hkept⟩
    rw [storeLinked, artifactForRequiredSourceLink_sourced hstored hrecord]

theorem putChunks_artifacts (batch : List ArtifactChunk) (memory : Memory) :
    (batch.foldl Memory.putChunk memory).artifacts = memory.artifacts := by
  induction batch generalizing memory with
  | nil => rfl
  | cons chunk batch ih => exact ih (memory.putChunk chunk)

theorem storeAll_memory {call : Option JobSearchCall} {result : IngestionResult}
    (h : Ingested artifact call result) (memory : Memory) :
    storeAll inMemoryRepository result memory = (.ok result, Memory.ingested memory result) := by
  obtain rfl := h.stored
  have hstored : (memory.putArtifact result.artifact).artifacts.get? result.artifact.id =
      some result.artifact := Dict.get?_set_self _ _ _
  rw [← putChunks_artifacts result.chunks] at hstored
  obtain ⟨hentities, hkept⟩ :=
    forEach_sourced entityStore (fun _ _ _ => rfl) hstored h.derived.entities
  rw [← hkept] at hstored
  obtain ⟨hrelationships, hkept⟩ :=
    forEach_sourced relationshipStore (fun _ _ _ => rfl) hstored h.derived.relationships
  rw [← hkept] at hstored
  obtain ⟨hsignals, hkept⟩ :=
    forEach_sourced signalStore (fun _ _ _ => rfl) hstored h.derived.signals
  rw [← hkept] at hstored
  obtain ⟨hitems, -⟩ :=
    forEach_sourced itemStore (fun _ _ _ => rfl) hstored h.derived.actionableItems
  have hartifact : inMemoryRepository.storeArtifact result.artifact memory =
      (.ok (), memory.putArtifact result.artifact) := rfl
  refine (Effect.bind_ok hartifact _).trans ?_
  refine (Effect.bind_ok (forEach_putChunk _ _) _).trans ?_
  refine (Effect.bind_ok hentities _).trans ?_
  refine (Effect.bind_ok hrelationships _).trans ?_
  refine (Effect.bind_ok hsignals _).trans ?_
  exact (Effect.bind_ok hitems _).trans rfl

end InMemory

section SqlAlchemy

variable {artifact : Artifact} {chunks : List ArtifactChunk} {db : Database}

def joined (batches : List Tables) : Tables := batches.foldr (· ++ ·) emptyTables

def artifactAdded (artifact : Artifact) : Tables := { emptyTables with artifacts := [artifact] }

def chunkAdded (chunk : ArtifactChunk) : Tables :=
  { emptyTables with chunks := [chunk], sourceLinks := [chunk.sourceLink] }

/-- The rows of an ingestion, as its sessions commit them. -/
def ingestedBatches (result : IngestionResult) : List Tables :=
  [artifactAdded result.artifact, joined (result.chunks.map chunkAdded),
    joined (result.entities.map (entityAdded result.artifact.owner)),
    joined (result.relationships.map (relationshipAdded result.artifact.owner)),
    joined (result.signals.map (signalAdded result.artifact.owner)),
    joined (result.actionableItems.map (itemAdded result.artifact.owner))]

def commitAll {β : Type} (db : Database) (value : β) : List Tables → Effect Tables Raised β
  | [] => pure value
  | pending :: batches => do
    commit db pending
    commitAll db value batches

/-- The batches are committed up to one that the database refuses. -/
theorem commitAll_cases {β : Type} (db : Database) (value : β) (batches : List Tables)
    (stored : Tables) : commitAll db value batches stored = (.ok value, stored ++ joined batches) ∨
      ∃ done pending rest reason, batches = done ++ pending :: rest ∧
        db (stored ++ joined done) pending = some reason ∧
        commitAll db value batches stored = (.error ⟨.other, reason⟩, stored ++ joined done) := by
  induction batches generalizing stored with
  | nil =>
    left
    rw [joined, List.foldr_nil, Tables.append_empty]
    rfl
  | cons pending batches ih =>
    cases hdb : db stored pending with
    | some reason =>
      right
      refine ⟨[], pending, batches, reason, rfl, ?_, ?_⟩
      · rwa [joined, List.foldr_nil, Tables.append_empty]
      · rw [joined, List.foldr_nil, Tables.append_empty]
        exact Effect.bind_error (by rw [commit, hdb]) _
    | none =>
      have hcommit : commit db pending stored = (.ok (), stored ++ pending) := by rw [commit, hdb]
      have hjoined (done : List Tables) :
          stored ++ pending ++ joined done = stored ++ joined (pending :: done) :=
        Tables.append_assoc _ _ _
      rcases ih (stored ++ pending) with hall | ⟨done, refused, rest, reason, rfl, hrefused, hdone⟩
      · left
        rw [← hjoined, ← hall]
        exact Effect.bind_ok hcommit _
      · right
        refine ⟨pending :: done, refused, rest, reason, rfl, ?_, ?_⟩
        · rw [← hjoined, hrefused]
        · rw [← hjoined, ← hdone]
          exact Effect.bind_ok hcommit _

theorem jsonDump_dumpable {metadata : Metadata} (h : Dumpable metadata) :
    jsonDump metadata = .ok () := by
  rw [jsonDump, if_pos (List.all_eq_true.mpr h)]

theorem batchRows_chunks (hchunks : ∀ chunk ∈ chunks, Dumpable chunk.metadata) :
    batchRows chunkRow chunks = .ok (joined (chunks.map chunkAdded)) := by
  induction chunks with
  | nil => rfl
  | cons chunk chunks ih =>
    obtain ⟨hchunk, hrest⟩ := List.forall_mem_cons.mp hchunks
    refine batchRows_cons ?_ (ih hrest)
    rw [chunkRow, jsonDump_dumpable hchunk]
    rfl

/-- The artifact is the stored one of its id. -/
def Stored (artifact : Artifact) (stored : Tables) : Prop :=
  stored.artifacts.find? (fun a => a.id = artifact.id) = some artifact

theorem Stored.append {stored : Tables} (h : Stored artifact stored) (added : Tables) :
    Stored artifact (stored ++ added) := by
  rw [Stored, append_artifacts, List.find?_append, h]
  rfl

theorem batchRows_sourced {ρ : Type} (store : LinkedStore ρ) {stored : Tables}
    (hstored : Stored artifact stored) {batch : List ρ}
    (h : RecordsSourced store artifact chunks batch) :
    batchRows (store.row stored) batch = .ok (joined (batch.map (store.added artifact.owner))) := by
  induction batch with
  | nil => rfl
  | cons record batch ih =>
    obtain ⟨hrecord, hrest⟩ := List.forall_mem_cons.mp h
    refine batchRows_cons (store.row_ok ?_ (jsonDump_dumpable hrecord.metadata)) (ih hrest)
    obtain ⟨link, links, hlinks⟩ := List.exists_cons_of_ne_nil hrecord.links.1
    have hcites := hrecord.links.2 link (hlinks ▸ List.mem_cons_self)
    rw [ownerFromRequiredSources, hlinks]
    simp only [List.findSome?_cons, hcites.artifactId]
    rw [hstored]

theorem inSession_bind {β : Type} {rows : Tables → Except Raised Tables} {pending stored : Tables}
    (hrows : rows stored = .ok pending) {f g : Unit → Effect Tables Raised β}
    (h : f () (stored ++ pending) = g () (stored ++ pending)) :
    (inSession db rows >>= f) stored = (commit db pending >>= g) stored := by
  have hsession : inSession db rows stored = commit db pending stored := by rw [inSession, hrows]
  cases hdb : db stored pending with
  | some reason =>
    have hcommit : commit db pending stored = (.error ⟨.other, reason⟩, stored) := by
      rw [commit, hdb]
    rw [Effect.bind_error (hsession.trans hcommit), Effect.bind_error hcommit]
  | none =>
    have hcommit : commit db pending stored = (.ok (), stored ++ pending) := by rw [commit, hdb]
    rw [Effect.bind_ok (hsession.trans hcommit), Effect.bind_ok hcommit, h]

/-- With a fresh artifact the store calls commit the rows of the ingestion. -/
theorem storeAll_tables {call : Option JobSearchCall} {result : IngestionResult}
    (h : Ingested artifact call result) (hmetadata : Dumpable artifact.metadata) {stored : Tables}
    (hfresh : ∀ other ∈ stored.artifacts, other.id ≠ artifact.id) :
    storeAll (sqlAlchemyRepository db) result stored =
      commitAll db result (ingestedBatches result) stored := by
  obtain rfl := h.stored
  have hnone : stored.artifacts.find? (fun a => a.id = result.artifact.id) = none := by
    simpa using hfresh
  have hstored : Stored result.artifact (stored ++ artifactAdded result.artifact) := by
    rw [Stored, append_artifacts, List.find?_append, hnone]
    simp [artifactAdded]
  refine inSession_bind ?_ ?_
  · rw [artifactRow, jsonDump_dumpable hmetadata]
    rfl
  refine inSession_bind (batchRows_chunks h.chunks.metadata) ?_
  replace hstored := hstored.append (joined (result.chunks.map chunkAdded))
  refine inSession_bind (batchRows_sourced entityStore hstored h.derived.entities) ?_
  replace hstored := hstored.append (joined (result.entities.map (entityAdded result.artifact.owner)))
  refine inSession_bind (batchRows_sourced relationshipStore hstored h.derived.relationships) ?_
  replace hstored := hstored.append
    (joined (result.relationships.map (relationshipAdded result.artifact.owner)))
  refine inSession_bind (batchRows_sourced signalStore hstored h.derived.signals) ?_
  replace hstored := hstored.append (joined (result.signals.map (signalAdded result.artifact.owner)))
  exact inSession_bind (batchRows_sourced itemStore hstored h.derived.actionableItems) rfl

end SqlAlchemy

section Whole

/-- An ingestion into the job search domain is refused before anything is stored, or the pack
derives records that all cite the new artifact, whatever the model does, and then memory keeps all
of them, and the database the rows up to a batch that it refuses. -/
theorem ingested_whole_or_refused {rt : PackRuntime} {registry : DomainRegistry JobSearchCall}
    (hpack : registry.get? jobSearchId = some (jobSearchPack rt).toPack) {request : IngestionRequest}
    (hdomain : request.domainId = jobSearchId) (chunker : SimpleTextChunker)
    (chunkIds : Artifact → Nat → Text) (call : Option JobSearchCall) (stamp : Stamp) :
    (Admissible request ∧ ∃ result, Ingested (request.artifact stamp) call result ∧
      (∀ memory, ingestArtifact
        (jobSearchService registry inMemoryRepository chunker chunkIds call) stamp request memory =
          (.ok result, Memory.ingested memory result)) ∧
      (Dumpable request.metadata → ∀ (db : Database) (stored : Tables),
        (∀ other ∈ stored.artifacts, other.id ≠ stamp.id) →
        ingestArtifact (jobSearchService registry (sqlAlchemyRepository db) chunker chunkIds call)
            stamp request stored = (.ok result, stored ++ joined (ingestedBatches result)) ∨
          ∃ done pending rest reason, ingestedBatches result = done ++ pending :: rest ∧
            db (stored ++ joined done) pending = some reason ∧
            ingestArtifact (jobSearchService registry (sqlAlchemyRepository db) chunker chunkIds call)
              stamp request stored = (.error ⟨.other, reason⟩, stored ++ joined done))) ∨
    (¬ Admissible request ∧ ∃ message, ∀ (σ : Type) (repository : ContextRepository σ) (s : σ),
      ingestArtifact (jobSearchService registry repository chunker chunkIds call) stamp request s =
        (.error (valueError message), s)) := by
  rcases admitRequest_eq hpack hdomain with ⟨hadmissible, -⟩ | ⟨hnot, message, hrefused⟩
  · obtain ⟨result, hresult, hcalls⟩ :=
      ingestArtifact_storeAll hpack hdomain hadmissible chunker chunkIds call stamp
    refine .inl ⟨hadmissible, result, hresult, ?_, ?_⟩
    · intro memory
      rw [hcalls]
      exact storeAll_memory hresult memory
    · intro hmetadata db stored hfresh
      rw [hcalls, storeAll_tables hresult hmetadata hfresh]
      exact commitAll_cases db result (ingestedBatches result) stored
  · refine .inr ⟨hnot, message, fun σ repository s => ?_⟩
    exact ingestArtifact_refused hrefused stamp s

/-- Patterns that match nothing. -/
def silentPatterns : PatternLibrary where
  search _ _ _ := none
  finditer _ _ := []
  inside h := nomatch h

def numberedId (artifact : Artifact) (kind : Text) (n : Nat) : Text :=
  kind ++ '_' :: artifact.id ++ '_' :: Nat.toDigits 10 n

def silentRuntime : PackRuntime where
  extraction := ⟨silentPatterns, List.map Char.toLower, numberedId⟩
  taskIds artifact kind n := "task_".toList ++ numberedId artifact kind n
  model artifact := ⟨fun _ => "2026-01-01T00:00:00+00:00".toList,
    fun kind n => "llm_".toList ++ numberedId artifact kind n, List.map Char.toLower, id⟩

def silentRegistry : DomainRegistry JobSearchCall :=
  [(jobSearchId, (jobSearchPack silentRuntime).toPack)]

def defaultChunker : SimpleTextChunker := ⟨1200, 120, by omega, by omega⟩

def chunkNumber (artifact : Artifact) (n : Nat) : Text := numberedId artifact "chunk".toList n

/-- A note without a word that a pattern looks for. -/
def plainNote : IngestionRequest where
  domainId := jobSearchId
  artifactTypeId := "follow_up_notes".toList
  ownerType := .invitationCode
  ownerId := "7".toList
  text := "Spoke with Dana today.".toList
  title := none
  sourceUri := none
  metadata := []

def plainStamp : Stamp := ⟨"art_1".toList, 0⟩

def acceptingDatabase : Database := fun _ _ => none

theorem plain_note_ingested : ∃ result, Ingested (plainNote.artifact plainStamp) none result ∧
    ingestArtifact (jobSearchService silentRegistry inMemoryRepository defaultChunker chunkNumber none)
      plainStamp plainNote emptyMemory = (.ok result, Memory.ingested emptyMemory result) ∧
    ingestArtifact (jobSearchService silentRegistry (sqlAlchemyRepository acceptingDatabase)
      defaultChunker chunkNumber none) plainStamp plainNote emptyTables =
        (.ok result, emptyTables ++ joined (ingestedBatches result)) := by
  have hpack : silentRegistry.get? jobSearchId = some (jobSearchPack silentRuntime).toPack := rfl
  rcases ingested_whole_or_refused hpack (show plainNote.domainId = jobSearchId from rfl)
    defaultChunker chunkNumber none plainStamp with ⟨-, result, hresult, hmemory, htables⟩ | ⟨hnot, -⟩
  · refine ⟨result, hresult, hmemory emptyMemory, ?_⟩
    have hdumpable : Dumpable plainNote.metadata := by simp [Dumpable, plainNote]
    have hfresh : ∀ other ∈ emptyTables.artifacts, other.id ≠ plainStamp.id := by
      simp [emptyTables]
    rcases htables hdumpable acceptingDatabase emptyTables hfresh with
      haccepted | ⟨done, pending, rest, reason, -, hrefused, -⟩
    · exact haccepted
    · simp [acceptingDatabase] at hrefused
  · exact absurd ⟨by decide, by decide⟩ hnot

end Whole

end DemoService.JobSearch
