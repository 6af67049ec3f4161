import DemoService.ExcerptGrounding
import DemoService.JobSearchAssisted

/-! What becomes of an arbitrary model output: its references resolve or the mapping stops,
and a relationship that is left out leaves a warning, which hybrid mode does not pass on. -/

namespace DemoService.JobSearch

open PyText Context Fallible

/-- The link leads to the artifact, and to one of its chunks with that chunk's offsets. -/
def GroundedLink (artifact : Artifact) (chunks : List ArtifactChunk) (link : SourceLink) : Prop :=
  link.artifactId = artifact.id ∧ ∃ chunk ∈ chunks, link.chunkId = some chunk.id ∧
    link.startOffset = some chunk.startOffset ∧ link.endOffset = some chunk.endOffset

structure Grounded (artifact : Artifact) (chunks : List ArtifactChunk) (result : ExtractionResult) :
    Prop where
  links : ∀ link ∈ resultLinks result, GroundedLink artifact chunks link
  endpoints : ∀ relationship ∈ result.relationships,
    (∃ entity ∈ result.entities, entity.id = relationship.sourceEntityId) ∧
    (∃ entity ∈ result.entities, entity.id = relationship.targetEntityId)

/-- The reference cites a given chunk, and its excerpt is not blank. -/
def LLMSourceReference.Cites (chunks : List ArtifactChunk) (reference : LLMSourceReference) : Prop :=
  (∃ chunk ∈ chunks, chunk.id = reference.chunkId) ∧ strip reference.excerpt ≠ []

/-- The warnings for the relationships of an output that the mapping leaves out. -/
def LLMExtractionOutput.droppedWarnings (output : LLMExtractionOutput) (runtime : Runtime) :
    List Text :=
  (output.relationships.filter fun item => ¬ output.Resolves runtime item).map
    (unresolvedNames runtime)

section Links

variable {artifact : Artifact} {chunks : List ArtifactChunk}

theorem chunksById_isSome (id : Text) :
    ((Dict.ofList (chunks.map fun chunk => (chunk.id, chunk))).get? id).isSome = true ↔
      ∃ chunk ∈ chunks, chunk.id = id := by
  rw [Dict.isSome_get?_ofList]
  simp

theorem sourceLink_grounded {reference : LLMSourceReference} {link : SourceLink}
    (h : sourceLink artifact (Dict.ofList (chunks.map fun chunk => (chunk.id, chunk))) reference =
      .ok link) : GroundedLink artifact chunks link := by
  rw [sourceLink] at h
  cases hget : (Dict.ofList (chunks.map fun chunk => (chunk.id, chunk))).get? reference.chunkId with
  | none => simp [hget] at h
  | some chunk =>
    simp only [hget] at h
    by_cases hblank : strip reference.excerpt = []
    · simp [hblank] at h
    · rw [if_neg hblank] at h
      obtain rfl := Except.ok.inj h
      exact ⟨rfl, chunk, (Dict.get?_index hget).1, rfl, rfl, rfl⟩

theorem sourceLink_succeeds_iff {reference : LLMSourceReference} :
    Succeeds (sourceLink artifact (Dict.ofList (chunks.map fun chunk => (chunk.id, chunk)))
      reference) ↔ reference.Cites chunks := by
  rw [LLMSourceReference.Cites, ← chunksById_isSome, sourceLink]
  cases hget : (Dict.ofList (chunks.map fun chunk => (chunk.id, chunk))).get? reference.chunkId with
  | none => simp [Succeeds]
  | some chunk =>
    by_cases hblank : strip reference.excerpt = []
    · simp [Succeeds, hblank]
    · simp [Succeeds, hblank]

theorem sourceLinks_grounded {references : List LLMSourceReference} {links : List SourceLink}
    (h : sourceLinks artifact chunks references = .ok links) :
    ∀ link ∈ links, GroundedLink artifact chunks link := by
  obtain ⟨mapped, hmapped, h⟩ := bind_eq_ok.mp h
  by_cases hempty : mapped = []
  · simp [hempty] at h
  · rw [if_neg hempty] at h
    rw [← pure_eq_ok.mp h]
    exact mapAll_forall (fun _ _ => sourceLink_grounded) hmapped

theorem sourceLinks_succeeds_iff (artifact : Artifact) (references : Filled LLMSourceReference) :
    Succeeds (sourceLinks artifact chunks references.1) ↔
      ∀ reference ∈ references.1, reference.Cites chunks := by
  have hall : (∀ reference ∈ references.1, Succeeds (sourceLink artifact
      (Dict.ofList (chunks.map fun chunk => (chunk.id, chunk))) reference)) ↔
        ∀ reference ∈ references.1, reference.Cites chunks :=
    forall₂_congr fun reference _ => sourceLink_succeeds_iff
  rw [← hall, ← mapAll_succeeds_iff, sourceLinks, succeeds_bind]
  constructor
  · rintro ⟨links, hlinks, -⟩
    exact ⟨links, hlinks⟩
  · rintro ⟨links, hlinks⟩
    have hne : links ≠ [] := by
      have hlength := length_mapAll hlinks
      intro hempty
      rw [hempty, List.length_nil] at hlength
      exact references.2 (List.length_eq_zero_iff.mp hlength.symm)
    exact ⟨links, hlinks, links, if_neg hne⟩

/-- The records of one kind are mapped exactly when each of their references cites a chunk. -/
theorem mapped_succeeds_iff (artifact : Artifact) (chunks : List ArtifactChunk) {ρ μ : Type}
    {map : μ × Nat → Except Raised ρ}
    (references : μ → Filled LLMSourceReference)
    (hmap : ∀ item, Succeeds (map item) ↔
      Succeeds (sourceLinks artifact chunks (references item.1).1)) (items : List μ) :
    Succeeds (mapAll map items.zipIdx) ↔
      ∀ reference ∈ items.flatMap (fun item => (references item).1), reference.Cites chunks := by
  simp only [mapAll_succeeds_iff, hmap, sourceLinks_succeeds_iff, List.forall_mem_flatMap]
  exact zipIdx_forall_iff (P := fun item => ∀ reference ∈ (references item).1,
    reference.Cites chunks) items

theorem mapped_grounded {ρ μ : Type} {map : μ × Nat → Except Raised ρ} {links : ρ → List SourceLink}
    (hmap : ∀ item record, map item = .ok record →
      ∃ references, sourceLinks artifact chunks references = .ok (links record))
    {items : List (μ × Nat)} {records : List ρ} (h : mapAll map items = .ok records) :
    ∀ link ∈ records.flatMap links, GroundedLink artifact chunks link := by
  rw [List.forall_mem_flatMap]
  refine mapAll_forall (fun item record hrecord => ?_) h
  obtain ⟨references, hlinks⟩ := hmap item record hrecord
  exact sourceLinks_grounded hlinks

end Links

section Relationships

variable {runtime : Runtime} {artifact : Artifact} {chunks : List ArtifactChunk}
  {metadata : Metadata} {ids : Dict Text Text}

theorem mapRelationship_ids {sourceEntityId targetEntityId : Text}
    {item : LLMContextRelationship × Nat} {record : ContextRelationship}
    (h : mapRelationship runtime artifact chunks metadata sourceEntityId targetEntityId item =
      .ok record) :
    record.sourceEntityId = sourceEntityId ∧ record.targetEntityId = targetEntityId := by
  obtain ⟨links, -, h⟩ := bind_eq_ok.mp h
  obtain rfl := pure_eq_ok.mp h
  exact ⟨rfl, rfl⟩

/-- What is mapped is grounded between known ids, and what is not leaves its warning. -/
theorem mapRelationships_ok {items : List (LLMContextRelationship × Nat)} {warnings : List Text}
    {mapped : List ContextRelationship × List Text}
    (h : mapRelationships runtime artifact chunks metadata ids items warnings = .ok mapped) :
    (∀ record ∈ mapped.1, (∀ link ∈ record.sourceLinks, GroundedLink artifact chunks link) ∧
      (∃ name, ids.get? name = some record.sourceEntityId) ∧
      (∃ name, ids.get? name = some record.targetEntityId)) ∧
    mapped.2 = warnings ++ (items.filter fun item => ¬ Identified runtime ids item.1).map
      (fun item => unresolvedNames runtime item.1) := by
  induction items generalizing warnings mapped with
  | nil =>
    obtain rfl := Except.ok.inj h
    simp
  | cons item items ih =>
    rcases mapRelationships_cons_ok h with ⟨hitem, hmapped⟩ | ⟨hitem, hmapped⟩
    · obtain ⟨sourceEntityId, targetEntityId, record, rest, hsource, htarget, hrecord, hrest, rfl⟩ :=
        hmapped
      obtain ⟨hrecords, hwarnings⟩ := ih hrest
      obtain ⟨hfrom, hto⟩ := mapRelationship_ids hrecord
      refine ⟨List.forall_mem_cons.mpr ⟨⟨?_, ?_, ?_⟩, hrecords⟩, ?_⟩
      · exact sourceLinks_grounded (mapRelationship_ok hrecord)
      · exact ⟨_, hfrom ▸ hsource⟩
      · exact ⟨_, hto ▸ htarget⟩
      · simpa [hitem] using hwarnings
    · obtain ⟨hrecords, hwarnings⟩ := ih hmapped
      exact ⟨hrecords, by simpa [hitem] using hwarnings⟩

theorem mapRelationships_succeeds_iff (artifact : Artifact) (metadata : Metadata)
    {items : List (LLMContextRelationship × Nat)} (warnings : List Text) :
    Succeeds (mapRelationships runtime artifact chunks metadata ids items warnings) ↔
      ∀ item ∈ items, Identified runtime ids item.1 → ∀ reference ∈ item.1.sourceReferences.1,
        reference.Cites chunks := by
  induction items generalizing warnings with
  | nil => exact ⟨fun _ _ hmem => absurd hmem List.not_mem_nil, fun _ => ⟨_, rfl⟩⟩
  | cons item items ih =>
    rw [List.forall_mem_cons]
    by_cases hitem : Identified runtime ids item.1
    · obtain ⟨sourceEntityId, targetEntityId, -, -, heq⟩ :=
        mapRelationships_identified artifact chunks metadata hitem items warnings
      have hrecord : Succeeds (mapRelationship runtime artifact chunks metadata sourceEntityId
          targetEntityId item) ↔ ∀ reference ∈ item.1.sourceReferences.1, reference.Cites chunks := by
        rw [← sourceLinks_succeeds_iff artifact]
        exact succeeds_bind_total fun links => ⟨_, rfl⟩
      rw [heq, succeeds_bind, ← ih warnings]
      simp only [succeeds_bind_total fun a => succeeds_pure _, hitem, forall_const, ← hrecord]
      exact ⟨fun ⟨record, hrecord, hrest⟩ => ⟨⟨record, hrecord⟩, hrest⟩,
        fun ⟨⟨record, hrecord⟩, hrest⟩ => ⟨record, hrecord, hrest⟩⟩
    · rw [mapRelationships_dropped hitem, ih]
      simp [hitem]

end Relationships

section Output

variable {runtime : Runtime} {artifact : Artifact} {chunks : List ArtifactChunk}
  {step : ResolvedContextModelStep} {output : LLMExtractionOutput}

def entityIdsByName (runtime : Runtime) (entities : List ContextEntity) : Dict Text Text :=
  Dict.ofList (entities.map fun entity => (normalizeEntityName runtime entity.name, entity.id))

theorem identified_iff_resolves {metadata : Metadata} {entities : List ContextEntity}
    (h : mapAll (mapEntity runtime artifact chunks metadata) output.entities.zipIdx = .ok entities)
    (item : LLMContextRelationship) :
    Identified runtime (entityIdsByName runtime entities) item ↔ output.Resolves runtime item :=
  and_congr (entityIdsByName_isSome h _) (entityIdsByName_isSome h _)

theorem entityIdsByName_mem {entities : List ContextEntity} {name id : Text}
    (h : (entityIdsByName runtime entities).get? name = some id) :
    ∃ entity ∈ entities, entity.id = id := by
  obtain ⟨entity, hentity, heq⟩ := List.mem_map.mp (Dict.mem_ofList (Dict.mem_of_get?_eq_some h))
  exact ⟨entity, hentity, (Prod.mk.inj heq).2⟩

theorem mapExtractionOutput_eq_ok {result : ExtractionResult} :
    mapExtractionOutput runtime artifact chunks step output = .ok result ↔
      ∃ warnings, mapAll (mapEntity runtime artifact chunks
          (metadataForGeneratedStep (runtime.now 0) step)) output.entities.zipIdx =
        .ok result.entities ∧
      mapAll (mapSignal runtime artifact chunks
          (metadataForGeneratedStep (runtime.now 0) step)) output.signals.zipIdx =
        .ok result.signals ∧
      mapRelationships runtime artifact chunks (metadataForGeneratedStep (runtime.now 0) step)
          (entityIdsByName runtime result.entities) output.relationships.zipIdx output.warnings =
        .ok (result.relationships, warnings) ∧
      mapActionableItems runtime artifact chunks step 1 output.actionableItems =
        .ok result.actionableItems ∧
      result.metadata = [("generated_by".toList, .text "llm".toList),
        ("warnings".toList, .texts warnings)] := by
  constructor
  · intro h
    obtain ⟨entities, hentities, h⟩ := bind_eq_ok.mp h
    obtain ⟨signals, hsignals, h⟩ := bind_eq_ok.mp h
    obtain ⟨relationships, hrelationships, h⟩ := bind_eq_ok.mp h
    obtain ⟨items, hitems, h⟩ := bind_eq_ok.mp h
    obtain rfl := pure_eq_ok.mp h
    exact ⟨relationships.2, hentities, hsignals, hrelationships, hitems, rfl⟩
  · obtain ⟨entities, relationships, signals, items, metadata⟩ := result
    rintro ⟨warnings, hentities, hsignals, hrelationships, hitems, rfl⟩
    refine bind_eq_ok.mpr ⟨entities, hentities, bind_eq_ok.mpr ⟨signals, hsignals, ?_⟩⟩
    exact bind_eq_ok.mpr ⟨_, hrelationships, bind_eq_ok.mpr ⟨items, hitems, rfl⟩⟩

theorem mapEntity_succeeds_iff (runtime : Runtime) (metadata : Metadata) (item : LLMContextEntity × Nat) :
    Succeeds (mapEntity runtime artifact chunks metadata item) ↔
      Succeeds (sourceLinks artifact chunks item.1.sourceReferences.1) :=
  succeeds_bind_total fun _ => ⟨_, rfl⟩

theorem mapSignal_succeeds_iff (runtime : Runtime) (metadata : Metadata) (item : LLMContextSignal × Nat) :
    Succeeds (mapSignal runtime artifact chunks metadata item) ↔
      Succeeds (sourceLinks artifact chunks item.1.sourceReferences.1) :=
  succeeds_bind_total fun _ => ⟨_, rfl⟩

theorem mapActionableItem_succeeds_iff (runtime : Runtime) (metadata : Metadata) (item : LLMActionableItem × Nat) :
    Succeeds (mapActionableItem runtime artifact chunks metadata item) ↔
      Succeeds (sourceLinks artifact chunks item.1.evidenceLinks.1) :=
  succeeds_bind_total fun _ => ⟨_, rfl⟩

theorem keptReferences_cite_iff : (∀ reference ∈ output.keptReferences runtime,
      reference.Cites chunks) ↔
    (∀ reference ∈ output.entities.flatMap (fun item => item.sourceReferences.1),
      reference.Cites chunks) ∧
    (∀ reference ∈ output.signals.flatMap (fun item => item.sourceReferences.1),
      reference.Cites chunks) ∧
    (∀ item ∈ output.relationships.zipIdx, output.Resolves runtime item.1 →
      ∀ reference ∈ item.1.sourceReferences.1, reference.Cites chunks) ∧
    (∀ reference ∈ output.actionableItems.flatMap (fun item => item.evidenceLinks.1),
      reference.Cites chunks) := by
  rw [zipIdx_forall_iff (P := fun item : LLMContextRelationship => output.Resolves runtime item →
    ∀ reference ∈ item.sourceReferences.1, reference.Cites chunks)]
  simp only [LLMExtractionOutput.keptReferences, List.forall_mem_append, List.forall_mem_flatMap,
    List.mem_filter, decide_eq_true_eq, and_imp]
  tauto

/-- An output is mapped exactly when each reference of a record that is kept cites a chunk. -/
theorem mapExtractionOutput_succeeds_iff (runtime : Runtime) (artifact : Artifact)
    (chunks : List ArtifactChunk) (step : ResolvedContextModelStep) (output : LLMExtractionOutput) :
    Succeeds (mapExtractionOutput runtime artifact chunks step output) ↔
      ∀ reference ∈ output.keptReferences runtime, reference.Cites chunks := by
  have hentities := mapped_succeeds_iff artifact chunks
    (fun item : LLMContextEntity => item.sourceReferences)
    (mapEntity_succeeds_iff runtime (metadataForGeneratedStep (runtime.now 0) step))
    output.entities
  have hsignals := mapped_succeeds_iff artifact chunks
    (fun item : LLMContextSignal => item.sourceReferences)
    (mapSignal_succeeds_iff runtime (metadataForGeneratedStep (runtime.now 0) step))
    output.signals
  have hitems := mapped_succeeds_iff artifact chunks
    (fun item : LLMActionableItem => item.evidenceLinks)
    (mapActionableItem_succeeds_iff runtime
      (metadataForGeneratedStep (runtime.now 1) step)) output.actionableItems
  rw [keptReferences_cite_iff, ← hentities, ← hsignals, ← hitems]
  constructor
  · rintro ⟨result, h⟩
    obtain ⟨warnings, hents, hsigs, hrels, hacts, -⟩ := mapExtractionOutput_eq_ok.mp h
    refine ⟨⟨_, hents⟩, ⟨_, hsigs⟩, ?_, ⟨_, hacts⟩⟩
    simp only [← identified_iff_resolves hents]
    exact (mapRelationships_succeeds_iff artifact _ output.warnings).mp ⟨_, hrels⟩
  · rintro ⟨⟨entities, hents⟩, ⟨signals, hsigs⟩, hkept, ⟨items, hacts⟩⟩
    simp only [← identified_iff_resolves hents] at hkept
    obtain ⟨relationships, hrels⟩ := (mapRelationships_succeeds_iff artifact
      (metadataForGeneratedStep (runtime.now 0) step) output.warnings).mpr hkept
    exact ⟨⟨entities, relationships.1, signals, items, _⟩,
      mapExtractionOutput_eq_ok.mpr ⟨relationships.2, hents, hsigs, hrels, hacts, rfl⟩⟩

theorem zipIdx_filter_map {μ ρ : Type} (p : μ → Bool) (f : μ → ρ) (items : List μ) :
    (items.zipIdx.filter fun item => p item.1).map (fun item => f item.1) =
      (items.filter p).map f := by
  conv_rhs => rw [← List.zipIdx_map_fst 0 items, List.filter_map, List.map_map]
  rfl

theorem eq_nil_iff_of_mapAll {μ ρ : Type} {map : μ × Nat → Except Raised ρ} {items : List μ}
    {records : List ρ} (h : mapAll map items.zipIdx = .ok records) : records = [] ↔ items = [] := by
  have hlength := length_mapAll h
  rw [List.length_zipIdx] at hlength
  rw [← List.length_eq_zero_iff, hlength, List.length_eq_zero_iff]

theorem mapExtractionOutput_grounded {result : ExtractionResult}
    (h : mapExtractionOutput runtime artifact chunks step output = .ok result) :
    Grounded artifact chunks result := by
  obtain ⟨warnings, hentities, hsignals, hrelationships, hitems, -⟩ := mapExtractionOutput_eq_ok.mp h
  have hrecords := (mapRelationships_ok hrelationships).1
  refine ⟨?_, fun relationship hmem => ?_⟩
  · simp only [resultLinks, List.forall_mem_append]
    refine ⟨⟨⟨?_, ?_⟩, ?_⟩, ?_⟩
    · exact mapped_grounded (fun _ _ hrecord => ⟨_, (mapEntity_ok hrecord).1⟩) hentities
    · rw [List.forall_mem_flatMap]
      exact fun record hrecord => (hrecords record hrecord).1
    · exact mapped_grounded (fun _ _ hrecord => ⟨_, mapSignal_ok hrecord⟩) hsignals
    · exact mapped_grounded (fun _ _ hrecord => ⟨_, mapActionableItem_ok hrecord⟩) hitems
  · obtain ⟨-, ⟨source, hsource⟩, ⟨target, htarget⟩⟩ := hrecords relationship hmem
    exact ⟨entityIdsByName_mem hsource, entityIdsByName_mem htarget⟩

theorem mapExtractionOutput_warnings {result : ExtractionResult}
    (h : mapExtractionOutput runtime artifact chunks step output = .ok result) :
    result.metadata = [("generated_by".toList, .text "llm".toList),
      ("warnings".toList, .texts (output.warnings ++ output.droppedWarnings runtime))] := by
  obtain ⟨warnings, hentities, -, hrelationships, -, hmetadata⟩ := mapExtractionOutput_eq_ok.mp h
  have hwarnings := (mapRelationships_ok hrelationships).2
  dsimp only at hwarnings
  simp only [identified_iff_resolves hentities] at hwarnings
  rw [hmetadata, hwarnings, LLMExtractionOutput.droppedWarnings]
  congr 5
  exact zipIdx_filter_map (fun item => decide (¬ output.Resolves runtime item))
    (unresolvedNames runtime) output.relationships

/-- A mapped output has records exactly when the output names something but relationships. -/
theorem mapExtractionOutput_hasOutputs {result : ExtractionResult}
    (h : mapExtractionOutput runtime artifact chunks step output = .ok result) :
    hasOutputs result = true ↔
      output.entities ≠ [] ∨ output.signals ≠ [] ∨ output.actionableItems ≠ [] := by
  obtain ⟨warnings, hentities, hsignals, -, hitems, -⟩ := mapExtractionOutput_eq_ok.mp h
  have hendpoints := (mapExtractionOutput_grounded h).endpoints
  have hrelationships : result.entities = [] → result.relationships = [] := by
    intro hempty
    rw [List.eq_nil_iff_forall_not_mem]
    intro relationship hmem
    obtain ⟨⟨entity, hentity, -⟩, -⟩ := hendpoints relationship hmem
    simp [hempty] at hentity
  rw [ne_eq, ne_eq, ne_eq, ← eq_nil_iff_of_mapAll hentities, ← eq_nil_iff_of_mapAll hsignals,
    ← eq_nil_iff_of_mapAll hitems]
  simp only [hasOutputs, Bool.not_eq_true', Bool.and_eq_false_iff, List.isEmpty_eq_false_iff]
  tauto

end Output

/-! ### The step as a whole -/

section Step

def eraseMetadata (result : ExtractionResult) : ExtractionResult where
  entities := result.entities.map fun entity => { entity with metadata := [] }
  relationships := result.relationships.map fun relationship => { relationship with metadata := [] }
  signals := result.signals.map fun signal => { signal with metadata := [] }
  actionableItems := result.actionableItems.map fun item => { item with metadata := [] }
  metadata := []

def textsOf (metadata : Metadata) (key : Text) : List Text :=
  match metadata.get? key with
  | some (.texts values) => values
  | _ => []

def reportedWarnings (metadata : Metadata) : List Text :=
  textsOf metadata "warnings".toList ++ textsOf metadata "llm_warnings".toList

/-- The step is configured and not deterministic, and the model answers it with the output. -/
def Answers (call : JobSearchCall) (artifact : Artifact) (chunks : List ArtifactChunk)
    (step : ResolvedContextModelStep) (output : LLMExtractionOutput) : Prop :=
  call.context.resolveStep (extractionKey artifact.domainId) = .ok step ∧
  step.mode ≠ .deterministic ∧
  ∃ instructions rendered, call.context.loadPrompt step = .ok instructions ∧
    call.renderPrompt ⟨artifact, chunks, none⟩ = .ok rendered ∧
    runStructured call.context.runner call.site step
      (call.model.extraction step instructions rendered) = .ok output

/-- The mapping stops and leaves the deterministic records, or it resolves every reference and
the result reports what was dropped. -/
def ResolvesAndReports (extractor : LLMAssistedExtractor) (artifact : Artifact)
    (chunks : List ArtifactChunk) (call : JobSearchCall) (step : ResolvedContextModelStep)
    (output : LLMExtractionOutput) (extracted : ExtractionResult) : Prop :=
  ∃ result, extractor.extractWithExecution artifact chunks (some call) = .ok result ∧
    match mapExtractionOutput (extractor.runtime artifact) artifact chunks step output with
    | .error _ => eraseMetadata result = eraseMetadata extracted
    | .ok mapped => Grounded artifact chunks mapped ∧
        ∀ warning ∈ output.droppedWarnings (extractor.runtime artifact),
          warning ∈ reportedWarnings result.metadata

/-- The warning has another way into the result: the output names something to return in LLM
mode, or the text is among the warnings of the deterministic records or of the output. -/
def PassedOn (step : ResolvedContextModelStep) (output : LLMExtractionOutput)
    (extracted : ExtractionResult) (warning : Text) : Prop :=
  if step.mode = .llm then
    (output.entities ≠ [] ∨ output.signals ≠ [] ∨ output.actionableItems ≠ []) ∨
      warning ∈ reportedWarnings extracted.metadata
  else warning ∈ textsOf extracted.metadata "warnings".toList ∨ warning ∈ output.warnings

variable {extractor : LLMAssistedExtractor} {artifact : Artifact} {chunks : List ArtifactChunk}
  {call : JobSearchCall} {step : ResolvedContextModelStep} {output : LLMExtractionOutput}
  {extracted : ExtractionResult}

theorem attempt_of_answers (h : Answers call artifact chunks step output) :
    extractor.attempt artifact chunks call =
      (mapExtractionOutput (extractor.runtime artifact) artifact chunks step output).bind
        fun mapped => .ok (some (step, output, mapped)) := by
  obtain ⟨hstep, hmode, instructions, rendered, hprompt, hrendered, hrun⟩ := h
  rw [LLMAssistedExtractor.attempt, attemptStep, hstep]
  change (if step.mode = .deterministic then _ else _) = _
  rw [if_neg hmode, hprompt]
  change (call.renderPrompt ⟨artifact, chunks, none⟩ >>= _) = _
  rw [hrendered]
  change (runStructured call.context.runner call.site step _ >>= _) = _
  rw [hrun]
  rfl

theorem extractWithExecution_eq (hbase : extractor.base.extract artifact chunks = .ok extracted)
    (call : JobSearchCall) :
    extractor.extractWithExecution artifact chunks (some call) =
      .ok (settleExtraction (markDeterministicExtraction extracted)
        (extractor.attempt artifact chunks call)) := by
  rw [LLMAssistedExtractor.extractWithExecution, hbase]
  rfl

theorem eraseMetadata_mark (result : ExtractionResult) :
    eraseMetadata (markDeterministicExtraction result) = eraseMetadata result := by
  simp only [eraseMetadata, markDeterministicExtraction, List.map_map]
  rfl

theorem eraseMetadata_warned (result : ExtractionResult) (warning : Text) :
    eraseMetadata (withFallbackWarning result warning) = eraseMetadata result := by
  simp only [eraseMetadata, withFallbackWarning, List.map_map]
  rfl

theorem get?_of_textsOf_eq {metadata : Metadata} {key : Text} {values : List Text}
    (h : metadata.get? key = some (.texts values)) : textsOf metadata key = values := by
  rw [textsOf, h]

theorem reportedWarnings_hybrid (metadata : Metadata) (mode : Text) (warnings : List Text) :
    reportedWarnings (metadata.merge
        [("llm_mode".toList, .text mode), ("llm_warnings".toList, .texts warnings)]) =
      textsOf metadata "warnings".toList ++ warnings := by
  have hkeep : (metadata.merge [("llm_mode".toList, .text mode),
      ("llm_warnings".toList, .texts warnings)]).get? "warnings".toList =
        metadata.get? "warnings".toList := by
    simp only [Dict.merge, List.foldl]
    rw [Dict.get?_set_ne (by decide), Dict.get?_set_ne (by decide)]
  have hset : (metadata.merge [("llm_mode".toList, .text mode),
      ("llm_warnings".toList, .texts warnings)]).get? "llm_warnings".toList =
        some (.texts warnings) := Dict.get?_set_self _ _ _
  rw [reportedWarnings, get?_of_textsOf_eq hset, textsOf, hkeep, textsOf]

theorem reportedWarnings_mapped (warnings : List Text) :
    reportedWarnings [("generated_by".toList, .text "llm".toList),
      ("warnings".toList, .texts warnings)] = warnings := by
  simp [reportedWarnings, textsOf, Dict.get?]

/-- Which warnings the settled result reports of those that the mapping wrote. -/
theorem reported_iff_passedOn {mapped : ExtractionResult}
    (h : mapExtractionOutput (extractor.runtime artifact) artifact chunks step output = .ok mapped)
    {warning : Text} (hdropped : warning ∈ output.droppedWarnings (extractor.runtime artifact)) :
    warning ∈ reportedWarnings (settleExtraction (markDeterministicExtraction extracted)
        (.ok (some (step, output, mapped)))).metadata ↔ PassedOn step output extracted warning := by
  have houtputs := mapExtractionOutput_hasOutputs h
  by_cases hllm : step.mode = .llm
  · by_cases hsome : hasOutputs mapped = true
    · have hreported : warning ∈ reportedWarnings mapped.metadata := by
        rw [mapExtractionOutput_warnings h, reportedWarnings_mapped]
        exact List.mem_append_right _ hdropped
      simp [settleExtraction, PassedOn, hllm, hsome, houtputs.mp hsome, hreported]
    · have hnone := mt houtputs.mpr hsome
      simp [settleExtraction, PassedOn, hllm, hsome, hnone, markDeterministicExtraction]
  · simp only [settleExtraction, PassedOn, if_neg hllm, reportedWarnings_hybrid, List.mem_append,
      markDeterministicExtraction]

/-- An answered step resolves its references and reports what it drops exactly when a kept
reference cites no chunk, so that the mapping stops, or every dropped relationship's warning is
passed on in another way. -/
theorem resolvesAndReports_iff (extractor : LLMAssistedExtractor) (artifact : Artifact)
    (chunks : List ArtifactChunk) (call : JobSearchCall) (step : ResolvedContextModelStep)
    (output : LLMExtractionOutput) (extracted : ExtractionResult)
    (hbase : extractor.base.extract artifact chunks = .ok extracted)
    (hanswers : Answers call artifact chunks step output) :
    ResolvesAndReports extractor artifact chunks call step output extracted ↔
      (∃ reference ∈ output.keptReferences (extractor.runtime artifact),
        ¬ reference.Cites chunks) ∨
      ∀ warning ∈ output.droppedWarnings (extractor.runtime artifact),
        PassedOn step output extracted warning := by
  have hsucceeds := mapExtractionOutput_succeeds_iff (extractor.runtime artifact) artifact chunks step
    output
  rw [ResolvesAndReports, extractWithExecution_eq hbase, attempt_of_answers hanswers]
  cases hmap : mapExtractionOutput (extractor.runtime artifact) artifact chunks step output with
  | error raised =>
    have hbad : ∃ reference ∈ output.keptReferences (extractor.runtime artifact),
        ¬ reference.Cites chunks := by
      have hfails : ¬ Succeeds (mapExtractionOutput (extractor.runtime artifact) artifact chunks
          step output) := by simp [Succeeds, hmap]
      simpa using mt hsucceeds.mpr hfails
    refine iff_of_true ⟨_, rfl, ?_⟩ (.inl hbad)
    rw [← eraseMetadata_mark extracted]
    exact eraseMetadata_warned _ _
  | ok mapped =>
    have hcite := hsucceeds.mp ⟨mapped, hmap⟩
    have hgrounded := mapExtractionOutput_grounded hmap
    have hnobad : ¬ ∃ reference ∈ output.keptReferences (extractor.runtime artifact),
        ¬ reference.Cites chunks := fun ⟨reference, hmem, hnot⟩ => hnot (hcite reference hmem)
    rw [or_iff_right hnobad]
    simp only [Except.bind, Except.ok.injEq, exists_eq_left', hgrounded, true_and]
    exact forall₂_congr fun warning hdropped => reported_iff_passedOn hmap hdropped

end Step

section Examples

def hybridCatalog (mode : ContextExecutionMode) : ContextModelFlowCatalog where
  defaultMode := mode
  defaultModelProfile := some "fast".toList
  modelProfiles := [("fast".toList, ⟨"openai".toList, "m".toList, true⟩)]
  flows := [⟨"job_search".toList, "extraction".toList, none, none,
    [⟨"artifact_extraction".toList, "structured_extraction".toList, none,
      "artifact_extraction".toList, "v1".toList⟩]⟩]

/-- One relationship between two names that the output does not introduce, and an entity. -/
def danglingOutput (chunkId : Text) : LLMExtractionOutput where
  entities := [{
    entityType := Filled.cons 's' "kill".toList
    name := Filled.cons 'L' "ean".toList
    explicitOrInferred := .explicit
    confidence := .high
    sourceReferences := ⟨[⟨chunkId, Filled.cons 'd' "ocs".toList, none⟩], List.cons_ne_nil _ _⟩
    rationale := Filled.cons 'r' [] }]
  signals := []
  relationships := [{
    relationshipType := Filled.cons 'u' "ses".toList
    sourceEntityName := Filled.cons 'A' "da".toList
    targetEntityName := Filled.cons ' ' "LEAN".toList
    explicitOrInferred := .inferred
    confidence := .low
    sourceReferences := ⟨[⟨chunkId, Filled.cons 'd' "ocs".toList, none⟩], List.cons_ne_nil _ _⟩
    rationale := Filled.cons 'r' [] }]
  actionableItems := []
  warnings := []

def danglingCall (mode : ContextExecutionMode) : JobSearchCall where
  site := .workerThread
  context := ⟨hybridCatalog mode, ⟨fun _ => true, fun _ => .ok ()⟩, fun _ => .ok [], none⟩
  renderPrompt := fun _ => .ok []
  model := ⟨fun _ _ _ => .ok (danglingOutput "chunk_1".toList), fun _ _ _ => .ok ⟨[], []⟩⟩

def resolvedStep (mode : ContextExecutionMode) : ResolvedContextModelStep :=
  { extractionStep with mode := mode }

def silentExtractor : LLMAssistedExtractor where
  base := ⟨"silent".toList, none, fun _ _ => .ok ⟨[], [], [], [], []⟩⟩
  runtime := fun _ => plainRuntime

theorem dangling_answers {mode : ContextExecutionMode} (h : mode ≠ .deterministic) :
    Answers (danglingCall mode) noteArtifact [noteChunk] (resolvedStep mode)
      (danglingOutput "chunk_1".toList) :=
  ⟨rfl, h, [], [], rfl, rfl, rfl⟩

/-- In LLM mode the dropped relationship is reported, since an entity is returned. -/
theorem dangling_reported_in_llm_mode :
    ResolvesAndReports silentExtractor noteArtifact [noteChunk] (danglingCall .llm)
        (resolvedStep .llm) (danglingOutput "chunk_1".toList) ⟨[], [], [], [], []⟩ ↔
      (∃ reference ∈ (danglingOutput "chunk_1".toList).keptReferences plainRuntime,
        ¬ reference.Cites [noteChunk]) ∨
      ∀ warning ∈ (danglingOutput "chunk_1".toList).droppedWarnings plainRuntime,
        PassedOn (resolvedStep .llm) (danglingOutput "chunk_1".toList) ⟨[], [], [], [], []⟩ warning :=
  resolvesAndReports_iff silentExtractor noteArtifact [noteChunk] (danglingCall .llm)
    (resolvedStep .llm) (danglingOutput "chunk_1".toList) ⟨[], [], [], [], []⟩ rfl
    (dangling_answers (by decide))

/-- In hybrid mode the same relationship is dropped and the returned warnings are empty. -/
theorem dangling_lost_in_hybrid_mode :
    Answers (danglingCall .hybrid) noteArtifact [noteChunk] (resolvedStep .hybrid)
        (danglingOutput "chunk_1".toList) ∧
      ¬ ResolvesAndReports silentExtractor noteArtifact [noteChunk] (danglingCall .hybrid)
        (resolvedStep .hybrid) (danglingOutput "chunk_1".toList) ⟨[], [], [], [], []⟩ := by
  refine ⟨dangling_answers (by decide), ?_⟩
  rintro ⟨result, hresult, hreported⟩
  have hsilent : reportedWarnings result.metadata = [] := by
    rw [← Except.ok.inj hresult]
    decide +kernel
  have hdropped : "Dropped relationship with unresolved entity names: 'Ada' -> ' LEAN'.".toList ∈
      (danglingOutput "chunk_1".toList).droppedWarnings plainRuntime := by decide +kernel
  have hwarning := hreported.2 _ hdropped
  rw [hsilent] at hwarning
  exact absurd hwarning List.not_mem_nil

end Examples

end DemoService.JobSearch
