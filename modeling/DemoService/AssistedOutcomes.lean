import DemoService.AssistedSteps
import DemoService.DroppedRelationships

/-! What the assisted extractor and task generator return, whatever the model does. A step is
deterministic, or it fails somewhere between its resolution and the mapping of the model's output,
or its output is mapped; only in the last case do the model's records count. -/

namespace DemoService.JobSearch

open PyText Context Fallible

section Steps

variable {ω ρ : Type} (call : JobSearchCall) (key : StepKey) (prompt : Prompt)
  (answer : ResolvedContextModelStep → Text → Text → Except Raised ω)
  (map : ResolvedContextModelStep → ω → Except Raised ρ)

/-- The step is configured to leave the model out. -/
def StepIgnored : Prop :=
  ∃ step, call.context.resolveStep key = .ok step ∧ step.mode = .deterministic

/-- The step is configured for the model, its prompts are there, and the model has answered it. -/
def StepAnswered (step : ResolvedContextModelStep) (output : ω) : Prop :=
  call.context.resolveStep key = .ok step ∧ step.mode ≠ .deterministic ∧
    ∃ instructions rendered, call.context.loadPrompt step = .ok instructions ∧
      call.renderPrompt prompt = .ok rendered ∧
      runStructured call.context.runner call.site step (answer step instructions rendered) =
        .ok output

def StepMapped (step : ResolvedContextModelStep) (output : ω) (mapped : ρ) : Prop :=
  StepAnswered call key prompt answer step output ∧ map step output = .ok mapped

/-- The places where a step can fail. -/
inductive StepFails (raised : Raised) : Prop
  | unresolved (h : call.context.resolveStep key = .error raised)
  | unreadable {step : ResolvedContextModelStep} (hstep : call.context.resolveStep key = .ok step)
      (hmode : step.mode ≠ .deterministic) (h : call.context.loadPrompt step = .error raised)
  | unrendered {step : ResolvedContextModelStep} {instructions : Text}
      (hstep : call.context.resolveStep key = .ok step) (hmode : step.mode ≠ .deterministic)
      (hprompt : call.context.loadPrompt step = .ok instructions)
      (h : call.renderPrompt prompt = .error raised)
  | unanswered {step : ResolvedContextModelStep} {instructions rendered : Text}
      (hstep : call.context.resolveStep key = .ok step) (hmode : step.mode ≠ .deterministic)
      (hprompt : call.context.loadPrompt step = .ok instructions)
      (hrendered : call.renderPrompt prompt = .ok rendered)
      (h : runStructured call.context.runner call.site step (answer step instructions rendered) =
        .error raised)
  | unmapped {step : ResolvedContextModelStep} {output : ω}
      (hanswered : StepAnswered call key prompt answer step output)
      (h : map step output = .error raised)

variable {call key prompt answer map}

theorem attemptStep_ignored (h : StepIgnored call key) :
    attemptStep call key prompt answer map = .ok none := by
  obtain ⟨step, hstep, hmode⟩ := h
  rw [attemptStep, hstep]
  exact if_pos hmode

theorem attemptStep_answered {step : ResolvedContextModelStep} {output : ω}
    (h : StepAnswered call key prompt answer step output) :
    attemptStep call key prompt answer map =
      (map step output).bind fun mapped => .ok (some (step, output, mapped)) := by
  obtain ⟨hstep, hmode, instructions, rendered, hprompt, hrendered, hrun⟩ := h
  rw [attemptStep_prepared hstep hmode hprompt hrendered, hrun]
  rfl

theorem attemptStep_mapped {step : ResolvedContextModelStep} {output : ω} {mapped : ρ}
    (h : StepMapped call key prompt answer map step output mapped) :
    attemptStep call key prompt answer map = .ok (some (step, output, mapped)) := by
  rw [attemptStep_answered h.1, h.2]
  rfl

theorem attemptStep_fails {raised : Raised}
    (h : StepFails call key prompt answer map raised) :
    attemptStep call key prompt answer map = .error raised := by
  cases h with
  | unresolved h =>
    rw [attemptStep, h]
    rfl
  | unreadable hstep hmode h =>
    rw [attemptStep, hstep]
    change (if _ then _ else _) = _
    rw [if_neg hmode, h]
    rfl
  | unrendered hstep hmode hprompt h =>
    rw [attemptStep, hstep]
    change (if _ then _ else _) = _
    rw [if_neg hmode, hprompt]
    change (call.renderPrompt prompt >>= _) = _
    rw [h]
    rfl
  | unanswered hstep hmode hprompt hrendered h =>
    rw [attemptStep_prepared hstep hmode hprompt hrendered, h]
    rfl
  | unmapped hanswered h =>
    rw [attemptStep_answered hanswered, h]
    rfl

/-- Every step is of one of the three kinds. -/
theorem step_cases (call : JobSearchCall) (key : StepKey) (prompt : Prompt)
    (answer : ResolvedContextModelStep → Text → Text → Except Raised ω)
    (map : ResolvedContextModelStep → ω → Except Raised ρ) :
    StepIgnored call key ∨ (∃ raised, StepFails call key prompt answer map raised) ∨
      ∃ step output mapped, StepMapped call key prompt answer map step output mapped := by
  cases hstep : call.context.resolveStep key with
  | error raised => exact .inr (.inl ⟨raised, .unresolved hstep⟩)
  | ok step =>
    by_cases hmode : step.mode = .deterministic
    · exact .inl ⟨step, hstep, hmode⟩
    · refine .inr ?_
      cases hprompt : call.context.loadPrompt step with
      | error raised => exact .inl ⟨raised, .unreadable hstep hmode hprompt⟩
      | ok instructions =>
        cases hrendered : call.renderPrompt prompt with
        | error raised => exact .inl ⟨raised, .unrendered hstep hmode hprompt hrendered⟩
        | ok rendered =>
          cases hrun : runStructured call.context.runner call.site step
              (answer step instructions rendered) with
          | error raised => exact .inl ⟨raised, .unanswered hstep hmode hprompt hrendered hrun⟩
          | ok output =>
            have hanswered : StepAnswered call key prompt answer step output :=
              ⟨hstep, hmode, instructions, rendered, hprompt, hrendered, hrun⟩
            cases hmap : map step output with
            | error raised => exact .inl ⟨raised, .unmapped hanswered hmap⟩
            | ok mapped => exact .inr ⟨step, output, mapped, hanswered, hmap⟩

end Steps

section Extraction

variable {extractor : LLMAssistedExtractor} {artifact : Artifact} {chunks : List ArtifactChunk}
  {extracted : ExtractionResult}

/-- The records of both results, the first ones in front. -/
def together (first second : ExtractionResult) : ExtractionResult where
  entities := first.entities ++ second.entities
  relationships := first.relationships ++ second.relationships
  signals := first.signals ++ second.signals
  actionableItems := first.actionableItems ++ second.actionableItems
  metadata := []

def ExtractionFails (extractor : LLMAssistedExtractor) (artifact : Artifact)
    (chunks : List ArtifactChunk) (call : JobSearchCall) (raised : Raised) : Prop :=
  StepFails call (extractionKey artifact.domainId) ⟨artifact, chunks, none⟩ call.model.extraction
    (mapExtractionOutput (extractor.runtime artifact) artifact chunks) raised

/-- What an extraction with an execution context returns, its records compared without their
annotations: the deterministic records if the model is left out or fails, and then with the
warning unless the deterministic result has one of its own; both in hybrid mode; and in LLM mode
the model's if there are any. An output with a reference to no chunk is a failure. -/
structure ExtractionSettles (extractor : LLMAssistedExtractor) (artifact : Artifact)
    (chunks : List ArtifactChunk) (extracted : ExtractionResult) (call : JobSearchCall)
    (result : ExtractionResult) : Prop where
  ignored : StepIgnored call (extractionKey artifact.domainId) →
    eraseMetadata result = eraseMetadata extracted
  failed : ∀ raised, ExtractionFails extractor artifact chunks call raised →
    eraseMetadata result = eraseMetadata extracted ∧
      result.metadata.get? fallbackWarningKey =
        some ((extracted.metadata.get? fallbackWarningKey).getD (.text (llmFailed raised)))
  ungrounded : ∀ step output, Answers call artifact chunks step output →
    (∃ reference ∈ output.keptReferences (extractor.runtime artifact), ¬ reference.Cites chunks) →
    ∃ raised, ExtractionFails extractor artifact chunks call raised
  hybrid : ∀ step output mapped, Answers call artifact chunks step output →
    mapExtractionOutput (extractor.runtime artifact) artifact chunks step output = .ok mapped →
    step.mode = .hybrid → eraseMetadata result = eraseMetadata (together extracted mapped)
  llm : ∀ step output mapped, Answers call artifact chunks step output →
    mapExtractionOutput (extractor.runtime artifact) artifact chunks step output = .ok mapped →
    step.mode = .llm →
    eraseMetadata result = eraseMetadata (if hasOutputs mapped then mapped else extracted)

theorem get?_warning (metadata : Metadata) (warning : Text) :
    (metadata.setdefault fallbackWarningKey (.text warning)).get? fallbackWarningKey =
      some ((metadata.get? fallbackWarningKey).getD (.text warning)) := by
  by_cases h : Unwarned metadata
  · rw [get?_setdefault_unwarned h, show metadata.get? fallbackWarningKey = none from h]
    rfl
  · rw [setdefault_warned h]
    obtain ⟨value, hvalue⟩ := Option.ne_none_iff_exists'.mp h
    rw [hvalue]
    rfl

theorem extraction_settles (hbase : extractor.base.extract artifact chunks = .ok extracted)
    (call : JobSearchCall) :
    ∃ result, extractor.extractWithExecution artifact chunks (some call) = .ok result ∧
      ExtractionSettles extractor artifact chunks extracted call result := by
  refine ⟨_, extractWithExecution_eq hbase call, ?_⟩
  constructor
  case ignored =>
    intro h
    rw [LLMAssistedExtractor.attempt, attemptStep_ignored h]
    exact eraseMetadata_mark extracted
  case failed =>
    intro raised h
    rw [LLMAssistedExtractor.attempt, attemptStep_fails h]
    exact ⟨(eraseMetadata_warned _ _).trans (eraseMetadata_mark extracted), get?_warning _ _⟩
  case ungrounded =>
    rintro step output hanswers ⟨reference, hreference, hcites⟩
    cases hmap : mapExtractionOutput (extractor.runtime artifact) artifact chunks step output with
    | error raised => exact ⟨raised, .unmapped hanswers hmap⟩
    | ok mapped =>
      have hall := (mapExtractionOutput_succeeds_iff _ artifact chunks step output).mp ⟨_, hmap⟩
      exact absurd (hall reference hreference) hcites
  case hybrid =>
    intro step output mapped hanswers hmap hmode
    have hnot : step.mode ≠ .llm := by simp [hmode]
    rw [LLMAssistedExtractor.attempt, attemptStep_mapped ⟨hanswers, hmap⟩]
    simp only [settleExtraction, if_neg hnot, eraseMetadata, together, markDeterministicExtraction,
      List.map_append, List.map_map]
    rfl
  case llm =>
    intro step output mapped hanswers hmap hmode
    rw [LLMAssistedExtractor.attempt, attemptStep_mapped ⟨hanswers, hmap⟩]
    simp only [settleExtraction, if_pos hmode]
    split
    · rfl
    · exact eraseMetadata_mark extracted

theorem extraction_without_context (hbase : extractor.base.extract artifact chunks = .ok extracted) :
    ∃ result, extractor.extractWithExecution artifact chunks none = .ok result ∧
      eraseMetadata result = eraseMetadata extracted := by
  refine ⟨withFallbackWarning (markDeterministicExtraction extracted) notConfigured, ?_, ?_⟩
  · rw [LLMAssistedExtractor.extractWithExecution, hbase]
    rfl
  · exact (eraseMetadata_warned _ _).trans (eraseMetadata_mark extracted)

end Extraction

section Generation

variable {generator : LLMAssistedTaskGenerator} {artifact : Artifact} {chunks : List ArtifactChunk}
  {currentItems generated : List ActionableItem}

def eraseItems (items : List ActionableItem) : List ActionableItem :=
  items.map fun item => { item with metadata := [] }

/-- The prompt shows the current items and the deterministic ones. -/
def generationPrompt (artifact : Artifact) (chunks : List ArtifactChunk)
    (currentItems generated : List ActionableItem) : Prompt :=
  ⟨artifact, chunks, some (currentItems ++ generated.map markDeterministicItem)⟩

def GenerationAnswered (artifact : Artifact) (chunks : List ArtifactChunk)
    (currentItems generated : List ActionableItem) (call : JobSearchCall)
    (step : ResolvedContextModelStep) (output : LLMActionableItemOutput) : Prop :=
  StepAnswered call (actionableItemKey artifact.domainId)
    (generationPrompt artifact chunks currentItems generated) call.model.actionableItems step output

/-- The mapping of the guarded part. -/
def LLMAssistedTaskGenerator.mapItems (generator : LLMAssistedTaskGenerator) (artifact : Artifact)
    (chunks : List ArtifactChunk) (step : ResolvedContextModelStep)
    (output : LLMActionableItemOutput) : Except Raised (List ActionableItem) :=
  mapActionableItems (generator.runtime artifact) artifact chunks step 0 output.actionableItems

def GenerationFails (generator : LLMAssistedTaskGenerator) (artifact : Artifact)
    (chunks : List ArtifactChunk) (currentItems generated : List ActionableItem)
    (call : JobSearchCall) (raised : Raised) : Prop :=
  StepFails call (actionableItemKey artifact.domainId)
    (generationPrompt artifact chunks currentItems generated) call.model.actionableItems
    (generator.mapItems artifact chunks) raised

/-- What a generation with an execution context adds to the current items: the deterministic items
if the model is left out or fails, both in hybrid mode, and in LLM mode the model's if there are
any. An output with a reference to no chunk is a failure. -/
structure GenerationSettles (generator : LLMAssistedTaskGenerator) (artifact : Artifact)
    (chunks : List ArtifactChunk) (currentItems generated : List ActionableItem)
    (call : JobSearchCall) (added : List ActionableItem) : Prop where
  ignored : StepIgnored call (actionableItemKey artifact.domainId) →
    eraseItems added = eraseItems generated
  failed : ∀ raised, GenerationFails generator artifact chunks currentItems generated call raised →
    eraseItems added = eraseItems generated
  ungrounded : ∀ step output,
    GenerationAnswered artifact chunks currentItems generated call step output →
    (∃ reference ∈ output.actionableItems.flatMap (fun item => item.evidenceLinks.1),
      ¬ reference.Cites chunks) →
    ∃ raised, GenerationFails generator artifact chunks currentItems generated call raised
  hybrid : ∀ step output mapped,
    GenerationAnswered artifact chunks currentItems generated call step output →
    generator.mapItems artifact chunks step output = .ok mapped →
    step.mode = .hybrid → eraseItems added = eraseItems (generated ++ mapped)
  llm : ∀ step output mapped,
    GenerationAnswered artifact chunks currentItems generated call step output →
    generator.mapItems artifact chunks step output = .ok mapped →
    step.mode = .llm → eraseItems added = eraseItems (if mapped = [] then generated else mapped)

theorem eraseItems_mark (items : List ActionableItem) :
    eraseItems (items.map markDeterministicItem) = eraseItems items := by
  simp only [eraseItems, List.map_map]
  rfl

theorem eraseItems_warned (warning : Text) (items : List ActionableItem) :
    eraseItems (items.map (setWarning warning)) = eraseItems items := by
  simp only [eraseItems, List.map_map]
  rfl

theorem attempt_eq (generator : LLMAssistedTaskGenerator) (artifact : Artifact)
    (chunks : List ArtifactChunk) (currentItems generated : List ActionableItem)
    (call : JobSearchCall) :
    generator.attempt artifact chunks (currentItems ++ generated.map markDeterministicItem) call =
      attemptStep call (actionableItemKey artifact.domainId)
        (generationPrompt artifact chunks currentItems generated) call.model.actionableItems
        (generator.mapItems artifact chunks) := rfl

theorem generateWithExecution_eq (hbase : generator.base.generate artifact = .ok generated)
    (call : JobSearchCall) :
    generator.generateWithExecution artifact chunks currentItems (some call) =
      .ok (settleItems currentItems (generated.map markDeterministicItem)
        (generator.attempt artifact chunks (currentItems ++ generated.map markDeterministicItem)
          call)) := by
  rw [LLMAssistedTaskGenerator.generateWithExecution, hbase]
  rfl

/-- The items after the guarded part, without the current ones. -/
def settledItems (deterministic : List ActionableItem) :
    Except Raised (Option (ResolvedContextModelStep × LLMActionableItemOutput ×
      List ActionableItem)) → List ActionableItem
  | .error raised => deterministic.map (setWarning (llmFailed raised))
  | .ok none => deterministic
  | .ok (some (step, _, llmItems)) =>
    if step.mode = .llm then if llmItems = [] then deterministic else llmItems
    else deterministic ++ llmItems

theorem settleItems_eq (currentItems deterministic : List ActionableItem)
    (outcome : Except Raised (Option (ResolvedContextModelStep × LLMActionableItemOutput ×
      List ActionableItem))) :
    settleItems currentItems deterministic outcome =
      currentItems ++ settledItems deterministic outcome := by
  rcases outcome with raised | _ | ⟨step, output, llmItems⟩
  · rfl
  · rfl
  · simp only [settleItems, settledItems]
    split
    · rfl
    · rw [List.append_assoc]

theorem generation_settles (hbase : generator.base.generate artifact = .ok generated)
    (chunks : List ArtifactChunk) (currentItems : List ActionableItem) (call : JobSearchCall) :
    ∃ added, generator.generateWithExecution artifact chunks currentItems (some call) =
        .ok (currentItems ++ added) ∧
      GenerationSettles generator artifact chunks currentItems generated call added := by
  refine ⟨_, (generateWithExecution_eq hbase call).trans (by rw [settleItems_eq]), ?_⟩
  constructor
  case ignored =>
    intro h
    rw [attempt_eq, attemptStep_ignored h]
    exact eraseItems_mark generated
  case failed =>
    intro raised h
    rw [attempt_eq, attemptStep_fails h]
    exact (eraseItems_warned _ _).trans (eraseItems_mark generated)
  case ungrounded =>
    rintro step output hanswered ⟨reference, hreference, hcites⟩
    cases hmap : generator.mapItems artifact chunks step output with
    | error raised => exact ⟨raised, .unmapped hanswered hmap⟩
    | ok mapped =>
      have hall := (mapped_succeeds_iff artifact chunks
        (fun item : LLMActionableItem => item.evidenceLinks)
        (mapActionableItem_succeeds_iff (generator.runtime artifact)
          (metadataForGeneratedStep ((generator.runtime artifact).now 0) step))
        output.actionableItems).mp ⟨mapped, hmap⟩
      exact absurd (hall reference hreference) hcites
  case hybrid =>
    intro step output mapped hanswered hmap hmode
    have hnot : step.mode ≠ .llm := by simp [hmode]
    rw [attempt_eq, attemptStep_mapped ⟨hanswered, hmap⟩]
    simp only [settledItems, if_neg hnot, eraseItems, List.map_append, List.map_map]
    rfl
  case llm =>
    intro step output mapped hanswered hmap hmode
    rw [attempt_eq, attemptStep_mapped ⟨hanswered, hmap⟩]
    simp only [settledItems, if_pos hmode]
    split
    · exact eraseItems_mark generated
    · rfl

theorem generation_without_context (hbase : generator.base.generate artifact = .ok generated) :
    ∃ added, generator.generateWithExecution artifact chunks currentItems none =
        .ok (currentItems ++ added) ∧ eraseItems added = eraseItems generated := by
  refine ⟨(generated.map markDeterministicItem).map (setWarning notConfigured), ?_, ?_⟩
  · rw [LLMAssistedTaskGenerator.generateWithExecution, hbase]
    rfl
  · exact (eraseItems_warned _ _).trans (eraseItems_mark generated)

/-- Whatever the model does, the assisted extractor and task generator return once their
deterministic parts do, and its records are added, stand in for the deterministic ones, or are
left out. -/
theorem model_adds_or_is_ignored (extractor : LLMAssistedExtractor)
    (generator : LLMAssistedTaskGenerator) (artifact : Artifact) (chunks : List ArtifactChunk)
    (currentItems : List ActionableItem) :
    (∀ extracted, extractor.base.extract artifact chunks = .ok extracted →
      (∃ result, extractor.extractWithExecution artifact chunks none = .ok result ∧
        eraseMetadata result = eraseMetadata extracted) ∧
      ∀ call, ∃ result, extractor.extractWithExecution artifact chunks (some call) = .ok result ∧
        ExtractionSettles extractor artifact chunks extracted call result) ∧
    (∀ generated, generator.base.generate artifact = .ok generated →
      (∃ added, generator.generateWithExecution artifact chunks currentItems none =
          .ok (currentItems ++ added) ∧ eraseItems added = eraseItems generated) ∧
      ∀ call, ∃ added, generator.generateWithExecution artifact chunks currentItems (some call) =
          .ok (currentItems ++ added) ∧
        GenerationSettles generator artifact chunks currentItems generated call added) :=
  ⟨fun _ hbase => ⟨extraction_without_context hbase, extraction_settles hbase⟩,
    fun _ hbase => ⟨generation_without_context hbase, generation_settles hbase chunks currentItems⟩⟩

end Generation

section Examples

def silentGenerator : LLMAssistedTaskGenerator where
  base := ⟨"silent".toList, fun _ => .ok []⟩
  runtime := fun _ => plainRuntime

/-- The one record of an extractor that finds what the note is about. -/
def docsResult : ExtractionResult where
  entities := [⟨"entity_docs".toList, "topic".toList, "docs".toList, [noteChunk.sourceLink], []⟩]
  relationships := []
  signals := []
  actionableItems := []
  metadata := []

def docsExtractor : LLMAssistedExtractor where
  base := ⟨"docs".toList, none, fun _ _ => .ok docsResult⟩
  runtime := fun _ => plainRuntime

/-- A model that cites the note's chunk adds its entity, and one that cites a chunk which is not
there is left out. -/
theorem known_chunk_adds_and_unknown_is_ignored :
    (∃ result mapped, docsExtractor.extractWithExecution noteArtifact [noteChunk]
        (some (danglingCall .hybrid)) = .ok result ∧
      ExtractionSettles docsExtractor noteArtifact [noteChunk] docsResult (danglingCall .hybrid)
        result ∧ mapped.entities.length = 1 ∧
      eraseMetadata result = eraseMetadata (together docsResult mapped)) ∧
    ∃ result, docsExtractor.extractWithExecution noteArtifact [] (some (danglingCall .llm)) =
        .ok result ∧
      ExtractionSettles docsExtractor noteArtifact [] docsResult (danglingCall .llm) result ∧
      eraseMetadata result = eraseMetadata docsResult := by
  constructor
  · obtain ⟨result, hresult, hsettles⟩ := ((model_adds_or_is_ignored docsExtractor silentGenerator
      noteArtifact [noteChunk] []).1 docsResult rfl).2 (danglingCall .hybrid)
    have hmap : ((mapExtractionOutput plainRuntime noteArtifact [noteChunk] (resolvedStep .hybrid)
        (danglingOutput "chunk_1".toList)).toOption.map fun mapped => mapped.entities.length) =
          some 1 := by decide +kernel
    cases hmapped : mapExtractionOutput plainRuntime noteArtifact [noteChunk] (resolvedStep .hybrid)
        (danglingOutput "chunk_1".toList) with
    | error raised =>
      rw [hmapped] at hmap
      cases hmap
    | ok mapped =>
      rw [hmapped] at hmap
      exact ⟨result, mapped, hresult, hsettles, Option.some.inj hmap,
        hsettles.hybrid _ _ mapped (dangling_answers (by decide)) hmapped rfl⟩
  · obtain ⟨result, hresult, hsettles⟩ := ((model_adds_or_is_ignored docsExtractor silentGenerator
      noteArtifact [] []).1 docsResult rfl).2 (danglingCall .llm)
    have hanswers : Answers (danglingCall .llm) noteArtifact [] (resolvedStep .llm)
        (danglingOutput "chunk_1".toList) := ⟨rfl, by decide, [], [], rfl, rfl, rfl⟩
    have hkept : (danglingOutput "chunk_1".toList).keptReferences plainRuntime ≠ [] := by
      decide +kernel
    obtain ⟨reference, rest, hreferences⟩ := List.exists_cons_of_ne_nil hkept
    have hmem : reference ∈ (danglingOutput "chunk_1".toList).keptReferences plainRuntime :=
      hreferences ▸ List.mem_cons_self
    have hnowhere : ¬ reference.Cites [] := by
      rintro ⟨⟨chunk, hchunk, -⟩, -⟩
      exact absurd hchunk List.not_mem_nil
    obtain ⟨raised, hfails⟩ := hsettles.ungrounded _ _ hanswers ⟨reference, hmem, hnowhere⟩
    exact ⟨result, hresult, hsettles, (hsettles.failed raised hfails).1⟩

end Examples

end DemoService.JobSearch
