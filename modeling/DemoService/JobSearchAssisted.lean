import DemoService.ContextService
import DemoService.JobSearchOutputs

/-! The assisted extractor and task generator of the job search domain: deterministic output,
refined by a model step where the step is configured and succeeds. -/

namespace DemoService.JobSearch

open PyText Context

/-- What the model answers to the instructions and the prompt of a step. -/
structure JobSearchModel where
  extraction : ResolvedContextModelStep → Text → Text → Except Raised LLMExtractionOutput
  actionableItems : ResolvedContextModelStep → Text → Text → Except Raised LLMActionableItemOutput

/-- The execution context as an extension finds it when it is called from a site. -/
structure JobSearchCall where
  site : CallSite
  context : ContextExecutionContext
  renderPrompt : Prompt → Except Raised Text
  model : JobSearchModel

def extractionKey (domainId : Text) : StepKey :=
  ⟨domainId, "extraction".toList, "artifact_extraction".toList, "structured_extraction".toList⟩

def actionableItemKey (domainId : Text) : StepKey :=
  ⟨domainId, "actionable_item_synthesis".toList, "actionable_items".toList,
    "actionable_item_synthesis".toList⟩

/-- The guarded part of an assisted step: nothing when the step is deterministic, else the step,
the model's output and the records mapped from it. -/
def attemptStep {ω ρ : Type} (call : JobSearchCall) (key : StepKey) (prompt : Prompt)
    (answer : ResolvedContextModelStep → Text → Text → Except Raised ω)
    (map : ResolvedContextModelStep → ω → Except Raised ρ) :
    Except Raised (Option (ResolvedContextModelStep × ω × ρ)) := do
  let step ← call.context.resolveStep key
  if step.mode = .deterministic then pure none
  else do
    let instructions ← call.context.loadPrompt step
    let rendered ← call.renderPrompt prompt
    let output ←
      runStructured call.context.runner call.site step (answer step instructions rendered)
    let mapped ← map step output
    pure (some (step, output, mapped))

def generatedByKey : Text := "generated_by".toList

def explicitOrInferredKey : Text := "explicit_or_inferred".toList

def fallbackWarningKey : Text := "fallback_warning".toList

def llmFailed (raised : Raised) : Text := "llm_failed: ".toList ++ raised.message

def notConfigured : Text := "llm_execution_not_configured".toList

/-- Truth of a metadata value in a condition. -/
def metaTruthy : MetaValue → Bool
  | .text value => value ≠ []
  | .texts values => values ≠ []
  | .json serialized => !(["null".toList, "false".toList, "0".toList, "0.0".toList,
      "-0.0".toList, "\x7b\x7d".toList].contains serialized)
  | .foreign _ => true

def markDeterministic (explicitOrInferred : Text) (metadata : Metadata) : Metadata :=
  (metadata.setdefault generatedByKey (.text "deterministic".toList)).setdefault
    explicitOrInferredKey (.text explicitOrInferred)

def markDeterministicSignal (signal : ContextSignal) : ContextSignal :=
  let marked := signal.metadata.setdefault generatedByKey (.text "deterministic".toList)
  { signal with metadata := marked.setdefault explicitOrInferredKey (.text
      (if (marked.get? "reason".toList).any metaTruthy then "inferred".toList
        else "explicit".toList)) }

def markDeterministicItem (item : ActionableItem) : ActionableItem :=
  { item with metadata := markDeterministic "inferred".toList item.metadata }

def markDeterministicExtraction (result : ExtractionResult) : ExtractionResult where
  entities := result.entities.map fun entity =>
    { entity with metadata := markDeterministic "explicit".toList entity.metadata }
  relationships := result.relationships.map fun relationship =>
    { relationship with metadata := markDeterministic "explicit".toList relationship.metadata }
  signals := result.signals.map markDeterministicSignal
  actionableItems := result.actionableItems.map markDeterministicItem
  metadata := result.metadata

def warnSignal (warning : Text) (signal : ContextSignal) : ContextSignal :=
  { signal with metadata := signal.metadata.setdefault fallbackWarningKey (.text warning) }

def warnItem (warning : Text) (item : ActionableItem) : ActionableItem :=
  { item with metadata := item.metadata.setdefault fallbackWarningKey (.text warning) }

def withFallbackWarning (result : ExtractionResult) (warning : Text) : ExtractionResult :=
  { result with
    signals := result.signals.map (warnSignal warning)
    actionableItems := result.actionableItems.map (warnItem warning)
    metadata := result.metadata.setdefault fallbackWarningKey (.text warning) }

def hasOutputs (result : ExtractionResult) : Bool :=
  !(result.entities.isEmpty && result.relationships.isEmpty && result.signals.isEmpty &&
    result.actionableItems.isEmpty)

structure BaseExtractor where
  id : Text
  artifactTypeIds : Option (List Text)
  extract : Artifact → List ArtifactChunk → Except Raised ExtractionResult

structure BaseTaskGenerator where
  id : Text
  generate : Artifact → Except Raised (List ActionableItem)

/-- The clock and the id supply may differ from artifact to artifact. -/
structure LLMAssistedExtractor where
  base : BaseExtractor
  runtime : Artifact → Runtime

structure LLMAssistedTaskGenerator where
  base : BaseTaskGenerator
  runtime : Artifact → Runtime

/-- The result after the guarded part. -/
def settleExtraction (deterministic : ExtractionResult) :
    Except Raised (Option (ResolvedContextModelStep × LLMExtractionOutput × ExtractionResult)) →
      ExtractionResult
  | .error raised => withFallbackWarning deterministic (llmFailed raised)
  | .ok none => deterministic
  | .ok (some (step, output, llmResult)) =>
    if step.mode = .llm then
      if hasOutputs llmResult then llmResult else deterministic
    else {
      entities := deterministic.entities ++ llmResult.entities
      relationships := deterministic.relationships ++ llmResult.relationships
      signals := deterministic.signals ++ llmResult.signals
      actionableItems := deterministic.actionableItems ++ llmResult.actionableItems
      metadata := deterministic.metadata.merge
        [("llm_mode".toList, .text step.mode.value), ("llm_warnings".toList, .texts output.warnings)] }

def LLMAssistedExtractor.attempt (extractor : LLMAssistedExtractor) (artifact : Artifact)
    (chunks : List ArtifactChunk) (call : JobSearchCall) :
    Except Raised (Option (ResolvedContextModelStep × LLMExtractionOutput × ExtractionResult)) :=
  attemptStep call (extractionKey artifact.domainId) ⟨artifact, chunks, none⟩ call.model.extraction
    (mapExtractionOutput (extractor.runtime artifact) artifact chunks)

def LLMAssistedExtractor.extractWithExecution (extractor : LLMAssistedExtractor)
    (artifact : Artifact) (chunks : List ArtifactChunk) (call : Option JobSearchCall) :
    Except Raised ExtractionResult := do
  let result ← extractor.base.extract artifact chunks
  let deterministic := markDeterministicExtraction result
  match call with
  | none => pure (withFallbackWarning deterministic notConfigured)
  | some call => pure (settleExtraction deterministic (extractor.attempt artifact chunks call))

/-- `item.metadata["fallback_warning"] = warning`. -/
def setWarning (warning : Text) (item : ActionableItem) : ActionableItem :=
  { item with metadata := item.metadata.set fallbackWarningKey (.text warning) }

def settleItems (currentItems deterministic : List ActionableItem) :
    Except Raised (Option (ResolvedContextModelStep × LLMActionableItemOutput ×
      List ActionableItem)) → List ActionableItem
  | .error raised => currentItems ++ deterministic.map (setWarning (llmFailed raised))
  | .ok none => currentItems ++ deterministic
  | .ok (some (step, _, llmItems)) =>
    if step.mode = .llm then currentItems ++ (if llmItems = [] then deterministic else llmItems)
    else currentItems ++ deterministic ++ llmItems

def LLMAssistedTaskGenerator.attempt (generator : LLMAssistedTaskGenerator) (artifact : Artifact)
    (chunks : List ArtifactChunk) (items : List ActionableItem) (call : JobSearchCall) :
    Except Raised (Option (ResolvedContextModelStep × LLMActionableItemOutput ×
      List ActionableItem)) :=
  attemptStep call (actionableItemKey artifact.domainId) ⟨artifact, chunks, some items⟩
    call.model.actionableItems fun step output =>
      mapActionableItems (generator.runtime artifact) artifact chunks step 0 output.actionableItems

def LLMAssistedTaskGenerator.generateWithExecution (generator : LLMAssistedTaskGenerator)
    (artifact : Artifact) (chunks : List ArtifactChunk) (currentItems : List ActionableItem)
    (call : Option JobSearchCall) : Except Raised (List ActionableItem) := do
  let generated ← generator.base.generate artifact
  let deterministic := generated.map markDeterministicItem
  match call with
  | none => pure (currentItems ++ deterministic.map (setWarning notConfigured))
  | some call =>
    pure (settleItems currentItems deterministic
      (generator.attempt artifact chunks (currentItems ++ deterministic) call))

/-- An extractor of a pack: on its own, or assisted. -/
inductive PackExtractor
  | plain (base : BaseExtractor)
  | assisted (extractor : LLMAssistedExtractor)

inductive PackGenerator
  | plain (base : BaseTaskGenerator)
  | assisted (generator : LLMAssistedTaskGenerator)

def PackExtractor.base : PackExtractor → BaseExtractor
  | .plain base => base
  | .assisted extractor => extractor.base

def PackGenerator.base : PackGenerator → BaseTaskGenerator
  | .plain base => base
  | .assisted generator => generator.base

def PackExtractor.toExtractor (extractor : PackExtractor) : Extractor JobSearchCall where
  id := extractor.base.id
  artifactTypeIds := extractor.base.artifactTypeIds
  extract := extractor.base.extract
  extractWithExecution :=
    match extractor with
    | .plain _ => none
    | .assisted extractor => some extractor.extractWithExecution

def PackGenerator.toGenerator (generator : PackGenerator) : TaskGenerator JobSearchCall where
  id := generator.base.id
  generate := generator.base.generate
  generateWithExecution :=
    match generator with
    | .plain _ => none
    | .assisted generator => some generator.generateWithExecution

structure AssistedPack where
  id : Text
  artifactTypeIds : List Text
  chunker : Option (Artifact → Except Raised (List ArtifactChunk))
  extractors : List PackExtractor
  taskGenerators : List PackGenerator

def AssistedPack.toPack (pack : AssistedPack) : DomainPack JobSearchCall where
  id := pack.id
  artifactTypeIds := pack.artifactTypeIds
  chunker := pack.chunker
  extractors := pack.extractors.map PackExtractor.toExtractor
  taskGenerators := pack.taskGenerators.map PackGenerator.toGenerator

end DemoService.JobSearch
