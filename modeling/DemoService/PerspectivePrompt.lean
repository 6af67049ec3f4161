import DemoService.PerspectiveChunks

/-! The perspective prompt and the compact ids that stand in it for persisted ones. -/

namespace DemoService.JobSearch

open PyText Context

/-! ### Compact ids -/

/-- Compact ids by original ids. -/
structure PromptIdMap where
  artifactIds : Dict Text Text
  chunkIds : Dict Text Text
  signalIds : Dict Text Text
  itemIds : Dict Text Text
  deriving DecidableEq, Repr

namespace PromptIdMap

def empty : PromptIdMap := ⟨[], [], [], []⟩

def compact (mapping : Dict Text Text) (original : Text) (initial : Char) :
    Text × Dict Text Text :=
  match mapping.get? original with
  | some known => (known, mapping)
  | none =>
    let fresh := initial :: Nat.toDigits 10 (mapping.length + 1)
    (fresh, mapping.set original fresh)

def artifactId (original : Text) : StateM PromptIdMap Text := fun ids =>
  let (id, artifactIds) := compact ids.artifactIds original 'a'
  (id, { ids with artifactIds })

def chunkId (original : Text) : StateM PromptIdMap Text := fun ids =>
  let (id, chunkIds) := compact ids.chunkIds original 'c'
  (id, { ids with chunkIds })

def signalId (original : Text) : StateM PromptIdMap Text := fun ids =>
  let (id, signalIds) := compact ids.signalIds original 's'
  (id, { ids with signalIds })

def itemId (original : Text) : StateM PromptIdMap Text := fun ids =>
  let (id, itemIds) := compact ids.itemIds original 'i'
  (id, { ids with itemIds })

def originalChunkId (ids : PromptIdMap) (compactOrOriginal : Text) : Text :=
  match ids.chunkIds.find? fun item => item.2 = compactOrOriginal with
  | some item => item.1
  | none => compactOrOriginal

end PromptIdMap

/-! ### The prompt -/

structure CompactSourceLink where
  artifactId : Text
  chunkId : Option Text
  label : Option Text
  excerpt : Text
  deriving DecidableEq, Repr

structure CompactEvidence where
  source : CompactSourceLink
  note : Option Text
  deriving DecidableEq, Repr

structure CompactSection where
  id : Text
  title : Text
  content : Option Text
  evidenceLinks : List CompactEvidence
  deriving DecidableEq, Repr

structure CompactView where
  id : Text
  title : Text
  sections : List CompactSection
  deriving DecidableEq, Repr

structure CompactArtifact where
  id : Text
  type : Text
  title : Option Text
  deriving DecidableEq, Repr

structure CompactChunk where
  id : Text
  artifactId : Text
  index : Nat
  text : Text
  deriving DecidableEq, Repr

structure CompactSignal where
  id : Text
  type : Text
  label : Text
  value : MetaValue
  sourceLinks : List CompactSourceLink
  metadata : Metadata
  deriving DecidableEq, Repr

structure CompactActionableItem where
  id : Text
  type : Text
  title : Text
  description : Option Text
  readiness : ReadinessStatus
  sourceLinks : List CompactSourceLink
  deriving DecidableEq, Repr

/-- What the prompt text is the JSON of. -/
structure PerspectivePrompt where
  perspectiveId : Text
  instructions : Metadata
  deterministicView : CompactView
  artifacts : List CompactArtifact
  chunks : List CompactChunk
  signals : List CompactSignal
  actionableItems : List CompactActionableItem
  deriving DecidableEq, Repr

def promptInstructions : Metadata :=
  [("source_reference_rule".toList,
      .text ("Use chunk ids exactly as provided. They are compact ids for ".toList ++
        "this request and will be remapped after validation.".toList)),
    ("max_sections".toList, metaCount 5),
    ("max_evidence_references_per_section".toList, metaCount 3),
    ("max_actionable_implications_per_section".toList, metaCount 3)]

section Compaction

variable (limits : PerspectiveContextLimits)

def compactLinkedChunk : Option Text → StateM PromptIdMap (Option Text)
  | some original => do
    let id ← PromptIdMap.chunkId original
    pure (some id)
  | none => pure none

def compactSourceLink (link : SourceLink) : StateM PromptIdMap CompactSourceLink := do
  let artifactId ← PromptIdMap.artifactId link.artifactId
  let chunkId ← compactLinkedChunk (link.chunkId.bind orNone)
  pure {
    artifactId
    chunkId
    label := link.label
    excerpt := (link.excerpt.getD []).take limits.sourceExcerptChars }

def compactSourceLinks (links : List SourceLink) : StateM PromptIdMap (List CompactSourceLink) :=
  (links.filter fun link => (link.chunkId.bind orNone).isSome ∨ link.artifactId ≠ []).mapM
    (compactSourceLink limits)

def compactEvidence (evidence : EvidenceLink) : StateM PromptIdMap CompactEvidence := do
  let source ← compactSourceLink limits evidence.source
  pure { source, note := evidence.note }

def compactSection (viewSection : ViewSection) : StateM PromptIdMap CompactSection := do
  let evidenceLinks ← viewSection.evidenceLinks.mapM (compactEvidence limits)
  pure {
    id := viewSection.id
    title := viewSection.title
    content := viewSection.content
    evidenceLinks }

def compactView (view : PerspectiveView) : StateM PromptIdMap CompactView := do
  let sections ← view.sections.mapM (compactSection limits)
  pure { id := view.viewDefinitionId, title := view.title, sections }

def compactArtifact (artifact : Artifact) : StateM PromptIdMap CompactArtifact := do
  let id ← PromptIdMap.artifactId artifact.id
  pure { id, type := artifact.artifactTypeId, title := artifact.title }

def compactChunk (chunk : ArtifactChunk) : StateM PromptIdMap CompactChunk := do
  let id ← PromptIdMap.chunkId chunk.id
  let artifactId ← PromptIdMap.artifactId chunk.artifactId
  pure { id, artifactId, index := chunk.chunkIndex, text := chunk.text.take limits.chunkChars }

def metadataKeys : List Text :=
  ["generated_by".toList, "explicit_or_inferred".toList, "confidence".toList, "rationale".toList,
    "summary".toList, "reason".toList]

def compactMetadata (metadata : Metadata) : Metadata :=
  metadata.filter fun item => item.1 ∈ metadataKeys

def compactSignal (signal : ContextSignal) : StateM PromptIdMap CompactSignal := do
  let id ← PromptIdMap.signalId signal.id
  let sourceLinks ← compactSourceLinks limits signal.sourceLinks
  pure {
    id
    type := signal.signalType
    label := signal.label
    value := signal.value
    sourceLinks
    metadata := compactMetadata signal.metadata }

def compactActionableItem (item : ActionableItem) : StateM PromptIdMap CompactActionableItem := do
  let id ← PromptIdMap.itemId item.id
  let sourceLinks ← compactSourceLinks limits item.sourceLinks
  pure {
    id
    type := item.itemType
    title := item.title
    description := item.description
    readiness := item.readinessStatus
    sourceLinks }

end Compaction

def hasSelectedSource (chunkIds artifactIds : List Text) (links : List SourceLink) : Bool :=
  links.any fun link => link.chunkId.any (· ∈ chunkIds) || link.artifactId ∈ artifactIds

def artifactsForChunks (artifacts : List Artifact) (chunks : List ArtifactChunk) :
    List Artifact :=
  artifacts.filter fun artifact => artifact.id ∈ chunks.map ArtifactChunk.artifactId

section Prompt

variable (context : PerspectiveBuildContext) (deterministic : PerspectiveView)
  (graph : PerspectiveContextGraph)

/-- The parts of the prompt compact their ids in this order. -/
def composePrompt : StateM PromptIdMap PerspectivePrompt := do
  let selectedChunks := selectPerspectiveChunks context deterministic graph
  let chunkIds := selectedChunks.map ArtifactChunk.id
  let artifactIds := selectedChunks.map ArtifactChunk.artifactId
  let selectedSignals := ((selectPerspectiveSignals context graph).filter fun signal =>
    hasSelectedSource chunkIds artifactIds signal.sourceLinks).take graph.limits.signals
  let selectedItems := ((selectPerspectiveActionableItems context graph).filter fun item =>
    hasSelectedSource chunkIds artifactIds item.sourceLinks).take graph.limits.actionableItems
  let deterministicView ← compactView graph.limits deterministic
  let artifacts ← (artifactsForChunks context.artifacts selectedChunks).mapM compactArtifact
  let chunks ← selectedChunks.mapM (compactChunk graph.limits)
  let signals ← selectedSignals.mapM (compactSignal graph.limits)
  let actionableItems ← selectedItems.mapM (compactActionableItem graph.limits)
  pure {
    perspectiveId := deterministic.viewDefinitionId
    instructions := promptInstructions
    deterministicView
    artifacts
    chunks
    signals
    actionableItems }

def perspectivePrompt : PerspectivePrompt × PromptIdMap :=
  composePrompt context deterministic graph .empty

end Prompt

/-! ### The synthesized view -/

structure LLMPerspectiveSection where
  id : Filled Char
  title : Filled Char
  synthesizedConclusion : Filled Char
  whyItMatters : Filled Char
  confidence : ConfidenceLabel
  evidenceReferences : Filled LLMSourceReference
  actionableImplications : List Text
  explicitOrInferred : EvidenceKind
  rationale : Filled Char
  deriving DecidableEq, Repr

structure LLMPerspectiveOutput where
  title : Filled Char
  sections : Filled LLMPerspectiveSection
  warnings : List Text
  deriving DecidableEq, Repr

section Mapping

variable (promptIds : PromptIdMap) (chunksById : Dict Text ArtifactChunk)
  (artifactsById : Dict Text Artifact)

def mapEvidence (synthesized : LLMPerspectiveSection) (reference : LLMSourceReference) :
    Except Raised EvidenceLink :=
  let originalChunkId := promptIds.originalChunkId reference.chunkId
  match chunksById.get? originalChunkId with
  | none => .error (valueError ("Unknown source chunk ".toList ++ quote reference.chunkId ++ ['.']))
  | some chunk =>
    match artifactsById.get? chunk.artifactId with
    | none =>
      .error (valueError ("Unknown source artifact ".toList ++ quote chunk.artifactId ++ ['.']))
    | some artifact => do
      let source ← sourceLink artifact chunksById
        { chunkId := originalChunkId, excerpt := reference.excerpt, label := reference.label }
      pure {
        source
        note := some (synthesized.title.1 ++ " (".toList ++ synthesized.explicitOrInferred.value ++
          [')']) }

def sectionContent (synthesized : LLMPerspectiveSection) : Text :=
  ['\n'].intercalate (synthesized.synthesizedConclusion.1 ::
    ("Why it matters: ".toList ++ synthesized.whyItMatters.1) ::
    synthesized.actionableImplications.map ("Implication: ".toList ++ ·))

def mapSection (metadata : Metadata) (synthesized : LLMPerspectiveSection) :
    Except Raised ViewSection := do
  let evidence ← Fallible.mapAll (mapEvidence promptIds chunksById artifactsById synthesized)
    synthesized.evidenceReferences.1
  pure {
    id := synthesized.id
    title := synthesized.title
    content := some (sectionContent synthesized)
    evidenceLinks := evidence
    metadata := metadata.merge
      [("confidence".toList, .text synthesized.confidence.value),
        ("explicit_or_inferred".toList, .text synthesized.explicitOrInferred.value),
        ("rationale".toList, .text synthesized.rationale),
        ("actionable_implications".toList, .texts synthesized.actionableImplications),
        ("evidence_kinds".toList, .texts [synthesized.explicitOrInferred.value])] }

end Mapping

/-- The chunks of the context by original ids. -/
def originalChunks (context : PerspectiveBuildContext) (promptIds : PromptIdMap) :
    Dict Text ArtifactChunk :=
  Dict.index (fun chunk => promptIds.originalChunkId chunk.id) context.chunks

def mapPerspectiveOutput (runtime : Runtime) (output : LLMPerspectiveOutput)
    (context : PerspectiveBuildContext) (step : ResolvedContextModelStep) (viewDefinitionId : Text)
    (promptIds : PromptIdMap) : Except Raised PerspectiveView := do
  let chunksById := originalChunks context promptIds
  let artifactsById := Dict.index Artifact.id context.artifacts
  let metadata := metadataForGeneratedStep (runtime.now 0) step
  let sections ← Fallible.mapAll (mapSection promptIds chunksById artifactsById metadata)
    output.sections.1
  pure {
    id := runtime.newContextId "view".toList 0
    viewDefinitionId
    title := output.title
    sections
    metadata := metadata.merge [("warnings".toList, .texts output.warnings)] }

end DemoService.JobSearch
