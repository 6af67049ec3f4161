import DemoService.JobSearchAssisted

/-! One assisted step at the two call sites. Short of the model neither the site nor the model
matters; at the model the event loop gets an error and the worker thread gets the answer. -/

namespace DemoService.JobSearch

open PyText Context Fallible

section Attempt

variable {ω ρ : Type} {context : ContextExecutionContext}
  {renderPrompt : Prompt → Except Raised Text} {key : StepKey} {prompt : Prompt}

/-- The step is configured and not deterministic, its prompt is ready, and the runner gets as far
as the model. -/
def AsksModel (context : ContextExecutionContext) (renderPrompt : Prompt → Except Raised Text)
    (key : StepKey) (prompt : Prompt) : Prop :=
  ∃ step instructions rendered, context.resolveStep key = .ok step ∧ step.mode ≠ .deterministic ∧
    context.loadPrompt step = .ok instructions ∧ renderPrompt prompt = .ok rendered ∧
    Asks context.runner step

theorem attemptStep_prepared {step : ResolvedContextModelStep} {instructions rendered : Text}
    (hstep : context.resolveStep key = .ok step) (hmode : step.mode ≠ .deterministic)
    (hprompt : context.loadPrompt step = .ok instructions)
    (hrendered : renderPrompt prompt = .ok rendered) (site : CallSite) (model : JobSearchModel)
    (answer : ResolvedContextModelStep → Text → Text → Except Raised ω)
    (map : ResolvedContextModelStep → ω → Except Raised ρ) :
    attemptStep ⟨site, context, renderPrompt, model⟩ key prompt answer map =
      (runStructured context.runner site step (answer step instructions rendered)).bind
        fun output => (map step output).bind fun mapped => .ok (some (step, output, mapped)) := by
  rw [attemptStep, hstep]
  change (if step.mode = .deterministic then _ else _) = _
  rw [if_neg hmode, hprompt]
  change (renderPrompt prompt >>= _) = _
  rw [hrendered]
  rfl

theorem attemptStep_loop (h : AsksModel context renderPrompt key prompt) (model : JobSearchModel)
    (answer : ResolvedContextModelStep → Text → Text → Except Raised ω)
    (map : ResolvedContextModelStep → ω → Except Raised ρ) :
    attemptStep ⟨.eventLoop, context, renderPrompt, model⟩ key prompt answer map =
      .error eventLoopError := by
  obtain ⟨step, instructions, rendered, hstep, hmode, hprompt, hrendered, hasks⟩ := h
  rw [attemptStep_prepared hstep hmode hprompt hrendered, runStructured_loop hasks]
  rfl

theorem attemptStep_worker (h : AsksModel context renderPrompt key prompt)
    (map : ResolvedContextModelStep → ω → Except Raised ρ) :
    ∃ step instructions rendered, step.mode ≠ .deterministic ∧ ∀ model answer,
      attemptStep ⟨.workerThread, context, renderPrompt, model⟩ key prompt answer map =
        (answer step instructions rendered).bind fun output =>
          (map step output).bind fun mapped => .ok (some (step, output, mapped)) := by
  obtain ⟨step, instructions, rendered, hstep, hmode, hprompt, hrendered, hasks⟩ := h
  refine ⟨step, instructions, rendered, hmode, fun model answer => ?_⟩
  rw [attemptStep_prepared hstep hmode hprompt hrendered, runStructured_worker hasks]

/-- A step that stays short of the model ends in the same way for every site and every model. -/
theorem attemptStep_quiet (h : ¬ AsksModel context renderPrompt key prompt)
    (map : ResolvedContextModelStep → ω → Except Raised ρ) :
    ∃ outcome, (outcome = .ok none ∨ ∃ raised, outcome = .error raised) ∧ ∀ site model answer,
      attemptStep ⟨site, context, renderPrompt, model⟩ key prompt answer map = outcome := by
  cases hstep : context.resolveStep key with
  | error raised =>
    refine ⟨.error raised, .inr ⟨raised, rfl⟩, fun site model answer => ?_⟩
    rw [attemptStep, hstep]
    rfl
  | ok step =>
    by_cases hmode : step.mode = .deterministic
    · refine ⟨.ok none, .inl rfl, fun site model answer => ?_⟩
      rw [attemptStep, hstep]
      exact if_pos hmode
    · cases hprompt : context.loadPrompt step with
      | error raised =>
        refine ⟨.error raised, .inr ⟨raised, rfl⟩, fun site model answer => ?_⟩
        rw [attemptStep, hstep]
        change (if step.mode = .deterministic then _ else _) = _
        rw [if_neg hmode, hprompt]
        rfl
      | ok instructions =>
        cases hrendered : renderPrompt prompt with
        | error raised =>
          refine ⟨.error raised, .inr ⟨raised, rfl⟩, fun site model answer => ?_⟩
          rw [attemptStep, hstep]
          change (if step.mode = .deterministic then _ else _) = _
          rw [if_neg hmode, hprompt]
          change (renderPrompt prompt >>= _) = _
          rw [hrendered]
          rfl
        | ok rendered =>
          have hasks : ¬ Asks context.runner step := fun hasks =>
            h ⟨step, instructions, rendered, hstep, hmode, hprompt, hrendered, hasks⟩
          obtain ⟨raised, hraised⟩ := runStructured_not_asks (α := ω) hasks
          refine ⟨.error raised, .inr ⟨raised, rfl⟩, fun site model answer => ?_⟩
          rw [attemptStep_prepared hstep hmode hprompt hrendered, hraised]
          rfl

end Attempt

section Warnings

def Unwarned (metadata : Metadata) : Prop := metadata.get? fallbackWarningKey = none

instance (metadata : Metadata) : Decidable (Unwarned metadata) :=
  inferInstanceAs (Decidable (_ = _))

theorem unwarned_setdefault {key : Text} (hkey : key ≠ fallbackWarningKey) (metadata : Metadata)
    (value : MetaValue) : Unwarned (metadata.setdefault key value) ↔ Unwarned metadata := by
  rw [Unwarned, Unwarned, Dict.get?_setdefault_ne hkey]

theorem generatedByKey_ne : generatedByKey ≠ fallbackWarningKey := by decide

theorem explicitOrInferredKey_ne : explicitOrInferredKey ≠ fallbackWarningKey := by decide

theorem unwarned_markSignal (signal : ContextSignal) :
    Unwarned (markDeterministicSignal signal).metadata ↔ Unwarned signal.metadata := by
  simp only [markDeterministicSignal, unwarned_setdefault explicitOrInferredKey_ne,
    unwarned_setdefault generatedByKey_ne]

theorem unwarned_markItem (item : ActionableItem) :
    Unwarned (markDeterministicItem item).metadata ↔ Unwarned item.metadata := by
  simp only [markDeterministicItem, markDeterministic, unwarned_setdefault explicitOrInferredKey_ne,
    unwarned_setdefault generatedByKey_ne]

/-- A warning that is already there stays. -/
theorem setdefault_warned {metadata : Metadata} (h : ¬ Unwarned metadata) (value : MetaValue) :
    metadata.setdefault fallbackWarningKey value = metadata :=
  Dict.setdefault_of_isSome (Option.isSome_iff_ne_none.mpr h) value

theorem get?_setdefault_unwarned {metadata : Metadata} (h : Unwarned metadata) (value : MetaValue) :
    (metadata.setdefault fallbackWarningKey value).get? fallbackWarningKey = some value := by
  rw [Dict.setdefault, if_neg (by simp [show metadata.get? fallbackWarningKey = none from h]),
    Dict.get?_set_self]

theorem warnSignal_inj {warning warning' : Text} {signal : ContextSignal}
    (h : Unwarned signal.metadata) (heq : warnSignal warning signal = warnSignal warning' signal) :
    warning = warning' := by
  have hget := congrArg (fun s => s.metadata.get? fallbackWarningKey) heq
  simp only [warnSignal, get?_setdefault_unwarned h, Option.some.injEq, MetaValue.text.injEq] at hget
  exact hget

theorem warnItem_inj {warning warning' : Text} {item : ActionableItem}
    (h : Unwarned item.metadata) (heq : warnItem warning item = warnItem warning' item) :
    warning = warning' := by
  have hget := congrArg (fun i => i.metadata.get? fallbackWarningKey) heq
  simp only [warnItem, get?_setdefault_unwarned h, Option.some.injEq, MetaValue.text.injEq] at hget
  exact hget

theorem setWarning_inj {warning warning' : Text} {item : ActionableItem}
    (heq : setWarning warning item = setWarning warning' item) : warning = warning' := by
  have hget := congrArg (fun i => i.metadata.get? fallbackWarningKey) heq
  simp only [setWarning, Dict.get?_set_self, Option.some.injEq, MetaValue.text.injEq] at hget
  exact hget

theorem map_ne_map {α β : Type} {f g : α → β} {a : α} {as : List α} (ha : a ∈ as)
    (hne : f a ≠ g a) : as.map f ≠ as.map g := fun heq => hne (List.map_inj_left.mp heq a ha)

end Warnings

section NoChunks

variable {runtime : Runtime} {artifact : Artifact}

theorem sourceLinks_no_chunks (references : Filled LLMSourceReference) (links : List SourceLink) :
    sourceLinks artifact [] references ≠ .ok links := by
  intro h
  obtain ⟨mapped, hmapped, -⟩ := bind_eq_ok.mp h
  obtain ⟨references, hne⟩ := references
  cases references with
  | nil => exact hne rfl
  | cons reference references =>
    obtain ⟨link, -, hlink, -⟩ := mapAll_cons_eq_ok.mp hmapped
    obtain ⟨chunk, hchunk, -⟩ := sourceLink_ok hlink
    cases hchunk

theorem mapRelationships_no_chunks {metadata : Metadata} {ids : Dict Text Text}
    {items : List (LLMContextRelationship × Nat)} {warnings : List Text}
    {mapped : List ContextRelationship × List Text}
    (h : mapRelationships runtime artifact [] metadata ids items warnings = .ok mapped) :
    mapped.1 = [] := by
  induction items generalizing warnings with
  | nil =>
    obtain rfl := Except.ok.inj h
    rfl
  | cons item items ih =>
    rcases mapRelationships_cons_ok h with ⟨-, hmapped⟩ | ⟨-, hmapped⟩
    · obtain ⟨_, _, record, _, -, -, hrecord, -⟩ := hmapped
      exact absurd (mapRelationship_ok hrecord) (sourceLinks_no_chunks _ _)
    · exact ih hmapped

theorem mapActionableItems_no_chunks {step : ResolvedContextModelStep} {reading : Nat}
    {items : List LLMActionableItem} {records : List ActionableItem}
    (h : mapActionableItems runtime artifact [] step reading items = .ok records) :
    records = [] :=
  mapAll_never (fun _ _ hrecord => sourceLinks_no_chunks _ _ (mapActionableItem_ok hrecord)) h

/-- Without chunks nothing can be cited, so an accepted output has no records. -/
theorem mapExtractionOutput_no_chunks {step : ResolvedContextModelStep}
    {output : LLMExtractionOutput} {result : ExtractionResult}
    (h : mapExtractionOutput runtime artifact [] step output = .ok result) :
    result.entities = [] ∧ result.relationships = [] ∧ result.signals = [] ∧
      result.actionableItems = [] := by
  obtain ⟨entities, hentities, h⟩ := bind_eq_ok.mp h
  obtain ⟨signals, hsignals, h⟩ := bind_eq_ok.mp h
  obtain ⟨relationships, hrelationships, h⟩ := bind_eq_ok.mp h
  obtain ⟨items, hitems, h⟩ := bind_eq_ok.mp h
  obtain rfl := pure_eq_ok.mp h
  exact ⟨mapAll_never (fun _ _ hrecord => sourceLinks_no_chunks _ _ (mapEntity_ok hrecord).1)
      hentities, mapRelationships_no_chunks hrelationships,
    mapAll_never (fun _ _ hrecord => sourceLinks_no_chunks _ _ (mapSignal_ok hrecord)) hsignals,
    mapActionableItems_no_chunks hitems⟩

end NoChunks

section Extraction

variable {context : ContextExecutionContext} {renderPrompt : Prompt → Except Raised Text}
  {artifact : Artifact} {chunks : List ArtifactChunk}

/-- The model may cite a chunk, or the result has a record on which a failure of the model step
leaves its mark. -/
def ExtractionShows (chunks : List ArtifactChunk) (result : ExtractionResult) : Prop :=
  chunks ≠ [] ∨ (∃ signal ∈ result.signals, Unwarned signal.metadata) ∨
    ∃ item ∈ result.actionableItems, Unwarned item.metadata

/-- The extractor is assisted, gets as far as the model, and has something to show for it. -/
def PackExtractor.Diverges (context : ContextExecutionContext)
    (renderPrompt : Prompt → Except Raised Text) (artifact : Artifact)
    (chunks : List ArtifactChunk) : PackExtractor → Prop
  | .plain _ => False
  | .assisted extractor =>
    AsksModel context renderPrompt (extractionKey artifact.domainId) ⟨artifact, chunks, none⟩ ∧
      ∃ result, extractor.base.extract artifact chunks = .ok result ∧ ExtractionShows chunks result

/-- What an extractor makes of the result of its base. -/
def PackExtractor.settled (extractor : PackExtractor) (artifact : Artifact)
    (chunks : List ArtifactChunk) (call : JobSearchCall) (result : ExtractionResult) :
    ExtractionResult :=
  match extractor with
  | .plain _ => result
  | .assisted extractor =>
    settleExtraction (markDeterministicExtraction result) (extractor.attempt artifact chunks call)

theorem PackExtractor.run_eq (extractor : PackExtractor) (artifact : Artifact)
    (chunks : List ArtifactChunk) (call : JobSearchCall) :
    extractor.toExtractor.run artifact chunks (some call) =
      (extractor.base.extract artifact chunks).map (extractor.settled artifact chunks call) := by
  cases extractor with
  | plain base =>
    change base.extract artifact chunks = (base.extract artifact chunks).map fun result => result
    cases base.extract artifact chunks <;> rfl
  | assisted extractor =>
    change (extractor.base.extract artifact chunks >>= _) = (extractor.base.extract artifact chunks).map _
    cases extractor.base.extract artifact chunks <;> rfl

/-- At the event loop an extractor does not depend on the model. -/
theorem PackExtractor.settled_loop (extractor : PackExtractor) (model model' : JobSearchModel)
    (result : ExtractionResult) :
    extractor.settled artifact chunks ⟨.eventLoop, context, renderPrompt, model⟩ result =
      extractor.settled artifact chunks ⟨.eventLoop, context, renderPrompt, model'⟩ result := by
  cases extractor with
  | plain base => rfl
  | assisted extractor =>
    simp only [PackExtractor.settled, LLMAssistedExtractor.attempt]
    by_cases hasks : AsksModel context renderPrompt (extractionKey artifact.domainId)
        ⟨artifact, chunks, none⟩
    · rw [attemptStep_loop hasks, attemptStep_loop hasks]
    · obtain ⟨outcome, -, houtcome⟩ := attemptStep_quiet hasks
        (mapExtractionOutput (extractor.runtime artifact) artifact chunks)
      rw [houtcome, houtcome]

theorem add_withFallbackWarning {result : ExtractionResult}
    (hsignals : ∀ signal ∈ result.signals, ¬ Unwarned signal.metadata)
    (hitems : ∀ item ∈ result.actionableItems, ¬ Unwarned item.metadata) (warning : Text)
    (outputs : Outputs) (id : Text) :
    outputs.add id (withFallbackWarning result warning) = outputs.add id result := by
  have hmapped : result.signals.map (warnSignal warning) = result.signals := by
    refine (List.map_congr_left fun signal hsignal => ?_).trans (List.map_id _)
    rw [warnSignal, setdefault_warned (hsignals signal hsignal)]
    rfl
  have hmapped' : result.actionableItems.map (warnItem warning) = result.actionableItems := by
    refine (List.map_congr_left fun item hitem => ?_).trans (List.map_id _)
    rw [warnItem, setdefault_warned (hitems item hitem)]
    rfl
  simp only [Outputs.add, withFallbackWarning, hmapped, hmapped']

/-- With nothing to cite and nothing to mark, the guarded part does not reach the outputs. -/
theorem add_settleExtraction (artifact : Artifact) (extractor : LLMAssistedExtractor) {result : ExtractionResult}
    (hshows : ¬ ExtractionShows [] result) (answer : Except Raised LLMExtractionOutput)
    (step : ResolvedContextModelStep) (outputs : Outputs) (id : Text) :
    outputs.add id (settleExtraction (markDeterministicExtraction result) (answer.bind fun output =>
      (mapExtractionOutput (extractor.runtime artifact) artifact [] step output).bind fun mapped =>
        .ok (some (step, output, mapped)))) =
      outputs.add id (markDeterministicExtraction result) := by
  simp only [ExtractionShows, not_or, not_exists, not_and] at hshows
  have hsignals : ∀ signal ∈ (markDeterministicExtraction result).signals,
      ¬ Unwarned signal.metadata := by
    simp only [markDeterministicExtraction, List.forall_mem_map, unwarned_markSignal]
    exact hshows.2.1
  have hitems : ∀ item ∈ (markDeterministicExtraction result).actionableItems,
      ¬ Unwarned item.metadata := by
    simp only [markDeterministicExtraction, List.forall_mem_map, unwarned_markItem]
    exact hshows.2.2
  cases answer with
  | error raised => exact add_withFallbackWarning hsignals hitems _ _ _
  | ok output =>
    cases hmapped : mapExtractionOutput (extractor.runtime artifact) artifact [] step output with
    | error raised =>
      simp only [Except.bind, hmapped]
      exact add_withFallbackWarning hsignals hitems _ _ _
    | ok mapped =>
      obtain ⟨hentities, hrelationships, hsignals', hitems'⟩ := mapExtractionOutput_no_chunks hmapped
      simp only [Except.bind, hmapped, settleExtraction]
      by_cases hmode : step.mode = .llm
      · simp [hmode, hasOutputs, hentities, hrelationships, hsignals', hitems']
      · simp [hmode, Outputs.add, hentities, hrelationships, hsignals', hitems']

/-- An extractor that does not diverge gives the same outputs at both sites. -/
theorem PackExtractor.settled_agrees {extractor : PackExtractor} {result : ExtractionResult}
    (hresult : extractor.base.extract artifact chunks = .ok result)
    (h : ¬ extractor.Diverges context renderPrompt artifact chunks) (model : JobSearchModel)
    (outputs : Outputs) (id : Text) :
    outputs.add id
        (extractor.settled artifact chunks ⟨.eventLoop, context, renderPrompt, model⟩ result) =
      outputs.add id
        (extractor.settled artifact chunks ⟨.workerThread, context, renderPrompt, model⟩ result) := by
  cases extractor with
  | plain base => rfl
  | assisted extractor =>
    simp only [PackExtractor.settled, LLMAssistedExtractor.attempt]
    by_cases hasks : AsksModel context renderPrompt (extractionKey artifact.domainId)
        ⟨artifact, chunks, none⟩
    · have hshows : ¬ ExtractionShows chunks result := fun hshows =>
        h ⟨hasks, result, hresult, hshows⟩
      obtain rfl : chunks = [] := by
        by_contra hchunks
        exact hshows (.inl hchunks)
      obtain ⟨step, instructions, rendered, -, hworker⟩ := attemptStep_worker hasks
        (mapExtractionOutput (extractor.runtime artifact) artifact [])
      have hloop := add_settleExtraction artifact extractor hshows
        (.error eventLoopError) step outputs id
      rw [attemptStep_loop hasks, hworker, add_settleExtraction artifact extractor hshows]
      exact hloop
    · obtain ⟨outcome, -, houtcome⟩ := attemptStep_quiet hasks
        (mapExtractionOutput (extractor.runtime artifact) artifact chunks)
      rw [houtcome, houtcome]

end Extraction

section Prolific

variable {chunks : List ArtifactChunk} {chunk : ArtifactChunk}

def prolificReference (chunk : ArtifactChunk) : Filled LLMSourceReference :=
  ⟨[⟨chunk.id, ⟨['x'], List.cons_ne_nil _ _⟩, none⟩], List.cons_ne_nil _ _⟩

def prolificEntity (chunk : ArtifactChunk) : LLMContextEntity where
  entityType := ⟨['x'], List.cons_ne_nil _ _⟩
  name := ⟨['x'], List.cons_ne_nil _ _⟩
  explicitOrInferred := .inferred
  confidence := .low
  sourceReferences := prolificReference chunk
  rationale := ⟨['x'], List.cons_ne_nil _ _⟩

def prolificItem (chunk : ArtifactChunk) : LLMActionableItem where
  itemType := ⟨['x'], List.cons_ne_nil _ _⟩
  title := ⟨['x'], List.cons_ne_nil _ _⟩
  description := ⟨['x'], List.cons_ne_nil _ _⟩
  priority := .low
  readinessStatus := .needsReview
  ownerType := .human
  rationale := ⟨['x'], List.cons_ne_nil _ _⟩
  evidenceLinks := prolificReference chunk

/-- A model that answers every request with a number of records, all citing one chunk. -/
def prolificModel (chunk : ArtifactChunk) (count : Nat) : JobSearchModel where
  extraction _ _ _ := .ok ⟨List.replicate count (prolificEntity chunk), [], [], [], []⟩
  actionableItems _ _ _ := .ok ⟨List.replicate count (prolificItem chunk), []⟩

theorem sourceLinks_prolific (artifact : Artifact) (hchunk : chunk ∈ chunks) :
    Succeeds (sourceLinks artifact chunks (prolificReference chunk)) := by
  have hsome : ((Dict.ofList (chunks.map fun c => (c.id, c))).get? chunk.id).isSome = true :=
    (Dict.isSome_get?_ofList _ _).mpr ⟨_, List.mem_map_of_mem hchunk, rfl⟩
  obtain ⟨found, hfound⟩ := Option.isSome_iff_exists.mp hsome
  have hlink : Succeeds (sourceLink artifact (Dict.ofList (chunks.map fun c => (c.id, c)))
      ⟨chunk.id, ⟨['x'], List.cons_ne_nil _ _⟩, none⟩) := by
    have hblank : strip ['x'] ≠ [] := by decide
    rw [sourceLink, hfound]
    exact ⟨_, if_neg hblank⟩
  obtain ⟨link, hlink⟩ := hlink
  exact ⟨[link], bind_eq_ok.mpr ⟨[link], mapAll_cons_eq_ok.mpr ⟨link, [], hlink, rfl, rfl⟩,
    if_neg (List.cons_ne_nil _ _)⟩⟩

theorem mapExtractionOutput_prolific (runtime : Runtime) (artifact : Artifact)
    (hchunk : chunk ∈ chunks) (step : ResolvedContextModelStep)
    (count : Nat) :
    ∃ result, mapExtractionOutput runtime artifact chunks step
        ⟨List.replicate count (prolificEntity chunk), [], [], [], []⟩ = .ok result ∧
      result.entities.length = count := by
  obtain ⟨links, hlinks⟩ := sourceLinks_prolific artifact hchunk
  have hentities : Succeeds (mapAll (mapEntity runtime artifact chunks
      (metadataForGeneratedStep (runtime.now 0) step))
      (List.replicate count (prolificEntity chunk)).zipIdx) := by
    refine mapAll_succeeds fun item hitem => ?_
    have hentity : item.1 = prolificEntity chunk :=
      List.eq_of_mem_replicate (List.fst_mem_of_mem_zipIdx hitem)
    exact ⟨_, bind_eq_ok.mpr ⟨links, by rw [hentity]; exact hlinks, rfl⟩⟩
  obtain ⟨entities, hentities⟩ := hentities
  refine ⟨_, bind_eq_ok.mpr ⟨entities, hentities, rfl⟩, ?_⟩
  rw [length_mapAll hentities, List.length_zipIdx, List.length_replicate]

theorem mapActionableItems_prolific (runtime : Runtime) (artifact : Artifact)
    (hchunk : chunk ∈ chunks) (step : ResolvedContextModelStep)
    (reading count : Nat) :
    ∃ items, mapActionableItems runtime artifact chunks step reading
        (List.replicate count (prolificItem chunk)) = .ok items ∧ items.length = count := by
  obtain ⟨links, hlinks⟩ := sourceLinks_prolific artifact hchunk
  have hitems : Succeeds (mapActionableItems runtime artifact chunks step reading
      (List.replicate count (prolificItem chunk))) := by
    refine mapAll_succeeds fun item hitem => ?_
    have hprolific : item.1 = prolificItem chunk :=
      List.eq_of_mem_replicate (List.fst_mem_of_mem_zipIdx hitem)
    exact ⟨_, bind_eq_ok.mpr ⟨links, by rw [hprolific]; exact hlinks, rfl⟩⟩
  obtain ⟨items, hitems⟩ := hitems
  refine ⟨items, hitems, ?_⟩
  rw [length_mapAll hitems, List.length_zipIdx, List.length_replicate]

end Prolific

section Prolific

variable {context : ContextExecutionContext} {renderPrompt : Prompt → Except Raised Text}
  {artifact : Artifact} {chunks : List ArtifactChunk} {chunk : ArtifactChunk}

/-- On a worker thread, an extractor that asks takes over the records of the model. -/
theorem settled_prolific (extractor : LLMAssistedExtractor) (hchunk : chunk ∈ chunks)
    (hasks : AsksModel context renderPrompt (extractionKey artifact.domainId)
      ⟨artifact, chunks, none⟩) {count : Nat} (hcount : 0 < count) (result : ExtractionResult) :
    count ≤ ((PackExtractor.assisted extractor).settled artifact chunks
      ⟨.workerThread, context, renderPrompt, prolificModel chunk count⟩ result).entities.length := by
  obtain ⟨step, instructions, rendered, -, hworker⟩ := attemptStep_worker hasks
    (mapExtractionOutput (extractor.runtime artifact) artifact chunks)
  obtain ⟨mapped, hmapped, hlength⟩ := mapExtractionOutput_prolific
    (extractor.runtime artifact) artifact hchunk step count
  have hsome : mapped.entities.isEmpty = false := by
    cases hentities : mapped.entities with
    | nil =>
      rw [hentities] at hlength
      simp only [List.length_nil] at hlength
      omega
    | cons entity entities => rfl
  simp only [PackExtractor.settled, LLMAssistedExtractor.attempt, hworker, prolificModel,
    Except.bind, hmapped, settleExtraction]
  by_cases hmode : step.mode = .llm
  · simp [hmode, hasOutputs, hsome, hlength]
  · simp [hmode, hlength]

end Prolific

section Refusing

variable {context : ContextExecutionContext} {renderPrompt : Prompt → Except Raised Text}
  {artifact : Artifact} {chunks : List ArtifactChunk}

def refusal : Raised := ⟨.other, []⟩

/-- A model that never answers. -/
def refusingModel : JobSearchModel where
  extraction _ _ _ := .error refusal
  actionableItems _ _ _ := .error refusal

theorem llmFailed_refusal_ne : llmFailed eventLoopError ≠ llmFailed refusal := by
  intro h
  have hmessage := List.append_cancel_left h
  cases hmessage

theorem attemptStep_refused {ω ρ : Type} {key : StepKey} {prompt : Prompt}
    (hasks : AsksModel context renderPrompt key prompt)
    (map : ResolvedContextModelStep → ω → Except Raised ρ) :
    attemptStep ⟨.workerThread, context, renderPrompt, refusingModel⟩ key prompt
      (fun _ _ _ => .error refusal) map = .error refusal := by
  obtain ⟨step, instructions, rendered, -, hworker⟩ := attemptStep_worker hasks map
  rw [hworker]
  rfl

/-- What an extractor gives when the model does not answer: its base's result, marked or not. -/
theorem settled_refused (context : ContextExecutionContext)
    (renderPrompt : Prompt → Except Raised Text) (artifact : Artifact)
    (chunks : List ArtifactChunk) (extractor : PackExtractor) (result : ExtractionResult) (site : CallSite) :
    (extractor.settled artifact chunks ⟨site, context, renderPrompt, refusingModel⟩
        result).signals.length = result.signals.length ∧
      (extractor.settled artifact chunks ⟨site, context, renderPrompt, refusingModel⟩
        result).actionableItems.length = result.actionableItems.length := by
  cases extractor with
  | plain base => exact ⟨rfl, rfl⟩
  | assisted extractor =>
    simp only [PackExtractor.settled, LLMAssistedExtractor.attempt]
    have hsettled : ∀ outcome, (outcome = .ok none ∨ ∃ raised, outcome = .error raised) →
        (settleExtraction (markDeterministicExtraction result) outcome).signals.length =
          result.signals.length ∧
        (settleExtraction (markDeterministicExtraction result) outcome).actionableItems.length =
          result.actionableItems.length := by
      rintro outcome (rfl | ⟨raised, rfl⟩)
      · simp [settleExtraction, markDeterministicExtraction]
      · simp [settleExtraction, withFallbackWarning, markDeterministicExtraction]
    by_cases hasks : AsksModel context renderPrompt (extractionKey artifact.domainId)
        ⟨artifact, chunks, none⟩
    · cases site with
      | eventLoop =>
        rw [attemptStep_loop hasks]
        exact hsettled _ (.inr ⟨_, rfl⟩)
      | workerThread => exact hsettled _ (.inr ⟨_, attemptStep_refused hasks _⟩)
    · obtain ⟨outcome, hcases, houtcome⟩ := attemptStep_quiet hasks
        (mapExtractionOutput (extractor.runtime artifact) artifact chunks)
      rw [houtcome]
      exact hsettled outcome hcases

/-- A record without a warning is marked with another message at each site. -/
theorem settled_refused_ne (extractor : LLMAssistedExtractor) {result : ExtractionResult}
    (hasks : AsksModel context renderPrompt (extractionKey artifact.domainId) ⟨artifact, [], none⟩)
    (hshows : ExtractionShows [] result) :
    ((PackExtractor.assisted extractor).settled artifact []
        ⟨.eventLoop, context, renderPrompt, refusingModel⟩ result).signals ≠
      ((PackExtractor.assisted extractor).settled artifact []
        ⟨.workerThread, context, renderPrompt, refusingModel⟩ result).signals ∨
    ((PackExtractor.assisted extractor).settled artifact []
        ⟨.eventLoop, context, renderPrompt, refusingModel⟩ result).actionableItems ≠
      ((PackExtractor.assisted extractor).settled artifact []
        ⟨.workerThread, context, renderPrompt, refusingModel⟩ result).actionableItems := by
  have hworker := attemptStep_refused hasks
    (mapExtractionOutput (extractor.runtime artifact) artifact [])
  simp only [PackExtractor.settled, LLMAssistedExtractor.attempt]
  rw [attemptStep_loop hasks]
  simp only [refusingModel] at hworker ⊢
  rw [hworker]
  rcases hshows with hchunks | ⟨signal, hsignal, hunwarned⟩ | ⟨item, hitem, hunwarned⟩
  · exact absurd rfl hchunks
  · refine .inl (map_ne_map (List.mem_map_of_mem hsignal) fun heq => ?_)
    exact llmFailed_refusal_ne (warnSignal_inj ((unwarned_markSignal signal).mpr hunwarned) heq)
  · refine .inr (map_ne_map (List.mem_map_of_mem hitem) fun heq => ?_)
    exact llmFailed_refusal_ne (warnItem_inj ((unwarned_markItem item).mpr hunwarned) heq)

end Refusing

section Generation

variable {context : ContextExecutionContext} {renderPrompt : Prompt → Except Raised Text}
  {artifact : Artifact} {chunks : List ArtifactChunk} {items generated : List ActionableItem}

/-- The generator is assisted, gets as far as the model with the items so far, and has something
to show for it. -/
def PackGenerator.Diverges (context : ContextExecutionContext)
    (renderPrompt : Prompt → Except Raised Text) (artifact : Artifact)
    (chunks : List ArtifactChunk) (items generated : List ActionableItem) : PackGenerator → Prop
  | .plain _ => False
  | .assisted _ =>
    AsksModel context renderPrompt (actionableItemKey artifact.domainId)
      ⟨artifact, chunks, some (items ++ generated.map markDeterministicItem)⟩ ∧
      (chunks ≠ [] ∨ generated ≠ [])

/-- The items after a generator whose base has generated some. -/
def PackGenerator.settled (generator : PackGenerator) (artifact : Artifact)
    (chunks : List ArtifactChunk) (call : JobSearchCall) (items generated : List ActionableItem) :
    List ActionableItem :=
  match generator with
  | .plain _ => items ++ generated
  | .assisted generator =>
    settleItems items (generated.map markDeterministicItem)
      (generator.attempt artifact chunks (items ++ generated.map markDeterministicItem) call)

theorem PackGenerator.run_eq (generator : PackGenerator) (artifact : Artifact)
    (chunks : List ArtifactChunk) (call : JobSearchCall) (items : List ActionableItem) :
    generator.toGenerator.run artifact chunks (some call) items =
      (generator.base.generate artifact).map (generator.settled artifact chunks call items) := by
  cases generator with
  | plain base =>
    change (base.generate artifact >>= _) = (base.generate artifact).map _
    cases base.generate artifact <;> rfl
  | assisted generator =>
    change (generator.base.generate artifact >>= _) = (generator.base.generate artifact).map _
    cases generator.base.generate artifact <;> rfl

/-- Items are only added. -/
theorem PackGenerator.settled_extends (generator : PackGenerator) (artifact : Artifact)
    (chunks : List ArtifactChunk) (call : JobSearchCall) (items generated : List ActionableItem) :
    ∃ added, generator.settled artifact chunks call items generated = items ++ added := by
  cases generator with
  | plain base => exact ⟨generated, rfl⟩
  | assisted generator =>
    simp only [PackGenerator.settled]
    rcases generator.attempt artifact chunks (items ++ generated.map markDeterministicItem) call with
      raised | outcome
    · exact ⟨_, rfl⟩
    · rcases outcome with _ | ⟨step, output, llmItems⟩
      · exact ⟨_, rfl⟩
      · by_cases hmode : step.mode = .llm
        · exact ⟨_, if_pos hmode⟩
        · exact ⟨_, (if_neg hmode).trans (List.append_assoc _ _ _)⟩

theorem PackGenerator.settled_loop (generator : PackGenerator) (model model' : JobSearchModel)
    (items generated : List ActionableItem) :
    generator.settled artifact chunks ⟨.eventLoop, context, renderPrompt, model⟩ items generated =
      generator.settled artifact chunks ⟨.eventLoop, context, renderPrompt, model'⟩ items
        generated := by
  cases generator with
  | plain base => rfl
  | assisted generator =>
    simp only [PackGenerator.settled, LLMAssistedTaskGenerator.attempt]
    by_cases hasks : AsksModel context renderPrompt (actionableItemKey artifact.domainId)
        ⟨artifact, chunks, some (items ++ generated.map markDeterministicItem)⟩
    · rw [attemptStep_loop hasks, attemptStep_loop hasks]
    · obtain ⟨outcome, -, houtcome⟩ := attemptStep_quiet hasks
        fun step (output : LLMActionableItemOutput) => mapActionableItems
          (generator.runtime artifact) artifact chunks step 0 output.actionableItems
      rw [houtcome, houtcome]

theorem settleItems_nothing (answer : Except Raised LLMActionableItemOutput) (runtime : Runtime)
    (step : ResolvedContextModelStep) (items : List ActionableItem) :
    settleItems items [] (answer.bind fun output =>
      (mapActionableItems runtime artifact [] step 0 output.actionableItems).bind fun mapped =>
        .ok (some (step, output, mapped))) = items := by
  cases answer with
  | error raised => exact List.append_nil _
  | ok output =>
    cases hmapped : mapActionableItems runtime artifact [] step 0 output.actionableItems with
    | error raised =>
      simp only [Except.bind, hmapped]
      exact List.append_nil _
    | ok mapped =>
      obtain rfl := mapActionableItems_no_chunks hmapped
      by_cases hmode : step.mode = .llm
      · simp [Except.bind, hmapped, settleItems, hmode]
      · simp [Except.bind, hmapped, settleItems, hmode]

theorem PackGenerator.settled_agrees {generator : PackGenerator}
    (h : ¬ generator.Diverges context renderPrompt artifact chunks items generated)
    (model : JobSearchModel) :
    generator.settled artifact chunks ⟨.eventLoop, context, renderPrompt, model⟩ items generated =
      generator.settled artifact chunks ⟨.workerThread, context, renderPrompt, model⟩ items
        generated := by
  cases generator with
  | plain base => rfl
  | assisted generator =>
    simp only [PackGenerator.settled, LLMAssistedTaskGenerator.attempt]
    by_cases hasks : AsksModel context renderPrompt (actionableItemKey artifact.domainId)
        ⟨artifact, chunks, some (items ++ generated.map markDeterministicItem)⟩
    · have hnothing : ¬ (chunks ≠ [] ∨ generated ≠ []) := fun hshows => h ⟨hasks, hshows⟩
      rw [not_or, not_not, not_not] at hnothing
      obtain ⟨rfl, rfl⟩ := hnothing
      obtain ⟨step, instructions, rendered, -, hworker⟩ := attemptStep_worker hasks
        fun step (output : LLMActionableItemOutput) => mapActionableItems
          (generator.runtime artifact) artifact [] step 0 output.actionableItems
      rw [attemptStep_loop hasks, hworker, List.map_nil, settleItems_nothing]
      exact List.append_nil items
    · obtain ⟨outcome, -, houtcome⟩ := attemptStep_quiet hasks
        fun step (output : LLMActionableItemOutput) => mapActionableItems
          (generator.runtime artifact) artifact chunks step 0 output.actionableItems
      rw [houtcome, houtcome]

theorem PackGenerator.settled_prolific {generator : PackGenerator} {chunk : ArtifactChunk}
    (hchunk : chunk ∈ chunks)
    (h : generator.Diverges context renderPrompt artifact chunks items generated) {count : Nat}
    (hcount : 0 < count) :
    count ≤ (generator.settled artifact chunks
      ⟨.workerThread, context, renderPrompt, prolificModel chunk count⟩ items generated).length := by
  cases generator with
  | plain base => exact absurd h id
  | assisted generator =>
    obtain ⟨step, instructions, rendered, -, hworker⟩ := attemptStep_worker h.1
      fun step (output : LLMActionableItemOutput) => mapActionableItems
        (generator.runtime artifact) artifact chunks step 0 output.actionableItems
    obtain ⟨mapped, hmapped, hlength⟩ := mapActionableItems_prolific
      (generator.runtime artifact) artifact hchunk step 0 count
    have hsome : mapped ≠ [] := fun hnil => by
      rw [hnil, List.length_nil] at hlength
      omega
    simp only [PackGenerator.settled, LLMAssistedTaskGenerator.attempt, hworker, prolificModel,
      Except.bind, hmapped, settleItems]
    by_cases hmode : step.mode = .llm
    · simp [hmode, hsome, hlength]
    · simp [hmode, hlength]
      omega

theorem PackGenerator.settled_refused (generator : PackGenerator)
    (context : ContextExecutionContext) (renderPrompt : Prompt → Except Raised Text)
    (artifact : Artifact) (chunks : List ArtifactChunk) (site : CallSite)
    (items generated : List ActionableItem) :
    (generator.settled artifact chunks ⟨site, context, renderPrompt, refusingModel⟩ items
      generated).length = items.length + generated.length := by
  cases generator with
  | plain base => exact List.length_append
  | assisted generator =>
    simp only [PackGenerator.settled, LLMAssistedTaskGenerator.attempt]
    have hsettled : ∀ outcome, (outcome = .ok none ∨ ∃ raised, outcome = .error raised) →
        (settleItems items (generated.map markDeterministicItem) outcome).length =
          items.length + generated.length := by
      rintro outcome (rfl | ⟨raised, rfl⟩)
      · simp [settleItems]
      · simp [settleItems]
    by_cases hasks : AsksModel context renderPrompt (actionableItemKey artifact.domainId)
        ⟨artifact, chunks, some (items ++ generated.map markDeterministicItem)⟩
    · cases site with
      | eventLoop =>
        rw [attemptStep_loop hasks]
        exact hsettled _ (.inr ⟨_, rfl⟩)
      | workerThread => exact hsettled _ (.inr ⟨_, attemptStep_refused hasks _⟩)
    · obtain ⟨outcome, hcases, houtcome⟩ := attemptStep_quiet hasks
        fun step (output : LLMActionableItemOutput) => mapActionableItems
          (generator.runtime artifact) artifact chunks step 0 output.actionableItems
      rw [houtcome]
      exact hsettled outcome hcases

theorem PackGenerator.settled_refused_ne {generator : PackGenerator}
    (h : generator.Diverges context renderPrompt artifact [] items generated) :
    generator.settled artifact [] ⟨.eventLoop, context, renderPrompt, refusingModel⟩ items
        generated ≠
      generator.settled artifact [] ⟨.workerThread, context, renderPrompt, refusingModel⟩ items
        generated := by
  cases generator with
  | plain base => exact absurd h id
  | assisted generator =>
    obtain ⟨hasks, hshows⟩ := h
    have hworker := attemptStep_refused hasks
      fun step (output : LLMActionableItemOutput) => mapActionableItems
        (generator.runtime artifact) artifact [] step 0 output.actionableItems
    simp only [PackGenerator.settled, LLMAssistedTaskGenerator.attempt]
    rw [attemptStep_loop hasks]
    simp only [refusingModel] at hworker ⊢
    rw [hworker]
    obtain ⟨item, hitem⟩ := List.exists_mem_of_ne_nil generated
      (hshows.resolve_left fun hchunks => hchunks rfl)
    intro heq
    exact map_ne_map (List.mem_map_of_mem hitem) (fun hset => llmFailed_refusal_ne (setWarning_inj hset))
      (List.append_cancel_left heq)

end Generation

end DemoService.JobSearch
