import DemoService.ContextStorage

/-! Model steps of the context engine: their configuration, their resolution, and the runner
that asks the model unless it is called on a running event loop. -/

namespace DemoService.Context

open PyText

inductive ContextExecutionMode
  | deterministic
  | llm
  | hybrid
  deriving DecidableEq, Repr

def ContextExecutionMode.value : ContextExecutionMode → Text
  | .deterministic => "deterministic".toList
  | .llm => "llm".toList
  | .hybrid => "hybrid".toList

structure ModelProfileConfig where
  provider : Text
  model : Text
  structuredOutput : Bool
  deriving DecidableEq, Repr

structure ContextModelStepConfig where
  id : Text
  purpose : Text
  modelProfile : Option Text
  promptTemplate : Text
  promptVersion : Text
  deriving DecidableEq, Repr

structure ContextExecutionFlowConfig where
  domainId : Text
  flowId : Text
  mode : Option ContextExecutionMode
  modelProfile : Option Text
  steps : List ContextModelStepConfig
  deriving DecidableEq, Repr

structure ContextModelFlowCatalog where
  defaultMode : ContextExecutionMode
  defaultModelProfile : Option Text
  modelProfiles : Dict Text ModelProfileConfig
  flows : List ContextExecutionFlowConfig
  deriving DecidableEq, Repr

structure ResolvedContextModelStep where
  domainId : Text
  flowId : Text
  stepId : Text
  purpose : Text
  mode : ContextExecutionMode
  modelProfileId : Text
  modelProfile : ModelProfileConfig
  promptTemplate : Text
  promptVersion : Text
  deriving DecidableEq, Repr

/-- The ids by which a domain extension asks for a step. -/
structure StepKey where
  domainId : Text
  flowId : Text
  stepId : Text
  purpose : Text
  deriving DecidableEq, Repr

def StepKey.path (key : StepKey) : Text :=
  key.domainId ++ '/' :: key.flowId ++ '/' :: key.stepId

def resolveStep (catalog : ContextModelFlowCatalog) (key : StepKey)
    (modeOverride : Option ContextExecutionMode) : Except Raised ResolvedContextModelStep :=
  match catalog.flows.find? fun flow => flow.domainId = key.domainId ∧ flow.flowId = key.flowId with
  | none => .error (valueError ("No Context Engine model flow configured for ".toList ++
      key.domainId ++ '/' :: key.flowId ++ ['.']))
  | some flow =>
    match flow.steps.find? fun step => step.id = key.stepId with
    | none => .error (valueError ("No Context Engine model step configured for ".toList ++
        key.path ++ ['.']))
    | some step =>
      if step.purpose ≠ key.purpose then
        .error (valueError ("Context Engine step ".toList ++ key.path ++ " has purpose ".toList ++
          quote step.purpose ++ ", expected ".toList ++ quote key.purpose ++ ['.']))
      else
        match (step.modelProfile.bind orNone).or
            ((flow.modelProfile.bind orNone).or catalog.defaultModelProfile) with
        | none => .error (valueError ("Context Engine step ".toList ++ key.path ++
            " has no model profile.".toList))
        | some profileId =>
          match catalog.modelProfiles.get? profileId with
          | none => .error (valueError ("Context Engine model profile ".toList ++
              quote profileId ++ " is not configured.".toList))
          | some profile => .ok {
              domainId := key.domainId
              flowId := key.flowId
              stepId := key.stepId
              purpose := step.purpose
              mode := (modeOverride.or flow.mode).getD catalog.defaultMode
              modelProfileId := profileId
              modelProfile := profile
              promptTemplate := step.promptTemplate
              promptVersion := step.promptVersion }

def metadataForGeneratedStep (generatedAt : Text) (step : ResolvedContextModelStep) : Metadata :=
  [("generated_by".toList, .text "llm".toList),
    ("model_profile".toList, .text step.modelProfileId),
    ("prompt_template".toList, .text step.promptTemplate),
    ("prompt_version".toList, .text step.promptVersion),
    ("generated_at".toList, .text generatedAt)]

/-- Where synchronous code runs: in a coroutine on the event loop, or on a worker thread. -/
inductive CallSite
  | eventLoop
  | workerThread
  deriving DecidableEq, Repr

/-- The content of a prompt, which is rendered as JSON. -/
structure Prompt where
  artifact : Artifact
  chunks : List ArtifactChunk
  currentItems : Option (List ActionableItem)
  deriving DecidableEq, Repr

structure PydanticAIContextModelRunner where
  providerIsImplemented : Text → Bool
  createAgent : ResolvedContextModelStep → Except Raised Unit

def eventLoopError : Raised :=
  ⟨.runtimeError,
    "Context Engine synchronous LLM execution cannot run inside an event loop.".toList⟩

/-- `run_structured`; `answer` is what the model gives for the request. -/
def runStructured {α : Type} (runner : PydanticAIContextModelRunner) (site : CallSite)
    (step : ResolvedContextModelStep) (answer : Except Raised α) : Except Raised α :=
  if step.modelProfile.structuredOutput = false then
    .error (valueError ("Context Engine step ".toList ++ step.domainId ++ '/' :: step.flowId ++
      '/' :: step.stepId ++ " requires structured_output=true.".toList))
  else if runner.providerIsImplemented step.modelProfile.provider = false then
    .error (valueError ("Provider ".toList ++ quote step.modelProfile.provider ++
      " is not implemented for Context Engine.".toList))
  else do
    runner.createAgent step
    match site with
    | .eventLoop => .error eventLoopError
    | .workerThread => answer

structure ContextExecutionContext where
  catalog : ContextModelFlowCatalog
  runner : PydanticAIContextModelRunner
  loadPrompt : ResolvedContextModelStep → Except Raised Text
  modeOverride : Option ContextExecutionMode

def ContextExecutionContext.resolveStep (context : ContextExecutionContext) (key : StepKey) :
    Except Raised ResolvedContextModelStep :=
  Context.resolveStep context.catalog key context.modeOverride

/-- The runner gets as far as the model: everything before the call succeeds. -/
def Asks (runner : PydanticAIContextModelRunner) (step : ResolvedContextModelStep) : Prop :=
  step.modelProfile.structuredOutput = true ∧
    runner.providerIsImplemented step.modelProfile.provider = true ∧
    runner.createAgent step = .ok ()

instance (runner : PydanticAIContextModelRunner) (step : ResolvedContextModelStep) :
    Decidable (Asks runner step) :=
  inferInstanceAs (Decidable (_ ∧ _ ∧ _))

theorem runStructured_worker {α : Type} {runner : PydanticAIContextModelRunner}
    {step : ResolvedContextModelStep} (h : Asks runner step) (answer : Except Raised α) :
    runStructured runner .workerThread step answer = answer := by
  obtain ⟨hstructured, himplemented, hagent⟩ := h
  rw [runStructured, if_neg (by simp [hstructured]), if_neg (by simp [himplemented]), hagent]
  rfl

theorem runStructured_loop {α : Type} {runner : PydanticAIContextModelRunner}
    {step : ResolvedContextModelStep} (h : Asks runner step) (answer : Except Raised α) :
    runStructured runner .eventLoop step answer = .error eventLoopError := by
  obtain ⟨hstructured, himplemented, hagent⟩ := h
  rw [runStructured, if_neg (by simp [hstructured]), if_neg (by simp [himplemented]), hagent]
  rfl

/-- Short of the model, the site of the call makes no difference. -/
theorem runStructured_not_asks {α : Type} {runner : PydanticAIContextModelRunner}
    {step : ResolvedContextModelStep} (h : ¬ Asks runner step) :
    ∃ raised, ∀ site (answer : Except Raised α),
      runStructured runner site step answer = .error raised := by
  by_cases hstructured : step.modelProfile.structuredOutput = false
  · exact ⟨_, fun site answer => if_pos hstructured⟩
  · by_cases himplemented : runner.providerIsImplemented step.modelProfile.provider = false
    · exact ⟨_, fun site answer => by rw [runStructured.eq_def, if_neg hstructured, if_pos himplemented]⟩
    · cases hagent : runner.createAgent step with
      | ok u => exact absurd ⟨by simpa using hstructured, by simpa using himplemented, hagent⟩ h
      | error raised =>
        refine ⟨raised, fun site answer => ?_⟩
        rw [runStructured.eq_def, if_neg hstructured, if_neg himplemented, hagent]
        rfl

end DemoService.Context
