import DemoService.Fallible
import DemoService.PyDict
import DemoService.PyText

/-! The YAML configuration of the workflows: the checks of its models, the references the loader
resolves, and the registry it builds. A configuration stands for what its file parses to. -/

namespace DemoService.Workflow

open PyText

inductive WorkflowProvider
  | openai
  | anthropic
  | ollama
  | fireworks
  | openrouter
  deriving DecidableEq, Repr

structure ParallelExecutionConfig where
  enabled : Bool
  group : Option Text
  canRunWith : List Text
  deriving DecidableEq, Repr

structure AgentWorkflowConfig where
  role : Text
  provider : WorkflowProvider
  model : Text
  systemPrompt : Text
  tools : List Text
  canHandoffTo : List Text
  parallel : Option ParallelExecutionConfig
  deriving DecidableEq, Repr

structure WorkflowConfig where
  key : Text
  description : Text
  startingAgent : Text
  postProcessors : List Text
  agents : List AgentWorkflowConfig
  deriving DecidableEq, Repr

inductive PostProcessorType
  | auditToolUsageAndHandoffs
  deriving DecidableEq, Repr

/-- Each error with the values its message names. -/
inductive ConfigError
  | tooShort (field : String)
  | duplicateTools (role : Text)
  | duplicateHandoffTargets (role : Text)
  | duplicateRoles (key : Text) (roles : List Text)
  | unknownStartingAgent (key agent : Text)
  | unknownHandoffTargets (key role : Text) (targets : List Text)
  | parallelWithItself (key role : Text)
  | unknownParallelPeers (key role : Text) (peers : List Text)
  | unknownPostProcessors (key : Text) (missing : List Text)
  | unknownTool (key tool : Text)
  | agentRuntime (reason : Text)
  | duplicateWorkflow (key : Text)
  | noWorkflows
  | unknownDefaultWorkflow (key : Text)
  deriving DecidableEq, Repr

def require (holds : Bool) (error : ConfigError) : Except ConfigError Unit :=
  if holds then .ok () else .error error

def checkAll {α : Type} (check : α → Except ConfigError Unit) : List α → Except ConfigError Unit
  | [] => .ok ()
  | a :: as => do
    check a
    checkAll check as

def validateUniqueToolNames (agent : AgentWorkflowConfig) : Except ConfigError Unit := do
  require (decide agent.tools.Nodup) (.duplicateTools agent.role)
  require (decide agent.canHandoffTo.Nodup) (.duplicateHandoffTargets agent.role)

def validateAgent (agent : AgentWorkflowConfig) : Except ConfigError Unit := do
  require (agent.role != []) (.tooShort "role")
  require (agent.model != []) (.tooShort "model")
  require (agent.systemPrompt != []) (.tooShort "system_prompt")
  validateUniqueToolNames agent

def WorkflowConfig.roles (config : WorkflowConfig) : List Text :=
  config.agents.map AgentWorkflowConfig.role

/-- The names of a list that are no role of the workflow; the messages sort them. -/
def WorkflowConfig.unknown (config : WorkflowConfig) (names : List Text) : List Text :=
  names.filter (· ∉ config.roles)

def validateParallel (config : WorkflowConfig) (role : Text)
    (parallel : ParallelExecutionConfig) : Except ConfigError Unit := do
  require (decide (role ∉ parallel.canRunWith)) (.parallelWithItself config.key role)
  let peers := config.unknown parallel.canRunWith
  require peers.isEmpty (.unknownParallelPeers config.key role peers)

def validateReferences (config : WorkflowConfig) (agent : AgentWorkflowConfig) :
    Except ConfigError Unit := do
  let targets := config.unknown agent.canHandoffTo
  require targets.isEmpty (.unknownHandoffTargets config.key agent.role targets)
  match agent.parallel with
  | none => pure ()
  | some parallel => validateParallel config agent.role parallel

def validateAgentRelationships (config : WorkflowConfig) : Except ConfigError Unit := do
  require (decide config.roles.Nodup) (.duplicateRoles config.key config.roles)
  require (decide (config.startingAgent ∈ config.roles))
    (.unknownStartingAgent config.key config.startingAgent)
  checkAll (validateReferences config) config.agents

def validateWorkflow (config : WorkflowConfig) : Except ConfigError Unit := do
  require (config.key != []) (.tooShort "key")
  require (config.description != []) (.tooShort "description")
  require (config.startingAgent != []) (.tooShort "starting_agent")
  require (!config.agents.isEmpty) (.tooShort "agents")
  checkAll validateAgent config.agents
  validateAgentRelationships config

/-- `tools.__all__`. -/
def toolNames : List Text :=
  ["assess_employer_readiness", "capture_notification_preference", "end_conversation",
    "extract_action_items", "extract_claims", "extract_decisions", "find_contradictions",
    "find_duplicates", "format_brief", "load_run_context", "normalize_input",
    "persist_brief_draft", "prepare_meeting_context", "record_answer", "split_into_sections",
    "warm_transfer_call"].map String.toList

def validateToolNames (workflowKey : Text) (names : List Text) : Except ConfigError Unit :=
  checkAll (fun name => require (decide (name ∈ toolNames)) (.unknownTool workflowKey name)) names

abbrev PostProcessors := Dict Text PostProcessorType

def validateWorkflowReferences (config : WorkflowConfig) (postProcessors : PostProcessors) :
    Except ConfigError Unit := do
  let missing := config.postProcessors.filter fun key => (Dict.get? postProcessors key).isNone
  require missing.isEmpty (.unknownPostProcessors config.key missing)
  checkAll (fun agent => validateToolNames config.key agent.tools) config.agents

structure WorkflowAgentRuntime where
  config : AgentWorkflowConfig
  /-- `agent is not None`. -/
  executable : Bool
  deriving DecidableEq, Repr

structure WorkflowRuntime where
  config : WorkflowConfig
  agents : Dict Text WorkflowAgentRuntime
  deriving DecidableEq, Repr

structure WorkflowRegistry where
  workflows : Dict Text WorkflowRuntime
  postProcessors : PostProcessors
  deriving DecidableEq, Repr

section Loader

variable (buildAgent : AgentWorkflowConfig → Except Text Bool)

def buildAgentRuntime (agent : AgentWorkflowConfig) :
    Except ConfigError (Text × WorkflowAgentRuntime) :=
  match buildAgent agent with
  | .error reason => .error (.agentRuntime reason)
  | .ok executable => .ok (agent.role, ⟨agent, executable⟩)

def addWorkflow (postProcessors : PostProcessors) (workflows : Dict Text WorkflowRuntime)
    (config : WorkflowConfig) : Except ConfigError (Dict Text WorkflowRuntime) := do
  validateWorkflow config
  validateWorkflowReferences config postProcessors
  require (Dict.get? workflows config.key).isNone (.duplicateWorkflow config.key)
  let agents ← Fallible.mapAll (buildAgentRuntime buildAgent) config.agents
  pure (Dict.set workflows config.key ⟨config, Dict.ofList agents⟩)

def addWorkflows (postProcessors : PostProcessors) :
    Dict Text WorkflowRuntime → List WorkflowConfig → Except ConfigError (Dict Text WorkflowRuntime)
  | workflows, [] => .ok workflows
  | workflows, config :: configs => do
    let added ← addWorkflow buildAgent postProcessors workflows config
    addWorkflows postProcessors added configs

def loadWorkflowRegistry (defaultWorkflowKey : Text) (postProcessors : PostProcessors)
    (configs : List WorkflowConfig) : Except ConfigError WorkflowRegistry := do
  let workflows ← addWorkflows buildAgent postProcessors [] configs
  require (!workflows.isEmpty) .noWorkflows
  require (Dict.get? workflows defaultWorkflowKey).isSome
    (.unknownDefaultWorkflow defaultWorkflowKey)
  pure ⟨workflows, postProcessors⟩

end Loader

def getWorkflow (registry : WorkflowRegistry) (key : Text) : Option WorkflowRuntime :=
  Dict.get? registry.workflows key

end DemoService.Workflow
