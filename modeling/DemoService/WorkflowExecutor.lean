import DemoService.EffectRules
import DemoService.RunModel
import DemoService.WorkflowConfigs
import DemoService.WorkflowDuplicates

/-! The bounded execution of the messy-notes workflow, the events it records and the audit it
stores. Every commit, and every call of an agent, may raise; a commit may do so when it has
already taken effect. -/

namespace DemoService.Workflow

open PyText Effect Runs

inductive RunEventType
  | runExecutionStarted
  | agentStarted
  | agentFinished
  | toolCalled
  | toolResult
  | handoffOccurred
  | runCompleted
  | runFailed
  | postProcessorStarted
  | postProcessorCompleted
  deriving DecidableEq, Repr

structure RunEventPayload where
  eventType : RunEventType
  status : Option RunStatus := none
  agentRole : Option Text := none
  toolName : Option Text := none
  handoffSourceRole : Option Text := none
  handoffTargetRole : Option Text := none
  postProcessorKey : Option Text := none
  message : Option Text := none
  deriving DecidableEq, Repr

structure RunEvent extends RunEventPayload where
  runId : Nat
  deriving DecidableEq, Repr

structure ContradictionFinding where
  positive : Text
  negative : Text
  sourceSectionIds : List Text
  deriving DecidableEq, Repr

structure BriefInput extends ReconciliationInput where
  title : Option Text
  duplicates : List DuplicateFinding
  contradictions : List ContradictionFinding
  deriving DecidableEq, Repr

structure BriefSection where
  heading : Text
  content : Text
  deriving DecidableEq, Repr

structure BriefOutput where
  title : Text
  executiveSummary : Text
  sections : List BriefSection
  openQuestions : List Text
  auditNotes : List Text
  deriving DecidableEq, Repr

def joinItems (items : List ExtractedItem) : Text :=
  join ['\n'] ((items.take 8).map fun item => "- ".toList ++ item.text)

def countOf {α : Type} (items : List α) (noun : String) : List Text :=
  if items = [] then [] else [Nat.toDigits 10 items.length ++ ' ' :: noun.toList]

def formatBrief (payload : BriefInput) : BriefOutput :=
  let summaryParts := countOf payload.claims "grounded observations" ++
    countOf payload.decisions "decisions" ++ countOf payload.actionItems "action items"
  { title := orText payload.title "Messy notes brief".toList
    executiveSummary :=
      if summaryParts = [] then
        "The submitted notes did not contain enough structured detail for a rich brief.".toList
      else
        "This brief summarizes ".toList ++ join ", ".toList summaryParts ++
          " from the submitted notes.".toList
    sections := [
      ⟨"Key observations".toList,
        orText (joinItems payload.claims) "No clear factual claims were found.".toList⟩,
      ⟨"Decisions".toList,
        orText (joinItems payload.decisions) "No explicit decisions were found.".toList⟩,
      ⟨"Action items".toList,
        orText (joinItems payload.actionItems) "No explicit action items were found.".toList⟩]
    openQuestions :=
      (payload.duplicates.take 1).map (fun _ =>
        "Resolve duplicate or overlapping notes before treating them as separate facts.".toList) ++
      (payload.contradictions.take 1).map fun _ =>
        "Confirm contradictory notes before acting on the brief.".toList
    auditNotes := [
      "Duplicate findings: ".toList ++ Nat.toDigits 10 payload.duplicates.length,
      "Potential contradictions: ".toList ++ Nat.toDigits 10 payload.contradictions.length] }

/-- What `execute` answers for the tools of the pipeline; any of them may raise. -/
structure WorkflowTools where
  normalizeInput : Text → Except Text NormalizedInputOutput
  splitIntoSections : Text → Except Text (List NoteSection)
  extractClaims : List NoteSection → Except Text (List ExtractedItem)
  extractDecisions : List NoteSection → Except Text (List ExtractedItem)
  extractActionItems : List NoteSection → Except Text (List ExtractedItem)
  findDuplicates : ReconciliationInput → Except Text (List DuplicateFinding)
  findContradictions : ReconciliationInput → Except Text (List ContradictionFinding)
  formatBrief : BriefInput → Except Text BriefOutput

/-- The registered tools; how letters fold and what contradicts what are parameters. -/
def registeredTools (lower : Text → Text)
    (findContradictions : ReconciliationInput → List ContradictionFinding) : WorkflowTools where
  normalizeInput text := .ok (normalizeInput text)
  splitIntoSections text := .ok (splitIntoSections text)
  extractClaims sections := .ok (extractClaims lower sections)
  extractDecisions sections := .ok (extractDecisions lower sections)
  extractActionItems sections := .ok (extractActionItems lower sections)
  findDuplicates payload := .ok (findDuplicates lower payload)
  findContradictions payload := .ok (findContradictions payload)
  formatBrief payload := .ok (formatBrief payload)

inductive Assessment
  | ok
  | needsReview
  deriving DecidableEq, Repr

structure Audit where
  overallAssessment : Assessment
  toolUsageFindings : List Text
  handoffFindings : List Text
  suspiciousActions : List Text
  summary : String
  deriving DecidableEq, Repr

structure PostProcessorResult extends Audit where
  type : PostProcessorType
  deriving DecidableEq, Repr

abbrev Results := Dict Text PostProcessorResult

/-- Something the executor did on behalf of an agent. -/
inductive Act
  | tool (agentRole toolName : Text)
  | handoff (sourceRole targetRole : Text)
  deriving DecidableEq, Repr

/-- One audit: the events it read, and what had been done until then. -/
structure AuditRead where
  events : List RunEvent
  performed : List Act
  deriving DecidableEq, Repr

inductive Fault
  | lost (reason : Text)
  | late (reason : Text)
  deriving DecidableEq, Repr

/-- How a call out of the executor ends, and what other runs have recorded until then. -/
structure Outcome where
  others : List RunEvent := []
  reply : Text := []
  fault : Option Fault := none
  deriving DecidableEq, Repr

structure World where
  run : Runs.Run
  /-- What `post_processor_results_serialized` holds, decoded. -/
  results : Option Results
  events : List RunEvent
  performed : List Act
  audited : List AuditRead
  script : List Outcome

structure Executor where
  runId : Nat
  environment : Text
  registry : WorkflowRegistry
  tools : WorkflowTools
  parseLocalSlmBrief : Text → Except Text BriefOutput
  serializeBrief : BriefOutput → Text
  serializeResults : Results → Text

abbrev Execution := Effect World Text

def auditToolCall (configuredTools : Dict Text (List Text)) (audit : Audit)
    (event : RunEventPayload) : Audit :=
  if event.eventType = .toolCalled ∧ event.toolName.getD [] ≠ [] then
    let role := event.agentRole.getD "None".toList
    let name := event.toolName.getD []
    if name ∉ (Dict.get? configuredTools (event.agentRole.getD [])).getD [] then
      { audit with suspiciousActions := audit.suspiciousActions ++
          [role ++ " called unconfigured tool ".toList ++ name ++ ['.']] }
    else
      { audit with toolUsageFindings := audit.toolUsageFindings ++
          [role ++ " used configured tool ".toList ++ name ++ ['.']] }
  else audit

def auditHandoff (graph : Dict Text (List Text)) (audit : Audit)
    (event : RunEventPayload) : Audit :=
  if event.eventType = .handoffOccurred then
    let source := event.handoffSourceRole.getD []
    let target := event.handoffTargetRole.getD []
    if target ∉ (Dict.get? graph source).getD [] then
      { audit with suspiciousActions := audit.suspiciousActions ++
          ["Invalid handoff observed: ".toList ++ source ++ " to ".toList ++ target ++ ['.']] }
    else
      { audit with handoffFindings := audit.handoffFindings ++
          ["Configured handoff observed: ".toList ++ source ++ " to ".toList ++ target ++ ['.']] }
  else audit

def WorkflowConfig.configuredTools (config : WorkflowConfig) : Dict Text (List Text) :=
  Dict.ofList (config.agents.map fun agent => (agent.role, agent.tools))

def WorkflowConfig.graph (config : WorkflowConfig) : Dict Text (List Text) :=
  Dict.ofList (config.agents.map fun agent => (agent.role, agent.canHandoffTo))

def auditEvent (config : WorkflowConfig) (audit : Audit) (event : RunEvent) : Audit :=
  auditHandoff config.graph (auditToolCall config.configuredTools audit event.toRunEventPayload)
    event.toRunEventPayload

def assess (audit : Audit) : Audit :=
  if audit.suspiciousActions = [] then
    { audit with
      overallAssessment := .ok
      summary := "Tool use and handoffs stayed inside the configured workflow." }
  else
    { audit with
      overallAssessment := .needsReview
      summary := "The audit found actions outside the configured workflow." }

def auditToolUsageAndHandoffs (config : WorkflowConfig) (events : List RunEvent) : Audit :=
  assess (events.foldl (auditEvent config) ⟨.ok, [], [], [], ""⟩)

def agentConfig (workflow : WorkflowRuntime) (role : Text) : Except Text AgentWorkflowConfig :=
  match Dict.get? workflow.agents role with
  | some runtime => .ok runtime.config
  | none => .error ("Unknown workflow agent '".toList ++ role ++ "'.".toList)

section Execution

variable (x : Executor)

def nextOutcome : Execution Outcome := fun w =>
  match w.script with
  | [] => (.ok {}, w)
  | outcome :: script =>
    (.ok outcome, { w with
      script := script
      events := w.events ++ outcome.others.filter (·.runId ≠ x.runId) })

def commit (change : World → World) : Execution Unit := do
  let outcome ← nextOutcome x
  match outcome.fault with
  | none => modify change
  | some (.lost reason) => fail reason
  | some (.late reason) => do
    modify change
    fail reason

/-- A call out of the executor: what it answers, unless it raises. -/
def callOut : Execution Text := do
  let outcome ← nextOutcome x
  match outcome.fault with
  | none => pure outcome.reply
  | some (.lost reason) => fail reason
  | some (.late reason) => fail reason

def recordRunEvent (payload : RunEventPayload) : Execution Unit :=
  commit x fun w => { w with events := w.events ++ [⟨payload, x.runId⟩] }

def perform (act : Act) : Execution Unit :=
  modify fun w => { w with performed := w.performed ++ [act] }

def touchPydanticAgent (workflow : WorkflowRuntime) (role : Text) : Execution Unit :=
  if x.environment = "test".toList then pure ()
  else
    match Dict.get? workflow.agents role with
    | none => fail role
    | some runtime =>
      if runtime.executable then do
        let _ ← callOut x
        pure ()
      else pure ()

def agentStarted (workflow : WorkflowRuntime) (role : Text) (touchAgent : Bool) :
    Execution Unit := do
  let _ ← lift (agentConfig workflow role)
  recordRunEvent x {
    eventType := .agentStarted
    agentRole := some role
    status := some .processing
    message := some ("Agent ".toList ++ role ++ " started.".toList) }
  if touchAgent then touchPydanticAgent x workflow role else pure ()

def agentFinished (role : Text) : Execution Unit :=
  recordRunEvent x {
    eventType := .agentFinished
    agentRole := some role
    status := some .processing
    message := some ("Agent ".toList ++ role ++ " finished.".toList) }

/-- `_tool`, given what the registry answers for the payload. -/
def tool {α : Type} (agentRole : Text) (toolName : String) (result : Except Text α) :
    Execution α := do
  recordRunEvent x {
    eventType := .toolCalled
    agentRole := some agentRole
    toolName := some toolName.toList
    status := some .processing }
  perform (.tool agentRole toolName.toList)
  let value ← lift result
  recordRunEvent x {
    eventType := .toolResult
    agentRole := some agentRole
    toolName := some toolName.toList
    status := some .processing }
  pure value

def handoff (workflow : WorkflowRuntime) (sourceRole targetRole : Text) : Execution Unit := do
  let source ← lift (agentConfig workflow sourceRole)
  let _ ← lift (agentConfig workflow targetRole)
  if targetRole ∉ source.canHandoffTo then
    fail ("Agent '".toList ++ sourceRole ++ "' cannot hand off to '".toList ++ targetRole ++
      "'.".toList)
  else do
    recordRunEvent x {
      eventType := .handoffOccurred
      handoffSourceRole := some sourceRole
      handoffTargetRole := some targetRole
      status := some .processing
      message := some (sourceRole ++ " handed off to ".toList ++ targetRole ++ ['.']) }
    perform (.handoff sourceRole targetRole)

def extractor : Text := "extractor".toList

def reconciler : Text := "reconciler".toList

def briefWriter : Text := "brief_writer".toList

def extractionTools : List String := ["extract_claims", "extract_decisions", "extract_action_items"]

def queueTool (toolName : String) : Execution Unit :=
  recordRunEvent x {
    eventType := .toolCalled
    agentRole := some extractor
    toolName := some toolName.toList
    status := some .processing
    message := some "Queued bounded extraction tool.".toList }

/-- `executor.submit`: the pool may refuse, and runs what it has taken. -/
def submitTool (toolName : String) : Execution Unit := do
  let _ ← callOut x
  perform (.tool extractor toolName.toList)

def completeTool (toolName : String) : Execution Unit :=
  recordRunEvent x {
    eventType := .toolResult
    agentRole := some extractor
    toolName := some toolName.toList
    status := some .processing
    message := some "Completed bounded extraction tool.".toList }

def runExtractionParallel (workflow : WorkflowRuntime) (sections : List NoteSection) :
    Execution ReconciliationInput := do
  let agent ← lift (agentConfig workflow extractor)
  if (agent.parallel.map ParallelExecutionConfig.enabled).getD false then do
    forEach (queueTool x) extractionTools
    forEach (submitTool x) extractionTools
    let claims ← lift (x.tools.extractClaims sections)
    let decisions ← lift (x.tools.extractDecisions sections)
    let actionItems ← lift (x.tools.extractActionItems sections)
    forEach (completeTool x) extractionTools
    pure ⟨claims, decisions, actionItems⟩
  else do
    let claims ← tool x extractor "extract_claims" (x.tools.extractClaims sections)
    let decisions ← tool x extractor "extract_decisions" (x.tools.extractDecisions sections)
    let actionItems ← tool x extractor "extract_action_items"
      (x.tools.extractActionItems sections)
    pure ⟨claims, decisions, actionItems⟩

def storeBrief (brief : BriefOutput) : Execution Unit :=
  commit x fun w => { w with run := { w.run with outputBrief := some (x.serializeBrief brief) } }

def executeMessyNotesLocalSlm (workflow : WorkflowRuntime) : Execution Unit := do
  let role := workflow.config.startingAgent
  agentStarted x workflow role false
  if ((Dict.get? workflow.agents role).map WorkflowAgentRuntime.executable).getD false then do
    let w ← read
    if strip (sourceText w.run.normalizedInputText w.run.inputText) = [] then
      fail "Cannot execute local SLM workflow without input.".toList
    else do
      let output ← callOut x
      let brief ← lift (x.parseLocalSlmBrief output)
      storeBrief x brief
      agentFinished x role
  else fail ("Workflow agent '".toList ++ role ++ "' is not executable.".toList)

def executeMessyNotesV1 (workflow : WorkflowRuntime) : Execution Unit := do
  let orchestrator := workflow.config.startingAgent
  agentStarted x workflow orchestrator true
  let w ← read
  let normalized ← tool x orchestrator "normalize_input"
    (x.tools.normalizeInput (sourceText w.run.normalizedInputText w.run.inputText))
  agentFinished x orchestrator
  handoff x workflow orchestrator extractor
  agentStarted x workflow extractor true
  let sections ← tool x extractor "split_into_sections" (x.tools.splitIntoSections normalized.text)
  let findings ← runExtractionParallel x workflow sections
  agentFinished x extractor
  handoff x workflow extractor reconciler
  agentStarted x workflow reconciler true
  let duplicates ← tool x reconciler "find_duplicates" (x.tools.findDuplicates findings)
  let contradictions ← tool x reconciler "find_contradictions"
    (x.tools.findContradictions findings)
  agentFinished x reconciler
  handoff x workflow reconciler briefWriter
  agentStarted x workflow briefWriter true
  let brief ← tool x briefWriter "format_brief"
    (x.tools.formatBrief ⟨findings, w.run.title, duplicates, contradictions⟩)
  storeBrief x brief
  agentFinished x briefWriter

def executeMessyNotes (workflow : WorkflowRuntime) : Execution Unit :=
  if workflow.config.key = localSlmKey then executeMessyNotesLocalSlm x workflow
  else if workflow.config.key = messyNotesKey then executeMessyNotesV1 x workflow
  else fail ("Unsupported workflow '".toList ++ workflow.config.key ++ "'.".toList)

def eventsForRun (w : World) : List RunEvent := w.events.filter (·.runId = x.runId)

/-- Reads the events, and notes in the world that an audit did. -/
def readEvents : Execution (List RunEvent) := do
  modify fun w => { w with audited := w.audited ++ [⟨eventsForRun x w, w.performed⟩] }
  let w ← read
  pure (eventsForRun x w)

def runPostProcessor (workflow : WorkflowRuntime) (results : Results) (key : Text) :
    Execution Results :=
  match Dict.get? x.registry.postProcessors key with
  | none => fail key
  | some type => do
    recordRunEvent x {
      eventType := .postProcessorStarted
      postProcessorKey := some key
      status := some .completed
      message := some ("Post-processor ".toList ++ key ++ " started.".toList) }
    let events ← readEvents x
    let audit := auditToolUsageAndHandoffs workflow.config events
    let stored := Dict.set results key ⟨audit, type⟩
    commit x fun w => { w with
      run := { w.run with postProcessorResults := some (x.serializeResults stored) }
      results := some stored }
    recordRunEvent x {
      eventType := .postProcessorCompleted
      postProcessorKey := some key
      status := some .completed
      message := some ("Post-processor ".toList ++ key ++ " completed.".toList) }
    pure stored

def runPostProcessors (workflow : WorkflowRuntime) : Results → List Text → Execution Unit
  | _, [] => pure ()
  | results, key :: keys => do
    let stored ← runPostProcessor x workflow results key
    runPostProcessors workflow stored keys

def workflowOf (run : Runs.Run) : Except Text WorkflowRuntime :=
  match getWorkflow x.registry run.workflowKey with
  | some workflow => .ok workflow
  | none => .error ("\"Unknown workflow '".toList ++ run.workflowKey ++ "'.\"".toList)

def attemptRun (now : Nat) : Execution Unit := do
  let w ← read
  let workflow ← lift (workflowOf x w.run)
  commit x fun w => { w with run := startProcessing w.run }
  recordRunEvent x {
    eventType := .runExecutionStarted
    status := some .processing
    message := some ("Started workflow ".toList ++ workflow.config.key ++ ['.']) }
  executeMessyNotes x workflow
  commit x fun w => { w with run := { w.run with status := .completed, completedAt := some now } }
  recordRunEvent x {
    eventType := .runCompleted
    status := some .completed
    message := some "Workflow completed.".toList }
  runPostProcessors x workflow [] workflow.config.postProcessors

def recordFailure {α : Type} (now : Nat) (reason : Text) : Execution α := do
  commit x fun w => { w with run := failRun w.run now reason }
  recordRunEvent x {
    eventType := .runFailed
    status := some .failed
    message := some "The run failed during bounded workflow execution.".toList }
  fail reason

def executeRunWorkflow (now : Nat) : Execution Unit := do
  let w ← read
  if w.run.Executable then tryCatch (attemptRun x now) (recordFailure x now)
  else fail "Only draft, submitted, or failed runs can be executed.".toList

end Execution

end DemoService.Workflow
