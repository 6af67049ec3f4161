import DemoService.GuardedRuns
import DemoService.RunInput
import DemoService.WorkflowExecutor

/-! Over every history of one run of the messy-notes workflow, what the stored audit says of the
tools its executions ran and the handoffs they performed. Each execution works off one plan; the
one that reaches the audit has worked off all of it. -/

namespace DemoService.Workflow

open PyText Effect Runs GuardedRuns

def Permits (config : WorkflowConfig) : Act → Prop
  | .tool role name => ∃ agent ∈ config.agents, agent.role = role ∧ name ∈ agent.tools
  | .handoff source target =>
    ∃ agent ∈ config.agents, agent.role = source ∧ target ∈ agent.canHandoffTo

/-- What an event says was done. -/
def RunEventPayload.act (event : RunEventPayload) : Option Act :=
  if event.eventType = .toolCalled ∧ event.toolName.getD [] ≠ [] then
    some (.tool (event.agentRole.getD []) (event.toolName.getD []))
  else if event.eventType = .handoffOccurred then
    some (.handoff (event.handoffSourceRole.getD []) (event.handoffTargetRole.getD []))
  else none

inductive Action
  | request (op : Op)
  | execute (now : Nat) (script : List Outcome)

def step (x : Executor) (env : Env) (w : World) : Action → Option World
  | .request (.execute _) => none
  | .request op => some { w with run := after env w.run op }
  | .execute now script => some (executeRunWorkflow x now { w with script := script }).2

def World.create (x : Executor) (run : Runs.Run) (events : List RunEvent) : World :=
  ⟨run, none, events.filter (·.runId ≠ x.runId), [], [], []⟩

/-- Everything an execution of the workflow does, in the order it does it. -/
def plan (config : WorkflowConfig) : List Act :=
  [.tool config.startingAgent "normalize_input".toList,
    .handoff config.startingAgent extractor,
    .tool extractor "split_into_sections".toList,
    .tool extractor "extract_claims".toList,
    .tool extractor "extract_decisions".toList,
    .tool extractor "extract_action_items".toList,
    .handoff extractor reconciler,
    .tool reconciler "find_duplicates".toList,
    .tool reconciler "find_contradictions".toList,
    .handoff reconciler briefWriter,
    .tool briefWriter "format_brief".toList]

section Audit

variable {config : WorkflowConfig}

theorem mem_getD_ofList {α : Type} {agents : List AgentWorkflowConfig}
    (hroles : (agents.map AgentWorkflowConfig.role).Nodup)
    (f : AgentWorkflowConfig → List α) (role : Text) (a : α) :
    a ∈ (Dict.get? (Dict.ofList (agents.map fun agent => (agent.role, f agent))) role).getD [] ↔
      ∃ agent ∈ agents, agent.role = role ∧ a ∈ f agent := by
  have hkeys : ((agents.map fun agent => (agent.role, f agent)).map Prod.fst).Nodup := by
    simpa [Function.comp_def] using hroles
  constructor
  · intro hmem
    cases hget : Dict.get? (Dict.ofList (agents.map fun agent => (agent.role, f agent))) role with
    | none => simp [hget] at hmem
    | some values =>
      rw [hget] at hmem
      obtain ⟨agent, hagent, heq⟩ := List.mem_map.mp ((Dict.get?_ofList_iff hkeys).mp hget)
      obtain ⟨rfl, rfl⟩ := Prod.mk.inj heq
      exact ⟨agent, hagent, rfl, hmem⟩
  · rintro ⟨agent, hagent, rfl, ha⟩
    rw [(Dict.get?_ofList_iff hkeys).mpr (List.mem_map_of_mem hagent)]
    exact ha

theorem auditToolCall_suspicious (hroles : config.roles.Nodup) (audit : Audit)
    (event : RunEventPayload) :
    (auditToolCall config.configuredTools audit event).suspiciousActions = [] ↔
      audit.suspiciousActions = [] ∧ (event.eventType = .toolCalled ∧ event.toolName.getD [] ≠ [] →
        Permits config (.tool (event.agentRole.getD []) (event.toolName.getD []))) := by
  rw [auditToolCall]
  by_cases hcall : event.eventType = .toolCalled ∧ event.toolName.getD [] ≠ []
  · have hallowed : event.toolName.getD [] ∈
        (Dict.get? config.configuredTools (event.agentRole.getD [])).getD [] ↔
          Permits config (.tool (event.agentRole.getD []) (event.toolName.getD [])) :=
      mem_getD_ofList hroles AgentWorkflowConfig.tools _ _
    rw [if_pos hcall]
    by_cases hname : event.toolName.getD [] ∈
        (Dict.get? config.configuredTools (event.agentRole.getD [])).getD []
    · simp [hcall, hname, hallowed.mp hname]
    · simp [hcall, hname, mt hallowed.mpr hname]
  · rw [if_neg hcall]
    simp [hcall]

theorem auditHandoff_suspicious (hroles : config.roles.Nodup) (audit : Audit)
    (event : RunEventPayload) :
    (auditHandoff config.graph audit event).suspiciousActions = [] ↔
      audit.suspiciousActions = [] ∧ (event.eventType = .handoffOccurred →
        Permits config (.handoff (event.handoffSourceRole.getD [])
          (event.handoffTargetRole.getD []))) := by
  rw [auditHandoff]
  by_cases hoccurred : event.eventType = .handoffOccurred
  · have hallowed : event.handoffTargetRole.getD [] ∈
        (Dict.get? config.graph (event.handoffSourceRole.getD [])).getD [] ↔
          Permits config (.handoff (event.handoffSourceRole.getD [])
            (event.handoffTargetRole.getD [])) :=
      mem_getD_ofList hroles AgentWorkflowConfig.canHandoffTo _ _
    rw [if_pos hoccurred]
    by_cases htarget : event.handoffTargetRole.getD [] ∈
        (Dict.get? config.graph (event.handoffSourceRole.getD [])).getD []
    · simp [hoccurred, htarget, hallowed.mp htarget]
    · simp [hoccurred, htarget, mt hallowed.mpr htarget]
  · rw [if_neg hoccurred]
    simp [hoccurred]

theorem auditEvent_suspicious (hroles : config.roles.Nodup) (audit : Audit) (event : RunEvent) :
    (auditEvent config audit event).suspiciousActions = [] ↔
      audit.suspiciousActions = [] ∧ ∀ act, event.act = some act → Permits config act := by
  rw [auditEvent, auditHandoff_suspicious hroles, auditToolCall_suspicious hroles, and_assoc]
  refine and_congr_right fun _ => ?_
  unfold RunEventPayload.act
  split
  · rename_i hcall
    simp [hcall]
  · rename_i hcall
    split <;> rename_i hoccurred <;> simp [hcall, hoccurred]

theorem foldl_auditEvent_suspicious (hroles : config.roles.Nodup) (events : List RunEvent)
    (audit : Audit) : (events.foldl (auditEvent config) audit).suspiciousActions = [] ↔
      audit.suspiciousActions = [] ∧
        ∀ event ∈ events, ∀ act, event.act = some act → Permits config act := by
  induction events generalizing audit with
  | nil => simp
  | cons event events ih =>
    rw [List.foldl_cons, ih, auditEvent_suspicious hroles, List.forall_mem_cons, and_assoc]

/-- The audit is about its events alone. -/
theorem audit_ok_iff (hroles : config.roles.Nodup) (events : List RunEvent) :
    (auditToolUsageAndHandoffs config events).overallAssessment = .ok ↔
      ∀ event ∈ events, ∀ act, event.act = some act → Permits config act := by
  have hfold := foldl_auditEvent_suspicious hroles events ⟨.ok, [], [], [], ""⟩
  rw [auditToolUsageAndHandoffs, assess]
  split
  · rename_i hnone
    simpa using (hfold.mp hnone).2
  · rename_i hsome
    simpa using mt hfold.mpr hsome

end Audit

section Execution

variable (x : Executor) (config : WorkflowConfig)

/-- What holds of the world between any two steps: the events and the acts are the plan's, each
act is recorded, and an audit is stored only when all of the plan has been worked off. -/
structure Consistent (w : World) : Prop where
  key : w.run.workflowKey = messyNotesKey
  planned : ∀ event ∈ eventsForRun x w, ∀ act, event.act = some act → act ∈ plan config
  recorded : ∀ act ∈ w.performed, ∃ event ∈ eventsForRun x w, event.act = some act
  audited : ∀ read ∈ w.audited, ∀ act ∈ read.performed,
    ∃ event ∈ read.events, event.act = some act
  encoded : w.run.postProcessorResults = w.results.map x.serializeResults
  assessed : ∀ results, w.results = some results → ∀ item ∈ results,
    (item.2.overallAssessment = .ok ↔ ∀ act ∈ plan config, Permits config act) ∧
      ∀ act ∈ plan config, act ∈ w.performed

/-- Some acts of the plan have been recorded, some have been performed. -/
structure Progress (noted done : List Act) (w : World) : Prop extends Consistent x config w where
  noted : ∀ act ∈ noted, ∃ event ∈ eventsForRun x w, event.act = some act
  worked : ∀ act ∈ done, act ∈ w.performed

variable {x config} {noted done : List Act}

theorem eventsForRun_others (w : World) (script : List Outcome) (others : List RunEvent) :
    eventsForRun x { w with
      script := script
      events := w.events ++ others.filter (·.runId ≠ x.runId) } = eventsForRun x w := by
  have hothers : (others.filter (·.runId ≠ x.runId)).filter (·.runId = x.runId) = [] := by
    rw [List.filter_filter, List.filter_eq_nil_iff]
    intro event _ h
    simp at h
  rw [eventsForRun, List.filter_append, hothers, List.append_nil, eventsForRun]

theorem eventsForRun_record (w : World) (payload : RunEventPayload) :
    eventsForRun x { w with events := w.events ++ [⟨payload, x.runId⟩] } =
      eventsForRun x w ++ [⟨payload, x.runId⟩] := by
  simp [eventsForRun]

/-- The world after other runs have recorded their events. -/
def World.elapse (x : Executor) (w : World) (script : List Outcome) (others : List RunEvent) :
    World :=
  { w with script := script, events := w.events ++ others.filter (·.runId ≠ x.runId) }

theorem Progress.elapse {w : World} (hw : Progress x config noted done w) (script : List Outcome)
    (others : List RunEvent) : Progress x config noted done (w.elapse x script others) := by
  have hevents : eventsForRun x (w.elapse x script others) = eventsForRun x w :=
    eventsForRun_others w script others
  refine { hw with planned := ?_, recorded := ?_, noted := ?_ }
  all_goals rw [hevents]
  · exact hw.planned
  · exact hw.recorded
  · exact hw.noted

theorem nextOutcome_triple {P E : World → Prop}
    (helapse : ∀ w script others, P w → P (w.elapse x script others)) :
    Triple P (nextOutcome x) (fun _ => P) E := by
  intro w hw
  rw [nextOutcome]
  split
  · exact .of_ok hw
  · rename_i outcome script hscript
    exact .of_ok (helapse w script outcome.others hw)

theorem commit_triple {P P' : World → Prop} {change : World → World}
    (helapse : ∀ w script others, P w → P (w.elapse x script others))
    (hP : ∀ w, P w → Consistent x config w) (hchange : ∀ w, P w → P' (change w))
    (hP' : ∀ w, P' w → Consistent x config w) :
    Triple P (commit x change) (fun _ => P') (Consistent x config) := by
  refine .bind (nextOutcome_triple helapse) fun outcome => ?_
  split
  · exact .modify hchange
  · exact .fail hP
  · exact .bind (.modify hchange) fun _ => .fail hP'

theorem commit_progress {noted' done' : List Act} {change : World → World}
    (hchange : ∀ w, Progress x config noted done w → Progress x config noted' done' (change w)) :
    Triple (Progress x config noted done) (commit x change)
      (fun _ => Progress x config noted' done') (Consistent x config) :=
  commit_triple (fun _ script others hw => hw.elapse script others) (fun _ hw => hw.toConsistent)
    hchange fun _ hw => hw.toConsistent

theorem callOut_progress : Triple (Progress x config noted done) (callOut x)
    (fun _ => Progress x config noted done) (Consistent x config) := by
  refine .bind (nextOutcome_triple fun _ script others hw => hw.elapse script others)
    fun outcome => ?_
  split
  · exact .pure fun w hw => hw
  · exact .fail fun w hw => hw.toConsistent
  · exact .fail fun w hw => hw.toConsistent

theorem lift_progress {α : Type} (result : Except Text α) :
    Triple (Progress x config noted done) (lift result)
      (fun _ => Progress x config noted done) (Consistent x config) :=
  .lift (fun _ _ _ hw => hw) fun _ hw => hw.toConsistent

/-- A commit that touches neither the workflow of the run nor its stored results. -/
theorem commitRun_progress (change : Runs.Run → Runs.Run)
    (hkey : ∀ run, (change run).workflowKey = run.workflowKey)
    (hresults : ∀ run, (change run).postProcessorResults = run.postProcessorResults) :
    Triple (Progress x config noted done) (commit x fun w => { w with run := change w.run })
      (fun _ => Progress x config noted done) (Consistent x config) := by
  refine commit_progress fun w hw => ?_
  exact { hw with
    key := (hkey w.run).trans hw.key
    encoded := (hresults w.run).trans hw.encoded }

theorem Progress.record {w : World} (hw : Progress x config noted done w)
    {payload : RunEventPayload} (hplan : ∀ act, payload.act = some act → act ∈ plan config) :
    Progress x config (payload.act.toList ++ noted) done
      { w with events := w.events ++ [⟨payload, x.runId⟩] } := by
  have hold : ∀ {act}, (∃ event ∈ eventsForRun x w, event.act = some act) →
      ∃ event ∈ eventsForRun x w ++ [⟨payload, x.runId⟩], event.act = some act :=
    fun ⟨event, hevent, hact⟩ => ⟨event, List.mem_append_left _ hevent, hact⟩
  refine { hw with planned := ?_, recorded := ?_, noted := ?_ }
  all_goals rw [eventsForRun_record]
  · intro event hevent act hact
    rcases List.mem_append.mp hevent with hevent | hevent
    · exact hw.planned event hevent act hact
    · obtain rfl := List.mem_singleton.mp hevent
      exact hplan act hact
  · exact fun act hact => hold (hw.recorded act hact)
  · intro act hact
    rcases List.mem_append.mp hact with hact | hact
    · exact ⟨_, List.mem_append_right _ List.mem_cons_self, Option.mem_toList.mp hact⟩
    · exact hold (hw.noted act hact)

theorem recordRunEvent_progress {payload : RunEventPayload}
    (hplan : ∀ act, payload.act = some act → act ∈ plan config) :
    Triple (Progress x config noted done) (recordRunEvent x payload)
      (fun _ => Progress x config (payload.act.toList ++ noted) done) (Consistent x config) :=
  commit_progress fun _ hw => hw.record hplan

theorem perform_progress {act : Act} (hnoted : act ∈ noted) :
    Triple (Progress x config noted done) (perform act)
      (fun _ => Progress x config noted (done ++ [act])) (Consistent x config) := by
  refine .modify fun w hw => ?_
  refine { hw with recorded := ?_, assessed := ?_, worked := ?_ }
  · intro act' hact'
    rcases List.mem_append.mp hact' with hact' | hact'
    · exact hw.recorded act' hact'
    · obtain rfl := List.mem_singleton.mp hact'
      exact hw.noted act' hnoted
  · intro results hresults item hitem
    obtain ⟨hok, hall⟩ := hw.assessed results hresults item hitem
    exact ⟨hok, fun act' hact' => List.mem_append_left _ (hall act' hact')⟩
  · intro act' hact'
    rcases List.mem_append.mp hact' with hact' | hact'
    · exact List.mem_append_left _ (hw.worked act' hact')
    · exact List.mem_append_right _ hact'

theorem Progress.weaken {noted' done' : List Act} {w : World}
    (h : Progress x config noted done w) (hnoted : ∀ act ∈ noted', act ∈ noted)
    (hdone : ∀ act ∈ done', act ∈ done) : Progress x config noted' done' w :=
  { h with
    noted := fun act hact => h.noted act (hnoted act hact)
    worked := fun act hact => h.worked act (hdone act hact) }

/-- An event that says nothing was done. -/
theorem recordRunEvent_other {payload : RunEventPayload} (hact : payload.act = none) :
    Triple (Progress x config noted done) (recordRunEvent x payload)
      (fun _ => Progress x config noted done) (Consistent x config) := by
  have h : Triple (Progress x config noted done) (recordRunEvent x payload)
      (fun _ => Progress x config (payload.act.toList ++ noted) done) (Consistent x config) :=
    recordRunEvent_progress (by simp [hact])
  rwa [hact] at h

theorem tool_progress {α : Type} {role : Text} {name : String} (result : Except Text α)
    (hname : name.toList ≠ []) (hplan : .tool role name.toList ∈ plan config) :
    Triple (Progress x config noted done) (tool x role name result)
      (fun _ => Progress x config noted (done ++ [.tool role name.toList]))
      (Consistent x config) := by
  refine .bind (recordRunEvent_progress fun act hact => ?_) fun _ =>
    .bind (perform_progress ?_) fun _ => .bind (lift_progress result) fun value =>
      .bind (recordRunEvent_other (by simp [RunEventPayload.act])) fun _ => .pure fun w hw => ?_
  · have heq : act = .tool role name.toList := by
      simpa [RunEventPayload.act, hname, eq_comm] using hact
    exact heq ▸ hplan
  · simp [RunEventPayload.act, hname]
  · exact hw.weaken (fun act hact => List.mem_append_right _ hact) fun act hact => hact

theorem handoff_progress {workflow : WorkflowRuntime} {source target : Text}
    (hplan : .handoff source target ∈ plan config) :
    Triple (Progress x config noted done) (handoff x workflow source target)
      (fun _ => Progress x config noted (done ++ [.handoff source target]))
      (Consistent x config) := by
  refine .bind (lift_progress _) fun agent => .bind (lift_progress _) fun _ => ?_
  split
  · exact .fail fun w hw => hw.toConsistent
  · refine .weaken (.bind (recordRunEvent_progress fun act hact => ?_) fun _ => perform_progress ?_)
      (fun w hw => hw) fun _ w hw =>
        hw.weaken (fun act hact => List.mem_append_right _ hact) fun act hact => hact
    · have heq : act = .handoff source target := by
        simpa [RunEventPayload.act, eq_comm] using hact
      exact heq ▸ hplan
    · simp [RunEventPayload.act]

theorem agentStarted_progress (workflow : WorkflowRuntime) (role : Text) (touchAgent : Bool) :
    Triple (Progress x config noted done) (agentStarted x workflow role touchAgent)
      (fun _ => Progress x config noted done) (Consistent x config) := by
  have hsame : Triple (Progress x config noted done) (pure () : Execution Unit)
      (fun _ => Progress x config noted done) (Consistent x config) := .pure fun w hw => hw
  refine .bind (lift_progress _) fun _ => .bind (recordRunEvent_other rfl) fun _ => ?_
  split
  · rw [touchPydanticAgent]
    split
    · exact hsame
    · split
      · exact .fail fun w hw => hw.toConsistent
      · split
        · exact .bind callOut_progress fun _ => hsame
        · exact hsame
  · exact hsame

theorem agentFinished_progress (role : Text) :
    Triple (Progress x config noted done) (agentFinished x role)
      (fun _ => Progress x config noted done) (Consistent x config) :=
  recordRunEvent_other rfl

def extractionActs (names : List String) : List Act :=
  names.map fun name => .tool extractor name.toList

theorem mem_extractionActs {names : List String} {name : String} {act : Act} :
    act ∈ extractionActs (names ++ [name]) ↔
      act ∈ extractionActs names ∨ act = .tool extractor name.toList := by
  simp [extractionActs]

theorem queueTool_progress {name : String} (hname : name.toList ≠ [])
    (hplan : .tool extractor name.toList ∈ plan config) (names : List String) :
    Triple (Progress x config (extractionActs names) done) (queueTool x name)
      (fun _ => Progress x config (extractionActs (names ++ [name])) done)
      (Consistent x config) := by
  refine .weaken (recordRunEvent_progress fun act hact => ?_) (fun w hw => hw) fun _ w hw =>
    hw.weaken (fun act hact => ?_) fun act hact => hact
  · have heq : act = .tool extractor name.toList := by
      simpa [RunEventPayload.act, hname, eq_comm] using hact
    exact heq ▸ hplan
  · rcases mem_extractionActs.mp hact with hact | rfl
    · exact List.mem_append_right _ hact
    · simp [RunEventPayload.act, hname]

theorem submitTool_progress {name : String} (hnoted : .tool extractor name.toList ∈ noted)
    (names : List String) :
    Triple (Progress x config noted (done ++ extractionActs names)) (submitTool x name)
      (fun _ => Progress x config noted (done ++ extractionActs (names ++ [name])))
      (Consistent x config) := by
  refine .bind callOut_progress fun _ => .weaken (perform_progress hnoted) (fun w hw => hw)
    fun _ w hw => hw.weaken (fun act hact => hact) fun act hact => ?_
  rw [List.append_assoc]
  rcases List.mem_append.mp hact with hact | hact
  · exact List.mem_append_left _ hact
  · rcases mem_extractionActs.mp hact with hact | rfl
    · exact List.mem_append_right _ (List.mem_append_left _ hact)
    · exact List.mem_append_right _ (List.mem_append_right _ List.mem_cons_self)

theorem extractionTools_plan {name : String} (hname : name ∈ extractionTools) :
    name.toList ≠ [] ∧ ∀ config, .tool extractor name.toList ∈ plan config := by
  simp only [extractionTools, List.mem_cons, List.not_mem_nil, or_false] at hname
  rcases hname with rfl | rfl | rfl <;> simp [plan]

/-- Queued and pooled or one after the other: the same tools have been recorded and run. -/
theorem runExtractionParallel_progress (workflow : WorkflowRuntime) (sections : List NoteSection) :
    Triple (Progress x config [] done) (runExtractionParallel x workflow sections)
      (fun _ => Progress x config [] (done ++ extractionActs extractionTools))
      (Consistent x config) := by
  refine .bind (lift_progress _) fun agent => ?_
  split
  · have hqueue := Triple.forEach (I := fun names => Progress x config (extractionActs names) done)
      (fun name hname names => queueTool_progress (extractionTools_plan hname).1
        ((extractionTools_plan hname).2 config) names) []
    have hsubmit : Triple (Progress x config (extractionActs extractionTools) (done ++ []))
        (forEach (submitTool x) extractionTools)
        (fun _ => Progress x config (extractionActs extractionTools)
          (done ++ extractionActs extractionTools)) (Consistent x config) :=
      .forEach (I := fun names => Progress x config (extractionActs extractionTools)
        (done ++ extractionActs names))
        (fun name hname names =>
          submitTool_progress (List.mem_map.mpr ⟨name, hname, rfl⟩) names) []
    have hcomplete : Triple (Progress x config (extractionActs extractionTools)
          (done ++ extractionActs extractionTools))
        (forEach (completeTool x) extractionTools)
        (fun _ => Progress x config (extractionActs extractionTools)
          (done ++ extractionActs extractionTools)) (Consistent x config) :=
      .forEach (I := fun _ => Progress x config (extractionActs extractionTools)
        (done ++ extractionActs extractionTools)) (fun _ _ _ => recordRunEvent_other rfl) []
    rw [List.append_nil] at hsubmit
    refine .bind hqueue fun _ => .bind hsubmit fun _ => .bind (lift_progress _) fun claims =>
      .bind (lift_progress _) fun decisions => .bind (lift_progress _) fun actionItems =>
        .bind hcomplete fun _ => .pure fun w hw => ?_
    exact hw.weaken (fun act hact => absurd hact List.not_mem_nil) fun act hact => hact
  · refine .bind (tool_progress _ (by simp) (by simp [plan])) fun claims =>
      .bind (tool_progress _ (by simp) (by simp [plan])) fun decisions =>
        .bind (tool_progress _ (by simp) (by simp [plan])) fun actionItems =>
          .pure fun w hw => hw.weaken (fun act hact => hact) fun act hact => ?_
    simpa [extractionActs, extractionTools] using hact

theorem storeBrief_progress (brief : BriefOutput) :
    Triple (Progress x config noted done) (storeBrief x brief)
      (fun _ => Progress x config noted done) (Consistent x config) := by
  exact commitRun_progress (fun run => { run with outputBrief := some (x.serializeBrief brief) })
    (fun _ => rfl) fun _ => rfl

/-- An execution that gets through has worked off the plan. -/
theorem executeMessyNotesV1_progress (workflow : WorkflowRuntime) :
    Triple (Progress x workflow.config [] []) (executeMessyNotesV1 x workflow)
      (fun _ => Progress x workflow.config [] (plan workflow.config))
      (Consistent x workflow.config) := by
  refine .bind (agentStarted_progress workflow _ true) fun _ => .bind (.read fun w hw => hw)
    fun w => .bind (tool_progress _ (by simp) (by simp [plan])) fun normalized =>
      .bind (agentFinished_progress _) fun _ => ?_
  refine .bind (handoff_progress (by simp [plan])) fun _ =>
    .bind (agentStarted_progress workflow extractor true) fun _ =>
      .bind (tool_progress _ (by simp) (by simp [plan])) fun sections =>
        .bind (runExtractionParallel_progress workflow _) fun findings =>
          .bind (agentFinished_progress extractor) fun _ => ?_
  refine .bind (handoff_progress (by simp [plan])) fun _ =>
    .bind (agentStarted_progress workflow reconciler true) fun _ =>
      .bind (tool_progress _ (by simp) (by simp [plan])) fun duplicates =>
        .bind (tool_progress _ (by simp) (by simp [plan])) fun contradictions =>
          .bind (agentFinished_progress reconciler) fun _ => ?_
  exact .bind (handoff_progress (by simp [plan])) fun _ =>
    .bind (agentStarted_progress workflow briefWriter true) fun _ =>
      .bind (tool_progress _ (by simp) (by simp [plan])) fun brief =>
        .bind (storeBrief_progress brief) fun _ => agentFinished_progress briefWriter

theorem readEvents_progress {E : World → Prop} :
    Triple (Progress x config [] (plan config)) (readEvents x)
      (fun events w => (∀ act, (∃ event ∈ events, event.act = some act) ↔ act ∈ plan config) ∧
        Progress x config [] (plan config) w) E := by
  refine .bind (Q := fun _ => Progress x config [] (plan config)) (.modify fun w hw => ?_) fun _ =>
    .bind (Q := fun seen w => seen = w ∧ Progress x config [] (plan config) w)
      (.read fun w hw => ⟨rfl, hw⟩) fun seen => .pure fun w hw => ⟨fun act => ⟨?_, ?_⟩, hw.2⟩
  · refine { hw with audited := fun audit haudit => ?_ }
    rcases List.mem_append.mp haudit with haudit | haudit
    · exact hw.audited audit haudit
    · obtain rfl := List.mem_singleton.mp haudit
      exact hw.recorded
  · rintro ⟨event, hevent, hact⟩
    rw [hw.1] at hevent
    exact hw.2.planned event hevent act hact
  · intro hplan
    rw [hw.1]
    exact hw.2.recorded act (hw.2.worked act hplan)

def Judged (config : WorkflowConfig) (results : Results) : Prop :=
  ∀ item ∈ results,
    (item.2.overallAssessment = .ok ↔ ∀ act ∈ plan config, Permits config act)

variable (x config) in
structure Stored (results : Results) (w : World) : Prop
    extends Progress x config [] (plan config) w where
  stored : w.results = some results

theorem recordRunEvent_stored {results : Results} {payload : RunEventPayload}
    (hact : payload.act = none) :
    Triple (Stored x config results) (recordRunEvent x payload)
      (fun _ => Stored x config results) (Consistent x config) := by
  refine commit_triple (fun w script others hw => ?_) (fun w hw => hw.toConsistent)
    (fun w hw => ?_) fun w hw => hw.toConsistent
  · exact ⟨hw.toProgress.elapse script others, hw.stored⟩
  · refine ⟨?_, hw.stored⟩
    exact (hw.toProgress.record (by simp [hact])).weaken
      (fun act hmem => absurd hmem List.not_mem_nil) fun act hmem => hmem

theorem runPostProcessor_stored {workflow : WorkflowRuntime}
    (hroles : workflow.config.roles.Nodup) {results : Results}
    (hjudged : Judged workflow.config results) (key : Text) :
    Triple (Progress x workflow.config [] (plan workflow.config))
      (runPostProcessor x workflow results key)
      (fun stored w =>
        (Judged workflow.config stored ∧ ∃ result, stored = Dict.set results key result) ∧
          Stored x workflow.config stored w) (Consistent x workflow.config) := by
  rw [runPostProcessor]
  split
  · exact .fail fun w hw => hw.toConsistent
  · rename_i type htype
    refine .bind (recordRunEvent_other rfl) fun _ => .bind readEvents_progress fun events =>
      .assuming fun hevents => ?_
    have hresult : Judged workflow.config (Dict.set results key
        ⟨auditToolUsageAndHandoffs workflow.config events, type⟩) := by
      intro item hitem
      rcases Dict.mem_set hitem with rfl | hitem
      · refine (audit_ok_iff hroles events).trans
          ⟨fun h act hact => ?_, fun h event hevent act hact => ?_⟩
        · obtain ⟨event, hevent, heq⟩ := (hevents act).mpr hact
          exact h event hevent act heq
        · exact h act ((hevents act).mp ⟨event, hevent, hact⟩)
      · exact hjudged item hitem
    refine .bind (commit_triple (fun w script others hw => hw.elapse script others)
      (fun w hw => hw.toConsistent) (fun w hw => ?_) fun w hw => hw.toConsistent) fun _ =>
        .bind (recordRunEvent_stored rfl) fun _ => .pure fun w hw => ⟨⟨hresult, _, rfl⟩, hw⟩
    refine ⟨{ hw with encoded := rfl, assessed := fun stored hstored item hitem => ?_ }, rfl⟩
    obtain rfl := Option.some.inj hstored
    exact ⟨hresult item hitem, hw.worked⟩

/-- Every configured post-processor leaves its result with the run. -/
theorem runPostProcessors_stored {workflow : WorkflowRuntime}
    (hroles : workflow.config.roles.Nodup) (keys : List Text) {results : Results}
    (hjudged : Judged workflow.config results) :
    Triple (fun w => Progress x workflow.config [] (plan workflow.config) w ∧
        (results = [] ∨ w.results = some results))
      (runPostProcessors x workflow results keys)
      (fun _ w => Consistent x workflow.config w ∧
        ∀ key, key ∈ keys ∨ (Dict.get? results key).isSome →
          (w.results.bind (Dict.get? · key)).isSome)
      (Consistent x workflow.config) := by
  induction keys generalizing results with
  | nil =>
    refine .pure fun w hw => ⟨hw.1.toConsistent, fun key hkey => ?_⟩
    rcases hkey with hkey | hkey
    · cases hkey
    · rcases hw.2 with rfl | hstored
      · cases hkey
      · simpa [hstored] using hkey
  | cons key keys ih =>
    refine .bind (.weaken (runPostProcessor_stored hroles hjudged key) (fun w hw => hw.1)
      fun _ _ hw => hw) fun stored => .assuming fun hstored => ?_
    obtain ⟨hjudged', result, rfl⟩ := hstored
    refine .weaken (ih hjudged') (fun w hw => ⟨hw.toProgress, .inr hw.stored⟩) fun _ w hw =>
      ⟨hw.1, fun key' hkey' => hw.2 key' ?_⟩
    rw [Dict.isSome_get?_set]
    rcases hkey' with hkey' | hkey'
    · rcases List.mem_cons.mp hkey' with rfl | hkey'
      · simp
      · exact .inl hkey'
    · simp [hkey']

theorem progress_nil {w : World} : Progress x config [] [] w ↔ Consistent x config w :=
  ⟨fun hw => hw.toConsistent,
    fun hw => ⟨hw, fun _ hact => absurd hact List.not_mem_nil,
      fun _ hact => absurd hact List.not_mem_nil⟩⟩

/-- What an execution that returns has left behind, beyond what each leaves. -/
def Completed (x : Executor) (config : WorkflowConfig) (w : World) : Prop :=
  Consistent x config w ∧
    ∀ key ∈ config.postProcessors, (w.results.bind (Dict.get? · key)).isSome

theorem attemptRun_completed {workflow : WorkflowRuntime}
    (hget : getWorkflow x.registry messyNotesKey = some workflow)
    (hkey : workflow.config.key = messyNotesKey) (hroles : workflow.config.roles.Nodup)
    (now : Nat) : Triple (Consistent x workflow.config) (attemptRun x now)
      (fun _ => Completed x workflow.config) (Consistent x workflow.config) := by
  refine .bind (Q := fun seen w => seen.run.workflowKey = messyNotesKey ∧
    Progress x workflow.config [] [] w) (.read fun w hw => ⟨hw.key, progress_nil.mpr hw⟩)
      fun seen => .assuming fun hseen => ?_
  refine .bind (Q := fun found w => found = workflow ∧ Progress x workflow.config [] [] w)
    (.lift (fun found w hfound hw => ⟨?_, hw⟩) fun w hw => hw.toConsistent)
      fun found => .assuming fun hfound => ?_
  · rw [workflowOf, hseen, hget] at hfound
    exact (Except.ok.inj hfound).symm
  · obtain rfl := hfound
    refine .bind (commitRun_progress startProcessing (fun _ => rfl) fun _ => rfl) fun _ =>
      .bind (recordRunEvent_other rfl) fun _ => .bind ?_ fun _ =>
        .bind (commitRun_progress
          (fun run => { run with status := .completed, completedAt := some now })
          (fun _ => rfl) fun _ => rfl) fun _ =>
            .bind (recordRunEvent_other rfl) fun _ =>
              .weaken (runPostProcessors_stored hroles _ fun _ hitem =>
                  absurd hitem List.not_mem_nil)
                (fun w hw => ⟨hw, .inl rfl⟩)
                fun _ w hw => ⟨hw.1, fun key hmem => hw.2 key (.inl hmem)⟩
    have hlocal : found.config.key ≠ localSlmKey := by
      rw [hkey]
      decide
    rw [executeMessyNotes, if_neg hlocal, if_pos hkey]
    exact executeMessyNotesV1_progress found

theorem recordFailure_consistent {α : Type} {Q : α → World → Prop} (now : Nat) (reason : Text) :
    Triple (Consistent x config) (recordFailure x now reason) Q (Consistent x config) := by
  refine .weaken (.bind (commitRun_progress (fun run => failRun run now reason) (fun _ => rfl)
    fun _ => rfl) fun _ => .bind (recordRunEvent_other rfl) fun _ =>
      .fail fun w hw => hw.toConsistent) (fun w hw => progress_nil.mpr hw) fun _ _ hw => hw

theorem executeRunWorkflow_completed {workflow : WorkflowRuntime}
    (hget : getWorkflow x.registry messyNotesKey = some workflow)
    (hkey : workflow.config.key = messyNotesKey) (hroles : workflow.config.roles.Nodup)
    (now : Nat) : Triple (Consistent x workflow.config) (executeRunWorkflow x now)
      (fun _ => Completed x workflow.config) (Consistent x workflow.config) := by
  refine .bind (.read (Q := fun _ => Consistent x workflow.config) fun w hw => hw) fun seen => ?_
  split
  · exact .tryCatch (attemptRun_completed hget hkey hroles now) fun reason =>
      recordFailure_consistent now reason
  · exact .fail fun w hw => hw

end Execution

section Loader

variable {buildAgent : AgentWorkflowConfig → Except Text Bool} {postProcessors : PostProcessors}

/-- A loaded workflow stands under its own key, and has passed the checks of its model. -/
def Sound (workflows : Dict Text WorkflowRuntime) : Prop :=
  ∀ item ∈ workflows, item.2.config.key = item.1 ∧ item.2.config.roles.Nodup

theorem require_eq_ok {holds : Bool} {error : ConfigError} (h : require holds error = .ok ()) :
    holds = true := by
  by_contra hfalse
  rw [require, if_neg hfalse] at h
  cases h

theorem roles_nodup {config : WorkflowConfig} (h : validateWorkflow config = .ok ()) :
    config.roles.Nodup := by
  obtain ⟨-, -, h⟩ := Fallible.bind_eq_ok.mp h
  obtain ⟨-, -, h⟩ := Fallible.bind_eq_ok.mp h
  obtain ⟨-, -, h⟩ := Fallible.bind_eq_ok.mp h
  obtain ⟨-, -, h⟩ := Fallible.bind_eq_ok.mp h
  obtain ⟨-, -, h⟩ := Fallible.bind_eq_ok.mp h
  obtain ⟨_, hroles, _⟩ := Fallible.bind_eq_ok.mp h
  exact of_decide_eq_true (require_eq_ok hroles)

theorem addWorkflow_sound {workflows added : Dict Text WorkflowRuntime} {config : WorkflowConfig}
    (hsound : Sound workflows)
    (h : addWorkflow buildAgent postProcessors workflows config = .ok added) : Sound added := by
  obtain ⟨_, hvalid, h⟩ := Fallible.bind_eq_ok.mp h
  obtain ⟨-, -, h⟩ := Fallible.bind_eq_ok.mp h
  obtain ⟨-, -, h⟩ := Fallible.bind_eq_ok.mp h
  obtain ⟨agents, -, h⟩ := Fallible.bind_eq_ok.mp h
  obtain rfl := Fallible.pure_eq_ok.mp h
  intro item hitem
  rcases Dict.mem_set hitem with rfl | hitem
  · exact ⟨rfl, roles_nodup hvalid⟩
  · exact hsound item hitem

theorem addWorkflows_sound {workflows added : Dict Text WorkflowRuntime}
    {configs : List WorkflowConfig} (hsound : Sound workflows)
    (h : addWorkflows buildAgent postProcessors workflows configs = .ok added) : Sound added := by
  induction configs generalizing workflows with
  | nil => exact Except.ok.inj h ▸ hsound
  | cons config configs ih =>
    obtain ⟨first, hfirst, h⟩ := Fallible.bind_eq_ok.mp h
    exact ih (addWorkflow_sound hsound hfirst) h

theorem loaded_sound {defaultWorkflowKey : Text} {configs : List WorkflowConfig}
    {registry : WorkflowRegistry}
    (h : loadWorkflowRegistry buildAgent defaultWorkflowKey postProcessors configs = .ok registry) :
    Sound registry.workflows := by
  obtain ⟨workflows, hworkflows, h⟩ := Fallible.bind_eq_ok.mp h
  obtain ⟨-, -, h⟩ := Fallible.bind_eq_ok.mp h
  obtain ⟨-, -, h⟩ := Fallible.bind_eq_ok.mp h
  obtain rfl := Fallible.pure_eq_ok.mp h
  exact addWorkflows_sound (fun _ hitem => absurd hitem List.not_mem_nil) hworkflows

end Loader

section Runs

variable {x : Executor} {env : Env} {workflow : WorkflowRuntime}

/-- No request but an execution writes the workflow of a run or its stored results. -/
theorem after_keeps (env : Env) (run : Runs.Run) {op : Op} (hop : ∀ now, op ≠ .execute now) :
    (after env run op).workflowKey = run.workflowKey ∧
      (after env run op).postProcessorResults = run.postProcessorResults := by
  by_cases he : run.Editable
  · cases op with
    | execute now => exact absurd rfl (hop now)
    | update payload => exact ⟨rfl, rfl⟩
    | sample key =>
      cases hs : getSampleChaosSet key <;>
        simp [after, Runs.perform, applySampleChaosToRun, he, hs, bind, Except.bind, pure,
          Except.pure]
    | ingest title pastedText files =>
      cases hi : ingestRunInput env.delivers env.readPdf env.settings pastedText files <;>
        simp [after, Runs.perform, ingestRunDraft, he, hi]
    | submit payload now =>
      cases payload <;> simp [after, Runs.perform, submitRun, he, applySubmitPayload]
  · cases op with
    | execute now => exact absurd rfl (hop now)
    | update payload => exact ⟨rfl, rfl⟩
    | sample key => simp [after, Runs.perform, applySampleChaosToRun, he]
    | ingest title pastedText files => simp [after, Runs.perform, ingestRunDraft, he]
    | submit payload now => simp [after, Runs.perform, submitRun, he]

theorem step_consistent (hget : getWorkflow x.registry messyNotesKey = some workflow)
    (hkey : workflow.config.key = messyNotesKey) (hroles : workflow.config.roles.Nodup)
    {w t : World} {a : Action} (hw : Consistent x workflow.config w)
    (h : step x env w a = some t) : Consistent x workflow.config t := by
  have hrequest : ∀ op, (∀ now, op ≠ .execute now) →
      Consistent x workflow.config { w with run := after env w.run op } := fun op hop =>
    { hw with
      key := (after_keeps env w.run hop).1.trans hw.key
      encoded := (after_keeps env w.run hop).2.trans hw.encoded }
  cases a with
  | request op =>
    cases op with
    | execute now => cases h
    | update payload | sample sampleKey | ingest title pastedText files | submit payload now =>
      obtain rfl := Option.some.inj h
      exact hrequest _ (by simp)
  | execute now script =>
    obtain rfl := Option.some.inj h
    have hscript : Consistent x workflow.config { w with script := script } := { hw with }
    have hdone := executeRunWorkflow_completed hget hkey hroles now _ hscript
    rcases hrun : executeRunWorkflow x now { w with script := script } with ⟨e | u, t⟩
    · exact hdone.2 e t hrun
    · exact (hdone.1 u t hrun).1

theorem create_consistent (config : WorkflowConfig) {run : Runs.Run} (events : List RunEvent)
    (hkey : run.workflowKey = messyNotesKey) (hnew : run.postProcessorResults = none) :
    Consistent x config (World.create x run events) := by
  have hevents : eventsForRun x (World.create x run events) = [] := by
    rw [eventsForRun, World.create, List.filter_filter, List.filter_eq_nil_iff]
    intro event _ h
    simp at h
  refine {
    key := hkey
    encoded := hnew
    planned := ?_
    recorded := ?_
    audited := ?_
    assessed := ?_ }
  · rw [hevents]
    exact fun _ hevent => absurd hevent List.not_mem_nil
  · exact fun _ hact => absurd hact List.not_mem_nil
  · exact fun _ hread => absurd hread List.not_mem_nil
  · exact fun results hresults => absurd hresults (Option.some_ne_none results).symm

/-- What an audit assesses is what was done. -/
def AuditsWhatWasDone (config : WorkflowConfig) (w : World) (result : PostProcessorResult) : Prop :=
  result.overallAssessment = .ok ↔ ∀ act ∈ w.performed, Permits config act

/-- An act outside the plan is never performed. -/
theorem Consistent.performed_plan {config : WorkflowConfig} {w : World}
    (hw : Consistent x config w) {act : Act} (hact : act ∈ w.performed) : act ∈ plan config := by
  obtain ⟨event, hevent, heq⟩ := hw.recorded act hact
  exact hw.planned event hevent act heq

theorem Consistent.auditsWhatWasDone {config : WorkflowConfig} {w : World}
    (hw : Consistent x config w) {results : Results} (hresults : w.results = some results)
    {item : Text × PostProcessorResult} (hitem : item ∈ results) :
    AuditsWhatWasDone config w item.2 := by
  obtain ⟨hok, hall⟩ := hw.assessed results hresults item hitem
  refine hok.trans ⟨fun h act hact => h act (hw.performed_plan hact), fun h act hact => ?_⟩
  exact h act (hall act hact)

/-- In every state of a run's history, under any configuration the loader accepts, each stored
audit assesses what the executions have done, which they recorded before it read the events; and
an execution that returns has stored one for every post-processor. -/
theorem audit_sound_and_complete {buildAgent : AgentWorkflowConfig → Except Text Bool}
    {defaultWorkflowKey : Text} {postProcessors : PostProcessors} {configs : List WorkflowConfig}
    (hload : loadWorkflowRegistry buildAgent defaultWorkflowKey postProcessors configs =
      .ok x.registry)
    (hget : getWorkflow x.registry messyNotesKey = some workflow) {run : Runs.Run}
    (hkey : run.workflowKey = messyNotesKey) (hnew : run.postProcessorResults = none)
    (events : List RunEvent) {w : World}
    (hrun : GuardedRuns.Run (step x env) (World.create x run events) w) :
    (w.run.postProcessorResults = w.results.map x.serializeResults ∧
      ∀ results, w.results = some results → ∀ item ∈ results,
        AuditsWhatWasDone workflow.config w item.2) ∧
    (∀ audit ∈ w.audited, ∀ act ∈ audit.performed,
      ∃ event ∈ audit.events, event.act = some act) ∧
    ∀ now script t, executeRunWorkflow x now { w with script := script } = (.ok (), t) →
      ∀ key ∈ workflow.config.postProcessors, ∃ results result, t.results = some results ∧
        Dict.get? results key = some result ∧ AuditsWhatWasDone workflow.config t result := by
  obtain ⟨hownKey, hroles⟩ := loaded_sound hload _ (Dict.mem_of_get?_eq_some hget)
  have hw : Consistent x workflow.config w :=
    GuardedRun.invariant hrun (create_consistent workflow.config events hkey hnew)
      fun _ _ _ hs _ hstep => step_consistent hget hownKey hroles hs hstep
  refine ⟨⟨hw.encoded, fun results hresults item hitem => hw.auditsWhatWasDone hresults hitem⟩,
    hw.audited, fun now script t hreturns key hmem => ?_⟩
  have hscript : Consistent x workflow.config { w with script := script } := { hw with }
  have hcompleted :=
    (executeRunWorkflow_completed hget hownKey hroles now _ hscript).1 () t hreturns
  obtain ⟨result, hresult⟩ := Option.isSome_iff_exists.mp (hcompleted.2 key hmem)
  obtain ⟨results, hresults, hfound⟩ := Option.bind_eq_some_iff.mp hresult
  exact ⟨results, result, hresults, hfound, hcompleted.1.auditsWhatWasDone hresults
    (Dict.mem_of_get?_eq_some hfound)⟩

def agent (role : String) (tools canHandoffTo : List String)
    (parallel : Option ParallelExecutionConfig) : AgentWorkflowConfig where
  role := role.toList
  provider := .openai
  model := "gpt-5-mini".toList
  systemPrompt := "Stay inside the scope.".toList
  tools := tools.map String.toList
  canHandoffTo := canHandoffTo.map String.toList
  parallel := parallel

def auditKey : Text := "audit-tool-usage-and-handoffs".toList

/-- The tools, handoffs and parallel groups of `messy-notes-v1.yaml`. -/
def shippedConfig : WorkflowConfig where
  key := messyNotesKey
  description := "Demo workflow".toList
  startingAgent := "orchestrator".toList
  postProcessors := [auditKey]
  agents := [
    agent "orchestrator" ["load_run_context", "normalize_input"] ["extractor", "reconciler"] none,
    agent "extractor" ["load_run_context", "split_into_sections", "extract_claims",
      "extract_decisions", "extract_action_items"] ["reconciler"]
      (some ⟨true, some "extraction".toList, [briefWriter]⟩),
    agent "reconciler" ["load_run_context", "find_duplicates", "find_contradictions"]
      ["brief_writer"] none,
    agent "brief_writer" ["load_run_context", "format_brief", "persist_brief_draft"] []
      (some ⟨false, some "synthesis".toList, []⟩)]

def shippedWorkflow : WorkflowRuntime :=
  ⟨shippedConfig, shippedConfig.agents.map fun agent => (agent.role, ⟨agent, false⟩)⟩

def shippedExecutor : Executor where
  runId := 1
  environment := "test".toList
  registry := ⟨[(messyNotesKey, shippedWorkflow)], [(auditKey, .auditToolUsageAndHandoffs)]⟩
  tools := registeredTools id fun _ => []
  parseLocalSlmBrief _ := .error []
  serializeBrief brief := brief.title
  serializeResults results := (results.map Prod.fst).flatten

def newRun : Runs.Run :=
  { createRun defaultEnv ⟨none, none⟩ none with workflowKey := messyNotesKey }

/-- The first execution fails at the queue of the extraction tools, the second gets through. -/
def twoExecutions : List Action :=
  [.execute 1 (List.replicate 12 ⟨[], [], none⟩ ++
      [⟨[], [], some (.late "lost connection".toList)⟩]),
    .execute 2 []]

theorem shipped_loads :
    loadWorkflowRegistry (fun _ => .ok false) messyNotesKey
      [(auditKey, .auditToolUsageAndHandoffs)] [shippedConfig] = .ok shippedExecutor.registry := by
  rfl

/-- The audit of a run whose first execution failed halfway. -/
theorem shipped_run_audited :
    ∃ w, exec (step shippedExecutor defaultEnv) (World.create shippedExecutor newRun [])
        twoExecutions = some w ∧ w.performed.length = 14 ∧
      ∃ results result, w.results = some results ∧ Dict.get? results auditKey = some result ∧
        result.overallAssessment = .ok ∧ AuditsWhatWasDone shippedConfig w result := by
  have hsome : (exec (step shippedExecutor defaultEnv) (World.create shippedExecutor newRun [])
      twoExecutions).any (fun w => w.performed.length = 14 ∧
        (w.results.bind (Dict.get? · auditKey)).any
          (fun result => result.overallAssessment = .ok)) = true := by
    decide +kernel
  obtain ⟨w, hw, hfound⟩ := (Option.any_eq_true _ _).mp hsome
  obtain ⟨hlength, hany⟩ := of_decide_eq_true hfound
  obtain ⟨result, hresult, hok⟩ := (Option.any_eq_true _ _).mp hany
  obtain ⟨results, hresults, hget⟩ := Option.bind_eq_some_iff.mp hresult
  have hrun : GuardedRuns.Run (step shippedExecutor defaultEnv)
      (World.create shippedExecutor newRun []) w := run_of_exec hw
  have hstored := (audit_sound_and_complete shipped_loads rfl rfl rfl [] hrun).1.2
  exact ⟨w, hw, hlength, results, result, hresults, hget, of_decide_eq_true hok,
    hstored results hresults _ (Dict.mem_of_get?_eq_some hget)⟩

end Runs

end DemoService.Workflow
