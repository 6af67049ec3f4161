import DemoService.JobSearchIngestion
import DemoService.PerspectiveEvidence

/-! The perspective views of the job search domain, built from rules and refined by a model. Over
every run of ingestions a view of an owner cites artifacts of that owner alone. -/

namespace DemoService.JobSearch

open PyText Context
open Fallible
open Effect (bind_ok lift_bind_ok)

/-! ### The rule-based builders -/

section Sections

/-- `str` of a value that is not a text. -/
abbrev ValueStr := MetaValue → Text

def strOf (str : ValueStr) : MetaValue → Text
  | .text value => value
  | value => str value

def signalsOf (context : PerspectiveBuildContext) (types : List String) : List ContextSignal :=
  context.signals.filter fun signal => signal.signalType ∈ types.map String.toList

def bulleted (lines : List Text) : Text :=
  join ['\n'] (lines.map fun line => "- ".toList ++ line)

def contentOf (str : ValueStr) (signals : List ContextSignal) (empty : Text) : Text :=
  if signals = [] then empty
  else bulleted ((signals.take 8).map fun signal =>
    if metaTruthy signal.value then strOf str signal.value else signal.label)

def noValue : MetaValue := .json "null".toList

def evidenceKind (signal : ContextSignal) : Text :=
  if "inferred".toList <+: signal.signalType ∨
      (signal.metadata.get? "reason".toList).any (· ≠ noValue) then "inferred".toList
  else "explicit".toList

def evidenceOf (signals : List ContextSignal) : List EvidenceLink :=
  (signals.take 8).flatMap fun signal => (signal.sourceLinks.take 1).map fun source =>
    ⟨source, some (signal.label ++ " (".toList ++ evidenceKind signal ++ [')'])⟩

/-- `sorted({...})`. -/
def sortedSet (values : List Text) : List Text :=
  values.dedup.insertionSort fun a b => textLe a b = true

def signalSection (str : ValueStr) (sectionId title : String) (signals : List ContextSignal)
    (empty : String) : ViewSection where
  id := sectionId.toList
  title := title.toList
  content := some (contentOf str signals empty.toList)
  evidenceLinks := evidenceOf signals
  metadata := [("signal_types".toList, .texts (sortedSet (signals.map ContextSignal.signalType))),
    ("evidence_kinds".toList, .texts (sortedSet (signals.map evidenceKind)))]

def readinessValue : ReadinessStatus → Text
  | .readyForAgent => "ready_for_agent".toList
  | .needsHumanClarification => "needs_human_clarification".toList
  | .needsSourceMaterial => "needs_source_material".toList
  | .needsDecision => "needs_decision".toList
  | .blocked => "blocked".toList
  | .needsReview => "needs_review".toList

def taskSection (context : PerspectiveBuildContext) (sectionId title : String)
    (itemTypes : List String) (empty : String) : ViewSection :=
  let items := context.actionableItems.filter fun item => item.itemType ∈ itemTypes.map String.toList
  { id := sectionId.toList
    title := title.toList
    content := some (if items = [] then empty.toList
      else bulleted ((items.take 8).map ActionableItem.title))
    evidenceLinks := (items.take 8).flatMap fun item => (item.sourceLinks.take 1).map fun link =>
      ⟨link, some item.title⟩
    metadata := [("item_types".toList, .texts (sortedSet (itemTypes.map String.toList))),
      ("readiness_statuses".toList,
        .texts (sortedSet (items.map fun item => readinessValue item.readinessStatus)))] }

def manualSection (sectionId title text : String) (source : Option SourceLink) : ViewSection where
  id := sectionId.toList
  title := title.toList
  content := some text.toList
  evidenceLinks := source.toList.map fun link => ⟨link, none⟩
  metadata := [("evidence_kinds".toList, .texts ["human_judgment".toList])]

end Sections

structure BasePerspectiveBuilder where
  id : Text
  title : Text
  sections : PerspectiveBuildContext → List ViewSection

/-- `build`; `viewId` is what `new_context_id` gives. -/
def BasePerspectiveBuilder.build (builder : BasePerspectiveBuilder) (viewId : Text)
    (context : PerspectiveBuildContext) : PerspectiveView :=
  ⟨viewId, builder.id, builder.title, builder.sections context, []⟩

section Builders

variable (str : ValueStr)

def roleFit : BasePerspectiveBuilder where
  id := "role_fit".toList
  title := "Role Fit".toList
  sections context := [
    signalSection str "strong_matches" "Strong Matches"
      (signalsOf context ["technology", "technical_skill", "platform_experience"])
      "No strong matches yet.",
    signalSection str "weak_or_missing" "Weak or Missing Evidence"
      (signalsOf context ["open_question", "interviewer_concern"])
      "No missing-evidence signals yet.",
    signalSection str "risks" "Risks"
      (signalsOf context ["inferred_risk", "unusual_scope_indicator"])
      "No role-fit risks extracted yet.",
    signalSection str "positioning" "Suggested Positioning"
      (signalsOf context ["leadership_signal", "measurable_outcome", "ai_agent_experience",
        "role_experience"])
      "Add resume or story evidence to generate positioning.",
    signalSection str "open_questions" "Open Questions"
      (signalsOf context ["open_question", "location_constraint", "company_signal"])
      "No open questions captured yet."]

def interviewPrep : BasePerspectiveBuilder where
  id := "interview_prep".toList
  title := "Interview Prep".toList
  sections context := [
    signalSection str "themes" "Likely Interview Themes"
      (signalsOf context ["technical_theme", "leadership_expectation", "company_signal"])
      "No interview themes yet.",
    signalSection str "stories" "Best Supporting Stories"
      (signalsOf context ["story_situation", "story_action", "story_result"])
      "Add personal stories to ground this section.",
    signalSection str "technical" "Technical Topics"
      (signalsOf context ["technology", "technical_skill", "platform_experience"])
      "No technical topics extracted yet.",
    signalSection str "questions" "Questions To Ask"
      (signalsOf context ["open_question", "location_constraint", "compensation"])
      "No questions suggested yet.",
    signalSection str "concerns" "Concerns To Clarify"
      (signalsOf context ["interviewer_concern", "interview_risk", "inferred_risk",
        "company_signal"])
      "No concerns captured yet."]

def resumePositioning : BasePerspectiveBuilder where
  id := "resume_positioning".toList
  title := "Resume Positioning".toList
  sections context := [
    signalSection str "strong_resume" "Strong Resume Areas"
      (signalsOf context ["measurable_outcome", "technical_skill", "leadership_signal"])
      "No strong resume areas extracted yet.",
    signalSection str "missing" "Missing Evidence"
      (signalsOf context ["responsibility", "leadership_expectation"])
      "No missing evidence inferred yet.",
    signalSection str "weak" "Weak Positioning"
      (signalsOf context ["interviewer_concern", "interview_risk"])
      "No weak positioning signals yet.",
    taskSection context "rewrites" "Suggested Rewrites" ["rewrite_resume_section"]
      "No rewrite tasks generated yet."]

def applicationPipeline : BasePerspectiveBuilder where
  id := "application_pipeline".toList
  title := "Application Pipeline".toList
  sections context := [
    signalSection str "active" "Active Opportunities" (signalsOf context ["company", "role_title"])
      "No active opportunities ingested yet.",
    taskSection context "next" "Next Actions" ["prepare_interview_brief",
      "draft_recruiter_follow_up", "research_company_concerns"] "No next actions generated yet.",
    signalSection str "blockers" "Blockers" (signalsOf context ["interview_risk", "inferred_risk"])
      "No blockers extracted yet.",
    taskSection context "followups" "Follow-Ups" ["draft_recruiter_follow_up",
      "clarify_compensation_expectations", "clarify_scope", "prepare_architecture_story"]
      "No follow-up tasks generated yet."]

/-- The first link of the first signal. -/
def humanSource (context : PerspectiveBuildContext) : Option SourceLink :=
  context.signals.head?.bind fun signal => signal.sourceLinks.head?

def compensationScopeRisk : BasePerspectiveBuilder where
  id := "compensation_scope_risk".toList
  title := "Compensation and Scope Risk".toList
  sections context := [
    signalSection str "comp" "Compensation Signals" (signalsOf context ["compensation"])
      "No compensation signals yet.",
    signalSection str "scope" "Scope Risks"
      (signalsOf context ["unusual_scope_indicator", "inferred_risk"])
      "No scope risks extracted yet.",
    signalSection str "title" "Title Concerns" (signalsOf context ["role_title", "seniority"])
      "No title concerns extracted yet.",
    manualSection "judgment" "Human Judgment Areas"
      ("Use these signals as prompts for human judgment; the demo does not decide " ++
        "compensation fairness or career fit automatically.") (humanSource context)]

end Builders

/-! ### The assisted builder -/

/-- The prompt's rendering and the model, as the perspective step reaches them. -/
structure PerspectiveModel where
  renderPrompt : PerspectivePrompt → Except Raised Text
  answer : ResolvedContextModelStep → Text → Text → Except Raised LLMPerspectiveOutput

structure LLMAssistedPerspectiveBuilder where
  base : BasePerspectiveBuilder
  contextGraph : PerspectiveContextGraph
  runtime : PerspectiveBuildContext → Runtime
  model : PerspectiveModel

def markDeterministicView (view : PerspectiveView) : PerspectiveView :=
  { view with
    metadata := view.metadata.setdefault generatedByKey (.text "deterministic".toList)
    sections := view.sections.map fun viewSection => { viewSection with
      metadata :=
        Dict.setdefault viewSection.metadata generatedByKey (.text "deterministic".toList) } }

def perspectiveKey (domainId stepId : Text) : StepKey :=
  ⟨domainId, "perspective_synthesis".toList, stepId, "perspective_synthesis".toList⟩

namespace LLMAssistedPerspectiveBuilder

variable (builder : LLMAssistedPerspectiveBuilder)

def build (context : PerspectiveBuildContext) : PerspectiveView :=
  builder.base.build ((builder.runtime context).newContextId "view".toList 1) context

/-- The guarded part of `build_with_execution`: nothing when the step is deterministic, else the
step and the view of the model. -/
def attempt (context : PerspectiveBuildContext) (deterministic : PerspectiveView)
    (call : JobSearchCall) : Except Raised (Option (ResolvedContextModelStep × PerspectiveView)) := do
  let step ← call.context.resolveStep (perspectiveKey context.domainId builder.base.id)
  if step.mode = .deterministic then pure none
  else do
    let prompt := perspectivePrompt context deterministic builder.contextGraph
    let rendered ← builder.model.renderPrompt prompt.1
    let instructions ← call.context.loadPrompt step
    let output ← runStructured call.context.runner call.site step
      (builder.model.answer step instructions rendered)
    let synthesized ← mapPerspectiveOutput (builder.runtime context) output context step
      builder.base.id prompt.2
    pure (some (step, synthesized))

def withWarning (warning : Text) (view : PerspectiveView) : PerspectiveView :=
  { view with metadata := view.metadata.set fallbackWarningKey (.text warning) }

def buildWithExecution (context : PerspectiveBuildContext) (call : Option JobSearchCall) :
    PerspectiveView :=
  let deterministic := markDeterministicView (builder.build context)
  match call with
  | none => withWarning notConfigured deterministic
  | some call =>
    match builder.attempt context deterministic call with
    | .error raised => withWarning (llmFailed raised) deterministic
    | .ok none => deterministic
    | .ok (some (step, synthesized)) =>
      if step.mode = .llm then synthesized
      else
        { synthesized with
          metadata := synthesized.metadata.set "deterministic_section_count".toList
            (metaCount deterministic.sections.length) }

def toBuilder : PerspectiveBuilder JobSearchCall where
  id := builder.base.id
  build context := .ok (builder.build context)
  buildWithExecution := some fun context call => .ok (builder.buildWithExecution context call)

end LLMAssistedPerspectiveBuilder

/-- What the builders of the pack draw on: `graph` is the context graph of each view. -/
structure ViewRuntime where
  str : ValueStr
  graph : Text → PerspectiveContextGraph
  runtime : PerspectiveBuildContext → Runtime
  model : PerspectiveModel

def perspectiveBuilders (vr : ViewRuntime) : List LLMAssistedPerspectiveBuilder :=
  [roleFit vr.str, interviewPrep vr.str, resumePositioning vr.str, applicationPipeline vr.str,
    compensationScopeRisk vr.str].map fun base => ⟨base, vr.graph base.id, vr.runtime, vr.model⟩

/-! ### What the evidence of a view is taken from -/

section Evidence

variable {good : SourceLink → Prop} {context : PerspectiveBuildContext}

def LinksWithin (good : SourceLink → Prop) (viewSection : ViewSection) : Prop :=
  ∀ evidence ∈ viewSection.evidenceLinks, good evidence.source

/-- The signals and items of the context have good links, and links to its artifacts are good. -/
structure GoodLinks (good : SourceLink → Prop) (context : PerspectiveBuildContext) : Prop where
  signals : ∀ signal ∈ context.signals, ∀ link ∈ signal.sourceLinks, good link
  items : ∀ item ∈ context.actionableItems, ∀ link ∈ item.sourceLinks, good link
  artifacts : ∀ artifact ∈ context.artifacts, ∀ link : SourceLink,
    link.artifactId = artifact.id → good link

theorem signalSection_within (h : GoodLinks good context) (str : ValueStr)
    (sectionId title : String) (types : List String) (empty : String) :
    LinksWithin good (signalSection str sectionId title (signalsOf context types) empty) := by
  intro evidence hevidence
  obtain ⟨signal, hsignal, hevidence⟩ := List.mem_flatMap.mp hevidence
  obtain ⟨source, hsource, rfl⟩ := List.mem_map.mp hevidence
  have hmem := List.mem_of_mem_filter (List.mem_of_mem_take hsignal)
  exact h.signals signal hmem source (List.mem_of_mem_take hsource)

theorem taskSection_within (h : GoodLinks good context) (sectionId title : String)
    (itemTypes : List String) (empty : String) :
    LinksWithin good (taskSection context sectionId title itemTypes empty) := by
  intro evidence hevidence
  obtain ⟨item, hitem, hevidence⟩ := List.mem_flatMap.mp hevidence
  obtain ⟨link, hlink, rfl⟩ := List.mem_map.mp hevidence
  have hmem := List.mem_of_mem_filter (List.mem_of_mem_take hitem)
  exact h.items item hmem link (List.mem_of_mem_take hlink)

theorem manualSection_within (h : GoodLinks good context) (sectionId title text : String) :
    LinksWithin good (manualSection sectionId title text (humanSource context)) := by
  intro evidence hevidence
  obtain ⟨link, hlink, rfl⟩ := List.mem_map.mp hevidence
  obtain ⟨signal, hsignal, hfirst⟩ := Option.bind_eq_some_iff.mp (Option.mem_toList.mp hlink)
  exact h.signals signal (List.mem_of_mem_head? hsignal) link (List.mem_of_mem_head? hfirst)

theorem within_cons {viewSection : ViewSection} {sections : List ViewSection}
    (h : LinksWithin good viewSection) (hrest : ∀ other ∈ sections, LinksWithin good other) :
    ∀ other ∈ viewSection :: sections, LinksWithin good other :=
  List.forall_mem_cons.mpr ⟨h, hrest⟩

theorem sections_within (h : GoodLinks good context) {vr : ViewRuntime} :
    ∀ builder ∈ perspectiveBuilders vr, ∀ viewSection ∈ builder.base.sections context,
      LinksWithin good viewSection := by
  have hnil : ∀ viewSection ∈ [], LinksWithin good viewSection := fun _ hmem => nomatch hmem
  have hsignals {sections : List ViewSection} (hrest : ∀ other ∈ sections, LinksWithin good other)
      (sectionId title : String) (types : List String) (empty : String) :=
    within_cons (signalSection_within h vr.str sectionId title types empty) hrest
  have htasks {sections : List ViewSection} (hrest : ∀ other ∈ sections, LinksWithin good other)
      (sectionId title : String) (itemTypes : List String) (empty : String) :=
    within_cons (taskSection_within h sectionId title itemTypes empty) hrest
  simp only [perspectiveBuilders, List.map_cons, List.map_nil, List.forall_mem_cons,
    List.not_mem_nil, false_implies, implies_true, and_true]
  refine ⟨?_, ?_, ?_, ?_, ?_⟩
  · exact hsignals (hsignals (hsignals (hsignals (hsignals hnil _ _ _ _) _ _ _ _) _ _ _ _)
      _ _ _ _) _ _ _ _
  · exact hsignals (hsignals (hsignals (hsignals (hsignals hnil _ _ _ _) _ _ _ _) _ _ _ _)
      _ _ _ _) _ _ _ _
  · exact hsignals (hsignals (hsignals (htasks hnil _ _ _ _) _ _ _ _) _ _ _ _) _ _ _ _
  · exact hsignals (htasks (hsignals (htasks hnil _ _ _ _) _ _ _ _) _ _ _ _) _ _ _ _
  · exact hsignals (hsignals (hsignals (within_cons (manualSection_within h _ _ _) hnil) _ _ _ _)
      _ _ _ _) _ _ _ _

/-- The evidence of a synthesized view cites artifacts of the context. -/
theorem mapPerspectiveOutput_within (h : GoodLinks good context) {promptIds : PromptIdMap}
    {runtime : Runtime} {output : LLMPerspectiveOutput} {step : ResolvedContextModelStep}
    {viewDefinitionId : Text} {view : PerspectiveView}
    (hview : mapPerspectiveOutput runtime output context step viewDefinitionId promptIds = .ok view) :
    ∀ viewSection ∈ view.sections, LinksWithin good viewSection := by
  obtain ⟨sections, hsections, hview⟩ := bind_eq_ok.mp hview
  obtain rfl := pure_eq_ok.mp hview
  refine mapAll_forall (fun synthesized viewSection hsection => ?_) hsections
  obtain ⟨evidence, hevidence, hsection⟩ := bind_eq_ok.mp hsection
  obtain rfl := pure_eq_ok.mp hsection
  refine mapAll_forall (fun reference link hlink => ?_) hevidence
  rw [mapEvidence] at hlink
  split at hlink
  · cases hlink
  · split at hlink
    · cases hlink
    · rename_i artifact hartifact
      obtain ⟨source, hsource, hlink⟩ := bind_eq_ok.mp hlink
      obtain rfl := pure_eq_ok.mp hlink
      refine h.artifacts artifact (Dict.get?_index hartifact).1 source ?_
      exact sourceLink_artifactId hsource

theorem attempt_within (h : GoodLinks good context) {builder : LLMAssistedPerspectiveBuilder}
    {deterministic : PerspectiveView} {call : JobSearchCall} {step : ResolvedContextModelStep}
    {view : PerspectiveView}
    (hattempt : builder.attempt context deterministic call = .ok (some (step, view))) :
    ∀ viewSection ∈ view.sections, LinksWithin good viewSection := by
  obtain ⟨resolved, -, hattempt⟩ := bind_eq_ok.mp hattempt
  by_cases hmode : resolved.mode = .deterministic
  · rw [if_pos hmode] at hattempt
    cases hattempt
  · rw [if_neg hmode] at hattempt
    obtain ⟨rendered, -, hattempt⟩ := bind_eq_ok.mp hattempt
    obtain ⟨instructions, -, hattempt⟩ := bind_eq_ok.mp hattempt
    obtain ⟨output, -, hattempt⟩ := bind_eq_ok.mp hattempt
    obtain ⟨synthesized, hsynthesized, hattempt⟩ := bind_eq_ok.mp hattempt
    obtain ⟨rfl, rfl⟩ : resolved = step ∧ synthesized = view := by
      simpa using pure_eq_ok.mp hattempt
    exact mapPerspectiveOutput_within h hsynthesized

/-- Whatever the model answers, a view is built on good links. -/
theorem buildWithExecution_within (h : GoodLinks good context) {vr : ViewRuntime}
    {builder : LLMAssistedPerspectiveBuilder} (hbuilder : builder ∈ perspectiveBuilders vr)
    (call : Option JobSearchCall) :
    ∀ viewSection ∈ (builder.buildWithExecution context call).sections,
      LinksWithin good viewSection := by
  have hdeterministic : ∀ viewSection ∈ (markDeterministicView (builder.build context)).sections,
      LinksWithin good viewSection := by
    intro viewSection hsection
    obtain ⟨original, horiginal, rfl⟩ := List.mem_map.mp hsection
    exact sections_within h builder hbuilder original horiginal
  cases call with
  | none => exact hdeterministic
  | some call =>
    simp only [LLMAssistedPerspectiveBuilder.buildWithExecution]
    cases hattempt : builder.attempt context (markDeterministicView (builder.build context)) call with
    | error raised => exact hdeterministic
    | ok outcome =>
      rcases outcome with _ | ⟨step, synthesized⟩
      · exact hdeterministic
      · have hmodel := attempt_within h hattempt
        by_cases hmode : step.mode = .llm
        · simpa only [if_pos hmode] using hmodel
        · simpa only [if_neg hmode] using hmodel

end Evidence

/-! ### Runs of ingestions -/

section Runs

/-- An ingestion, with the model and the database as it finds them. -/
structure IngestAction where
  stamp : Stamp
  request : IngestionRequest
  call : Option JobSearchCall
  db : Database

variable (rt : PackRuntime) (chunker : SimpleTextChunker) (chunkIds : Artifact → Nat → Text)

/-- The registry outside of tests. -/
def jobSearchRegistry : DomainRegistry JobSearchCall := [(jobSearchId, (jobSearchPack rt).toPack)]

/-- The tables after an ingestion that succeeded, was refused, or failed on its way. -/
def afterIngest (stored : Tables) (action : IngestAction) : Tables :=
  (ingestArtifact (jobSearchService (jobSearchRegistry rt) (sqlAlchemyRepository action.db) chunker
    chunkIds action.call) action.stamp action.request stored).2

def afterIngests (actions : List IngestAction) : Tables :=
  actions.foldl (afterIngest rt chunker chunkIds) emptyTables

theorem storeAll_undumpable {db : Database} {result : IngestionResult} {stored : Tables}
    (h : ¬ Dumpable result.artifact.metadata) :
    (storeAll (sqlAlchemyRepository db) result stored).2 = stored := by
  have hdump : jsonDump result.artifact.metadata =
      .error ⟨.typeError, "Object is not JSON serializable".toList⟩ := by
    rw [jsonDump, if_neg]
    rw [List.all_eq_true]
    exact h
  have hstore : (sqlAlchemyRepository db).storeArtifact result.artifact stored =
      (.error ⟨.typeError, "Object is not JSON serializable".toList⟩, stored) := by
    have hrow : artifactRow result.artifact =
        .error ⟨.typeError, "Object is not JSON serializable".toList⟩ := by
      rw [artifactRow, hdump]
      rfl
    simp only [sqlAlchemyRepository, inSession, hrow]
  rw [storeAll, Effect.bind_error hstore]

/-- An ingestion leaves the tables as they are, or adds the first batches of a result. -/
theorem afterIngest_cases {stored : Tables} {action : IngestAction}
    (hfresh : ∀ other ∈ stored.artifacts, other.id ≠ action.stamp.id) :
    afterIngest rt chunker chunkIds stored action = stored ∨
      ∃ result, Ingested (action.request.artifact action.stamp) action.call result ∧
        ∃ done rest, ingestedBatches result = done ++ rest ∧
          afterIngest rt chunker chunkIds stored action = stored ++ joined done := by
  have hpack : (jobSearchRegistry rt).get? jobSearchId = some (jobSearchPack rt).toPack := rfl
  rw [afterIngest]
  by_cases hdomain : action.request.domainId = jobSearchId
  · rcases admitRequest_eq hpack hdomain with ⟨hadmissible, -⟩ | ⟨-, message, hrefused⟩
    · obtain ⟨result, hresult, hcalls⟩ := ingestArtifact_storeAll hpack hdomain hadmissible chunker
        chunkIds action.call action.stamp
      rw [hcalls]
      by_cases hmetadata : Dumpable action.request.metadata
      · right
        refine ⟨result, hresult, ?_⟩
        rw [storeAll_tables hresult hmetadata hfresh]
        rcases commitAll_cases action.db result (ingestedBatches result) stored with
          hall | ⟨done, pending, rest, reason, hbatches, -, hdone⟩
        · exact ⟨ingestedBatches result, [], (List.append_nil _).symm, congrArg Prod.snd hall⟩
        · exact ⟨done, pending :: rest, hbatches, congrArg Prod.snd hdone⟩
      · left
        refine storeAll_undumpable ?_
        rw [hresult.stored]
        exact hmetadata
    · left
      exact congrArg Prod.snd (ingestArtifact_refused hrefused action.stamp stored)
  · left
    have hunknown : admitRequest (jobSearchRegistry rt) action.request = .error ⟨.keyError,
        "Domain ".toList ++ quote action.request.domainId ++ " is not registered.".toList⟩ := by
      have hnone : (jobSearchRegistry rt).get? action.request.domainId = none :=
        if_neg (Ne.symm hdomain)
      rw [admitRequest, getDomain, hnone]
      rfl
    exact congrArg Prod.snd (ingestArtifact_refused hunknown action.stamp stored)

/-- A column of rows that come batch after batch. -/
theorem column_joined {γ : Type} {column : Tables → List γ}
    (happend : ∀ s t, column (s ++ t) = column s ++ column t) (hempty : column emptyTables = [])
    (batches : List Tables) : column (joined batches) = batches.flatMap column := by
  induction batches with
  | nil => exact hempty
  | cons batch batches ih =>
    rw [List.flatMap_cons, ← ih]
    exact happend batch (joined batches)

theorem flatMap_none {α β : Type} (as : List α) : (as.flatMap fun _ => ([] : List β)) = [] :=
  List.flatMap_eq_nil_iff.mpr fun _ _ => rfl

theorem artifacts_ingested (result : IngestionResult) :
    (joined (ingestedBatches result)).artifacts = [result.artifact] := by
  simp [column_joined append_artifacts rfl, ingestedBatches, artifactAdded, List.flatMap_map,
    chunkAdded, entityAdded, relationshipAdded, signalAdded, itemAdded, emptyTables]

theorem entities_ingested (result : IngestionResult) : (joined (ingestedBatches result)).entities =
    result.entities.map fun record => (result.artifact.owner, record) := by
  simp [column_joined append_entities rfl, ingestedBatches, artifactAdded, List.flatMap_map,
    chunkAdded, entityAdded, relationshipAdded, signalAdded, itemAdded, emptyTables,
    ← List.map_eq_flatMap, flatMap_none]

theorem relationships_ingested (result : IngestionResult) :
    (joined (ingestedBatches result)).relationships =
      result.relationships.map fun record => (result.artifact.owner, record) := by
  simp [column_joined append_relationships rfl, ingestedBatches, artifactAdded, List.flatMap_map,
    chunkAdded, entityAdded, relationshipAdded, signalAdded, itemAdded, emptyTables,
    ← List.map_eq_flatMap, flatMap_none]

theorem signals_ingested (result : IngestionResult) : (joined (ingestedBatches result)).signals =
    result.signals.map fun record => (result.artifact.owner, record) := by
  simp [column_joined append_signals rfl, ingestedBatches, artifactAdded, List.flatMap_map,
    chunkAdded, entityAdded, relationshipAdded, signalAdded, itemAdded, emptyTables,
    ← List.map_eq_flatMap, flatMap_none]

theorem actionableItems_ingested (result : IngestionResult) :
    (joined (ingestedBatches result)).actionableItems =
      result.actionableItems.map fun record => (result.artifact.owner, record) := by
  simp [column_joined append_actionableItems rfl, ingestedBatches, artifactAdded, List.flatMap_map,
    chunkAdded, entityAdded, relationshipAdded, signalAdded, itemAdded, emptyTables,
    ← List.map_eq_flatMap, flatMap_none]

/-- Every link names a stored artifact of the owner. -/
def OwnLinks (artifacts : List Artifact) (owner : Owner) (links : List SourceLink) : Prop :=
  ∀ link ∈ links, ∃ artifact ∈ artifacts, artifact.id = link.artifactId ∧ artifact.owner = owner

structure OwnRows (stored : Tables) : Prop where
  ids : (stored.artifacts.map Artifact.id).Nodup
  entities : ∀ row ∈ stored.entities, OwnLinks stored.artifacts row.1 row.2.sourceLinks
  relationships : ∀ row ∈ stored.relationships, OwnLinks stored.artifacts row.1 row.2.sourceLinks
  signals : ∀ row ∈ stored.signals, OwnLinks stored.artifacts row.1 row.2.sourceLinks
  actionableItems : ∀ row ∈ stored.actionableItems,
    OwnLinks stored.artifacts row.1 row.2.sourceLinks

/-- The rows of a table after some of the batches of an ingestion. -/
theorem ownLinks_append {ρ : Type} (store : LinkedStore ρ) (later : List (Owner × ρ))
    {artifact : Artifact} {chunks : List ArtifactChunk} {rows added : List (Owner × ρ)}
    {artifacts fresh : List Artifact} {records : List ρ}
    (hrows : ∀ row ∈ rows, OwnLinks artifacts row.1 (store.kind.sourceLinks row.2))
    (hadded : added ++ later = records.map fun record => (artifact.owner, record))
    (hsourced : RecordsSourced store artifact chunks records)
    (hfresh : added ≠ [] → artifact ∈ fresh) :
    ∀ row ∈ rows ++ added, OwnLinks (artifacts ++ fresh) row.1 (store.kind.sourceLinks row.2) := by
  intro row hrow link hlink
  rcases List.mem_append.mp hrow with hrow | hrow
  · obtain ⟨known, hknown, hid⟩ := hrows row hrow link hlink
    exact ⟨known, List.mem_append_left _ hknown, hid⟩
  · have hmem : row ∈ records.map fun record => (artifact.owner, record) := by
      rw [← hadded]
      exact List.mem_append_left _ hrow
    obtain ⟨record, hrecord, rfl⟩ := List.mem_map.mp hmem
    have hcites := (hsourced record hrecord).links.2 link hlink
    exact ⟨artifact, List.mem_append_right _ (hfresh (List.ne_nil_of_mem hrow)),
      hcites.artifactId.symm, rfl⟩

theorem joined_append (first second : List Tables) :
    joined (first ++ second) = joined first ++ joined second := by
  induction first with
  | nil =>
    change _ = Tables.mk _ _ _ _ _ _ _
    simp [joined, emptyTables]
  | cons batch first ih =>
    rw [List.cons_append]
    change batch ++ joined (first ++ second) = batch ++ joined first ++ joined second
    rw [ih, Tables.append_assoc]

/-- The rows of the first batches of an ingestion are its artifact's own. -/
theorem OwnRows.ingested {stored : Tables} (h : OwnRows stored) {artifact : Artifact}
    {call : Option JobSearchCall} {result : IngestionResult} (hresult : Ingested artifact call result)
    (hfresh : ∀ other ∈ stored.artifacts, other.id ≠ artifact.id) {done rest : List Tables}
    (hbatches : ingestedBatches result = done ++ rest) : OwnRows (stored ++ joined done) := by
  obtain rfl := hresult.stored
  have hall : joined (ingestedBatches result) = joined done ++ joined rest := by
    rw [hbatches, joined_append]
  -- any row at all means that the first batch, the artifact's, is among them
  have hstored : done ≠ [] → result.artifact ∈ (joined done).artifacts := by
    intro hne
    obtain ⟨batch, later, rfl⟩ := List.exists_cons_of_ne_nil hne
    obtain ⟨rfl, -⟩ := List.cons.inj hbatches
    exact List.mem_append_left _ (List.mem_singleton.mpr rfl)
  have hsome {γ : Type} {column : Tables → List γ} (hempty : column emptyTables = [])
      (hne : column (joined done) ≠ []) : result.artifact ∈ (joined done).artifacts := by
    refine hstored ?_
    rintro rfl
    exact hne hempty
  constructor
  · have hartifacts := artifacts_ingested result
    rw [hall, append_artifacts] at hartifacts
    rw [append_artifacts, List.map_append, List.nodup_append]
    rcases List.append_eq_singleton_iff.mp hartifacts with ⟨hnil, -⟩ | ⟨hone, -⟩
    · rw [hnil]
      exact ⟨h.ids, List.nodup_nil, fun _ _ _ hmem => nomatch hmem⟩
    · rw [hone]
      refine ⟨h.ids, List.nodup_singleton _, fun id hid other hother => ?_⟩
      obtain ⟨known, hknown, rfl⟩ := List.mem_map.mp hid
      rw [List.mem_singleton.mp hother]
      exact hfresh known hknown
  · refine ownLinks_append entityStore (joined rest).entities h.entities ?_
      hresult.derived.entities (hsome rfl)
    rw [← append_entities, ← hall, entities_ingested]
    rfl
  · refine ownLinks_append relationshipStore (joined rest).relationships h.relationships ?_
      hresult.derived.relationships (hsome rfl)
    rw [← append_relationships, ← hall, relationships_ingested]
    rfl
  · refine ownLinks_append signalStore (joined rest).signals h.signals ?_
      hresult.derived.signals (hsome rfl)
    rw [← append_signals, ← hall, signals_ingested]
    rfl
  · refine ownLinks_append itemStore (joined rest).actionableItems h.actionableItems ?_
      hresult.derived.actionableItems (hsome rfl)
    rw [← append_actionableItems, ← hall, actionableItems_ingested]
    rfl

theorem ownRows_empty : OwnRows emptyTables :=
  ⟨List.nodup_nil, by simp [emptyTables], by simp [emptyTables], by simp [emptyTables],
    by simp [emptyTables]⟩

theorem afterIngest_own {stored : Tables} (h : OwnRows stored) {action : IngestAction}
    (hfresh : ∀ other ∈ stored.artifacts, other.id ≠ action.stamp.id) :
    OwnRows (afterIngest rt chunker chunkIds stored action) ∧
      ∀ artifact ∈ (afterIngest rt chunker chunkIds stored action).artifacts,
        artifact ∈ stored.artifacts ∨ artifact.id = action.stamp.id := by
  rcases afterIngest_cases rt chunker chunkIds hfresh with
    hsame | ⟨result, hresult, done, rest, hbatches, hafter⟩
  · rw [hsame]
    exact ⟨h, fun artifact hartifact => .inl hartifact⟩
  · rw [hafter]
    refine ⟨h.ingested hresult hfresh hbatches, fun artifact hartifact => ?_⟩
    rcases List.mem_append.mp hartifact with hartifact | hartifact
    · exact .inl hartifact
    · right
      have hmem : artifact ∈ (joined (ingestedBatches result)).artifacts := by
        rw [hbatches, joined_append]
        exact List.mem_append_left _ hartifact
      rw [artifacts_ingested, List.mem_singleton, hresult.stored] at hmem
      rw [hmem]
      rfl

theorem run_own {actions : List IngestAction} {stored : Tables} (h : OwnRows stored)
    (hstamps : (actions.map fun action => action.stamp.id).Nodup)
    (hfresh : ∀ artifact ∈ stored.artifacts, ∀ action ∈ actions, artifact.id ≠ action.stamp.id) :
    OwnRows (actions.foldl (afterIngest rt chunker chunkIds) stored) := by
  induction actions generalizing stored with
  | nil => exact h
  | cons action actions ih =>
    obtain ⟨hnew, hstamps⟩ := List.nodup_cons.mp hstamps
    obtain ⟨hown, hartifacts⟩ := afterIngest_own rt chunker chunkIds h fun other hother =>
      hfresh other hother action List.mem_cons_self
    refine ih hown hstamps fun artifact hartifact later hlater => ?_
    rcases hartifacts artifact hartifact with hknown | hid
    · exact hfresh artifact hknown later (List.mem_cons_of_mem _ hlater)
    · intro hsame
      exact hnew (List.mem_map.mpr ⟨later, hlater, hsame.symm.trans hid⟩)

end Runs

/-! ### Views over the tables -/

section Views

variable (rt : PackRuntime) (chunker : SimpleTextChunker) (chunkIds : Artifact → Nat → Text)

def perspectiveService (vr : ViewRuntime) (db : Database) (viewDb : ViewDatabase)
    (call : Option JobSearchCall) : PerspectiveService JobSearchCall Tables ViewRecords where
  toContextEngineService :=
    jobSearchService (jobSearchRegistry rt) (sqlAlchemyRepository db) chunker chunkIds call
  perspectiveBuilders domainId :=
    if domainId = jobSearchId then (perspectiveBuilders vr).map fun builder => builder.toBuilder
    else []
  views := sqlAlchemyViews viewDb

def viewIds (vr : ViewRuntime) : List Text :=
  (perspectiveBuilders vr).map fun builder => builder.base.id

/-- What is listed for an owner. -/
def ownContext (stored : Tables) (owner : Owner) : PerspectiveBuildContext where
  domainId := owner.domainId
  ownerType := owner.ownerType
  ownerId := owner.ownerId
  artifacts := stored.listArtifacts owner
  chunks := stored.listChunksForArtifacts ((stored.listArtifacts owner).map Artifact.id)
  entities := stored.listEntities owner
  relationships := stored.listRelationships owner
  signals := stored.listSignals owner
  actionableItems := stored.listActionableItems owner

theorem goodLinks_listed {stored : Tables} (h : OwnRows stored) (owner : Owner) :
    GoodLinks (fun link => ∃ artifact ∈ stored.artifacts, artifact.id = link.artifactId ∧
      artifact.owner = owner) (ownContext stored owner) where
  signals signal hsignal link hlink := by
    have hrow := SecondaryIndex.mem_rowsOf.mp ((selectOwned_perm _ _ _).mem_iff.mp hsignal)
    exact h.signals _ hrow link hlink
  items item hitem link hlink := by
    have hrow := SecondaryIndex.mem_rowsOf.mp ((selectOwned_perm _ _ _).mem_iff.mp hitem)
    exact h.actionableItems _ hrow link hlink
  artifacts artifact hartifact link hlink := by
    have hlisted := (List.mem_insertionSort _).mp hartifact
    obtain ⟨hmem, howner⟩ := List.mem_filter.mp hlisted
    exact ⟨artifact, hmem, hlink.symm, of_decide_eq_true howner⟩

/-- After every run of ingestions, whatever failed in it and whatever the models answered, each
view of the domain can be built for each owner, and its evidence cites stored artifacts of that
owner and of nobody else. -/
theorem view_cites_own_artifacts (actions : List IngestAction)
    (hstamps : (actions.map fun action => action.stamp.id).Nodup) (vr : ViewRuntime) (db : Database)
    (viewDb : ViewDatabase) (call : Option JobSearchCall) {owner : Owner}
    (hdomain : owner.domainId = jobSearchId) {viewDefinitionId : Text}
    (hview : viewDefinitionId ∈ viewIds vr) {shelf : Shelf Tables ViewRecords}
    (hstore : shelf.store = afterIngests rt chunker chunkIds actions) {artifacts : List Artifact}
    (hartifacts : artifacts = [] ∨ artifacts = shelf.store.listArtifacts owner) :
    ∃ ref listed shelf', buildView (perspectiveService rt chunker chunkIds vr db viewDb call) owner
        viewDefinitionId artifacts shelf = (.ok (ref, listed), shelf') ∧
      ∀ viewSection ∈ (shelf'.objects ref).sections, ∀ evidence ∈ viewSection.evidenceLinks,
        ∃ artifact ∈ shelf.store.artifacts, artifact.id = evidence.source.artifactId ∧
          artifact.owner = owner ∧
          ∀ other ∈ shelf.store.artifacts, other.id = artifact.id → other.owner = owner := by
  have hown : OwnRows shelf.store := by
    rw [hstore]
    exact run_own rt chunker chunkIds ownRows_empty hstamps fun _ hmem => nomatch hmem
  let service := perspectiveService rt chunker chunkIds vr db viewDb call
  obtain ⟨builder, hbuilder, hfind⟩ : ∃ builder ∈ perspectiveBuilders vr,
      (service.perspectiveBuilders owner.domainId).find? (·.id = viewDefinitionId) =
        some builder.toBuilder := by
    obtain ⟨known, hknown, rfl⟩ := List.mem_map.mp hview
    have hregistered : service.perspectiveBuilders owner.domainId =
        (perspectiveBuilders vr).map fun builder => builder.toBuilder := if_pos hdomain
    rw [hregistered]
    cases hfind : ((perspectiveBuilders vr).map fun builder => builder.toBuilder).find?
        (·.id = known.base.id) with
    | none =>
      have hnone := List.find?_eq_none.mp hfind _ (List.mem_map_of_mem hknown)
      exact absurd (decide_eq_true rfl) hnone
    | some found =>
      obtain ⟨builder, hbuilder, rfl⟩ := List.mem_map.mp (List.mem_of_find?_eq_some hfind)
      exact ⟨builder, hbuilder, rfl⟩
  have hlisted : orListArtifacts service owner artifacts shelf =
      (.ok (shelf.store.listArtifacts owner), shelf) := by
    rw [orListArtifacts]
    rcases hartifacts with rfl | rfl
    · rfl
    · split
      · rfl
      · rfl
  have hdomainKnown : getDomain service.registry owner.domainId =
      .ok (jobSearchPack rt).toPack := by
    rw [getDomain, hdomain]
    rfl
  let view := builder.buildWithExecution (ownContext shelf.store owner) call
  refine ⟨shelf.next, shelf.store.listArtifacts owner, { shelf with
    objects := Function.update shelf.objects shelf.next view
    next := shelf.next + 1
    handed := shelf.next :: shelf.handed }, ?_, ?_⟩
  · rw [buildView]
    refine (lift_bind_ok hdomainKnown _ shelf).trans ?_
    rw [hfind]
    exact (bind_ok hlisted _).trans rfl
  · intro viewSection hsection evidence hevidence
    simp only [Function.update_self] at hsection
    obtain ⟨artifact, hartifact, hid, howner⟩ := buildWithExecution_within
      (goodLinks_listed hown owner) hbuilder call viewSection hsection evidence hevidence
    refine ⟨artifact, hartifact, hid, howner, fun other hother hsame => ?_⟩
    rw [List.inj_on_of_nodup_map hown.ids hother hartifact hsame, howner]

/-- Builders whose model does not answer. -/
def silentViews : ViewRuntime where
  str _ := []
  graph _ := ⟨⟨18, 24, 6, 850, 320, by decide, by decide, by decide⟩, []⟩
  runtime _ := plainRuntime
  model := ⟨fun _ => .ok [], fun _ _ _ => .error (valueError [])⟩

def plainViewDatabase : ViewDatabase where
  isoformat _ := "2026-01-01T00:00:00+00:00".toList
  dump view := .ok view.id
  load _ := .error (valueError [])
  generatedAt _ := 0
  refuses _ _ _ := none

def plainActions : List IngestAction := [⟨plainStamp, plainNote, none, laxDatabase⟩]

def plainShelf : Shelf Tables ViewRecords :=
  emptyShelf (afterIngests silentRuntime defaultChunker chunkNumber plainActions) []

/-- The note is judged by its own owner. -/
theorem note_view_cites_owner : ∃ ref listed shelf',
    buildView (perspectiveService silentRuntime defaultChunker chunkNumber silentViews laxDatabase
        plainViewDatabase none) plainNote.owner "compensation_scope_risk".toList [] plainShelf =
      (.ok (ref, listed), shelf') ∧
    ∀ viewSection ∈ (shelf'.objects ref).sections, ∀ evidence ∈ viewSection.evidenceLinks,
      ∃ artifact ∈ plainShelf.store.artifacts, artifact.id = evidence.source.artifactId ∧
        artifact.owner = plainNote.owner ∧
        ∀ other ∈ plainShelf.store.artifacts, other.id = artifact.id →
          other.owner = plainNote.owner :=
  view_cites_own_artifacts silentRuntime defaultChunker chunkNumber plainActions
    (List.nodup_singleton _) silentViews laxDatabase plainViewDatabase none rfl
    (by decide) rfl (.inl rfl)

end Views

end DemoService.JobSearch
