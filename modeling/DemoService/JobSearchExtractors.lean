import DemoService.JobSearchAssisted
import DemoService.JobSearchLines

/-! The rule-based extractors and the task generator of the job search domain. Every record they
make has one source link, to the chunk where its text was matched or to the first one. -/

namespace DemoService.JobSearch

open PyText Context
open Fallible

/-- A match of a pattern: its bounds, and the text of its first group. -/
structure PatternMatch where
  start : Nat
  stop : Nat
  group : Text
  deriving DecidableEq, Repr

/-- `re.search(pattern, text)`, with or without `re.IGNORECASE`, and `re.finditer`. -/
structure PatternLibrary where
  search : Text → Bool → Text → Option PatternMatch
  finditer : Text → Text → List PatternMatch
  inside : ∀ {pattern ignoreCase text found}, search pattern ignoreCase text = some found →
    found.start ≤ found.stop ∧ found.stop ≤ text.length

/-- The characters that `re.escape` puts a backslash before. -/
def specialChars : Text := "()[]\x7b\x7d?*+-|^$\\.&~# \t\n\r\x0b\x0c".toList

def escape (text : Text) : Text :=
  text.flatMap fun c => if c ∈ specialChars then ['\\', c] else [c]

/-- What the extractors draw on; the fresh ids are numbered by kind and position. -/
structure ExtractionRuntime where
  re : PatternLibrary
  lower : Text → Text
  newContextId : Artifact → Text → Nat → Text

section Records

/-- Records are drafted without their ids. -/
abbrev Draft (ρ : Type) := Text → ρ

def stampAll {ρ : Type} (newId : Nat → Text) (drafts : List (Draft ρ)) : List ρ :=
  drafts.zipIdx.map fun numbered => numbered.1 (newId numbered.2)

def recordMetadata (explicitOrInferred : String) (metadata : Metadata) : Metadata :=
  Dict.merge [(generatedByKey, .text "deterministic".toList),
    (explicitOrInferredKey, .text explicitOrInferred.toList)] metadata

def signal (signalType label : Text) (value : Text) (sourceLink : SourceLink)
    (metadata : Metadata) : Draft ContextSignal := fun id => {
  id := id
  signalType := signalType
  label := label
  value := .text value
  sourceLinks := [sourceLink]
  metadata := recordMetadata
    (if "inferred".toList <+: signalType ∨ (metadata.get? "reason".toList).any metaTruthy then
      "inferred" else "explicit") metadata }

def entity (entityType name : Text) (sourceLink : SourceLink) : Draft ContextEntity := fun id => {
  id := id
  entityType := entityType
  name := name
  sourceLinks := [sourceLink]
  metadata := recordMetadata "explicit" [] }

def action (itemType title : Text) (sourceLink : SourceLink) (description : Text) :
    Draft ActionableItem := fun id => {
  id := id
  itemType := itemType
  title := title
  description := some description
  readinessStatus := .needsReview
  sourceLinks := [sourceLink]
  metadata := recordMetadata "inferred" [] }

def signalsFromValues (signalType label : Text) (values : List ExtractedValue) :
    List (Draft ContextSignal) :=
  values.map fun found => signal signalType label found.value found.sourceLink []

def technologyEntity (found : ExtractedValue) : Draft ContextEntity :=
  entity "technology".toList found.value found.sourceLink

end Records

section Values

variable (rt : ExtractionRuntime) (chunks : List ArtifactChunk)

def techKeywords : List Text :=
  ["Python", "TypeScript", "React", "Next.js", "FastAPI", "SQLAlchemy", "Oracle", "Postgres",
    "Kubernetes", "Docker", "Terraform", "AWS", "GCP", "OCI", "LangChain", "OpenAI", "Anthropic",
    "RAG", "agents", "embeddings"].map String.toList

def keywordIn (label keyword : Text) (chunk : ArtifactChunk) : Option ExtractedValue :=
  (rt.re.search ("\\b".toList ++ escape keyword ++ "\\b".toList) true chunk.text).map fun found =>
    ⟨keyword, {
      artifactId := chunk.artifactId
      chunkId := some chunk.id
      startOffset := some (chunk.startOffset + found.start)
      endOffset := some (chunk.startOffset + found.stop)
      label := some label
      excerpt := some (textSlice chunk.text found.start found.stop) }⟩

/-- The loops of `keyword_values`; `seen` has the keywords that were found, lower-cased. -/
def collectKeywords (label : Text) : List Text → List Text → List ExtractedValue
  | [], _ => []
  | keyword :: keywords, seen =>
    if rt.lower keyword ∈ seen then collectKeywords label keywords seen
    else
      match chunks.findSome? (keywordIn rt label keyword) with
      | some found => found :: collectKeywords label keywords (rt.lower keyword :: seen)
      | none => collectKeywords label keywords seen

def keywordValues (keywords : List Text) (label : Text) : List ExtractedValue :=
  collectKeywords rt chunks label keywords []

/-- One use of `lines_containing`: its patterns, its label, how many of the lines are kept, and the
signals they become. -/
structure LineRule where
  signalType : Text
  title : Text
  patterns : List Text
  label : Text
  count : Nat

def lineRule (signalType title : String) (patterns : List String) (label : String) (count : Nat) :
    LineRule :=
  ⟨signalType.toList, title.toList, patterns.map String.toList, label.toList, count⟩

def LineRule.lines (rule : LineRule) : Except Raised (List ExtractedValue) :=
  linesContaining rt.lower chunks
    (rule.patterns.map fun pattern line => (rt.re.search pattern true line).isSome) rule.label

def LineRule.values (rule : LineRule) : Except Raised (List ExtractedValue) := do
  let lines ← rule.lines rt chunks
  pure (lines.take rule.count)

def LineRule.signals (rule : LineRule) (values : List ExtractedValue) :
    List (Draft ContextSignal) := signalsFromValues rule.signalType rule.title values

/-- The signals of a run of rules. -/
def ruleSignals (rules : List LineRule) : Except Raised (List (Draft ContextSignal)) := do
  let signals ← mapAll (fun rule => do
    let values ← rule.values rt chunks
    pure (rule.signals values)) rules
  pure signals.flatten

def seniorityMarkers : List (Text × Text) :=
  [("\\b(staff|principal|architect)\\b", "staff_or_principal"),
    ("\\b(senior|lead)\\b", "senior_or_lead"),
    ("\\b(manager|director|head of)\\b", "management"),
    ("\\b(junior|associate|entry)\\b", "early_career")].map fun marker =>
      (marker.1.toList, marker.2.toList)

def inferSeniority (text : Text) : Option Text :=
  (seniorityMarkers.find? fun marker =>
    (rt.re.search marker.1 false (rt.lower text)).isSome).map Prod.snd

end Values

def noExtraction : ExtractionResult := ⟨[], [], [], [], []⟩

def typeMetadata (artifact : Artifact) : Metadata :=
  [("artifact_type_id".toList, .text artifact.artifactTypeId)]

/-- An extractor returns nothing for artifacts of other types. -/
def forTypes (artifactTypeIds : List Text)
    (extract : Artifact → List ArtifactChunk → Except Raised ExtractionResult)
    (artifact : Artifact) (chunks : List ArtifactChunk) : Except Raised ExtractionResult :=
  if artifact.artifactTypeId ∈ artifactTypeIds then extract artifact chunks else .ok noExtraction

section Resume

def resumeRole : LineRule := lineRule "role_experience" "Role experience"
  ["\\b(engineer|developer|architect|manager|director|lead|founder)\\b"] "resume role" 10

def resumePlatform : LineRule :=
  lineRule "platform_experience" "Infrastructure/platform experience"
    ["\\b(platform|infrastructure|kubernetes|terraform|cloud|oracle|postgres)\\b"]
    "platform experience" 8

def resumeAiAgent : LineRule := lineRule "ai_agent_experience" "AI/agent experience"
  ["\\b(ai|agent|rag|llm|embedding|openai|anthropic|prompt)\\b"] "ai experience" 8

def resumeOutcome : LineRule := lineRule "measurable_outcome" "Measurable outcome"
  ["\\b[0-9]+%|\\$[0-9]|\\b(increased|reduced|saved|grew|launched|improved)\\b"]
  "measurable outcome" 10

def resumeLeadership : LineRule := lineRule "leadership_signal" "Leadership signal"
  ["\\b(led|mentored|managed|hired|strategy|stakeholder|cross-functional)\\b"]
  "leadership signal" 10

def companyFromRoleLine (line : Text) : Option Text :=
  match find " at ".toList line with
  | some offset => some ((normalizeSpace (line.drop (offset + 4))).take 120)
  | none =>
    (find " - ".toList line).map fun offset => (normalizeSpace (line.take offset)).take 120

/-- The loop of `_companies_from_text` over the first groups of the matches. -/
def distinctCompanies (lower : Text → Text) : List Text → List Text → List Text
  | [], _ => []
  | group :: groups, seen =>
    let company := normalizeSpace group
    if lower company ∈ seen then distinctCompanies lower groups seen
    else company :: distinctCompanies lower groups (lower company :: seen)

def companiesFromText (rt : ExtractionRuntime) (text : Text) : List Text :=
  distinctCompanies rt.lower ((rt.re.finditer
    "(?m)^([A-Z][A-Za-z0-9&., ]\x7b2,60\x7d)\\s+[|—-]".toList text).map PatternMatch.group) []

def companyLink (rt : ExtractionRuntime) (chunks : List ArtifactChunk) (company : Text) :
    Except Raised ExtractedValue := do
  let link ← sourceForMatch rt.lower chunks company (some "company".toList)
  pure ⟨company, link⟩

def organization (found : ExtractedValue) : Draft ContextEntity :=
  entity "organization".toList found.value found.sourceLink

def extractResume (rt : ExtractionRuntime) (artifact : Artifact) (chunks : List ArtifactChunk) :
    Except Raised ExtractionResult := do
  let roleLines ← resumeRole.values rt chunks
  let technologies := keywordValues rt chunks techKeywords "technical skill".toList
  let platform ← resumePlatform.values rt chunks
  let aiAgent ← resumeAiAgent.values rt chunks
  let outcomes ← resumeOutcome.values rt chunks
  let leadership ← resumeLeadership.values rt chunks
  let companies ← mapAll (companyLink rt chunks) ((companiesFromText rt artifact.text).take 8)
  let roleCompanies := roleLines.filterMap fun item =>
    (companyFromRoleLine item.value).map fun company => ⟨company, item.sourceLink⟩
  pure {
    entities := stampAll (rt.newContextId artifact "entity".toList)
      (roleCompanies.map organization ++ technologies.map technologyEntity ++
        companies.map organization)
    relationships := []
    signals := stampAll (rt.newContextId artifact "signal".toList)
      (resumeRole.signals roleLines ++
        signalsFromValues "technical_skill".toList "Technical skill".toList technologies ++
        resumePlatform.signals platform ++ resumeAiAgent.signals aiAgent ++
        resumeOutcome.signals outcomes ++ resumeLeadership.signals leadership ++
        signalsFromValues "company_experience".toList "Company".toList companies)
    actionableItems := []
    metadata := typeMetadata artifact }

def resumeExtractor (rt : ExtractionRuntime) : BaseExtractor where
  id := "resume-extractor".toList
  artifactTypeIds := some ["resume".toList]
  extract := forTypes ["resume".toList] (extractResume rt)

end Resume

section JobDescription

def labelPattern (label : Text) : Text :=
  "(?im)^\\s*".toList ++ escape label ++ "\\s*:\\s*(.+)$".toList

def extractLabeledValue (rt : ExtractionRuntime) (text : Text) (labels : List Text) : Option Text :=
  labels.findSome? fun label =>
    (rt.re.search (labelPattern label) false text).map fun found =>
      (normalizeSpace found.group).take 160

def linkStarts : List Text := ["http://".toList, "https://".toList, "www.".toList]

def rolePattern : Text :=
  "\\b(engineer|developer|architect|manager|director|designer|analyst|lead)\\b".toList

def roleLikeHeading (rt : ExtractionRuntime) (text : Text) : Option Text :=
  (splitlines text).findSome? fun line =>
    let cleaned := normalizeSpace line
    if cleaned ≠ [] ∧ cleaned.length ≤ 120 ∧ (∀ start ∈ linkStarts, ¬ start <+: rt.lower cleaned) ∧
        (rt.re.search rolePattern true cleaned).isSome then some cleaned
    else none

def postingResponsibility : LineRule := lineRule "responsibility" "Responsibility"
  ["\\b(responsib|own|build|lead|design|deliver|operate|manage)\\b", "^- "] "responsibility" 8

def postingLeadership : LineRule := lineRule "leadership_expectation" "Leadership expectation"
  ["\\b(mentor|leadership|cross-functional|stakeholder|influence|strategy)\\b"]
  "leadership expectation" 5

def postingCompensation : LineRule := lineRule "compensation" "Compensation signal"
  ["\\$[0-9]", "\\b(compensation|salary|equity|bonus|OTE|range)\\b"] "compensation" 5

def postingLocation : LineRule := lineRule "location_constraint" "Location constraint"
  ["\\b(remote|hybrid|onsite|on-site|relocation|timezone|location)\\b"] "location constraint" 5

def postingScope : LineRule := lineRule "unusual_scope_indicator" "Unusual scope indicator"
  ["\\b(0 to 1|zero to one|wear many hats|ambiguous|founding|greenfield)\\b",
    "\\b(on-call|24/7|global|multiple teams|turnaround)\\b"] "scope indicator" 5

/-- `source_for_match` for a value that may be missing; the text matched may be another one. -/
def linkFor (rt : ExtractionRuntime) (chunks : List ArtifactChunk) (label : String)
    (matchText : Text → Text) : Option Text → Except Raised (List ExtractedValue)
  | none => pure []
  | some value => do
    let link ← sourceForMatch rt.lower chunks (matchText value) (some label.toList)
    pure [⟨value, link⟩]

def riskText : Text := "Role may have broad or ambiguous scope.".toList

def scopeRisk (source : ExtractedValue) : Draft ContextSignal :=
  signal "inferred_risk".toList "Inferred risk".toList riskText source.sourceLink
    [("reason".toList, .text "scope_language".toList)]

def clarifyScope (source : ExtractedValue) : Draft ActionableItem :=
  action "clarify_scope".toList "Clarify scope and success expectations".toList source.sourceLink
    ("Ask what outcomes matter in the first 90 days and which " ++
      "responsibilities are highest priority.").toList

/-- `(unusual_scope or leadership or responsibility_lines)[0]` where there is a risk. -/
def riskSource (unusualScope leadership responsibilityLines : List ExtractedValue) :
    Except Raised (List ExtractedValue) :=
  if unusualScope ≠ [] ∨ responsibilityLines.length ≥ 6 then
    match if unusualScope ≠ [] then unusualScope else
        if leadership ≠ [] then leadership else responsibilityLines with
    | [] => .error ⟨.other, "list index out of range".toList⟩
    | source :: _ => pure [source]
  else pure []

def extractJobDescription (rt : ExtractionRuntime) (artifact : Artifact)
    (chunks : List ArtifactChunk) : Except Raised ExtractionResult := do
  let text := artifact.text
  let title ← linkFor rt chunks "role title" id
    ((extractLabeledValue rt text ["title".toList, "role".toList]).or (roleLikeHeading rt text))
  let company ← linkFor rt chunks "company" id
    (extractLabeledValue rt text ["company".toList, "organization".toList])
  let seniority ← linkFor rt chunks "seniority" (List.takeWhile (· ≠ '_')) (inferSeniority rt text)
  let responsibilityLines ← postingResponsibility.values rt chunks
  let technologies := keywordValues rt chunks techKeywords "technology".toList
  let leadership ← postingLeadership.lines rt chunks
  let compensation ← postingCompensation.lines rt chunks
  let location ← postingLocation.lines rt chunks
  let unusualScope ← postingScope.lines rt chunks
  let risk ← riskSource unusualScope leadership responsibilityLines
  pure {
    entities := stampAll (rt.newContextId artifact "entity".toList)
      ((title.map fun found => entity "role".toList found.value found.sourceLink) ++
        company.map organization ++ technologies.map technologyEntity)
    relationships := []
    signals := stampAll (rt.newContextId artifact "signal".toList)
      (signalsFromValues "role_title".toList "Role title".toList title ++
        signalsFromValues "company".toList "Company".toList company ++
        signalsFromValues "seniority".toList "Seniority".toList seniority ++
        postingResponsibility.signals responsibilityLines ++
        signalsFromValues "technology".toList "Technology".toList technologies ++
        postingLeadership.signals (leadership.take postingLeadership.count) ++
        postingCompensation.signals (compensation.take postingCompensation.count) ++
        postingLocation.signals (location.take postingLocation.count) ++
        postingScope.signals (unusualScope.take postingScope.count) ++ risk.map scopeRisk)
    actionableItems := stampAll (rt.newContextId artifact "item".toList) (risk.map clarifyScope)
    metadata := typeMetadata artifact }

def jobDescriptionExtractor (rt : ExtractionRuntime) : BaseExtractor where
  id := "job-description-extractor".toList
  artifactTypeIds := some ["job_description".toList]
  extract := forTypes ["job_description".toList] (extractJobDescription rt)

end JobDescription

section Notes

def interviewConcern : LineRule := lineRule "interviewer_concern" "Interviewer concern"
  ["\\b(concern|worried|gap|unclear|hesitat|pushback)\\b"] "interviewer concern" 8

def interviewQuestion : LineRule := lineRule "open_question" "Open question"
  ["\\?|open question|need to know|clarify"] "open question" 8

def interviewTheme : LineRule := lineRule "technical_theme" "Technical theme"
  ["\\b(system design|architecture|scale|data|api|frontend|backend|cloud)\\b"] "technical theme" 8

def interviewRisk : LineRule := lineRule "interview_risk" "Interview risk"
  ["\\b(risk|blocker|weak|missing|not enough|scope|title)\\b"] "interview risk" 8

def interviewNextAction : LineRule := lineRule "next_action_signal" "Next action"
  ["\\b(next|follow up|send|prepare|study|draft|schedule)\\b"] "next action" 8

def actionsFor (itemType title : String) (values : List ExtractedValue) :
    List (Draft ActionableItem) :=
  values.map fun found => action itemType.toList title.toList found.sourceLink found.value

def extractInterviewNotes (rt : ExtractionRuntime) (artifact : Artifact)
    (chunks : List ArtifactChunk) : Except Raised ExtractionResult := do
  let concerns ← interviewConcern.values rt chunks
  let questions ← interviewQuestion.values rt chunks
  let themes ← interviewTheme.values rt chunks
  let risks ← interviewRisk.values rt chunks
  let nextActions ← interviewNextAction.values rt chunks
  pure {
    entities := []
    relationships := []
    signals := stampAll (rt.newContextId artifact "signal".toList)
      (interviewConcern.signals concerns ++ interviewQuestion.signals questions ++
        interviewTheme.signals themes ++ interviewRisk.signals risks ++
        interviewNextAction.signals nextActions)
    actionableItems := stampAll (rt.newContextId artifact "item".toList)
      (actionsFor "clarify_interviewer_concern" "Clarify interviewer concern" (concerns.take 3) ++
        actionsFor "prepare_technical_study_plan" "Prepare technical study plan" (themes.take 3))
    metadata := typeMetadata artifact }

def interviewNotesExtractor (rt : ExtractionRuntime) : BaseExtractor where
  id := "interview-notes-extractor".toList
  artifactTypeIds := some ["interview_notes".toList]
  extract := forTypes ["interview_notes".toList] (extractInterviewNotes rt)

def storyRules : List LineRule :=
  [lineRule "story_situation" "Situation"
      ["\\b(situation|context|challenge|problem|when|at the time)\\b"] "story situation" 5,
    lineRule "story_action" "Action"
      ["\\b(i led|i built|i designed|i created|action|approach|we built)\\b"] "story action" 5,
    lineRule "story_result" "Result"
      ["\\b(result|outcome|impact|improved|reduced|increased|launched|saved)\\b"] "story result" 5,
    lineRule "relevant_competency" "Relevant competency"
      ["\\b(ownership|collaboration|communication|judgment|execution)\\b"] "competency" 5,
    lineRule "leadership_theme" "Leadership theme"
      ["\\b(led|mentored|aligned|stakeholder|strategy|influence)\\b"] "leadership theme" 5,
    lineRule "technical_theme" "Technical theme"
      ["\\b(api|system|platform|data|cloud|kubernetes|python|typescript|ai)\\b"]
      "technical theme" 5]

def extractPersonalStory (rt : ExtractionRuntime) (artifact : Artifact)
    (chunks : List ArtifactChunk) : Except Raised ExtractionResult := do
  let signals ← ruleSignals rt chunks storyRules
  pure { noExtraction with
    signals := stampAll (rt.newContextId artifact "signal".toList) signals
    metadata := typeMetadata artifact }

def personalStoryExtractor (rt : ExtractionRuntime) : BaseExtractor where
  id := "personal-story-extractor".toList
  artifactTypeIds := some ["personal_story".toList]
  extract := forTypes ["personal_story".toList] (extractPersonalStory rt)

def recruiterRules : List LineRule :=
  [lineRule "open_question" "Recruiter question"
      ["\\?", "\\b(available|interest|timeline|process)\\b"] "recruiter question" 6,
    lineRule "compensation" "Compensation mention"
      ["\\$[0-9]", "\\b(comp|salary|range|equity|bonus|ote)\\b"] "compensation" 6,
    lineRule "location_constraint" "Location/process constraint"
      ["\\b(remote|hybrid|onsite|relocat|timezone|process|round)\\b"] "location/process" 6]

def companyRules : List LineRule :=
  [lineRule "company_signal" "Company signal"
      ["\\b(market|customer|product|funding|revenue|team|strategy)\\b"] "company signal" 8,
    lineRule "inferred_risk" "Company concern"
      ["\\b(risk|concern|layoff|runway|competition|unclear|weak)\\b"] "company concern" 6]

def compensationRules : List LineRule :=
  [lineRule "compensation" "Compensation signal"
      ["\\$[0-9]", "\\b(base|bonus|equity|salary|range|ote)\\b"] "compensation" 8,
    lineRule "open_question" "Compensation question"
      ["\\?", "\\b(clarify|decide|minimum|target|tradeoff)\\b"] "compensation question" 6]

def followUpRules : List LineRule :=
  [lineRule "next_action_signal" "Follow-up signal"
      ["\\b(send|follow up|reply|thank|schedule|prepare|next)\\b"] "follow-up" 8,
    lineRule "open_question" "Follow-up question" ["\\?", "\\b(ask|clarify)\\b"] "question" 6]

/-- The rules of `CareerContextNotesExtractor` for each of its artifact types. -/
def notesRules : Dict Text (List LineRule) :=
  [("recruiter_message".toList, recruiterRules), ("company_research".toList, companyRules),
    ("compensation_notes".toList, compensationRules), ("follow_up_notes".toList, followUpRules)]

/-- The summary that stands in where no rule found a line. -/
def sourceSummary (rt : ExtractionRuntime) (artifact : Artifact) (chunks : List ArtifactChunk) :
    Except Raised (List (Draft ContextSignal)) :=
  match chunks with
  | [] => pure []
  | chunk :: _ => do
    let first := chunk.text.take 160
    let link ← sourceForMatch rt.lower chunks (first.take 40) (some artifact.artifactTypeId)
    pure [signal "source_summary".toList "Source summary".toList first link []]

def extractCareerContextNotes (rt : ExtractionRuntime) (artifact : Artifact)
    (chunks : List ArtifactChunk) : Except Raised ExtractionResult := do
  let found ← ruleSignals rt chunks ((notesRules.get? artifact.artifactTypeId).getD [])
  let signals ← (if found = [] then sourceSummary rt artifact chunks else pure found)
  pure { noExtraction with
    signals := stampAll (rt.newContextId artifact "signal".toList) signals
    metadata := typeMetadata artifact }

def careerContextNotesExtractor (rt : ExtractionRuntime) : BaseExtractor where
  id := "career-context-notes-extractor".toList
  artifactTypeIds := some (notesRules.map Prod.fst)
  extract := forTypes (notesRules.map Prod.fst) (extractCareerContextNotes rt)

end Notes

section Tasks

def sourceOf (artifact : Artifact) : SourceLink :=
  ⟨artifact.id, none, none, none, some artifact.artifactTypeId, some (artifact.text.take 500)⟩

def taskItem (source : SourceLink) (itemType title : String) (description : Option String)
    (readinessStatus : ReadinessStatus) : Draft ActionableItem := fun id => {
  id := id
  itemType := itemType.toList
  title := title.toList
  description := description.map String.toList
  readinessStatus := readinessStatus
  sourceLinks := [source]
  metadata := [] }

/-- The items of `generate` for the artifact's type, in the order of its conditions. -/
def typeItems (artifactTypeId : Text) (source : SourceLink) : List (Draft ActionableItem) :=
  (if artifactTypeId = "job_description".toList then
    [taskItem source "prepare_interview_brief" "Prepare interview brief"
        (some ("Summarize role requirements, likely themes, risks, and " ++
          "source-grounded questions before the next conversation.")) .needsReview,
      taskItem source "research_company_concerns" "Research company concerns"
        (some ("Add company research notes if the current source does not " ++
          "explain the business, market, or team context.")) .needsSourceMaterial]
    else []) ++
  (if artifactTypeId = "resume".toList then
    [taskItem source "rewrite_resume_section" "Rewrite resume section"
      (some ("Tune resume bullets toward the role using only existing " ++
        "source-grounded skills, outcomes, and leadership evidence.")) .needsReview]
    else []) ++
  (if artifactTypeId = "recruiter_message".toList then
    [taskItem source "draft_recruiter_follow_up" "Draft recruiter follow-up"
      (some ("Prepare a concise response that clarifies process, scope, " ++
        "location, and compensation boundaries.")) .readyForAgent]
    else []) ++
  (if artifactTypeId ∈ ["compensation_notes".toList, "job_description".toList] then
    [taskItem source "clarify_compensation_expectations" "Clarify compensation expectations"
      (some ("Decide the minimum, target, and tradeoff boundaries before " ++
        "delegating any outreach.")) .needsDecision]
    else []) ++
  (if artifactTypeId = "interview_notes".toList then
    [taskItem source "prepare_architecture_story" "Prepare architecture story"
      (some ("Select a source-grounded story that answers the strongest " ++
        "technical or leadership concern in the notes.")) .needsHumanClarification]
    else []) ++
  (if artifactTypeId = "company_research".toList then
    [taskItem source "research_company_concerns" "Research company concerns"
      (some ("Turn the captured company notes into grounded questions for " ++
        "the next conversation.")) .readyForAgent]
    else []) ++
  (if artifactTypeId = "follow_up_notes".toList then
    [taskItem source "draft_recruiter_follow_up" "Draft follow-up from notes" none .readyForAgent]
    else [])

def reviewItem (source : SourceLink) : Draft ActionableItem :=
  taskItem source "prepare_interview_brief" "Review source artifact" none .blocked

def generateTasks (newContextId : Artifact → Text → Nat → Text) (artifact : Artifact) :
    Except Raised (List ActionableItem) :=
  let items := typeItems artifact.artifactTypeId (sourceOf artifact)
  pure (stampAll (newContextId artifact "item".toList)
    (if items = [] then [reviewItem (sourceOf artifact)] else items))

def jobSearchTaskGenerator (newContextId : Artifact → Text → Nat → Text) : BaseTaskGenerator where
  id := "job-search-task-generator".toList
  generate := generateTasks newContextId

end Tasks

end DemoService.JobSearch
