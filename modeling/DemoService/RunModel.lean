import DemoService.RunIngestion
import DemoService.SampleChaos

/-! A persisted run, the operations that edit and submit it, and its execution up to the
point where the workflow reads its source text. A request that is refused or raises before
its commit leaves the row as it was. -/

namespace DemoService.Runs

open PyText TextTools

inductive RunStatus
  | draft
  | submitted
  | processing
  | completed
  | failed
  deriving DecidableEq, Repr

structure Run where
  invitationCodeId : Option Nat
  status : RunStatus
  workflowKey : Text
  title : Option Text
  submittedAt : Option Nat
  completedAt : Option Nat
  failedAt : Option Nat
  failureMessage : Option String
  failureInternalReason : Option Text
  inputText : Option Text
  normalizedInputText : Option Text
  inputMetadata : Option RunInputMetadata
  uploadedFiles : Option (List UploadedRunFile)
  ingestionSummary : Option RunIngestionSummary
  outputBrief : Option Text
  postProcessorResults : Option Text
  deriving DecidableEq, Repr

structure RunCreateRequest where
  title : Option Text
  inputText : Option Text
  deriving DecidableEq, Repr

structure RunUpdateRequest where
  title : Option Text
  inputText : Option Text
  inputMetadata : Option RunInputMetadata
  deriving DecidableEq, Repr

structure RunSubmitRequest where
  title : Option Text
  inputText : Option Text
  inputMetadata : Option RunInputMetadata
  deriving DecidableEq, Repr

inductive RequestError
  | http (status : Nat) (detail : String)
  | ingestion (cause : IngestError)
  deriving DecidableEq, Repr

/-- What one execution does after it has read its source text: the brief and the results it
commits on the way, and the exception that ends it, if any. -/
structure Steps where
  stored : Option Text
  failure : Option Text
  deriving DecidableEq, Repr

structure Workflow where
  key : Text
  startingAgent : Text
  startAgent : Run → Except Text Unit
  agentExecutable : Bool
  steps : Run → Text → Steps
  postProcessors : Run → Steps

structure Env where
  settings : Settings
  delivers : Transport
  readPdf : PdfReader
  getWorkflow : Text → Except Text Workflow

def normalizeTitle (value : Option Text) : Option Text := normalizeText value

def createRun (env : Env) (payload : RunCreateRequest) (invitationCodeId : Option Nat) : Run where
  invitationCodeId := invitationCodeId
  status := .draft
  workflowKey := env.settings.defaultWorkflowKey
  title := normalizeTitle payload.title
  submittedAt := none
  completedAt := none
  failedAt := none
  failureMessage := none
  failureInternalReason := none
  inputText := normalizeText payload.inputText
  normalizedInputText := none
  inputMetadata := none
  uploadedFiles := none
  ingestionSummary := none
  outputBrief := none
  postProcessorResults := none

def updateRunDraft (run : Run) (payload : RunUpdateRequest) : Run :=
  { run with
    title := normalizeTitle payload.title
    inputText := normalizeText payload.inputText
    inputMetadata := payload.inputMetadata }

def Run.Editable (run : Run) : Prop := run.status = .draft ∨ run.status = .failed

instance (run : Run) : Decidable run.Editable := inferInstanceAs (Decidable (_ ∨ _))

def getSampleChaosSet (sampleKey : String) : Except RequestError SampleChaosSet :=
  match samples.find? (fun sample => sample.key == sampleKey) with
  | some sample => .ok sample
  | none => .error (.http 404 "Sample chaos set not found.")

def sampleNotes (sample : SampleChaosSet) : Text := join ['\n'] (sample.notes.map String.toList)

def applySampleChaosToRun (run : Run) (sampleKey : String) : Except RequestError Run :=
  if run.Editable then do
    let sample ← getSampleChaosSet sampleKey
    pure { run with
      title := some sample.title.toList
      inputText := some (sampleNotes sample)
      normalizedInputText := some (sampleNotes sample)
      inputMetadata := some ⟨("sample:" ++ sample.key).toList, 0, 0, 0⟩
      uploadedFiles := none
      ingestionSummary := none }
  else .error (.http 409 "Samples can only be loaded into draft or failed runs.")

def ingestRunDraft (env : Env) (run : Run) (title pastedText : Option Text)
    (files : List Upload) : Except RequestError Run :=
  if run.Editable then
    match ingestRunInput env.delivers env.readPdf env.settings pastedText files with
    | .error cause => .error (.ingestion cause)
    | .ok ingestion => .ok { run with
        title := normalizeTitle title
        inputText := ingestion.rawPastedText
        normalizedInputText := ingestion.normalizedInputText
        inputMetadata := some ingestion.inputMetadata
        uploadedFiles := some ingestion.uploadedFiles
        ingestionSummary := some ingestion.ingestionSummary }
  else .error (.http 409 "Only draft or failed runs can be updated.")

/-- The fields a submit payload carries, written onto the run before its status is checked. -/
def applySubmitPayload (run : Run) : Option RunSubmitRequest → Run
  | none => run
  | some payload => { run with
      title := if payload.title.isSome then normalizeTitle payload.title else run.title
      inputText :=
        if payload.inputText.isSome then normalizeText payload.inputText else run.inputText
      inputMetadata :=
        if payload.inputMetadata.isSome then payload.inputMetadata else run.inputMetadata }

def submitRun (run : Run) (payload : Option RunSubmitRequest) (now : Nat) :
    Except RequestError Run :=
  if run.Editable then
    .ok { applySubmitPayload run payload with
      status := .submitted
      submittedAt := some now }
  else .error (.http 409 "Only draft or failed runs can be submitted.")

/-- `run.normalized_input_text or run.input_text or ""`. -/
def sourceText (normalizedInputText inputText : Option Text) : Text :=
  orText normalizedInputText (orText inputText [])

def localSlmKey : Text := "messy-notes-local-slm".toList

def messyNotesKey : Text := "messy-notes-v1".toList

/-- The executors up to their reading of the source text. -/
def readSource (workflow : Workflow) (run : Run) : Except Text Text :=
  if workflow.key = localSlmKey then do
    workflow.startAgent run
    if workflow.agentExecutable then
      pure (sourceText run.normalizedInputText run.inputText)
    else .error ("Workflow agent '".toList ++ workflow.startingAgent ++ "' is not executable.".toList)
  else if workflow.key = messyNotesKey then do
    workflow.startAgent run
    pure (sourceText run.normalizedInputText run.inputText)
  else .error ("Unsupported workflow '".toList ++ workflow.key ++ "'.".toList)

def executeMessyNotes (workflow : Workflow) (run : Run) : Steps :=
  match readSource workflow run with
  | .error reason => ⟨none, some reason⟩
  | .ok source =>
    if workflow.key = localSlmKey ∧ strip source = [] then
      ⟨none, some "Cannot execute local SLM workflow without input.".toList⟩
    else workflow.steps run source

def Run.Executable (run : Run) : Prop :=
  run.status = .submitted ∨ run.status = .failed ∨ run.status = .draft

instance (run : Run) : Decidable run.Executable := inferInstanceAs (Decidable (_ ∨ _))

def startProcessing (run : Run) : Run :=
  { run with
    status := .processing
    failedAt := none
    failureMessage := none
    failureInternalReason := none }

def failRun (run : Run) (now : Nat) (reason : Text) : Run :=
  { run with
    status := .failed
    failedAt := some now
    failureMessage := some "The run failed during bounded workflow execution."
    failureInternalReason := some reason }

def finishRun (workflow : Workflow) (run : Run) (now : Nat) : Run :=
  let completed := { run with status := .completed, completedAt := some now }
  let results := workflow.postProcessors completed
  let processed :=
    { completed with postProcessorResults := results.stored.or completed.postProcessorResults }
  match results.failure with
  | some reason => failRun processed now reason
  | none => processed

def executeRunWorkflow (env : Env) (run : Run) (now : Nat) : Except RequestError Run :=
  if run.Executable then
    match env.getWorkflow run.workflowKey with
    | .error reason => .ok (failRun run now reason)
    | .ok workflow =>
      let processing := startProcessing run
      let steps := executeMessyNotes workflow processing
      let briefed := { processing with outputBrief := steps.stored.or processing.outputBrief }
      match steps.failure with
      | some reason => .ok (failRun briefed now reason)
      | none => .ok (finishRun workflow briefed now)
  else .error (.http 409 "Only draft, submitted, or failed runs can be executed.")

/-- The text an execution of the run starts from, when it gets that far. -/
def executionSource (env : Env) (run : Run) : Option Text :=
  if run.Executable then
    match env.getWorkflow run.workflowKey with
    | .error _ => none
    | .ok workflow => (readSource workflow (startProcessing run)).toOption
  else none

inductive Op
  | update (payload : RunUpdateRequest)
  | sample (sampleKey : String)
  | ingest (title pastedText : Option Text) (files : List Upload)
  | submit (payload : Option RunSubmitRequest) (now : Nat)
  | execute (now : Nat)
  deriving DecidableEq, Repr

def perform (env : Env) (run : Run) : Op → Except RequestError Run
  | .update payload => .ok (updateRunDraft run payload)
  | .sample sampleKey => applySampleChaosToRun run sampleKey
  | .ingest title pastedText files => ingestRunDraft env run title pastedText files
  | .submit payload now => submitRun run payload now
  | .execute now => executeRunWorkflow env run now

/-- The stored run after a request. -/
def after (env : Env) (run : Run) (op : Op) : Run :=
  match perform env run op with
  | .ok changed => changed
  | .error _ => run

def afterAll (env : Env) (run : Run) (ops : List Op) : Run := ops.foldl (after env) run

end DemoService.Runs
