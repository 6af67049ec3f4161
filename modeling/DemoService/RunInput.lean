import DemoService.RunModel

/-! Which input an execution starts from. Each accepted operation that sets the input leaves
the two input fields in a state of its own, and the executor's preference for the normalized
field picks the latest input exactly when that field does not hold an older text. -/

namespace DemoService.Runs

open PyText TextTools TextLayout

/-- How the input of a run was last set: as raw text over the normalized text of `before`, as a
sample, or as an ingestion. -/
inductive InputSetter
  | raw (before input : Option Text)
  | sample (sample : SampleChaosSet)
  | ingestion (pastedText : Option Text) (result : IngestionResult)

/-- The input that the operation sets. -/
def InputSetter.latest : InputSetter → Text
  | .raw _ input => input.getD []
  | .sample chosen => sampleNotes chosen
  | .ingestion _ result => result.normalizedInputText.getD []

/-- The normalized text the run had is no other text, and an ingestion of stored pasted text
has a budget for the workflow text. -/
def InputSetter.Kept (settings : Settings) : InputSetter → Prop
  | .raw before input => before.getD [] = [] ∨ before.getD [] = input.getD []
  | .sample _ => True
  | .ingestion pastedText _ => settings.textToolsEnabled = true ∨
      0 < settings.maxTotalWorkflowTextBytes ∨ (storePastedText settings pastedText).1 = none

/-- How an accepted operation sets the input of the run, if it does. -/
def setterOf (env : Env) (run : Run) : Op → Option InputSetter
  | .update payload => some (.raw run.normalizedInputText (normalizeText payload.inputText))
  | .sample sampleKey =>
    if run.Editable then (getSampleChaosSet sampleKey).toOption.map .sample else none
  | .ingest _ pastedText files =>
    if run.Editable then
      (ingestRunInput env.delivers env.readPdf env.settings pastedText files).toOption.map
        (.ingestion pastedText)
    else none
  | .submit payload _ =>
    if run.Editable then
      (payload.bind RunSubmitRequest.inputText).map
        (fun text => .raw run.normalizedInputText (normalizeText (some text)))
    else none
  | .execute _ => none

def lastSetter (env : Env) : Run → InputSetter → List Op → InputSetter
  | _, setter, [] => setter
  | run, setter, op :: ops =>
    lastSetter env (after env run op) ((setterOf env run op).getD setter) ops

/-- The setter of a run that was just created. -/
def created (payload : RunCreateRequest) : InputSetter :=
  .raw none (normalizeText payload.inputText)

/-- The input fields are as the setter left them. -/
def InputSetter.Left (env : Env) (run : Run) : InputSetter → Prop
  | .raw before input => run.normalizedInputText = before ∧ run.inputText = input
  | .sample chosen => run.normalizedInputText = some (sampleNotes chosen) ∧
      run.inputText = some (sampleNotes chosen)
  | .ingestion pastedText result => run.normalizedInputText = result.normalizedInputText ∧
      run.inputText = result.rawPastedText ∧
      ∃ files, ingestRunInput env.delivers env.readPdf env.settings pastedText files = .ok result

theorem left_congr {env : Env} {run run' : Run} {setter : InputSetter}
    (hnormalized : run'.normalizedInputText = run.normalizedInputText)
    (hinput : run'.inputText = run.inputText) (h : setter.Left env run) :
    setter.Left env run' := by
  cases setter <;> simpa only [InputSetter.Left, hnormalized, hinput] using h

/-- An execution does not touch the input. -/
theorem executeRunWorkflow_input {env : Env} {run run' : Run} {now : Nat}
    (h : executeRunWorkflow env run now = .ok run') :
    run'.normalizedInputText = run.normalizedInputText ∧ run'.inputText = run.inputText := by
  simp only [executeRunWorkflow] at h
  split at h
  · split at h
    · obtain rfl := Except.ok.inj h
      exact ⟨rfl, rfl⟩
    · split at h
      · obtain rfl := Except.ok.inj h
        exact ⟨rfl, rfl⟩
      · obtain rfl := Except.ok.inj h
        simp only [finishRun]
        split <;> exact ⟨rfl, rfl⟩
  · cases h

/-- One request leaves the input fields as its own setter does, or as they were. -/
theorem left_after {env : Env} {run : Run} {setter : InputSetter} (h : setter.Left env run)
    (op : Op) : ((setterOf env run op).getD setter).Left env (after env run op) := by
  cases op with
  | update payload => exact ⟨rfl, rfl⟩
  | sample sampleKey =>
    by_cases hedit : run.Editable
    · cases hsample : getSampleChaosSet sampleKey with
      | error e =>
        simp only [setterOf, after, perform, applySampleChaosToRun, if_pos hedit, hsample]
        exact h
      | ok sample =>
        simp only [setterOf, after, perform, applySampleChaosToRun, if_pos hedit, hsample]
        exact ⟨rfl, rfl⟩
    · simp only [setterOf, after, perform, applySampleChaosToRun, if_neg hedit]
      exact h
  | ingest title pastedText files =>
    by_cases hedit : run.Editable
    · cases hingest : ingestRunInput env.delivers env.readPdf env.settings pastedText files with
      | error e =>
        simp only [setterOf, after, perform, ingestRunDraft, if_pos hedit, hingest]
        exact h
      | ok result =>
        simp only [setterOf, after, perform, ingestRunDraft, if_pos hedit, hingest]
        exact ⟨rfl, rfl, files, hingest⟩
    · simp only [setterOf, after, perform, ingestRunDraft, if_neg hedit]
      exact h
  | submit payload now =>
    by_cases hedit : run.Editable
    · simp only [setterOf, after, perform, submitRun, if_pos hedit]
      cases payload with
      | none => exact left_congr rfl rfl h
      | some payload =>
        obtain ⟨title, input, metadata⟩ := payload
        cases input with
        | none => exact left_congr rfl rfl h
        | some text => exact ⟨rfl, rfl⟩
    · simp only [setterOf, after, perform, submitRun, if_neg hedit]
      exact h
  | execute now =>
    simp only [setterOf, after, perform, Option.getD_none]
    cases hexec : executeRunWorkflow env run now with
    | error e => exact h
    | ok run' =>
      obtain ⟨hnormalized, hinput⟩ := executeRunWorkflow_input hexec
      exact left_congr hnormalized hinput h

theorem left_afterAll {env : Env} {run : Run} {setter : InputSetter} (h : setter.Left env run)
    (ops : List Op) : (lastSetter env run setter ops).Left env (afterAll env run ops) := by
  induction ops generalizing run setter with
  | nil => exact h
  | cons op ops ih => exact ih (left_after h op)

theorem orNone_ne_some_nil (text : Text) : orNone text ≠ some [] := by
  by_cases h : text = []
  · simp [orNone, h]
  · simp [orNone, h]

theorem orText_nil_eq (value : Option Text) : orText value [] = value.getD [] := by
  rcases value with _ | _ | ⟨c, cs⟩ <;> rfl

theorem storePastedText_ne_nil (settings : Settings) (pastedText : Option Text) :
    (storePastedText settings pastedText).1 ≠ some [] := by
  rw [storePastedText]
  cases hnorm : normalizeText pastedText with
  | none => simp
  | some text =>
    have htext : text ≠ [] := by
      rintro rfl
      obtain ⟨value, -, hvalue⟩ := Option.bind_eq_some_iff.mp hnorm
      exact orNone_ne_some_nil _ hvalue
    by_cases hlong : settings.maxPastedTextBytes < utf8Length text
    · simp only [if_pos hlong, trimTextToBytes]
      by_cases hzero : settings.maxPastedTextBytes ≤ 0
      · simp [hzero]
      · rw [if_neg hzero, if_neg (by omega)]
        exact orNone_ne_some_nil _
    · simpa only [if_neg hlong, ne_eq, Option.some.injEq] using htext

theorem combinedText_head {pastedText : Option Text} {files : List UploadedRunFile}
    (h : inputSections pastedText files ≠ []) : ∃ c cs, combinedText pastedText files = c :: cs ∧
      isSpace c = false ∧ RustText.isWhitespace c = false ∧ c.utf8Size = 1 := by
  have hjoin : ∀ (c : Char) (cs : Text) (rest : List Text), ∃ tail,
      join ['\n', '\n'] ((c :: cs) :: rest) = c :: tail := by
    intro c cs rest
    cases rest with
    | nil => exact ⟨cs, by simp [join]⟩
    | cons s rest => exact ⟨_, by rw [join, List.intercalate_cons_cons_left]⟩
  rw [combinedText]
  cases hpasted : pastedText.bind orNone with
  | some text =>
    obtain ⟨tail, htail⟩ := hjoin 'P' ("asted notes:\n".toList ++ text) (files.map fileSection)
    refine ⟨'P', tail, ?_, by decide, by decide, by decide⟩
    rw [inputSections, hpasted]
    exact htail
  | none =>
    cases files with
    | nil => simp [inputSections, hpasted] at h
    | cons file files =>
      obtain ⟨tail, htail⟩ := hjoin 'F' ("ile: ".toList ++ file.fileName ++ '\n' :: file.extractedText)
        (files.map fileSection)
      refine ⟨'F', tail, ?_, by decide, by decide, by decide⟩
      rw [inputSections, hpasted]
      exact htail

theorem trimTextToBytes_pos {c : Char} {cs : Text} {maxBytes : Int} (hpos : 0 < maxBytes)
    (hspace : isSpace c = false) (hsize : c.utf8Size = 1) :
    ∃ d ds, (trimTextToBytes (c :: cs) maxBytes).1 = some (d :: ds) := by
  rw [trimTextToBytes, if_neg (by omega)]
  by_cases hfits : (utf8Length (c :: cs) : Int) ≤ maxBytes
  · exact ⟨c, cs, by rw [if_pos hfits]⟩
  · have hkept : decodePrefix maxBytes.toNat (c :: cs) =
        c :: decodePrefix (maxBytes.toNat - 1) cs := by
      rw [decodePrefix, if_pos (by omega), hsize]
    refine ⟨c, rstrip (decodePrefix (maxBytes.toNat - 1) cs), ?_⟩
    rw [if_neg hfits, hkept, rstrip, rdropWhile_cons_neg (by simp [hspace])]
    rfl

/-- With a workflow budget, every ingestion of some input has a normalized text. -/
theorem buildWorkflowInputText_some {delivers : Transport} {settings : Settings}
    {pastedText : Option Text} {files : List UploadedRunFile} {result : Option Text × Bool}
    (hbudget : settings.textToolsEnabled = true ∨ 0 < settings.maxTotalWorkflowTextBytes)
    (hsections : inputSections pastedText files ≠ [])
    (h : buildWorkflowInputText delivers settings pastedText files = .ok result) :
    ∃ c cs, result.1 = some (c :: cs) := by
  obtain ⟨c, cs, hcombined, hspace, hwhite, hsize⟩ := combinedText_head hsections
  rw [buildWorkflowInputText, if_neg hsections, hcombined] at h
  by_cases henabled : settings.textToolsEnabled = true
  · simp only [if_pos henabled] at h
    obtain ⟨analysis, hanalysis, hresult⟩ := Fallible.bind_eq_ok.mp h
    have hne := clientAnalyzeText_ne_nil hanalysis (by simp [hwhite]) hsize
    obtain ⟨d, ds, htext⟩ := List.exists_cons_of_ne_nil hne
    refine ⟨d, ds, ?_⟩
    rw [← Fallible.pure_eq_ok.mp hresult, htext]
    rfl
  · simp only [if_neg henabled] at h
    obtain rfl := Except.ok.inj h
    exact trimTextToBytes_pos (hbudget.resolve_left henabled) hspace hsize

theorem buildWorkflowInputText_none {delivers : Transport} {settings : Settings}
    {pastedText : Option Text} {files : List UploadedRunFile} {result : Option Text × Bool}
    (hdisabled : ¬ settings.textToolsEnabled = true)
    (hzero : ¬ 0 < settings.maxTotalWorkflowTextBytes)
    (h : buildWorkflowInputText delivers settings pastedText files = .ok result) :
    result.1 = none := by
  rw [buildWorkflowInputText] at h
  by_cases hsections : inputSections pastedText files = []
  · rw [if_pos hsections] at h
    obtain rfl := Except.ok.inj h
    rfl
  · simp only [if_neg hsections, if_neg hdisabled, trimTextToBytes] at h
    rw [if_pos (by omega)] at h
    obtain rfl := Except.ok.inj h
    rfl

theorem ingestRunInput_eq_ok {delivers : Transport} {readPdf : PdfReader} {settings : Settings}
    {pastedText : Option Text} {files : List Upload} {result : IngestionResult}
    (h : ingestRunInput delivers readPdf settings pastedText files = .ok result) :
    result.rawPastedText = (storePastedText settings pastedText).1 ∧
      ∃ built, buildWorkflowInputText delivers settings result.rawPastedText result.uploadedFiles =
        .ok built ∧ result.normalizedInputText = built.1 := by
  rcases hstore : storePastedText settings pastedText with ⟨stored, warnings⟩
  simp only [ingestRunInput, hstore] at h
  obtain ⟨intake, -, h⟩ := Fallible.bind_eq_ok.mp h
  obtain ⟨built, hbuilt, h⟩ := Fallible.bind_eq_ok.mp h
  obtain rfl := Fallible.pure_eq_ok.mp h
  refine ⟨rfl, built, ?_, rfl⟩
  cases hcall : buildWorkflowInputText delivers settings stored intake.acceptedFiles with
  | error cause =>
    rw [hcall] at hbuilt
    cases hbuilt
  | ok built' =>
    rw [hcall] at hbuilt
    obtain rfl := Except.ok.inj hbuilt
    rfl

theorem source_raw_iff (before input : Option Text) :
    sourceText before input = input.getD [] ↔
      before.getD [] = [] ∨ before.getD [] = input.getD [] := by
  rw [sourceText, orText_nil_eq]
  rcases before with _ | _ | ⟨c, cs⟩ <;> simp

theorem source_same (text : Text) : sourceText (some text) (some text) = text := by
  cases text <;> rfl

theorem source_ingestion_iff {env : Env} {pastedText : Option Text} {files : List Upload}
    {result : IngestionResult}
    (h : ingestRunInput env.delivers env.readPdf env.settings pastedText files = .ok result) :
    sourceText result.normalizedInputText result.rawPastedText =
        result.normalizedInputText.getD [] ↔
      (InputSetter.ingestion pastedText result).Kept env.settings := by
  obtain ⟨hraw, built, hbuilt, hnormalized⟩ := ingestRunInput_eq_ok h
  have hnil := storePastedText_ne_nil env.settings pastedText
  rw [hnormalized, InputSetter.Kept, ← or_assoc, ← hraw, sourceText, orText_nil_eq]
  rw [← hraw] at hnil
  by_cases hbudget : env.settings.textToolsEnabled = true ∨
      0 < env.settings.maxTotalWorkflowTextBytes
  · refine ⟨fun _ => .inl hbudget, fun _ => ?_⟩
    by_cases hsections : inputSections result.rawPastedText result.uploadedFiles = []
    · rw [buildWorkflowInputText, if_pos hsections] at hbuilt
      obtain rfl := Except.ok.inj hbuilt
      have hpasted : result.rawPastedText.bind orNone = none := by
        have := (List.append_eq_nil_iff.mp hsections).1
        simpa using this
      rcases hstored : result.rawPastedText with _ | _ | ⟨c, cs⟩
      · rfl
      · rfl
      · simp [hstored, orNone] at hpasted
    · obtain ⟨c, cs, hsome⟩ := buildWorkflowInputText_some hbudget hsections hbuilt
      rw [hsome]
      rfl
  · rw [or_iff_right hbudget]
    rw [not_or] at hbudget
    rw [buildWorkflowInputText_none hbudget.1 hbudget.2 hbuilt]
    rcases hstored : result.rawPastedText with _ | _ | ⟨c, cs⟩
    · exact ⟨fun _ => rfl, fun _ => rfl⟩
    · exact absurd hstored hnil
    · simp

theorem source_eq_latest_iff {env : Env} {run : Run} {setter : InputSetter}
    (h : setter.Left env run) :
    sourceText run.normalizedInputText run.inputText = setter.latest ↔
      setter.Kept env.settings := by
  cases setter with
  | raw before input =>
    obtain ⟨hnormalized, hinput⟩ := h
    rw [hnormalized, hinput]
    exact source_raw_iff before input
  | sample chosen =>
    obtain ⟨hnormalized, hinput⟩ := h
    rw [hnormalized, hinput]
    exact ⟨fun _ => trivial, fun _ => source_same _⟩
  | ingestion pastedText result =>
    obtain ⟨hnormalized, hinput, files, hingest⟩ := h
    rw [hnormalized, hinput]
    exact source_ingestion_iff hingest

theorem executionSource_eq_some {env : Env} {run : Run} {source : Text}
    (h : executionSource env run = some source) :
    source = sourceText run.normalizedInputText run.inputText := by
  rw [executionSource] at h
  split at h
  · split at h
    · cases h
    · rename_i workflow hworkflow
      cases hread : readSource workflow (startProcessing run) with
      | error reason => simp [hread, Except.toOption] at h
      | ok text =>
        obtain rfl : text = source := by simpa [hread, Except.toOption] using h
        rw [readSource] at hread
        split at hread
        · obtain ⟨-, -, hread⟩ := Fallible.bind_eq_ok.mp hread
          split at hread
          · exact (Fallible.pure_eq_ok.mp hread).symm
          · cases hread
        · split at hread
          · obtain ⟨-, -, hread⟩ := Fallible.bind_eq_ok.mp hread
            exact (Fallible.pure_eq_ok.mp hread).symm
          · cases hread
  · cases h

/-- An execution starts from the latest input exactly when the last operation that set the
input did not leave another text in the normalized field. -/
theorem executes_latest_input_iff (env : Env) (payload : RunCreateRequest)
    (invitationCodeId : Option Nat) (ops : List Op) {source : Text}
    (h : executionSource env (afterAll env (createRun env payload invitationCodeId) ops) =
      some source) :
    source = (lastSetter env (createRun env payload invitationCodeId) (created payload) ops).latest ↔
      (lastSetter env (createRun env payload invitationCodeId) (created payload) ops).Kept
        env.settings := by
  rw [executionSource_eq_some h]
  have hcreated : (created payload).Left env (createRun env payload invitationCodeId) := ⟨rfl, rfl⟩
  exact source_eq_latest_iff (left_afterAll hcreated ops)

def defaultSettings : Settings where
  defaultWorkflowKey := messyNotesKey
  maxFilesPerRun := 3
  maxFileSizeBytes := 5242880
  maxExtractedTextBytes := 250000
  maxTotalWorkflowTextBytes := 400000
  maxPastedTextBytes := 200000
  textToolsEnabled := false
  ragChunkSize := 600
  ragChunkOverlap := 60

def messyNotesWorkflow : Workflow where
  key := messyNotesKey
  startingAgent := "orchestrator".toList
  startAgent := fun _ => .ok ()
  agentExecutable := true
  steps := fun _ source => ⟨some source, none⟩
  postProcessors := fun _ => ⟨none, none⟩

def defaultEnv : Env where
  settings := defaultSettings
  delivers := fun _ => true
  readPdf := fun _ => .notOpened
  getWorkflow := fun key =>
    if key = messyNotesKey then .ok messyNotesWorkflow else .error "Unknown workflow".toList

def emptyDraft : Run := createRun defaultEnv ⟨none, none⟩ none

/-- A draft that is edited and submitted is executed on what was submitted. -/
theorem submitted_text_is_executed :
    "ship it".toList = (lastSetter defaultEnv emptyDraft (created ⟨none, none⟩)
      [.update ⟨none, some "notes".toList, none⟩,
        .submit (some ⟨none, some " ship it ".toList, none⟩) 0]).latest :=
  (executes_latest_input_iff defaultEnv ⟨none, none⟩ none _ (by decide +kernel)).mpr
    (.inl (by decide +kernel))

/-- A PUT over ingested text: the execution starts from the ingested text. -/
theorem edited_ingestion_is_not_executed :
    executionSource defaultEnv (afterAll defaultEnv emptyDraft
        [.ingest none (some "old".toList) [], .update ⟨none, some "new".toList, none⟩]) =
      some "Pasted notes:\nold".toList ∧
    (lastSetter defaultEnv emptyDraft (created ⟨none, none⟩)
        [.ingest none (some "old".toList) [], .update ⟨none, some "new".toList, none⟩]).latest =
      "new".toList := by
  decide +kernel

end DemoService.Runs
