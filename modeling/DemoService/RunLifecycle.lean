import DemoService.GuardedRuns
import DemoService.RunInput

/-! The life of one run: the requests that edit and submit it, and an execution that commits
in steps, any of which may raise. A handler that fails as well, or a process that dies, leaves
the row as the last commit left it. -/

namespace DemoService.Runs

open PyText GuardedRuns

/-- What the execution under way has committed so far. -/
inductive Stage
  | processing
  | briefed
  | completed
  deriving DecidableEq, Repr

structure Lifecycle where
  run : Run
  executing : Option Stage
  /-- An execution has raised after it had stored `COMPLETED`. -/
  raisedCompleted : Bool
  deriving DecidableEq, Repr

inductive Action
  | request (op : Op)
  | start (now : Nat) (failure : Option Text)
  | storeBrief (brief : Text)
  | complete (now : Nat)
  | storeResults (results : Text)
  | finish
  | fail (now : Nat) (reason : Text)
  | abandon
  deriving DecidableEq, Repr

def Lifecycle.create (env : Env) (payload : RunCreateRequest)
    (invitationCodeId : Option Nat) : Lifecycle :=
  ⟨createRun env payload invitationCodeId, none, false⟩

/-- What stops an execution before it has stored `PROCESSING`: the workflow is unknown, or the
commit itself raises. -/
def startFailure (env : Env) (run : Run) (failure : Option Text) : Option Text :=
  match env.getWorkflow run.workflowKey with
  | .error reason => some reason
  | .ok _ => failure

def start (env : Env) (s : Lifecycle) (now : Nat) (failure : Option Text) : Lifecycle :=
  if s.run.Executable then
    match startFailure env s.run failure with
    | some reason => { s with run := failRun s.run now reason }
    | none => { s with run := startProcessing s.run, executing := some .processing }
  else s

def step (env : Env) (s : Lifecycle) : Action → Option Lifecycle
  | .request (.execute _) => none
  | .request op => some { s with run := after env s.run op }
  | .start now failure => some (start env s now failure)
  | .storeBrief brief =>
    if s.executing = some .processing then
      some { s with run := { s.run with outputBrief := some brief }, executing := some .briefed }
    else none
  | .complete now =>
    if s.executing = some .briefed then
      some { s with
        run := { s.run with status := .completed, completedAt := some now }
        executing := some .completed }
    else none
  | .storeResults results =>
    if s.executing = some .completed then
      some { s with run := { s.run with postProcessorResults := some results } }
    else none
  | .finish => if s.executing = some .completed then some { s with executing := none } else none
  | .fail now reason =>
    s.executing.map fun stage =>
      ⟨failRun s.run now reason, none, s.raisedCompleted || stage == .completed⟩
  | .abandon => s.executing.map fun _ => { s with executing := none }

def Run.Frozen (run : Run) : Prop :=
  run.status = .submitted ∨ run.status = .processing ∨ run.status = .completed

instance (run : Run) : Decidable run.Frozen := inferInstanceAs (Decidable (_ ∨ _))

/-- The submitted input: title, raw and normalized text, and its metadata. -/
def Run.input (run : Run) : Option Text × Option Text × Option Text × Option RunInputMetadata :=
  (run.title, run.inputText, run.normalizedInputText, run.inputMetadata)

theorem Run.Frozen.not_editable {run : Run} (h : run.Frozen) : ¬run.Editable := by
  intro he
  rcases he with he | he <;> rcases h with h | h | h <;> simp [he] at h

/-- Every request but an update and an execution is turned away while the input is frozen. -/
theorem after_frozen {env : Env} {run : Run} (h : run.Frozen) {op : Op}
    (hupdate : ∀ payload, op ≠ .update payload) (hexecute : ∀ now, op ≠ .execute now) :
    after env run op = run := by
  have hn := h.not_editable
  cases op with
  | update payload => exact absurd rfl (hupdate payload)
  | execute now => exact absurd rfl (hexecute now)
  | sample key => simp [after, perform, applySampleChaosToRun, hn]
  | ingest title pastedText files => simp [after, perform, ingestRunDraft, hn]
  | submit payload now => simp [after, perform, submitRun, hn]

theorem start_input (env : Env) (s : Lifecycle) (now : Nat) (failure : Option Text) :
    (start env s now failure).run.input = s.run.input := by
  unfold start
  split
  · split <;> rfl
  · rfl

/-- No step of an execution writes the submitted input. -/
theorem step_input {env : Env} {s t : Lifecycle} {a : Action} (h : step env s a = some t)
    (hreq : ∀ op, a ≠ .request op) : t.run.input = s.run.input := by
  cases a with
  | request op => exact absurd rfl (hreq op)
  | start now failure =>
    obtain rfl := Option.some.inj h
    exact start_input env s now failure
  | fail now reason =>
    obtain ⟨stage, -, rfl⟩ := Option.map_eq_some_iff.mp h
    rfl
  | abandon =>
    obtain ⟨stage, -, rfl⟩ := Option.map_eq_some_iff.mp h
    rfl
  | storeBrief brief | complete now | storeResults results | finish =>
    simp only [step] at h
    split at h
    · obtain rfl := Option.some.inj h
      rfl
    · cases h

def FrozenKept (env : Env) (s : Lifecycle) (a : Action) : Prop :=
  ∀ t, step env s a = some t → s.run.Frozen → t.run.input = s.run.input

/-- An update handled while the input is frozen carries what is stored already. -/
def UpdatesMatch (s : Lifecycle) (a : Action) : Prop :=
  ∀ payload, a = .request (.update payload) → s.run.Frozen →
    normalizeTitle payload.title = s.run.title ∧
    normalizeText payload.inputText = s.run.inputText ∧
    payload.inputMetadata = s.run.inputMetadata

theorem frozenKept_update_iff (env : Env) (s : Lifecycle) (payload : RunUpdateRequest) :
    FrozenKept env s (.request (.update payload)) ↔
      UpdatesMatch s (.request (.update payload)) := by
  have hinput : (updateRunDraft s.run payload).input = s.run.input ↔
      normalizeTitle payload.title = s.run.title ∧
      normalizeText payload.inputText = s.run.inputText ∧
      payload.inputMetadata = s.run.inputMetadata := by
    simp [Run.input, updateRunDraft]
  constructor
  · intro h payload' he hf
    obtain rfl : payload = payload' := by simpa using he
    exact hinput.mp (h _ rfl hf)
  · intro h t ht hf
    obtain rfl := Option.some.inj ht
    exact hinput.mpr (h payload rfl hf)

theorem frozenKept_iff (env : Env) (s : Lifecycle) (a : Action) :
    FrozenKept env s a ↔ UpdatesMatch s a := by
  by_cases hu : ∃ payload, a = .request (.update payload)
  · obtain ⟨payload, rfl⟩ := hu
    exact frozenKept_update_iff env s payload
  · have hmatch : UpdatesMatch s a := fun payload he => absurd ⟨payload, he⟩ hu
    refine iff_of_true (fun t ht hf => ?_) hmatch
    cases a with
    | request op =>
      cases op with
      | execute now => cases ht
      | update payload => exact absurd ⟨payload, rfl⟩ hu
      | sample _ | ingest _ _ _ | submit _ _ =>
        obtain rfl := Option.some.inj ht
        exact congrArg Run.input (after_frozen hf (by simp) (by simp))
    | _ => exact step_input ht (by simp)

/-- Over any sequence of requests and execution steps: the frozen input stays as it is exactly
where no update handled meanwhile carries anything else. -/
theorem frozen_input_kept_iff (env : Env) (s : Lifecycle) (actions : List Action) :
    AllSteps (step env) (FrozenKept env) s actions ↔
      AllSteps (step env) UpdatesMatch s actions :=
  allSteps_congr (frozenKept_iff env) s actions

/-- A PUT over a submitted run is stored. -/
theorem submitted_input_replaced :
    (exec (step defaultEnv) (.create defaultEnv ⟨some "Plan".toList, some "notes".toList⟩ none)
        [.request (.submit none 0)]).map (fun s => (s.run.status, s.run.title, s.run.inputText)) =
      some (.submitted, some "Plan".toList, some "notes".toList) ∧
    (exec (step defaultEnv) (.create defaultEnv ⟨some "Plan".toList, some "notes".toList⟩ none)
        [.request (.submit none 0),
          .request (.update ⟨some "Other".toList, none, none⟩)]).map
        (fun s => (s.run.status, s.run.title, s.run.inputText)) =
      some (.submitted, some "Other".toList, none) := by
  decide +kernel

/-- What every run of the lifecycle keeps of the row and of the execution under way. -/
structure Lifecycle.Valid (s : Lifecycle) : Prop where
  underWay : ∀ stage, s.executing = some stage →
    s.run.status = if stage = .completed then .completed else .processing
  briefStored : s.executing = some .briefed → s.run.outputBrief.isSome
  processing : s.run.status = .processing → s.run.failureMessage = none
  completed : s.run.status = .completed →
    s.run.completedAt.isSome ∧ s.run.outputBrief.isSome ∧ s.run.failureMessage = none
  failed : s.run.status = .failed → s.run.failedAt.isSome ∧ s.run.failureMessage.isSome
  notCompleted : s.raisedCompleted = false → s.run.status ≠ .completed → s.run.completedAt = none

theorem create_valid (env : Env) (payload : RunCreateRequest) (invitationCodeId : Option Nat) :
    (Lifecycle.create env payload invitationCodeId).Valid := by
  constructor <;> simp [Lifecycle.create, createRun]

/-- The fields that `Lifecycle.Valid` is about. -/
def Run.outcome (run : Run) :
    RunStatus × Option Nat × Option Nat × Option String × Option Text :=
  (run.status, run.completedAt, run.failedAt, run.failureMessage, run.outputBrief)

/-- A request leaves the outcome as it is, or submits a draft or a failed run. -/
theorem after_outcome (env : Env) (run : Run) {op : Op} (hop : ∀ now, op ≠ .execute now) :
    (after env run op).outcome = run.outcome ∨
      run.Editable ∧ (after env run op).outcome = { run with status := .submitted }.outcome := by
  cases op with
  | execute now => exact absurd rfl (hop now)
  | update payload => exact .inl rfl
  | sample key =>
    left
    by_cases he : run.Editable
    · cases hs : getSampleChaosSet key <;>
        simp [after, perform, applySampleChaosToRun, he, hs, bind, Except.bind, pure,
          Except.pure, Run.outcome]
    · simp [after, perform, applySampleChaosToRun, he]
  | ingest title pastedText files =>
    left
    by_cases he : run.Editable
    · cases hi : ingestRunInput env.delivers env.readPdf env.settings pastedText files <;>
        simp [after, perform, ingestRunDraft, he, hi, Run.outcome]
    · simp [after, perform, ingestRunDraft, he]
  | submit payload now =>
    by_cases he : run.Editable
    · right
      refine ⟨he, ?_⟩
      cases payload <;> simp [after, perform, submitRun, he, applySubmitPayload, Run.outcome]
    · left
      simp [after, perform, submitRun, he]

theorem Lifecycle.Valid.of_outcome {s : Lifecycle} (h : s.Valid) {run : Run}
    (he : run.outcome = s.run.outcome) : ({ s with run := run } : Lifecycle).Valid := by
  simp only [Run.outcome, Prod.mk.injEq] at he
  obtain ⟨hstatus, hcompletedAt, hfailedAt, hmessage, hbrief⟩ := he
  constructor <;> simp only [hstatus, hcompletedAt, hfailedAt, hmessage, hbrief]
  · exact h.underWay
  · exact h.briefStored
  · exact h.processing
  · exact h.completed
  · exact h.failed
  · exact h.notCompleted

/-- An editable run has no execution under way. -/
theorem Lifecycle.Valid.not_executing {s : Lifecycle} (h : s.Valid) (he : s.run.Executable) :
    s.executing = none := by
  cases hx : s.executing with
  | none => rfl
  | some stage =>
    have hs := h.underWay stage hx
    rcases he with he | he | he <;> rw [he] at hs <;> split at hs <;> cases hs

theorem Run.Editable.executable {run : Run} (h : run.Editable) : run.Executable :=
  h.elim (fun hd => .inr (.inr hd)) (fun hf => .inr (.inl hf))

theorem request_valid {env : Env} {s : Lifecycle} {op : Op} (hs : s.Valid)
    (hop : ∀ now, op ≠ .execute now) : ({ s with run := after env s.run op } : Lifecycle).Valid := by
  rcases after_outcome env s.run hop with he | ⟨hedit, he⟩
  · exact hs.of_outcome he
  · have hx := hs.not_executing hedit.executable
    have hsub : ({ s with run := { s.run with status := .submitted } } : Lifecycle).Valid := by
      constructor <;> simp [hx]
      intro hr
      apply hs.notCompleted hr
      rcases hedit with hd | hd <;> simp [hd]
    exact hsub.of_outcome he

theorem failRun_valid {s : Lifecycle} (hs : s.Valid) (now : Nat) (reason : Text) {raised : Bool}
    (hraised : raised = false → s.raisedCompleted = false ∧ s.run.status ≠ .completed) :
    (⟨failRun s.run now reason, none, raised⟩ : Lifecycle).Valid := by
  constructor <;> simp [failRun]
  intro hr
  exact hs.notCompleted (hraised hr).1 (hraised hr).2

theorem start_valid {env : Env} {s : Lifecycle} (hs : s.Valid) (now : Nat)
    (failure : Option Text) : (start env s now failure).Valid := by
  unfold start
  split
  · rename_i he
    have hne : s.run.status ≠ .completed := by
      rcases he with he | he | he <;> simp [he]
    split
    · rename_i reason _
      have hv := failRun_valid hs now reason (fun hr => ⟨hr, hne⟩)
      rwa [← hs.not_executing he] at hv
    · constructor <;> simp [startProcessing]
      exact fun hr => hs.notCompleted hr hne
  · exact hs

theorem step_valid {env : Env} {s t : Lifecycle} {a : Action} (hs : s.Valid)
    (h : step env s a = some t) : t.Valid := by
  cases a with
  | request op =>
    cases op with
    | execute now => cases h
    | _ =>
      obtain rfl := Option.some.inj h
      exact request_valid hs (by simp)
  | start now failure =>
    obtain rfl := Option.some.inj h
    exact start_valid hs now failure
  | fail now reason =>
    obtain ⟨stage, hstage, rfl⟩ := Option.map_eq_some_iff.mp h
    apply failRun_valid hs now reason
    intro hr
    simp only [Bool.or_eq_false_iff, beq_eq_false_iff_ne, ne_eq] at hr
    refine ⟨hr.1, ?_⟩
    simp [hs.underWay stage hstage, hr.2]
  | abandon =>
    obtain ⟨stage, -, rfl⟩ := Option.map_eq_some_iff.mp h
    exact ⟨by simp, by simp, hs.processing, hs.completed, hs.failed, hs.notCompleted⟩
  | storeBrief brief =>
    simp only [step] at h
    split at h
    · rename_i hx
      obtain rfl := Option.some.inj h
      have hp : s.run.status = .processing := by simpa using hs.underWay _ hx
      have hm := hs.processing hp
      have hn := fun hr => hs.notCompleted hr (by simp [hp])
      constructor <;> simp [hp, hm]
      exact hn
    · cases h
  | complete now =>
    simp only [step] at h
    split at h
    · rename_i hx
      obtain rfl := Option.some.inj h
      have hp : s.run.status = .processing := by simpa using hs.underWay _ hx
      have hm := hs.processing hp
      have hb := hs.briefStored hx
      constructor <;> simp [hm, hb]
    · cases h
  | storeResults results =>
    simp only [step] at h
    split at h
    · obtain rfl := Option.some.inj h
      exact hs.of_outcome rfl
    · cases h
  | finish =>
    simp only [step] at h
    split at h
    · obtain rfl := Option.some.inj h
      exact ⟨by simp, by simp, hs.processing, hs.completed, hs.failed, hs.notCompleted⟩
    · cases h

/-- The moves of the status, and its staying as it is. -/
inductive Move : RunStatus → RunStatus → Prop
  | stays (status : RunStatus) : Move status status
  | submits {before : RunStatus} (h : before = .draft ∨ before = .failed) : Move before .submitted
  | starts {before : RunStatus} (h : before = .draft ∨ before = .submitted ∨ before = .failed) :
      Move before .processing
  | ends {after : RunStatus} (h : after = .completed ∨ after = .failed) : Move .processing after

/-- A draft or submitted run whose execution fails before it has stored `PROCESSING`. -/
def FailsUnstarted (s : Lifecycle) (a : Action) (t : Lifecycle) : Prop :=
  (s.run.status = .draft ∨ s.run.status = .submitted) ∧ t.run.status = .failed ∧
    ∃ now failure, a = .start now failure

/-- An exception of an execution that has stored `COMPLETED`. -/
def RaisesCompleted (s : Lifecycle) (a : Action) : Prop :=
  s.executing = some .completed ∧ ∃ now reason, a = .fail now reason

theorem Run.Executable.move {run : Run} (h : run.Executable) : Move run.status .processing := by
  apply Move.starts
  rcases h with h | h | h <;> simp [h]

theorem request_move (env : Env) (run : Run) {op : Op} (hop : ∀ now, op ≠ .execute now) :
    Move run.status (after env run op).status := by
  rcases after_outcome env run hop with he | ⟨hedit, he⟩
  · have hs : (after env run op).status = run.status := congrArg Prod.fst he
    exact hs ▸ .stays _
  · have hs : (after env run op).status = .submitted := congrArg Prod.fst he
    exact hs ▸ .submits hedit

theorem start_move (env : Env) (s : Lifecycle) (now : Nat) (failure : Option Text) :
    Move s.run.status (start env s now failure).run.status ∨
      FailsUnstarted s (.start now failure) (start env s now failure) := by
  unfold start
  split
  · rename_i he
    split
    · rcases he with he | he | he
      · exact .inr ⟨.inr he, rfl, now, failure, rfl⟩
      · exact .inl (he ▸ .stays _)
      · exact .inr ⟨.inl he, rfl, now, failure, rfl⟩
    · exact .inl he.move
  · exact .inl (.stays _)

theorem step_move {env : Env} {s t : Lifecycle} {a : Action} (hs : s.Valid)
    (h : step env s a = some t) (hr : ¬RaisesCompleted s a) :
    Move s.run.status t.run.status ∨ FailsUnstarted s a t := by
  cases a with
  | request op =>
    cases op with
    | execute now => cases h
    | _ =>
      obtain rfl := Option.some.inj h
      exact .inl (request_move env s.run (by simp))
  | start now failure =>
    obtain rfl := Option.some.inj h
    exact start_move env s now failure
  | fail now reason =>
    obtain ⟨stage, hstage, rfl⟩ := Option.map_eq_some_iff.mp h
    have hne : stage ≠ .completed := fun hc => hr ⟨hc ▸ hstage, now, reason, rfl⟩
    have hp : s.run.status = .processing := by simpa [hne] using hs.underWay stage hstage
    exact .inl (hp ▸ .ends (.inr rfl))
  | abandon =>
    obtain ⟨stage, -, rfl⟩ := Option.map_eq_some_iff.mp h
    exact .inl (.stays _)
  | complete now =>
    simp only [step] at h
    split at h
    · rename_i hx
      obtain rfl := Option.some.inj h
      have hp : s.run.status = .processing := by simpa using hs.underWay _ hx
      exact .inl (hp ▸ .ends (.inl rfl))
    · cases h
  | storeBrief _ | storeResults _ | finish =>
    simp only [step] at h
    split at h
    · obtain rfl := Option.some.inj h
      exact .inl (.stays _)
    · cases h

/-- The row agrees with its status. -/
structure Lifecycle.Consistent (s : Lifecycle) : Prop where
  completed : s.run.status = .completed →
    s.run.completedAt.isSome ∧ s.run.outputBrief.isSome ∧ s.run.failureMessage = none
  failed : s.run.status = .failed → s.run.failedAt.isSome ∧ s.run.failureMessage.isSome
  notCompleted : s.raisedCompleted = false → s.run.status = .failed → s.run.completedAt = none

theorem Lifecycle.Valid.consistent {s : Lifecycle} (h : s.Valid) : s.Consistent where
  completed := h.completed
  failed := h.failed
  notCompleted := fun hr hf => h.notCompleted hr (by simp [hf])

/-- Whatever is requested, wherever an execution raises: the row agrees with its status, and
the status takes no other move. The workflows may have changed since the run was created. -/
theorem run_lifecycle_consistent {env env' : Env} {payload : RunCreateRequest}
    {invitationCodeId : Option Nat} {s : Lifecycle}
    (h : GuardedRuns.Run (step env') (.create env payload invitationCodeId) s) :
    s.Consistent ∧ ∀ a t, step env' s a = some t → ¬RaisesCompleted s a →
      Move s.run.status t.run.status ∨ FailsUnstarted s a t := by
  have hv : s.Valid := h.invariant (create_valid env payload invitationCodeId)
    (fun _ _ _ hs _ ht => step_valid hs ht)
  exact ⟨hv.consistent, fun a t ht hr => step_move hv ht hr⟩

def reexecuted : List Action :=
  [.request (.submit none 1), .start 2 none, .fail 3 "timeout".toList, .start 4 none,
    .storeBrief "brief".toList, .complete 5, .storeResults "audit".toList, .finish]

/-- A run that fails once and is executed again. -/
theorem reexecuted_consistent :
    ∃ s, exec (step defaultEnv) (.create defaultEnv ⟨none, none⟩ none) reexecuted = some s ∧
      s.run.status = .completed ∧ s.Consistent := by
  obtain ⟨s, hs, hstatus⟩ : ∃ s,
      exec (step defaultEnv) (.create defaultEnv ⟨none, none⟩ none) reexecuted = some s ∧
        s.run.status = .completed := ⟨_, rfl, by decide +kernel⟩
  exact ⟨s, hs, hstatus, (run_lifecycle_consistent (run_of_exec hs)).1⟩

/-- No workflow is known any more. -/
def emptyRegistry : Env :=
  { defaultEnv with
    getWorkflow := fun key => .error ("Unknown workflow '".toList ++ key ++ "'.".toList) }

theorem not_move_draft_failed : ¬Move .draft .failed := by
  intro h
  cases h

/-- A draft whose workflow is gone fails without ever being processed. -/
theorem unknown_workflow_fails_draft :
    ∃ s t, GuardedRuns.Run (step emptyRegistry) (.create defaultEnv ⟨none, none⟩ none) s ∧
      step emptyRegistry s (.start 0 none) = some t ∧ s.run.status = .draft ∧
      t.run.status = .failed ∧ ¬Move s.run.status t.run.status :=
  ⟨_, _, .refl, rfl, rfl, rfl, not_move_draft_failed⟩

end DemoService.Runs
