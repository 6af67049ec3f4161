import DemoService.FollowUp
import DemoService.Interleaving
import DemoService.RunLifecycle

/-! Requests for one run on database sessions of their own. A session reads the committed row,
checks it, and later writes the columns it has assigned; what other sessions commit in between
it does not see. After a commit its copy of the row is expired and read again when needed. -/

namespace DemoService.Runs

open PyText Interleaving

/-- The columns a request assigns. -/
structure Changes where
  status : Option RunStatus := none
  title : Option (Option Text) := none
  inputText : Option (Option Text) := none
  inputMetadata : Option (Option RunInputMetadata) := none
  submittedAt : Option (Option Nat) := none
  completedAt : Option (Option Nat) := none
  failedAt : Option (Option Nat) := none
  failureMessage : Option (Option String) := none
  failureInternalReason : Option (Option Text) := none
  outputBrief : Option (Option Text) := none
  postProcessorResults : Option (Option Text) := none
  followUpCount : Option Nat := none
  followUpResponse : Option (Option FollowUpResponse) := none
  deriving DecidableEq, Repr

section

variable {α : Type} [DecidableEq α]

/-- An assigned column is written unless the session's copy holds that value already. -/
def flushColumn (loaded assigned : Option α) (stored : α) : α :=
  match assigned with
  | none => stored
  | some value => if loaded = some value then stored else value

@[simp] theorem flushColumn_none (loaded : Option α) (stored : α) :
    flushColumn loaded none stored = stored := rfl

theorem flushColumn_ne {loaded : Option α} {value : α} (h : loaded ≠ some value) (stored : α) :
    flushColumn loaded (some value) stored = value := if_neg h

end

def flush (view : Option StoredRun) (c : Changes) (row : StoredRun) : StoredRun where
  run := { row.run with
    status := flushColumn (view.map (·.run.status)) c.status row.run.status
    title := flushColumn (view.map (·.run.title)) c.title row.run.title
    inputText := flushColumn (view.map (·.run.inputText)) c.inputText row.run.inputText
    inputMetadata :=
      flushColumn (view.map (·.run.inputMetadata)) c.inputMetadata row.run.inputMetadata
    submittedAt := flushColumn (view.map (·.run.submittedAt)) c.submittedAt row.run.submittedAt
    completedAt := flushColumn (view.map (·.run.completedAt)) c.completedAt row.run.completedAt
    failedAt := flushColumn (view.map (·.run.failedAt)) c.failedAt row.run.failedAt
    failureMessage :=
      flushColumn (view.map (·.run.failureMessage)) c.failureMessage row.run.failureMessage
    failureInternalReason := flushColumn (view.map (·.run.failureInternalReason))
      c.failureInternalReason row.run.failureInternalReason
    outputBrief := flushColumn (view.map (·.run.outputBrief)) c.outputBrief row.run.outputBrief
    postProcessorResults := flushColumn (view.map (·.run.postProcessorResults))
      c.postProcessorResults row.run.postProcessorResults }
  followUpCount := flushColumn (view.map (·.followUpCount)) c.followUpCount row.followUpCount
  followUpResponse :=
    flushColumn (view.map (·.followUpResponse)) c.followUpResponse row.followUpResponse

def startChanges : Changes where
  status := some .processing
  failedAt := some none
  failureMessage := some none
  failureInternalReason := some none

def failChanges (now : Nat) (reason : Text) : Changes where
  status := some .failed
  failedAt := some (some now)
  failureMessage := some (some "The run failed during bounded workflow execution.")
  failureInternalReason := some (some reason)

def submitChanges (payload : Option RunSubmitRequest) (now : Nat) : Changes where
  status := some .submitted
  submittedAt := some (some now)
  title := payload.bind fun p => if p.title.isSome then some (normalizeTitle p.title) else none
  inputText := payload.bind fun p =>
    if p.inputText.isSome then some (normalizeText p.inputText) else none
  inputMetadata := payload.bind fun p =>
    if p.inputMetadata.isSome then some p.inputMetadata else none

/-- `follow_up_count or 0` assigns the count just read, and is never written. -/
def completeChanges (now : Nat) : Changes where
  status := some .completed
  completedAt := some (some now)

def followUpChanges (response : FollowUpResponse) : Changes where
  followUpCount := some 1
  followUpResponse := some (some response)

inductive Phase
  | idle
  | submitting (pending : Changes)
  | submitted
  | starting (pending : Changes) (fails : Bool)
  | executing (stage : Stage)
  | answering (response : FollowUpResponse)
  deriving DecidableEq, Repr

/-- One session: how far its request has come, and its copy of the row unless it has expired. -/
structure Session where
  phase : Phase
  view : Option StoredRun
  deriving DecidableEq, Repr

structure Stored where
  row : StoredRun
  answers : List FollowUpResponse
  deriving DecidableEq, Repr

inductive SessionAction
  | submit (payload : Option RunSubmitRequest) (now : Nat)
  | execute (now : Nat) (failure : Option Text)
  | followUp (question : Text)
  | commit
  | reload
  | storeBrief (brief : Text)
  | complete (now : Nat)
  | storeResults (results : Text)
  | finish
  | fail (now : Nat) (reason : Text)
  | abandon
  deriving DecidableEq, Repr

def idleSession : Session := ⟨.idle, none⟩

/-- The start guard of `execute_run_workflow`, on the session's copy of the row. -/
def checkExecutable (env : Env) (view : StoredRun) (now : Nat) (failure : Option Text) : Session :=
  if view.run.Executable then
    match startFailure env view.run failure with
    | some reason => ⟨.starting (failChanges now reason) true, some view⟩
    | none => ⟨.starting startChanges false, some view⟩
  else idleSession

def turn (env : Env) (text : FollowUpText) (db : Stored) (session : Session) :
    SessionAction → Option (Stored × Session)
  | .submit payload now =>
    if session.phase = .idle then
      some (db, if db.row.run.Editable then ⟨.submitting (submitChanges payload now), some db.row⟩
        else idleSession)
    else none
  | .execute now failure =>
    match session.phase with
    | .idle => some (db, checkExecutable env db.row now failure)
    | .submitted => some (db, checkExecutable env (session.view.getD db.row) now failure)
    | _ => none
  | .followUp question =>
    if session.phase = .idle then
      match answerFollowUp text db.row question with
      | .ok response => some (db, ⟨.answering response, some db.row⟩)
      | .error _ => some (db, idleSession)
    else none
  | .commit =>
    match session.phase with
    | .submitting pending =>
      some ({ db with row := flush session.view pending db.row }, ⟨.submitted, none⟩)
    | .starting pending fails =>
      some ({ db with row := flush session.view pending db.row },
        if fails then idleSession else ⟨.executing .processing, none⟩)
    | .answering response =>
      some (⟨flush session.view (followUpChanges response) db.row, db.answers ++ [response]⟩,
        idleSession)
    | _ => none
  | .reload =>
    match session.phase with
    | .submitted | .executing _ => some (db, { session with view := some db.row })
    | _ => none
  | .storeBrief brief =>
    if session.phase = .executing .processing then
      some ({ db with row := flush session.view { outputBrief := some (some brief) } db.row },
        ⟨.executing .briefed, none⟩)
    else none
  | .complete now =>
    if session.phase = .executing .briefed then
      some ({ db with row := flush session.view (completeChanges now) db.row },
        ⟨.executing .completed, none⟩)
    else none
  | .storeResults results =>
    if session.phase = .executing .completed then
      some ({ db with
          row := flush session.view { postProcessorResults := some (some results) } db.row },
        ⟨.executing .completed, none⟩)
    else none
  | .finish =>
    if session.phase = .executing .completed then some (db, idleSession) else none
  | .fail now reason =>
    match session.phase with
    | .executing _ =>
      some ({ db with row := flush session.view (failChanges now reason) db.row }, idleSession)
    | _ => none
  | .abandon => some (db, idleSession)

abbrev Sessions := System Nat Stored Session

/-- A stored run nobody works on. -/
def Sessions.create (row : StoredRun) : Sessions := ⟨⟨row, []⟩, fun _ => idleSession⟩

abbrev sessionStep (env : Env) (text : FollowUpText) :
    Sessions → Nat × SessionAction → Option Sessions :=
  Interleaving.step (turn env text)

/-- An execution is in progress from its `PROCESSING` commit until it has stored its outcome. -/
def InProgress (session : Session) : Prop := ∃ stage, session.phase = .executing stage

/-- The row still passes the check that a submit or a start has passed. -/
def Phase.StartPasses (row : StoredRun) : Phase → Prop
  | .submitting _ => row.run.Editable
  | .starting _ _ => row.run.Executable
  | _ => True

/-- The row still has the question that a follow-up has found open. -/
def Phase.AnswerPasses (row : StoredRun) : Phase → Prop
  | .answering _ => row.FollowUpOpen
  | _ => True

instance (row : StoredRun) : (phase : Phase) → Decidable (phase.StartPasses row)
  | .submitting _ => inferInstanceAs (Decidable row.run.Editable)
  | .starting _ _ => inferInstanceAs (Decidable row.run.Executable)
  | .idle | .submitted | .executing _ | .answering _ => inferInstanceAs (Decidable True)

instance (row : StoredRun) : (phase : Phase) → Decidable (phase.AnswerPasses row)
  | .answering _ => inferInstanceAs (Decidable row.FollowUpOpen)
  | .idle | .submitting _ | .submitted | .starting _ _ | .executing _ =>
    inferInstanceAs (Decidable True)

/-- What a submit or a start commits, it commits onto a row that still passes its check. -/
def StartsChecked (s : Sessions) (a : Nat × SessionAction) : Prop :=
  a.2 = .commit → (s.part a.1).phase.StartPasses s.shared.row

/-- A follow-up is committed onto a row that still has its question. -/
def AnswersChecked (s : Sessions) (a : Nat × SessionAction) : Prop :=
  a.2 = .commit → (s.part a.1).phase.AnswerPasses s.shared.row

instance (s : Sessions) (a : Nat × SessionAction) : Decidable (StartsChecked s a) :=
  inferInstanceAs (Decidable (_ → _))

instance (s : Sessions) (a : Nat × SessionAction) : Decidable (AnswersChecked s a) :=
  inferInstanceAs (Decidable (_ → _))

/-- The status of the row while an execution is in a stage. -/
def Stage.status (stage : Stage) : RunStatus :=
  if stage = .completed then .completed else .processing

theorem not_executable_status {run : Run} {stage : Stage} (h : run.status = stage.status) :
    ¬run.Executable := by
  intro he
  unfold Stage.status at h
  rcases he with he | he | he <;> rw [he] at h <;> split at h <;> cases h

/-- What an execution in progress owns: the status is its own, in the row and in its copy. -/
def OwnsStatus (db : Stored) (session : Session) : Prop :=
  ∀ stage, session.phase = .executing stage → db.row.run.status = stage.status ∧
    ∀ view, session.view = some view → view.run.status = stage.status

/-- What a session keeps of the check it has passed. -/
structure Session.Checked (session : Session) : Prop where
  starting : ∀ pending, session.phase = .starting pending false →
    pending = startChanges ∧ ∃ view, session.view = some view ∧ view.run.Executable
  answering : ∀ response, session.phase = .answering response →
    ∃ view, session.view = some view ∧ view.FollowUpOpen
  submitting : ∀ pending, session.phase = .submitting pending → pending.followUpCount = none
  failing : ∀ pending, session.phase = .starting pending true → pending.followUpCount = none

theorem idleSession_checked : idleSession.Checked := by
  constructor <;> simp [idleSession]

theorem checkExecutable_checked (env : Env) (view : StoredRun) (now : Nat)
    (failure : Option Text) : (checkExecutable env view now failure).Checked := by
  unfold checkExecutable
  split
  · rename_i he
    split
    · refine ⟨by simp, by simp, by simp, fun pending hp => ?_⟩
      obtain rfl : failChanges now _ = pending := by simpa using hp
      rfl
    · refine ⟨fun pending hp => ?_, by simp, by simp, by simp⟩
      obtain rfl : startChanges = pending := by simpa using hp
      exact ⟨rfl, view, rfl, he⟩
  · exact idleSession_checked

theorem checkExecutable_not_inProgress (env : Env) (view : StoredRun) (now : Nat)
    (failure : Option Text) : ¬InProgress (checkExecutable env view now failure) := by
  unfold checkExecutable
  split
  · split <;> simp [InProgress]
  · simp [InProgress, idleSession]

/-- What a turn can do. -/
inductive Turned (db : Stored) (session : Session) : SessionAction → Stored → Session → Prop
  | checks {a : SessionAction} {session' : Session} (hidle : ¬InProgress session')
      (hchecked : session'.Checked) : Turned db session a db session'
  | submits {pending : Changes} (hp : session.phase = .submitting pending) :
      Turned db session .commit { db with row := flush session.view pending db.row }
        ⟨.submitted, none⟩
  | starts {pending : Changes} (hp : session.phase = .starting pending false) :
      Turned db session .commit { db with row := flush session.view pending db.row }
        ⟨.executing .processing, none⟩
  | failsUnstarted {pending : Changes} (hp : session.phase = .starting pending true) :
      Turned db session .commit { db with row := flush session.view pending db.row } idleSession
  | answers {response : FollowUpResponse} (hp : session.phase = .answering response) :
      Turned db session .commit
        ⟨flush session.view (followUpChanges response) db.row, db.answers ++ [response]⟩ idleSession
  | reloads {stage : Stage} (hp : session.phase = .executing stage) :
      Turned db session .reload db { session with view := some db.row }
  | stores {a : SessionAction} {stage stage' : Stage} {c : Changes}
      (hp : session.phase = .executing stage) (hstatus : stage'.status = c.status.getD stage.status)
      (hnew : c.status ≠ some stage.status) (hcount : c.followUpCount = none) :
      Turned db session a { db with row := flush session.view c db.row } ⟨.executing stage', none⟩
  | fails {stage : Stage} {now : Nat} {reason : Text} (hp : session.phase = .executing stage) :
      Turned db session (.fail now reason)
        { db with row := flush session.view (failChanges now reason) db.row } idleSession

theorem idleSession_not_inProgress : ¬InProgress idleSession := by
  simp [InProgress, idleSession]

section

variable {env : Env} {text : FollowUpText} {db db' : Stored} {session session' : Session}
  {a : SessionAction}

theorem turn_cases (h : turn env text db session a = some (db', session')) :
    Turned db session a db' session' := by
  cases a with
  | submit payload now =>
    simp only [turn] at h
    split at h
    · obtain ⟨rfl, rfl⟩ := Prod.mk.inj (Option.some.inj h)
      split
      · refine .checks (by simp [InProgress]) ⟨by simp, by simp, fun pending hp => ?_, by simp⟩
        obtain rfl : submitChanges payload now = pending := by simpa using hp
        rfl
      · exact .checks idleSession_not_inProgress idleSession_checked
    · cases h
  | execute now failure =>
    simp only [turn] at h
    split at h
    · obtain ⟨rfl, rfl⟩ := Prod.mk.inj (Option.some.inj h)
      exact .checks (checkExecutable_not_inProgress env _ now failure)
        (checkExecutable_checked env _ now failure)
    · obtain ⟨rfl, rfl⟩ := Prod.mk.inj (Option.some.inj h)
      exact .checks (checkExecutable_not_inProgress env _ now failure)
        (checkExecutable_checked env _ now failure)
    · cases h
  | followUp question =>
    simp only [turn] at h
    split at h
    · split at h
      · rename_i response hr
        obtain ⟨rfl, rfl⟩ := Prod.mk.inj (Option.some.inj h)
        exact .checks (by simp [InProgress])
          ⟨by simp, fun _ _ => ⟨db.row, rfl, followUpOpen_of_answer hr⟩, by simp, by simp⟩
      · obtain ⟨rfl, rfl⟩ := Prod.mk.inj (Option.some.inj h)
        exact .checks idleSession_not_inProgress idleSession_checked
    · cases h
  | commit =>
    simp only [turn] at h
    split at h
    · rename_i pending hp
      obtain ⟨rfl, rfl⟩ := Prod.mk.inj (Option.some.inj h)
      exact .submits hp
    · rename_i pending fails hp
      obtain ⟨rfl, rfl⟩ := Prod.mk.inj (Option.some.inj h)
      cases fails with
      | false => exact .starts hp
      | true => exact .failsUnstarted hp
    · rename_i response hp
      obtain ⟨rfl, rfl⟩ := Prod.mk.inj (Option.some.inj h)
      exact .answers hp
    · cases h
  | reload =>
    simp only [turn] at h
    split at h
    · rename_i hp
      obtain ⟨rfl, rfl⟩ := Prod.mk.inj (Option.some.inj h)
      exact .checks (by simp [InProgress, hp]) (by constructor <;> simp [hp])
    · rename_i stage hp
      obtain ⟨rfl, rfl⟩ := Prod.mk.inj (Option.some.inj h)
      exact .reloads hp
    · cases h
  | storeBrief brief =>
    simp only [turn] at h
    split at h
    · rename_i hp
      obtain ⟨rfl, rfl⟩ := Prod.mk.inj (Option.some.inj h)
      exact .stores hp rfl (by simp) rfl
    · cases h
  | complete now =>
    simp only [turn] at h
    split at h
    · rename_i hp
      obtain ⟨rfl, rfl⟩ := Prod.mk.inj (Option.some.inj h)
      exact .stores hp rfl (by simp [completeChanges, Stage.status]) rfl
    · cases h
  | storeResults results =>
    simp only [turn] at h
    split at h
    · rename_i hp
      obtain ⟨rfl, rfl⟩ := Prod.mk.inj (Option.some.inj h)
      exact .stores hp rfl (by simp) rfl
    · cases h
  | finish =>
    simp only [turn] at h
    split at h
    · obtain ⟨rfl, rfl⟩ := Prod.mk.inj (Option.some.inj h)
      exact .checks idleSession_not_inProgress idleSession_checked
    · cases h
  | fail now reason =>
    simp only [turn] at h
    split at h
    · rename_i stage hp
      obtain ⟨rfl, rfl⟩ := Prod.mk.inj (Option.some.inj h)
      exact .fails hp
    · cases h
  | abandon =>
    obtain ⟨rfl, rfl⟩ := Prod.mk.inj (Option.some.inj h)
    exact .checks idleSession_not_inProgress idleSession_checked

theorem Turned.checked (h : Turned db session a db' session') : session'.Checked := by
  cases h with
  | checks _ hchecked => exact hchecked
  | submits _ | starts _ | stores _ _ _ _ => constructor <;> simp
  | reloads hp => constructor <;> simp [hp]
  | failsUnstarted _ | answers _ | fails _ => exact idleSession_checked

theorem not_inProgress_owns (h : ¬InProgress session) : OwnsStatus db session :=
  fun stage hp => absurd ⟨stage, hp⟩ h

/-- What a turn leaves in progress owns the status. -/
theorem Turned.owns (h : Turned db session a db' session') (hc : session.Checked)
    (hs : OwnsStatus db session) : OwnsStatus db' session' := by
  cases h with
  | checks hidle _ => exact not_inProgress_owns hidle
  | submits _ => exact not_inProgress_owns (by simp [InProgress])
  | failsUnstarted _ | answers _ | fails _ => exact not_inProgress_owns idleSession_not_inProgress
  | starts hp =>
    obtain ⟨rfl, view, hview, hx⟩ := hc.starting _ hp
    intro stage hstage
    obtain rfl : Stage.processing = stage := by simpa using hstage
    refine ⟨?_, by simp⟩
    have hne : view.run.status ≠ .processing := by
      rcases hx with hx | hx | hx <;> simp [hx]
    exact flushColumn_ne (by simpa [hview] using hne) _
  | reloads hp =>
    intro stage hstage
    have hrow := (hs stage hstage).1
    exact ⟨hrow, fun view hview => Option.some.inj hview ▸ hrow⟩
  | stores hp hstatus hnew hcount =>
    rename_i stage stage' c
    intro stage₂ hstage
    obtain rfl : stage' = stage₂ := by simpa using hstage
    refine ⟨?_, by simp⟩
    obtain ⟨hrow, hview⟩ := hs stage hp
    show flushColumn _ c.status _ = _
    cases hcs : c.status with
    | none => simpa [hstatus, hcs] using hrow
    | some value =>
      rw [hstatus, hcs]
      apply flushColumn_ne
      intro hv
      obtain ⟨view, hsome, hstat⟩ := Option.map_eq_some_iff.mp hv
      exact hnew (by rw [hcs, ← hstat, hview view hsome])

/-- A turn that takes nothing leaves the status to those who own it, or nobody owns it. -/
theorem Turned.leaves (h : Turned db session a db' session') (hidle : ¬InProgress session)
    (hok : a = .commit → session.phase.StartPasses db.row) :
    (∀ part, InProgress part → ¬OwnsStatus db part) ∨
      (¬InProgress session' ∧ ∀ part, InProgress part → OwnsStatus db part →
        OwnsStatus db' part) := by
  have hfree : db.row.run.Executable → ∀ part, InProgress part → ¬OwnsStatus db part := by
    intro hx part ⟨stage, hstage⟩ howns
    exact not_executable_status (howns stage hstage).1 hx
  cases h with
  | checks hidle' _ => exact .inr ⟨hidle', fun _ _ ho => ho⟩
  | submits hp =>
    have he : db.row.run.Editable := by simpa only [hp, Phase.StartPasses] using hok rfl
    exact .inl (hfree he.executable)
  | starts hp | failsUnstarted hp =>
    have hx : db.row.run.Executable := by simpa only [hp, Phase.StartPasses] using hok rfl
    exact .inl (hfree hx)
  | answers hp => exact .inr ⟨idleSession_not_inProgress, fun _ _ ho => ho⟩
  | reloads hp | stores hp _ _ _ | fails hp => exact absurd ⟨_, hp⟩ hidle

/-- The follow-ups a turn leaves behind. -/
structure OneAnswer (db : Stored) : Prop where
  atMost : db.answers.length ≤ 1
  counted : db.answers ≠ [] → 1 ≤ db.row.followUpCount

theorem OneAnswer.of_count {row : StoredRun} (hs : OneAnswer db)
    (hcount : row.followUpCount = db.row.followUpCount) : OneAnswer { db with row := row } :=
  ⟨hs.atMost, fun hne => hcount ▸ hs.counted hne⟩

theorem flush_followUpCount {view : Option StoredRun} {c : Changes} (h : c.followUpCount = none)
    (row : StoredRun) : (flush view c row).followUpCount = row.followUpCount := by
  simp [flush, h]

theorem Turned.oneAnswer (h : Turned db session a db' session') (hc : session.Checked)
    (hs : OneAnswer db)
    (hok : a = .commit → session.phase.AnswerPasses db.row) : OneAnswer db' := by
  cases h with
  | checks _ _ | reloads _ => exact hs
  | submits hp => exact hs.of_count (flush_followUpCount (hc.submitting _ hp) _)
  | starts hp =>
    obtain ⟨rfl, -⟩ := hc.starting _ hp
    exact hs.of_count (flush_followUpCount rfl _)
  | failsUnstarted hp => exact hs.of_count (flush_followUpCount (hc.failing _ hp) _)
  | stores _ _ _ hcount => exact hs.of_count (flush_followUpCount hcount _)
  | fails _ => exact hs.of_count (flush_followUpCount rfl _)
  | answers hp =>
    obtain ⟨view, hview, hviewOpen⟩ := hc.answering _ hp
    have hopen : db.row.FollowUpOpen := by simpa only [hp, Phase.AnswerPasses] using hok rfl
    have hnone : db.answers = [] := by
      by_contra hne
      have hcount := hs.counted hne
      have hlt := hopen.2.2
      omega
    have hne : view.followUpCount ≠ 1 := by
      have hlt := hviewOpen.2.2
      omega
    have hone : ∀ response,
        (flush session.view (followUpChanges response) db.row).followUpCount = 1 := fun _ =>
      flushColumn_ne (by simpa [hview] using hne) _
    exact ⟨by simp [hnone], fun _ => (hone _).ge⟩

end

theorem create_exclusive (row : StoredRun) :
    Exclusive InProgress OwnsStatus (Sessions.create row) :=
  ⟨fun _ hp => absurd hp idleSession_not_inProgress,
    fun _ _ hp => absurd hp idleSession_not_inProgress⟩

variable {env : Env} {text : FollowUpText} {s t : Sessions} {a : Nat × SessionAction}

theorem sessionStep_checked (hs : ∀ i, (s.part i).Checked) (h : sessionStep env text s a = some t) :
    ∀ i, (t.part i).Checked :=
  forall_part_step hs h fun _ _ _ hr => (turn_cases hr).checked

theorem sessionStep_exclusive (hc : ∀ i, (s.part i).Checked)
    (hs : Exclusive InProgress OwnsStatus s) (hok : StartsChecked s a)
    (h : sessionStep env text s a = some t) : Exclusive InProgress OwnsStatus t := by
  refine hs.step h (fun shared part hr _ => ?_) (fun shared part hr hidle => ?_)
  · refine (turn_cases hr).owns (hc a.1) ?_
    by_cases hp : InProgress (s.part a.1)
    · exact hs.owned a.1 hp
    · exact not_inProgress_owns hp
  · exact (turn_cases hr).leaves hidle hok

theorem sessionStep_oneAnswer (hc : ∀ i, (s.part i).Checked) (hs : OneAnswer s.shared)
    (hok : AnswersChecked s a) (h : sessionStep env text s a = some t) : OneAnswer t.shared := by
  obtain ⟨shared, part, hr, rfl⟩ := step_eq_some.mp h
  exact (turn_cases hr).oneAnswer (hc a.1) hs hok

theorem create_checked (row : StoredRun) (i : Nat) : ((Sessions.create row).part i).Checked :=
  idleSession_checked

theorem create_oneAnswer (row : StoredRun) : OneAnswer (Sessions.create row).shared :=
  ⟨by simp [Sessions.create], by simp [Sessions.create]⟩

open GuardedRuns in
/-- Where submits and starts commit onto a row that still passes their check, one execution is
in progress at most; where follow-ups do, one answer is accepted at most. -/
theorem one_execution_one_answer (env : Env) (text : FollowUpText) (row : StoredRun)
    (s : Sessions) :
    (GuardedRun (sessionStep env text) StartsChecked (.create row) s →
      ∀ i j, InProgress (s.part i) → InProgress (s.part j) → i = j) ∧
    (GuardedRun (sessionStep env text) AnswersChecked (.create row) s →
      s.shared.answers.length ≤ 1) := by
  constructor
  · intro h
    have hinv := h.invariant (I := fun s => (∀ i, (s.part i).Checked) ∧
        Exclusive InProgress OwnsStatus s) ⟨create_checked row, create_exclusive row⟩
      fun _ _ _ hs hok ht => ⟨sessionStep_checked hs.1 ht, sessionStep_exclusive hs.1 hs.2 hok ht⟩
    exact hinv.2.alone
  · intro h
    have hinv := h.invariant (I := fun s => (∀ i, (s.part i).Checked) ∧ OneAnswer s.shared)
      ⟨create_checked row, create_oneAnswer row⟩
      fun _ _ _ hs hok ht => ⟨sessionStep_checked hs.1 ht, sessionStep_oneAnswer hs.1 hs.2 hok ht⟩
    exact hinv.2.atMost

def noDecisions : FollowUpText where
  lower := fun question => question.map Char.toLower
  buildAnswer := fun _ _ => "The brief did not find explicit decisions in the notes.".toList

def emptyBrief : Text := "\x7b\x7d".toList

def draftRow : StoredRun := ⟨emptyDraft, 0, none⟩

def whichDecisions : SessionAction := .followUp "Which decisions were made?".toList

/-- A submit, an execution request turned away meanwhile, a follow-up and a second one. -/
def servedInTurn : List (Nat × SessionAction) :=
  [(0, .submit none 1), (0, .commit), (0, .reload), (0, .execute 2 none), (0, .commit),
    (1, .execute 3 none), (0, .storeBrief emptyBrief), (0, .complete 4), (0, .finish),
    (1, whichDecisions), (1, .commit), (2, whichDecisions)]

open GuardedRuns in
theorem served_in_turn_once :
    (∃ s, exec (guard (sessionStep defaultEnv noDecisions) StartsChecked) (.create draftRow)
        servedInTurn = some s ∧ ∀ i j, InProgress (s.part i) → InProgress (s.part j) → i = j) ∧
    (∃ s, exec (guard (sessionStep defaultEnv noDecisions) AnswersChecked) (.create draftRow)
        servedInTurn = some s ∧ s.shared.answers.length ≤ 1) := by
  obtain ⟨s, hs⟩ := Option.isSome_iff_exists.mp (show (exec (guard
    (sessionStep defaultEnv noDecisions) StartsChecked) (.create draftRow)
      servedInTurn).isSome from by decide +kernel)
  obtain ⟨t, ht⟩ := Option.isSome_iff_exists.mp (show (exec (guard
    (sessionStep defaultEnv noDecisions) AnswersChecked) (.create draftRow)
      servedInTurn).isSome from by decide +kernel)
  exact ⟨⟨s, hs, (one_execution_one_answer _ _ _ s).1 (guardedRun_of_exec hs)⟩,
    ⟨t, ht, (one_execution_one_answer _ _ _ t).2 (guardedRun_of_exec ht)⟩⟩

/-- Two sessions that check before either commits: two executions of a submitted run are in
progress, and a completed run accepts two answers. -/
theorem checked_before_commit_twice :
    (GuardedRuns.exec (sessionStep defaultEnv noDecisions)
        (.create ⟨{ emptyDraft with status := .submitted }, 0, none⟩)
        [(0, .execute 1 none), (1, .execute 1 none), (0, .commit), (1, .commit)]).map
      (fun s => ((s.part 0).phase, (s.part 1).phase)) =
        some (.executing .processing, .executing .processing) ∧
    (GuardedRuns.exec (sessionStep defaultEnv noDecisions)
        (.create ⟨{ emptyDraft with
          status := .completed, completedAt := some 1, outputBrief := some emptyBrief }, 0, none⟩)
        [(0, whichDecisions), (1, whichDecisions), (0, .commit), (1, .commit)]).map
      (fun s => s.shared.answers.length) = some 2 := by
  decide +kernel

end DemoService.Runs
