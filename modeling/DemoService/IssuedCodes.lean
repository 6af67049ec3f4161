import DemoService.FulfillmentRetry
import DemoService.GuardedRuns
import DemoService.Interleaving

/-! Fulfillment tasks and issue-code-draft calls of the admin, each on a database session of its
own. A task looks for a code of its request once and commits its own code turns later; what the
others commit in between it does not look at. -/

namespace DemoService.InviteRequests

open PyText Interleaving GuardedRuns

/-- The tables, and the requests of the codes that the tasks have committed. -/
structure Issuance where
  db : Database
  issued : List Nat
  deriving DecidableEq, Repr

/-- How far a task has come. -/
inductive TaskPhase
  | idle
  | unlinked (id : Nat) (attempt : Attempt)
  | processing (id : Nat) (attempt : Attempt)
  | drawn (id : Nat) (attempt : Attempt) (code : Text) (experienceId : ExperienceId)
  | issued (id : Nat) (attempt : Attempt) (code : InvitationCode)
  | sent (id : Nat) (attempt : Attempt)
  | failing (id : Nat) (attempt : Attempt) (error : Text)
  | drafting (request : InvitationRequest) (payload : IssueInviteCodeDraftRequest) (code : Text)
      (now : Nat)
  | approving (request : InvitationRequest) (payload : IssueInviteCodeDraftRequest) (code : Text)
      (now : Nat)

inductive TaskAction
  | fulfill (id : Nat) (attempt : Attempt)
  | commitProcessing
  | drawCode
  | commitCode
  | deliver
  | commitSent
  | commitFailure
  | issueDraft (id : Nat) (payload : IssueInviteCodeDraftRequest) (token : Text) (now : Nat)
  | queryCode
  | commitDraft

def codeNotUnique : Text := "UNIQUE constraint failed: invitation_codes.code".toList

def drawCode (attempt : Attempt) (request : InvitationRequest) (db : Database) :
    Except Text (Text × ExperienceId) := do
  attempt.call .queryCode
  let code ← generateUniqueCode attempt db
  let experienceId ← requestExperienceId request
  pure (code, experienceId)

/-- The commit of a drawn code. The `code` column is unique. -/
def commitCode (attempt : Attempt) (code : Text) (db : Database) : Except Text Unit :=
  if db.codeTaken code then .error codeNotUnique else attempt.call .commitCode

def fulfillTurn (s : Issuance) : TaskPhase → TaskAction → Option (Issuance × TaskPhase)
  | .idle, .fulfill id attempt =>
    match s.db.request id with
    | none => some (s, .idle)
    | some _ => some (s, if s.db.codesOf id ≠ [] then .idle else .unlinked id attempt)
  | .unlinked id attempt, .commitProcessing =>
    match attempt.call .commitProcessing with
    | .error _ => some (s, .idle)
    | .ok _ => some ({ s with db := s.db.updateRequest id markProcessing }, .processing id attempt)
  | .processing id attempt, .drawCode =>
    (s.db.request id).map fun request =>
      match drawCode attempt request s.db with
      | .error error => (s, .failing id attempt error)
      | .ok (code, experienceId) => (s, .drawn id attempt code experienceId)
  | .drawn id attempt code experienceId, .commitCode =>
    match commitCode attempt code s.db with
    | .error error => some (s, .failing id attempt error)
    | .ok _ =>
      let row := newInvitationCode s.db.nextCodeId code experienceId (some inviteRequestMaxUses)
        (some id)
      some (⟨s.db.insertCode row, s.issued ++ [id]⟩, .issued id attempt row)
  | .issued id attempt code, .deliver =>
    (s.db.request id).map fun request =>
      match deliver attempt request code with
      | .error error => (s, .failing id attempt error)
      | .ok _ => (s, .sent id attempt)
  | .sent id attempt, .commitSent =>
    match attempt.call .commitSent with
    | .error error => some (s, .failing id attempt error)
    | .ok _ =>
      some ({ s with db := s.db.updateRequest id (markSent attempt.now) },
        match attempt.call .reload with
        | .error error => .failing id attempt error
        | .ok _ => .idle)
  | .failing id attempt error, .commitFailure =>
    some ({ s with db := recordFailure attempt id error s.db }, .idle)
  | _, _ => none

/-- The turns of `issue_invite_code_draft`; a refused call is over. -/
def draftTurn (s : Issuance) : TaskPhase → TaskAction → Option (Issuance × TaskPhase)
  | .idle, .issueDraft id payload token now =>
    match getInviteRequestOr404 s.db id with
    | .error _ => some (s, .idle)
    | .ok request =>
      if (requestCode s.db id).isSome then some (s, .idle)
      else if request.status = .rejected then some (s, .idle)
      else some (s, .drafting request payload (chosenCode payload.code token) now)
  | .drafting request payload code now, .queryCode =>
    some (s, if s.db.codeTaken code then .idle else .approving request payload code now)
  | .approving request payload code now, .commitDraft =>
    if s.db.codeTaken code then some (s, .idle)
    else
      let row := draftedCode s.db.nextCodeId code payload request
      some (⟨(s.db.updateRequest request.id
        (recordReview .approved payload.reviewerNote now)).insertCode row,
        s.issued ++ [request.id]⟩, .idle)
  | _, _ => none

def turn (s : Issuance) (phase : TaskPhase) (a : TaskAction) : Option (Issuance × TaskPhase) :=
  (fulfillTurn s phase a).or (draftTurn s phase a)

/-- The request for which a task that found no code is still to commit one. -/
def TaskPhase.pending : TaskPhase → Option Nat
  | .unlinked id _ | .processing id _ | .drawn id _ _ _ => some id
  | .drafting request _ _ _ | .approving request _ _ _ => some request.id
  | _ => none

/-- The request for which a turn commits a code. -/
def commitsFor (db : Database) (phase : TaskPhase) (a : TaskAction) : Option Nat :=
  match phase, a with
  | .drawn id attempt code _, .commitCode =>
    match commitCode attempt code db with
    | .error _ => none
    | .ok _ => some id
  | .approving request _ code _, .commitDraft => if db.codeTaken code then none else some request.id
  | _, _ => none

abbrev Tasks := System Nat Issuance TaskPhase

def Tasks.start (db : Database) : Tasks := ⟨⟨db, []⟩, fun _ => .idle⟩

abbrev taskStep : Tasks → Nat × TaskAction → Option Tasks := Interleaving.step turn

/-- A code is committed only for a request that still has none, as the task found it. -/
def CommitsToUnlinked (s : Tasks) (a : Nat × TaskAction) : Prop :=
  ∀ id ∈ commitsFor s.shared.db (s.part a.1) a.2, s.shared.db.codesOf id = []

instance decidableCommitsToUnlinked (s : Tasks) (a : Nat × TaskAction) :
    Decidable (CommitsToUnlinked s a) :=
  inferInstanceAs (Decidable (∀ id ∈ commitsFor _ _ _, _))

def OneCodeEach (s : Tasks) : Prop := ∀ id, s.shared.issued.count id ≤ 1

/-! ### What a turn does -/

section Turn

variable {s s' : Issuance} {phase phase' : TaskPhase} {a : TaskAction}

inductive TurnOf (s : Issuance) (phase : TaskPhase) (a : TaskAction) :
    Issuance → TaskPhase → Prop
  | keeps {db : Database} {phase' : TaskPhase} (hnone : commitsFor s.db phase a = none)
      (hcodes : db.codes = s.db.codes)
      (hpending : ∀ id, phase'.pending = some id →
        phase.pending = some id ∨ s.db.codesOf id = []) :
      TurnOf s phase a ⟨db, s.issued⟩ phase'
  | commits {db : Database} {phase' : TaskPhase} {id : Nat} {code : InvitationCode}
      (hsome : commitsFor s.db phase a = some id) (hwas : phase.pending = some id)
      (hlinked : code.invitationRequestId = some id) (hcodes : db.codes = s.db.codes ++ [code])
      (hover : phase'.pending = none) : TurnOf s phase a ⟨db, s.issued ++ [id]⟩ phase'

theorem fulfillTurn_turnOf (h : fulfillTurn s phase a = some (s', phase')) :
    TurnOf s phase a s' phase' := by
  unfold fulfillTurn at h
  split at h
  · rename_i id attempt
    split at h
    · cases h
      exact .keeps rfl rfl (by simp [TaskPhase.pending])
    · cases h
      refine .keeps rfl rfl fun other hother => ?_
      split at hother
      · cases hother
      · rename_i hnone
        cases hother
        exact .inr (not_not.mp hnone)
  · split at h
    · cases h
      exact .keeps rfl rfl (by simp [TaskPhase.pending])
    · cases h
      exact .keeps rfl rfl fun other hother => .inl hother
  · obtain ⟨request, -, h⟩ := Option.map_eq_some_iff.mp h
    split at h
    · cases h
      exact .keeps rfl rfl (by simp [TaskPhase.pending])
    · cases h
      exact .keeps rfl rfl fun other hother => .inl hother
  · rename_i id attempt code experienceId
    split at h
    · rename_i error herror
      cases h
      exact .keeps (by simp [commitsFor, herror]) rfl (by simp [TaskPhase.pending])
    · rename_i hok
      cases h
      exact .commits (by simp [commitsFor, hok]) rfl rfl rfl rfl
  · obtain ⟨request, -, h⟩ := Option.map_eq_some_iff.mp h
    split at h
    · cases h
      exact .keeps rfl rfl (by simp [TaskPhase.pending])
    · cases h
      exact .keeps rfl rfl (by simp [TaskPhase.pending])
  · split at h
    · cases h
      exact .keeps rfl rfl (by simp [TaskPhase.pending])
    · cases h
      refine .keeps rfl rfl fun other hother => ?_
      split at hother <;> cases hother
  · cases h
    exact .keeps rfl (codes_recordFailure _ _ _ _) (by simp [TaskPhase.pending])
  · cases h

theorem draftTurn_turnOf (h : draftTurn s phase a = some (s', phase')) :
    TurnOf s phase a s' phase' := by
  unfold draftTurn at h
  split at h
  · rename_i id payload token now
    split at h
    · cases h
      exact .keeps rfl rfl (by simp [TaskPhase.pending])
    · rename_i request hrequest
      split at h
      · cases h
        exact .keeps rfl rfl (by simp [TaskPhase.pending])
      · rename_i hnone
        split at h
        · cases h
          exact .keeps rfl rfl (by simp [TaskPhase.pending])
        · cases h
          refine .keeps rfl rfl fun other hother => .inr ?_
          obtain rfl : request.id = other := Option.some.inj hother
          rw [Bool.not_eq_true, Option.isSome_eq_false_iff, Option.isNone_iff_eq_none,
            requestCode_eq_none] at hnone
          have hid : request.id = id := by
            rw [getInviteRequestOr404] at hrequest
            split at hrequest
            · rename_i found hfound
              cases hrequest
              exact Database.request_id hfound
            · cases hrequest
          rw [hid]
          exact hnone
  · rename_i request payload code now
    cases h
    refine .keeps rfl rfl fun other hother => .inl ?_
    split at hother
    · cases hother
    · exact hother
  · rename_i request payload code now
    split at h
    · rename_i htaken
      cases h
      exact .keeps (by simp [commitsFor, htaken]) rfl (by simp [TaskPhase.pending])
    · rename_i hfree
      cases h
      exact .commits (by simp [commitsFor, hfree]) rfl rfl rfl rfl
  · cases h

theorem turn_turnOf (h : turn s phase a = some (s', phase')) : TurnOf s phase a s' phase' := by
  rcases Option.or_eq_some_iff.mp h with h | ⟨-, h⟩
  · exact fulfillTurn_turnOf h
  · exact draftTurn_turnOf h

end Turn

/-! ### A task alone -/

/-- The turns of one task without another in between. -/
def alone : Issuance → TaskPhase → List TaskAction → Option (Issuance × TaskPhase)
  | s, phase, [] => some (s, phase)
  | s, phase, a :: as => (turn s phase a).bind fun r => alone r.1 r.2 as

theorem draft_alone {settings : EmailSettings} {id now : Nat}
    {payload : IssueInviteCodeDraftRequest} {token : Text} {db db' : Database}
    {draft : IssuedDraft} (issued : List Nat)
    (h : issueInviteCodeDraft settings id payload token now db = .ok (draft, db')) :
    alone ⟨db, issued⟩ .idle [.issueDraft id payload token now, .queryCode, .commitDraft] =
      some (⟨db', issued ++ [id]⟩, .idle) := by
  obtain ⟨request, hrequest, hnone, hstatus, hfree, -, -⟩ := issueInviteCodeDraft_eq_ok h
  have hissued := requestCode_eq_none.mpr hnone
  obtain rfl := Database.request_id hrequest
  simp only [issueInviteCodeDraft, getInviteRequestOr404, hrequest, hissued, hstatus, hfree,
    Option.isSome_none, Bool.false_eq_true, if_false, Except.ok.injEq, Prod.mk.injEq] at h
  obtain ⟨-, rfl⟩ := h
  simp [alone, turn, fulfillTurn, draftTurn, getInviteRequestOr404, hrequest, hissued, hstatus,
    hfree]

section Alone

variable (attempt : Attempt) (id : Nat) (db : Database) (issued : List Nat)

theorem sent_alone (draft : EmailDraft) : ∃ actions,
    alone ⟨db, issued⟩ (.sent id attempt) actions =
      some (⟨(finish attempt id draft db).db, issued⟩, .idle) := by
  cases hsent : attempt.call .commitSent with
  | error error =>
    refine ⟨[.commitSent, .commitFailure], ?_⟩
    simp [alone, turn, fulfillTurn, finish, hsent]
  | ok _ =>
    cases hreload : attempt.call .reload with
    | error error =>
      refine ⟨[.commitSent, .commitFailure], ?_⟩
      simp [alone, turn, fulfillTurn, finish, hsent, hreload]
    | ok _ =>
      refine ⟨[.commitSent], ?_⟩
      simp [alone, turn, fulfillTurn, finish, hsent, hreload]

variable {id db}

theorem issued_alone {request : InvitationRequest} (hrequest : db.request id = some request)
    (code : InvitationCode) : ∃ actions,
    alone ⟨db, issued⟩ (.issued id attempt code) actions =
      some (⟨(match deliver attempt request code with
        | .error error => recordFailure attempt id error db
        | .ok draft => (finish attempt id draft db).db), issued⟩, .idle) := by
  cases hdeliver : deliver attempt request code with
  | error error =>
    refine ⟨[.deliver, .commitFailure], ?_⟩
    simp [alone, turn, fulfillTurn, hrequest, hdeliver]
  | ok draft =>
    obtain ⟨actions, hactions⟩ := sent_alone attempt id db issued draft
    refine ⟨.deliver :: actions, ?_⟩
    simp [alone, turn, fulfillTurn, hrequest, hdeliver, hactions]

theorem issueCode_eq (request : InvitationRequest) (db : Database) :
    issueCode attempt request db = (do
      let drawn ← drawCode attempt request db
      attempt.call .commitCode
      pure (newInvitationCode db.nextCodeId drawn.1 drawn.2 (some inviteRequestMaxUses)
        (some request.id))) := by
  simp [issueCode, drawCode, bind_assoc]

theorem drawCode_free {attempt : Attempt} {request : InvitationRequest}
    {drawn : Text × ExperienceId} (h : drawCode attempt request db = .ok drawn) :
    db.codeTaken drawn.1 = false := by
  obtain ⟨-, -, h⟩ := Fallible.bind_eq_ok.mp h
  obtain ⟨code, hcode, h⟩ := Fallible.bind_eq_ok.mp h
  obtain ⟨experienceId, -, h⟩ := Fallible.bind_eq_ok.mp h
  obtain rfl := Fallible.pure_eq_ok.mp h
  exact (generateUniqueCode_eq_ok hcode).1

theorem processing_alone {request : InvitationRequest} (hrequest : db.request id = some request) :
    ∃ actions issued', alone ⟨db, issued⟩ (.processing id attempt) actions =
      some (⟨(process attempt request db).db, issued'⟩, .idle) := by
  obtain rfl := Database.request_id hrequest
  have hissue := issueCode_eq attempt request db
  cases hdraw : drawCode attempt request db with
  | error error =>
    rw [hdraw] at hissue
    refine ⟨[.drawCode, .commitFailure], issued, ?_⟩
    have hprocess : process attempt request db =
        ⟨recordFailure attempt request.id error db, []⟩ := by
      rw [process, hissue]
      rfl
    simp [alone, turn, fulfillTurn, hrequest, hdraw, hprocess]
  | ok drawn =>
    have hcommit : commitCode attempt drawn.1 db = attempt.call .commitCode := by
      rw [commitCode, drawCode_free hdraw]
      rfl
    cases hcall : attempt.call .commitCode with
    | error error =>
      rw [hdraw, hcall] at hissue
      refine ⟨[.drawCode, .commitCode, .commitFailure], issued, ?_⟩
      have hprocess : process attempt request db =
          ⟨recordFailure attempt request.id error db, []⟩ := by
        rw [process, hissue]
        rfl
      simp [alone, turn, fulfillTurn, hrequest, hdraw, hcommit, hcall, hprocess]
    | ok _ =>
      rw [hdraw, hcall] at hissue
      let row := newInvitationCode db.nextCodeId drawn.1 drawn.2 (some inviteRequestMaxUses)
        (some request.id)
      have hprocess : (process attempt request db).db = match deliver attempt request row with
          | .error error => recordFailure attempt request.id error (db.insertCode row)
          | .ok draft => (finish attempt request.id draft (db.insertCode row)).db := by
        rw [process, hissue]
        show Outcome.db (match deliver attempt request row with
          | .error error => _
          | .ok draft => _) = _
        cases deliver attempt request row <;> rfl
      obtain ⟨actions, hactions⟩ := issued_alone attempt (issued ++ [request.id])
        (show (db.insertCode row).request request.id = some request from hrequest) row
      refine ⟨.drawCode :: .commitCode :: actions, issued ++ [request.id], ?_⟩
      rw [hprocess, ← hactions]
      simp [alone, turn, fulfillTurn, hrequest, hdraw, hcommit, hcall, row]

/-- A fulfillment that no other task comes between does what the serial one does. -/
theorem fulfill_alone : ∃ actions issued',
    alone ⟨db, issued⟩ .idle (.fulfill id attempt :: actions) =
      some (⟨(fulfillInviteRequest attempt id db).db, issued'⟩, .idle) := by
  cases hrequest : db.request id with
  | none => exact ⟨[], issued, by simp [alone, turn, fulfillTurn, hrequest, fulfillInviteRequest]⟩
  | some request =>
    by_cases hnone : db.codesOf id = []
    · cases hcall : attempt.fault .commitProcessing with
      | some error =>
        refine ⟨[.commitProcessing], issued, ?_⟩
        simp [alone, turn, fulfillTurn, hrequest, fulfillInviteRequest, hnone, Attempt.call, hcall]
      | none =>
        have hmarked : (db.updateRequest id markProcessing).request id =
            some (markProcessing request) := by
          have hupdate := Database.request_updateRequest db id id (f := markProcessing) fun _ => rfl
          rw [hupdate, if_pos rfl, hrequest]
          rfl
        obtain ⟨actions, issued', hactions⟩ := processing_alone attempt issued hmarked
        refine ⟨.commitProcessing :: actions, issued', ?_⟩
        simp [alone, turn, fulfillTurn, hrequest, fulfillInviteRequest, hnone, Attempt.call, hcall,
          hactions]
    · refine ⟨[], issued, ?_⟩
      simp [alone, turn, fulfillTurn, hrequest, fulfillInviteRequest, hnone]

end Alone

/-! ### Runs -/

/-- Every request with a code of the tasks has it in the table, and a task that is still to
commit a code found none: there is one now only where another task has committed it. -/
structure Linked (s : Tasks) : Prop where
  stored : ∀ id ∈ s.shared.issued, s.shared.db.codesOf id ≠ []
  unlinked : ∀ i id, (s.part i).pending = some id → id ∉ s.shared.issued →
    s.shared.db.codesOf id = []

theorem start_linked (db : Database) : Linked (.start db) :=
  ⟨by simp [Tasks.start], by simp [Tasks.start, TaskPhase.pending]⟩

variable {s t : Tasks} {a : Nat × TaskAction}

theorem codesOf_congr {db db' : Database} (h : db'.codes = db.codes) (id : Nat) :
    db'.codesOf id = db.codesOf id := by
  rw [Database.codesOf, Database.codesOf, h]

theorem taskStep_linked (hs : Linked s) (h : taskStep s a = some t) : Linked t := by
  obtain ⟨shared, phase, hturn, rfl⟩ := step_eq_some.mp h
  cases turn_turnOf hturn with
  | keeps hnone hcodes hpending =>
    refine ⟨fun id hid => ?_, fun i id hi hnew => ?_⟩
    · rw [codesOf_congr hcodes]
      exact hs.stored id hid
    · rw [codesOf_congr hcodes]
      by_cases hia : i = a.1
      · subst hia
        simp only [Function.update_self] at hi
        exact (hpending id hi).elim (fun hwas => hs.unlinked a.1 id hwas hnew) fun hnone => hnone
      · simp only [Function.update_of_ne hia] at hi
        exact hs.unlinked i id hi hnew
  | @commits db _ id code hsome hwas hlinked hcodes hover =>
    have hcodesOf : ∀ other, db.codesOf other =
        s.shared.db.codesOf other ++ if id = other then [code] else [] := by
      intro other
      by_cases hother : id = other
      · subst hother
        rw [if_pos rfl]
        exact codesOf_append hcodes hlinked
      · have hne : code.invitationRequestId ≠ some other := by
          rw [hlinked]
          simpa using hother
        simp [Database.codesOf, hcodes, hother, hne]
    refine ⟨fun other hmem => ?_, fun i other hi hnew => ?_⟩
    · rw [hcodesOf]
      rcases List.mem_append.mp hmem with hmem | hmem
      · exact List.append_ne_nil_of_left_ne_nil (hs.stored other hmem) _
      · obtain rfl := List.mem_singleton.mp hmem
        simp
    · rw [List.mem_append, List.mem_singleton, not_or] at hnew
      rw [hcodesOf, if_neg (Ne.symm hnew.2), List.append_nil]
      by_cases hia : i = a.1
      · subst hia
        simp only [Function.update_self, hover] at hi
        cases hi
      · simp only [Function.update_of_ne hia] at hi
        exact hs.unlinked i other hi hnew.1

/-- A step leaves one code for each request exactly where it commits none for a request that
has one. -/
theorem taskStep_oneCodeEach_iff (hs : Linked s) (hone : OneCodeEach s)
    (h : taskStep s a = some t) : OneCodeEach t ↔ CommitsToUnlinked s a := by
  obtain ⟨shared, phase, hturn, rfl⟩ := step_eq_some.mp h
  cases turn_turnOf hturn with
  | keeps hnone _ _ =>
    refine iff_of_true hone fun id hid => ?_
    rw [hnone] at hid
    cases hid
  | @commits db _ id code hsome hwas _ _ _ =>
    constructor
    · intro hone' other hother
      obtain rfl : id = other := Option.some.inj (hsome.symm.trans hother)
      have hcount := hone' id
      have hnew : id ∉ s.shared.issued := by
        rw [← List.count_eq_zero]
        simp only [List.count_append, List.count_singleton_self] at hcount
        omega
      exact hs.unlinked a.1 id hwas hnew
    · intro hok other
      have hnew : id ∉ s.shared.issued := fun hmem => hs.stored id hmem (hok id hsome)
      show (s.shared.issued ++ [id]).count other ≤ 1
      by_cases hother : id = other
      · subst hother
        rw [List.count_append, List.count_singleton_self, List.count_eq_zero.mpr hnew]
      · rw [List.count_append, List.count_singleton, if_neg (by simpa using hother)]
        exact hone other

/-- At most one code is committed for each request exactly in the runs in which every commit
finds the request without a code, as its task had found it. -/
theorem one_code_per_request_iff (db : Database) {actions : List (Nat × TaskAction)} {t : Tasks}
    (h : exec taskStep (.start db) actions = some t) :
    Always taskStep OneCodeEach (.start db) actions ↔
      AllSteps taskStep CommitsToUnlinked (.start db) actions :=
  always_iff h (start_linked db) (by simp [OneCodeEach, Tasks.start])
    (fun _ _ _ hs ht => taskStep_linked hs ht)
    fun _ _ _ hs hone ht => taskStep_oneCodeEach_iff hs hone ht

def draftPayload : IssueInviteCodeDraftRequest := ⟨some "team".toList, none, some 1, none⟩

/-- A fulfillment goes through; the draft asked for meanwhile is refused. -/
def fulfilledFirst : List (Nat × TaskAction) :=
  [(0, .fulfill 0 (workingAttempt fun _ => none)), (0, .commitProcessing), (0, .drawCode),
    (0, .commitCode), (1, .issueDraft 0 draftPayload [] 1), (0, .deliver), (0, .commitSent)]

theorem fulfilled_first_issues_one :
    Always taskStep OneCodeEach (.start submitted) fulfilledFirst := by
  obtain ⟨t, ht⟩ := Option.isSome_iff_exists.mp (show (exec (guard taskStep CommitsToUnlinked)
    (.start submitted) fulfilledFirst).isSome from by decide +kernel)
  obtain ⟨hall, hexec⟩ := allSteps_of_exec ht
  exact (one_code_per_request_iff submitted hexec).mpr hall

/-- Both tasks find no code and then both commit one. -/
theorem two_tasks_issue_two :
    (exec taskStep (.start submitted)
        [(0, .fulfill 0 (workingAttempt fun _ => none)), (1, .issueDraft 0 draftPayload [] 1),
          (0, .commitProcessing), (0, .drawCode), (1, .queryCode), (0, .commitCode),
          (1, .commitDraft)]).map
      (fun s => (s.shared.issued, (s.shared.db.codesOf 0).length)) = some ([0, 0], 2) := by
  decide +kernel

end DemoService.InviteRequests
