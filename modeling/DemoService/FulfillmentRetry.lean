import DemoService.InviteFulfillment

/-! When a second call of the fulfillment sends the email a failed first call owed. The
first commit of a code is what decides it: a call that finds a code linked to the request
returns at once. -/

namespace DemoService.InviteRequests

open PyText Fallible

/-- The request ends as sent, with one code linked to it and an email delivered that was
drafted for that code. -/
def Outcome.SendsLinkedCode (outcome : Outcome) (attempt : Attempt) (id : Nat) : Prop :=
  ∃ request seen code draft, outcome.db.request id = some request ∧
    request.fulfillmentStatus = .sent ∧ outcome.db.codesOf id = [code] ∧
    seen.id = id ∧ attempt.draft seen code = .ok draft ∧ draft ∈ outcome.delivered

structure Attempt.Works (attempt : Attempt) : Prop where
  drafts : ∀ request code, Succeeds (attempt.draft request code)
  sends : ∀ draft, attempt.send draft = .ok ()

/-- The session of the call raises nowhere before its result is final. -/
structure Attempt.SessionServes (attempt : Attempt) : Prop where
  commitProcessing : attempt.fault .commitProcessing = none
  queryCode : attempt.fault .queryCode = none
  commitCode : attempt.fault .commitCode = none
  refresh : attempt.fault .refresh = none
  commitSent : attempt.fault .commitSent = none
  /-- An error after the last commit counts only if its handler can still commit. -/
  reload : attempt.fault .reload = none ∨ attempt.fault .commitFailure ≠ none

theorem not_sendsLinkedCode_of_nothing (attempt : Attempt) (id : Nat) (db : Database) :
    ¬(Outcome.mk db []).SendsLinkedCode attempt id := by
  simp [Outcome.SendsLinkedCode]

/-! ### One call -/

theorem request_update_same {db : Database} {id : Nat} {request : InvitationRequest}
    {f : InvitationRequest → InvitationRequest} (hf : ∀ row, (f row).id = row.id)
    (h : db.request id = some request) : (db.updateRequest id f).request id = some (f request) := by
  simp [Database.request_updateRequest db id id hf, h]

theorem request_recordFailure (attempt : Attempt) (error : Text) {id : Nat} {db : Database}
    {request : InvitationRequest} (h : db.request id = some request) :
    (recordFailure attempt id error db).request id =
      some (if attempt.fault .commitFailure = none then markFailed error request else request) := by
  cases hfault : attempt.fault .commitFailure with
  | none =>
    have hupdate := request_update_same (f := markFailed error) (fun _ => rfl) h
    simpa [recordFailure, hfault] using hupdate
  | some e => simp [recordFailure, hfault, h]

theorem finish_sent_iff (attempt : Attempt) (draft : EmailDraft) (db : Database) {id : Nat}
    {request : InvitationRequest} (h : db.request id = some request)
    (hnot : request.fulfillmentStatus ≠ .sent) :
    (∃ after, (finish attempt id draft db).db.request id = some after ∧
        after.fulfillmentStatus = .sent) ↔
      attempt.fault .commitSent = none ∧
        (attempt.fault .reload = none ∨ attempt.fault .commitFailure ≠ none) := by
  have hsent := request_update_same (f := markSent attempt.now) (fun _ => rfl) h
  cases hcommit : attempt.fault .commitSent with
  | some error =>
    have hrow := request_recordFailure attempt error h
    by_cases hfailure : attempt.fault .commitFailure = none
    · simp [finish, Attempt.call, hcommit, hrow, hfailure, markFailed]
    · simp [finish, Attempt.call, hcommit, hrow, hfailure, hnot]
  | none =>
    cases hreload : attempt.fault .reload with
    | none => simp [finish, Attempt.call, hcommit, hreload, hsent, markSent]
    | some error =>
      have hrow := request_recordFailure attempt error hsent
      by_cases hfailure : attempt.fault .commitFailure = none
      · simp [finish, Attempt.call, hcommit, hreload, hrow, hfailure, markFailed]
      · simp [finish, Attempt.call, hcommit, hreload, hrow, hfailure, markSent]

theorem delivered_finish (attempt : Attempt) (id : Nat) (draft : EmailDraft) (db : Database) :
    (finish attempt id draft db).delivered = [draft] := by
  cases hcommit : attempt.call .commitSent with
  | error error => simp [finish, hcommit]
  | ok _ => cases hreload : attempt.call .reload <;> simp [finish, hcommit, hreload]

theorem process_sends_iff {attempt : Attempt} {id : Nat} {request : InvitationRequest}
    {db : Database} (hworks : attempt.Works) (hrequest : db.request id = some request)
    (hnot : request.fulfillmentStatus ≠ .sent) (hnone : db.codesOf id = []) :
    (process attempt request db).SendsLinkedCode attempt id ↔
      Succeeds (issueCode attempt request db) ∧ attempt.fault .refresh = none ∧
        attempt.fault .commitSent = none ∧
        (attempt.fault .reload = none ∨ attempt.fault .commitFailure ≠ none) := by
  have hid := Database.request_id hrequest
  cases hissue : issueCode attempt request db with
  | error error =>
    have hnothing := not_sendsLinkedCode_of_nothing attempt id
      (recordFailure attempt request.id error db)
    simp [process, hissue, hnothing, Succeeds]
  | ok code =>
    have hlink : code.invitationRequestId = some id := hid ▸ issueCode_eq_ok hissue
    have hcodes : (process attempt request db).db.codesOf id = [code] := by
      rw [codesOf_append (codes_process_of_ok hissue) hlink, hnone, List.nil_append]
    obtain ⟨draft, hdraft⟩ := hworks.drafts request code
    by_cases hrefresh : attempt.fault .refresh = none
    · have hdeliver := deliver_eq_ok.mpr ⟨hrefresh, hdraft, hworks.sends draft⟩
      have hprocess : process attempt request db =
          finish attempt id draft (db.insertCode code) := by
        simp [process, hissue, hdeliver, hid]
      have hfinish := finish_sent_iff attempt draft (db.insertCode code) hrequest hnot
      rw [hprocess] at hcodes ⊢
      constructor
      · rintro ⟨after, _, _, _, hafter, hsent, -⟩
        exact ⟨⟨code, rfl⟩, hrefresh, hfinish.mp ⟨after, hafter, hsent⟩⟩
      · rintro ⟨-, -, hserves⟩
        obtain ⟨after, hafter, hsent⟩ := hfinish.mpr hserves
        exact ⟨after, request, code, draft, hafter, hsent, hcodes, hid, hdraft,
          by simp [delivered_finish]⟩
    · cases hdeliver : deliver attempt request code with
      | ok found => exact absurd (deliver_eq_ok.mp hdeliver).1 hrefresh
      | error error =>
        have hnothing := not_sendsLinkedCode_of_nothing attempt id
          (recordFailure attempt request.id error (db.insertCode code))
        simp [process, hissue, hdeliver, hnothing, hrefresh]

/-- One call sends exactly where no code is linked to the request yet, its label is
supported, one of the codes it draws is free and its session serves it. -/
theorem fulfill_sends_iff {attempt : Attempt} {id : Nat} {db : Database}
    {request : InvitationRequest} (hworks : attempt.Works)
    (hrequest : db.request id = some request) :
    (fulfillInviteRequest attempt id db).SendsLinkedCode attempt id ↔
      db.codesOf id = [] ∧ LabelSupported request.label ∧
        (∃ i < 20, db.codeTaken (attempt.code i) = false) ∧ attempt.SessionServes := by
  by_cases hnone : db.codesOf id = []
  · cases hbegin : attempt.fault .commitProcessing with
    | some error =>
      have hfaulty : ¬attempt.SessionServes := fun h =>
        absurd (hbegin.symm.trans h.commitProcessing) (by simp)
      simp [fulfillInviteRequest, hrequest, hnone, hbegin, hfaulty,
        not_sendsLinkedCode_of_nothing]
    | none =>
      have hprocess := process_sends_iff hworks
        (request_update_same (f := markProcessing) (fun _ => rfl) hrequest)
        (by simp [markProcessing]) hnone
      have hfulfill : fulfillInviteRequest attempt id db =
          process attempt (markProcessing request) (db.updateRequest id markProcessing) := by
        simp [fulfillInviteRequest, hrequest, hnone, hbegin]
      rw [hfulfill, hprocess, issueCode_succeeds_iff]
      simp only [Database.codeTaken_updateRequest]
      constructor
      · rintro ⟨⟨hquery, hfree, hlabel, hcode⟩, hrefresh, hsent, hreload⟩
        exact ⟨hnone, hlabel, hfree, hbegin, hquery, hcode, hrefresh, hsent, hreload⟩
      · rintro ⟨-, hlabel, hfree, h⟩
        exact ⟨⟨h.queryCode, hfree, hlabel, h.commitCode⟩, h.refresh, h.commitSent, h.reload⟩
  · simp [fulfill_of_linked attempt hnone, hnone, not_sendsLinkedCode_of_nothing]

/-! ### What a call leaves behind -/

/-- No row changes the experience it was requested for. -/
def SameLabels (db after : Database) : Prop :=
  ∀ id, (after.request id).map (·.label) = (db.request id).map (·.label)

theorem carried_sameLabels : Carried SameLabels where
  refl _ _ := rfl
  trans _ _ _ h h' := fun id => (h' id).trans (h id)
  update db id f hf other := by
    have hlabel : ∀ row, (f row).label = row.label := fun row => by cases hf <;> rfl
    rw [Database.request_updateRequest db id other hf.id_eq]
    by_cases hid : other = id
    · cases hrow : db.request other <;> simp [hid, hlabel]
    · simp [hid]
  insert _ _ _ := rfl

/-! ### The second call -/

/-- A second call sends what the first one left unsent exactly where the first one stopped
before its code was committed. -/
theorem retry_sends_iff {first retry : Attempt} {id : Nat} {db : Database}
    {request : InvitationRequest} (hrequest : db.request id = some request)
    (hfailed : (fulfillInviteRequest first id db).db.statusOf id = some .emailFailed)
    (hworks : retry.Works) :
    (fulfillInviteRequest retry id (fulfillInviteRequest first id db).db).SendsLinkedCode
        retry id ↔
      db.codesOf id = [] ∧ first.StopsBeforeCode db ∧ LabelSupported request.label ∧
        (∃ i < 20, db.codeTaken (retry.code i) = false) ∧ retry.SessionServes := by
  obtain ⟨after, hafter, -⟩ := Option.map_eq_some_iff.mp hfailed
  have hlabel : after.label = request.label := by
    have hsame := carried_sameLabels.fulfill first id db id
    simpa [hafter, hrequest] using hsame
  rw [fulfill_sends_iff hworks hafter, hlabel]
  by_cases hnone : db.codesOf id = []
  · have hleft := codes_fulfill first hrequest hnone
    rcases hleft with ⟨hstops, hcodes⟩ | ⟨hgoes, code, hlink, hcodes⟩
    · have hcodesOf : (fulfillInviteRequest first id db).db.codesOf id = [] := by
        simpa only [Database.codesOf, hcodes] using hnone
      simp only [hcodesOf, hnone, Database.codeTaken, hcodes, true_and]
      constructor
      · rintro ⟨hsupported, hfree⟩
        exact ⟨hstops.resolve_right (not_not.mpr hsupported), hsupported, hfree⟩
      · rintro ⟨-, hrest⟩
        exact hrest
    · have hcodesOf := codesOf_append hcodes hlink
      simp [hcodesOf, (not_or.mp hgoes).1]
  · have hlinked : (fulfillInviteRequest first id db).db.codesOf id ≠ [] := by
      rw [fulfill_of_linked first hnone]
      exact hnone
    simp [hnone, hlinked]

def submittedRequest : InvitationRequest :=
  { newInvitationRequest 0 ⟨[], [], .messyNotes, []⟩ with label := none }

def submitted : Database :=
  { requests := [submittedRequest], codes := [], nextRequestId := 1, nextCodeId := 0 }

def workingAttempt (fault : DatabaseCall → Option Text) : Attempt :=
  { token := fun i => List.replicate i 'a'
    fault
    draft := fun request code => .ok ⟨[], request.email, [], code.code, [], true⟩
    send := fun _ => .ok ()
    now := 0 }

theorem workingAttempt_works (fault : DatabaseCall → Option Text) :
    (workingAttempt fault).Works :=
  ⟨fun _ _ => ⟨_, rfl⟩, fun _ => rfl⟩

def unsendable : Attempt :=
  { workingAttempt (fun _ => none) with send := fun _ => .error ['S'] }

/-- The sender fails once, and no later call sends anything for the request. -/
theorem failed_send_stays_unsent :
    (fulfillInviteRequest unsendable 0 submitted).db.statusOf 0 = some .emailFailed ∧
      ∀ retry : Attempt, retry.Works → ¬(fulfillInviteRequest retry 0
        (fulfillInviteRequest unsendable 0 submitted).db).SendsLinkedCode retry 0 := by
  refine ⟨by decide, fun retry _ => ?_⟩
  rw [fulfill_of_linked retry (by decide)]
  exact not_sendsLinkedCode_of_nothing _ _ _

theorem failed_commit_is_made_good :
    (fulfillInviteRequest (workingAttempt (fun _ => none)) 0
      (fulfillInviteRequest (workingAttempt
        (fun c => if c = .commitCode then some ['E'] else none)) 0 submitted).db).SendsLinkedCode
      (workingAttempt (fun _ => none)) 0 :=
  (retry_sends_iff (show submitted.request 0 = some submittedRequest from rfl) (by decide)
    (workingAttempt_works _)).mpr
      ⟨rfl, .inr (.inr (.inl (by decide))), .inl rfl, ⟨0, by decide, by decide⟩,
        rfl, rfl, rfl, rfl, rfl, .inl rfl⟩

end DemoService.InviteRequests
