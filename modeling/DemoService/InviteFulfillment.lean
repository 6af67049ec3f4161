import DemoService.Fallible
import DemoService.InviteRequests

/-! The background fulfillment of an invite request. It commits three times, with the
drafting and the sending of the email between the second commit and the third; a failure
after the first commit is recorded on the request. -/

namespace DemoService.InviteRequests

open PyText Fallible

def inviteRequestMaxUses : Nat := 10

/-- The calls on the session at which `fulfill_invite_request` can raise. -/
inductive DatabaseCall
  | commitProcessing
  | queryCode
  | commitCode
  | refresh
  | commitSent
  | reload
  | commitFailure
  deriving DecidableEq, Repr

/-- What one call meets: the codes it draws, the errors of its session, the drafter and
the sender, and the time. -/
structure Attempt where
  token : Nat → Text
  fault : DatabaseCall → Option Text
  draft : InvitationRequest → InvitationCode → Except Text EmailDraft
  send : EmailDraft → Except Text Unit
  now : Nat

def Attempt.call (attempt : Attempt) (c : DatabaseCall) : Except Text Unit :=
  match attempt.fault c with
  | some error => .error error
  | none => .ok ()

def Attempt.code (attempt : Attempt) (i : Nat) : Text := "demo-".toList ++ attempt.token i

def generateUniqueCode (attempt : Attempt) (db : Database) : Except Text Text :=
  match ((List.range 20).map attempt.code).find? (fun code => !db.codeTaken code) with
  | some code => .ok code
  | none => .error "Could not generate a unique invitation code.".toList

def requestExperienceId (request : InvitationRequest) : Except Text ExperienceId :=
  match request.label with
  | none => .ok .messyNotes
  | some label =>
    match parseExperienceId (some label) with
    | .ok experienceId => .ok experienceId
    | .error detail => .error detail.toList

def markProcessing (request : InvitationRequest) : InvitationRequest :=
  { request with fulfillmentStatus := .processing, fulfillmentError := none }

def markSent (now : Nat) (request : InvitationRequest) : InvitationRequest :=
  { request with
    status := .fulfilled
    fulfillmentStatus := .sent
    fulfilledAt := some now
    emailSentAt := some now
    fulfillmentError := none }

def markFailed (error : Text) (request : InvitationRequest) : InvitationRequest :=
  { request with
    status := .emailFailed
    fulfillmentStatus := .failed
    fulfillmentError := some error }

/-- From the query for an unused code to the commit of its row. -/
def issueCode (attempt : Attempt) (request : InvitationRequest) (db : Database) :
    Except Text InvitationCode := do
  attempt.call .queryCode
  let code ← generateUniqueCode attempt db
  let experienceId ← requestExperienceId request
  attempt.call .commitCode
  pure (newInvitationCode db.nextCodeId code experienceId (some inviteRequestMaxUses)
    (some request.id))

/-- From the refresh of the committed rows to the sending of the email. -/
def deliver (attempt : Attempt) (request : InvitationRequest) (code : InvitationCode) :
    Except Text EmailDraft := do
  attempt.call .refresh
  let draft ← attempt.draft request code
  attempt.send draft
  pure draft

/-- The handler of the try block, after its rollback. -/
def recordFailure (attempt : Attempt) (id : Nat) (error : Text) (db : Database) : Database :=
  match attempt.fault .commitFailure with
  | some _ => db
  | none => db.updateRequest id (markFailed error)

structure Outcome where
  db : Database
  delivered : List EmailDraft
  deriving DecidableEq, Repr

/-- The end of the try block, once the email is sent. -/
def finish (attempt : Attempt) (id : Nat) (draft : EmailDraft) (db : Database) : Outcome :=
  match attempt.call .commitSent with
  | .error error => ⟨recordFailure attempt id error db, [draft]⟩
  | .ok _ =>
    let sent := db.updateRequest id (markSent attempt.now)
    match attempt.call .reload with
    | .error error => ⟨recordFailure attempt id error sent, [draft]⟩
    | .ok _ => ⟨sent, [draft]⟩

/-- The try block: the request has no code yet and is being processed. -/
def process (attempt : Attempt) (request : InvitationRequest) (db : Database) : Outcome :=
  match issueCode attempt request db with
  | .error error => ⟨recordFailure attempt request.id error db, []⟩
  | .ok code =>
    let issued := db.insertCode code
    match deliver attempt request code with
    | .error error => ⟨recordFailure attempt request.id error issued, []⟩
    | .ok draft => finish attempt request.id draft issued

def fulfillInviteRequest (attempt : Attempt) (id : Nat) (db : Database) : Outcome :=
  match db.request id with
  | none => ⟨db, []⟩
  | some request =>
    if db.codesOf id ≠ [] then ⟨db, []⟩
    else
      match attempt.fault .commitProcessing with
      | some _ => ⟨db, []⟩
      | none => process attempt (markProcessing request) (db.updateRequest id markProcessing)

/-! ### What a call does -/

theorem generateUniqueCode_eq_ok {attempt : Attempt} {db : Database} {code : Text}
    (h : generateUniqueCode attempt db = .ok code) :
    db.codeTaken code = false ∧ ∃ i < 20, attempt.code i = code := by
  unfold generateUniqueCode at h
  split at h
  · rename_i found hfound
    obtain rfl : found = code := Except.ok.inj h
    obtain ⟨i, hi, rfl⟩ := List.mem_map.mp (List.mem_of_find?_eq_some hfound)
    exact ⟨by simpa using List.find?_some hfound, i, List.mem_range.mp hi, rfl⟩
  · cases h

theorem generateUniqueCode_succeeds_iff {attempt : Attempt} {db : Database} :
    Succeeds (generateUniqueCode attempt db) ↔
      ∃ i < 20, db.codeTaken (attempt.code i) = false := by
  constructor
  · rintro ⟨code, hcode⟩
    obtain ⟨hfree, i, hi, rfl⟩ := generateUniqueCode_eq_ok hcode
    exact ⟨i, hi, hfree⟩
  · rintro ⟨i, hi, hfree⟩
    unfold generateUniqueCode
    split
    · exact ⟨_, rfl⟩
    · rename_i hnone
      have htaken := List.find?_eq_none.mp hnone (attempt.code i)
        (List.mem_map.mpr ⟨i, List.mem_range.mpr hi, rfl⟩)
      simp [hfree] at htaken

theorem Attempt.call_eq_ok {attempt : Attempt} {c : DatabaseCall} {u : Unit} :
    attempt.call c = .ok u ↔ attempt.fault c = none := by
  cases h : attempt.fault c <;> simp [call, h]

def LabelSupported (label : Option String) : Prop :=
  label = none ∨ ∃ experienceId : ExperienceId, label = some experienceId.value

theorem requestExperienceId_succeeds_iff {request : InvitationRequest} :
    Succeeds (requestExperienceId request) ↔ LabelSupported request.label := by
  cases hlabel : request.label with
  | none => simp [requestExperienceId, LabelSupported, hlabel, Succeeds]
  | some label =>
    simp only [requestExperienceId, LabelSupported, hlabel, reduceCtorEq, Option.some.injEq,
      false_or]
    constructor
    · rintro ⟨experienceId, h⟩
      cases hparse : parseExperienceId (some label) with
      | error detail => simp [hparse] at h
      | ok found => exact ⟨found, parseExperienceId_eq_ok hparse⟩
    · rintro ⟨experienceId, rfl⟩
      rw [parseExperienceId_value]
      exact ⟨experienceId, rfl⟩

theorem issueCode_eq_ok {attempt : Attempt} {request : InvitationRequest} {db : Database}
    {code : InvitationCode} (h : issueCode attempt request db = .ok code) :
    code.invitationRequestId = some request.id := by
  obtain ⟨-, -, h⟩ := bind_eq_ok.mp h
  obtain ⟨text, -, h⟩ := bind_eq_ok.mp h
  obtain ⟨experienceId, -, h⟩ := bind_eq_ok.mp h
  obtain ⟨-, -, h⟩ := bind_eq_ok.mp h
  obtain rfl := pure_eq_ok.mp h
  rfl

/-- What stops a call before its code is committed, if the label is supported. -/
def Attempt.StopsBeforeCode (attempt : Attempt) (db : Database) : Prop :=
  attempt.fault .commitProcessing ≠ none ∨ attempt.fault .queryCode ≠ none ∨
    attempt.fault .commitCode ≠ none ∨ ∀ i < 20, db.codeTaken (attempt.code i) = true

theorem issueCode_succeeds_iff (attempt : Attempt) (request : InvitationRequest)
    (db : Database) :
    Succeeds (issueCode attempt request db) ↔
      attempt.fault .queryCode = none ∧ (∃ i < 20, db.codeTaken (attempt.code i) = false) ∧
        LabelSupported request.label ∧ attempt.fault .commitCode = none := by
  simp only [issueCode, succeeds_bind, succeeds_pure, Attempt.call_eq_ok, and_true,
    ← requestExperienceId_succeeds_iff, ← generateUniqueCode_succeeds_iff]
  constructor
  · rintro ⟨-, hquery, code, hcode, experienceId, hlabel, -, hcommit⟩
    exact ⟨hquery, ⟨code, hcode⟩, ⟨experienceId, hlabel⟩, hcommit⟩
  · rintro ⟨hquery, ⟨code, hcode⟩, ⟨experienceId, hlabel⟩, hcommit⟩
    exact ⟨(), hquery, code, hcode, experienceId, hlabel, (), hcommit⟩

theorem deliver_eq_ok {attempt : Attempt} {request : InvitationRequest} {code : InvitationCode}
    {draft : EmailDraft} :
    deliver attempt request code = .ok draft ↔
      attempt.fault .refresh = none ∧ attempt.draft request code = .ok draft ∧
        attempt.send draft = .ok () := by
  simp only [deliver, bind_eq_ok, pure_eq_ok, Attempt.call_eq_ok]
  constructor
  · rintro ⟨_, hrefresh, found, hdraft, _, hsend, rfl⟩
    exact ⟨hrefresh, hdraft, hsend⟩
  · rintro ⟨hrefresh, hdraft, hsend⟩
    exact ⟨(), hrefresh, draft, hdraft, (), hsend, rfl⟩

theorem codes_recordFailure (attempt : Attempt) (id : Nat) (error : Text) (db : Database) :
    (recordFailure attempt id error db).codes = db.codes := by
  cases h : attempt.fault .commitFailure <;> simp [recordFailure, h, Database.updateRequest]

theorem codes_finish (attempt : Attempt) (id : Nat) (draft : EmailDraft) (db : Database) :
    (finish attempt id draft db).db.codes = db.codes := by
  cases hsent : attempt.call .commitSent with
  | error error => simp [finish, hsent, codes_recordFailure]
  | ok _ =>
    cases hreload : attempt.call .reload <;>
      simp [finish, hsent, hreload, codes_recordFailure, Database.updateRequest]

theorem codes_process_of_ok {attempt : Attempt} {request : InvitationRequest} {db : Database}
    {code : InvitationCode} (h : issueCode attempt request db = .ok code) :
    (process attempt request db).db.codes = db.codes ++ [code] := by
  cases hdeliver : deliver attempt request code with
  | error error => simp [process, h, hdeliver, codes_recordFailure, Database.insertCode]
  | ok draft => simp [process, h, hdeliver, codes_finish, Database.insertCode]

theorem codes_process_of_error {attempt : Attempt} {request : InvitationRequest}
    {db : Database} {error : Text} (h : issueCode attempt request db = .error error) :
    (process attempt request db).db.codes = db.codes := by
  simp [process, h, codes_recordFailure]

theorem fulfill_of_linked (attempt : Attempt) {id : Nat} {db : Database}
    (h : db.codesOf id ≠ []) : fulfillInviteRequest attempt id db = ⟨db, []⟩ := by
  cases hrequest : db.request id <;> simp [fulfillInviteRequest, hrequest, h]

/-- Either the call stops before its code is committed and leaves the codes as they were,
or it commits one code linked to the request. -/
theorem codes_fulfill (attempt : Attempt) {id : Nat} {db : Database}
    {request : InvitationRequest} (hrequest : db.request id = some request)
    (hnone : db.codesOf id = []) :
    ((attempt.StopsBeforeCode db ∨ ¬LabelSupported request.label) ∧
        (fulfillInviteRequest attempt id db).db.codes = db.codes) ∨
      (¬(attempt.StopsBeforeCode db ∨ ¬LabelSupported request.label) ∧
        ∃ code : InvitationCode, code.invitationRequestId = some id ∧
          (fulfillInviteRequest attempt id db).db.codes = db.codes ++ [code]) := by
  cases hbegin : attempt.fault .commitProcessing with
  | some error =>
    refine .inl ⟨.inl (.inl (by simp [hbegin])), ?_⟩
    simp [fulfillInviteRequest, hrequest, hnone, hbegin]
  | none =>
    have hfulfill : fulfillInviteRequest attempt id db =
        process attempt (markProcessing request) (db.updateRequest id markProcessing) := by
      simp [fulfillInviteRequest, hrequest, hnone, hbegin]
    have hiff := issueCode_succeeds_iff attempt (markProcessing request)
      (db.updateRequest id markProcessing)
    simp only [Database.codeTaken_updateRequest] at hiff
    rw [hfulfill]
    cases hissue : issueCode attempt (markProcessing request)
        (db.updateRequest id markProcessing) with
    | error error =>
      refine .inl ⟨?_, codes_process_of_error hissue⟩
      by_contra hstops
      simp only [Attempt.StopsBeforeCode, not_or, not_not, not_forall, exists_prop,
        Bool.not_eq_true] at hstops
      obtain ⟨⟨-, hquery, hcode, hfree⟩, hlabel⟩ := hstops
      obtain ⟨code, hok⟩ := hiff.mpr ⟨hquery, hfree, hlabel, hcode⟩
      exact absurd (hok.symm.trans hissue) (by simp)
    | ok code =>
      obtain ⟨hquery, ⟨i, hi, hfree⟩, hlabel, hcode⟩ := hiff.mp ⟨code, hissue⟩
      refine .inr ⟨?_, code, ?_, codes_process_of_ok hissue⟩
      · rintro ((h | h | h | h) | h)
        · exact h hbegin
        · exact h hquery
        · exact h hcode
        · simp [h i hi] at hfree
        · exact h hlabel
      · exact Database.request_id hrequest ▸ issueCode_eq_ok hissue

/-! ### What every call keeps -/

inductive FulfillmentUpdate : (InvitationRequest → InvitationRequest) → Prop
  | processing : FulfillmentUpdate markProcessing
  | sent (now : Nat) : FulfillmentUpdate (markSent now)
  | failed (error : Text) : FulfillmentUpdate (markFailed error)

theorem FulfillmentUpdate.id_eq {f : InvitationRequest → InvitationRequest}
    (h : FulfillmentUpdate f) (request : InvitationRequest) : (f request).id = request.id := by
  cases h <;> rfl

/-- A relation between the tables before and after that every commit of the fulfillment
keeps. -/
structure Carried (R : Database → Database → Prop) : Prop where
  refl : ∀ db, R db db
  trans : ∀ a b c, R a b → R b c → R a c
  update : ∀ db id f, FulfillmentUpdate f → R db (db.updateRequest id f)
  insert : ∀ db code, R db (db.insertCode code)

section Carried

variable {R : Database → Database → Prop}

theorem Carried.recordFailure (h : Carried R) (attempt : Attempt) (id : Nat) (error : Text)
    (db : Database) : R db (recordFailure attempt id error db) := by
  cases hfault : attempt.fault .commitFailure with
  | none => simpa [InviteRequests.recordFailure, hfault] using h.update db id _ (.failed error)
  | some e => simpa [InviteRequests.recordFailure, hfault] using h.refl db

theorem Carried.finish (h : Carried R) (attempt : Attempt) (id : Nat) (draft : EmailDraft)
    (db : Database) : R db (finish attempt id draft db).db := by
  have hsent := h.update db id _ (.sent attempt.now)
  cases hcommit : attempt.call .commitSent with
  | error error =>
    simpa [InviteRequests.finish, hcommit] using h.recordFailure attempt id error db
  | ok _ =>
    cases hreload : attempt.call .reload with
    | error error =>
      simpa [InviteRequests.finish, hcommit, hreload] using
        h.trans _ _ _ hsent (h.recordFailure attempt id error _)
    | ok _ => simpa [InviteRequests.finish, hcommit, hreload] using hsent

theorem Carried.process (h : Carried R) (attempt : Attempt) (request : InvitationRequest)
    (db : Database) : R db (process attempt request db).db := by
  cases hissue : issueCode attempt request db with
  | error error =>
    simpa [InviteRequests.process, hissue] using h.recordFailure attempt request.id error db
  | ok code =>
    have hinsert := h.insert db code
    cases hdeliver : deliver attempt request code with
    | error error =>
      simpa [InviteRequests.process, hissue, hdeliver] using
        h.trans _ _ _ hinsert (h.recordFailure attempt request.id error _)
    | ok draft =>
      simpa [InviteRequests.process, hissue, hdeliver] using
        h.trans _ _ _ hinsert (h.finish attempt request.id draft _)

theorem Carried.fulfill (h : Carried R) (attempt : Attempt) (id : Nat) (db : Database) :
    R db (fulfillInviteRequest attempt id db).db := by
  cases hrequest : db.request id with
  | none => simpa [fulfillInviteRequest, hrequest] using h.refl db
  | some request =>
    by_cases hnone : db.codesOf id = []
    · cases hbegin : attempt.fault .commitProcessing with
      | some error => simpa [fulfillInviteRequest, hrequest, hnone, hbegin] using h.refl db
      | none =>
        have hmark := h.update db id _ .processing
        simpa [fulfillInviteRequest, hrequest, hnone, hbegin] using
          h.trans _ _ _ hmark (h.process attempt (markProcessing request) _)
    · simpa [fulfill_of_linked attempt hnone] using h.refl db

end Carried

end DemoService.InviteRequests
