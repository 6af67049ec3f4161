import DemoService.InvitationModel

/-! Invite requests, and the admin endpoints that review them and issue codes for them.
Each call is one transaction over the two tables; a refused call leaves them alone. -/

namespace DemoService.InviteRequests

open PyText

inductive RequestStatus
  | submitted
  | reviewed
  | approved
  | rejected
  | fulfilled
  | emailFailed
  deriving DecidableEq, Repr

inductive FulfillmentStatus
  | pending
  | processing
  | sent
  | failed
  deriving DecidableEq, Repr

structure InvitationRequest where
  id : Nat
  name : Text
  email : Text
  label : Option String
  reason : Text
  status : RequestStatus
  reviewedAt : Option Nat
  reviewerNote : Option Text
  fulfillmentStatus : FulfillmentStatus
  fulfilledAt : Option Nat
  emailSentAt : Option Nat
  fulfillmentError : Option Text
  deriving DecidableEq, Repr

/-- The two tables with their identity columns. -/
structure Database where
  requests : List InvitationRequest
  codes : List InvitationCode
  nextRequestId : Nat
  nextCodeId : Nat
  deriving DecidableEq, Repr

/-! ### The tables -/

def Database.request (db : Database) (id : Nat) : Option InvitationRequest :=
  db.requests.find? (·.id = id)

def Database.statusOf (db : Database) (id : Nat) : Option RequestStatus :=
  (db.request id).map (·.status)

def Database.codesOf (db : Database) (id : Nat) : List InvitationCode :=
  db.codes.filter (·.invitationRequestId = some id)

def Database.codeTaken (db : Database) (code : Text) : Bool :=
  db.codes.any (·.code = code)

def Database.updateRequest (db : Database) (id : Nat)
    (f : InvitationRequest → InvitationRequest) : Database :=
  { db with requests := db.requests.map (fun row => if row.id = id then f row else row) }

def Database.insertRequest (db : Database) (row : InvitationRequest) : Database :=
  { db with requests := db.requests ++ [row], nextRequestId := db.nextRequestId + 1 }

def Database.insertCode (db : Database) (row : InvitationCode) : Database :=
  { db with codes := db.codes ++ [row], nextCodeId := db.nextCodeId + 1 }

@[simp] theorem Database.request_insertCode (db : Database) (row : InvitationCode) (id : Nat) :
    (db.insertCode row).request id = db.request id := rfl

@[simp] theorem Database.codesOf_updateRequest (db : Database) (id other : Nat)
    (f : InvitationRequest → InvitationRequest) :
    (db.updateRequest id f).codesOf other = db.codesOf other := rfl

@[simp] theorem Database.codesOf_insertRequest (db : Database) (row : InvitationRequest)
    (id : Nat) : (db.insertRequest row).codesOf id = db.codesOf id := rfl

@[simp] theorem Database.codeTaken_updateRequest (db : Database) (id : Nat)
    (f : InvitationRequest → InvitationRequest) (code : Text) :
    (db.updateRequest id f).codeTaken code = db.codeTaken code := rfl

theorem Database.codesOf_insertCode (db : Database) (row : InvitationCode) (id : Nat) :
    (db.insertCode row).codesOf id =
      if row.invitationRequestId = some id then db.codesOf id ++ [row] else db.codesOf id := by
  by_cases hid : row.invitationRequestId = some id <;>
    simp [insertCode, codesOf, hid]

theorem codesOf_append {db after : Database} {id : Nat} {code : InvitationCode}
    (h : after.codes = db.codes ++ [code]) (hlink : code.invitationRequestId = some id) :
    after.codesOf id = db.codesOf id ++ [code] := by
  simp [Database.codesOf, h, hlink]

/-- An update of a row that keeps its id is seen under that id alone. -/
theorem Database.request_updateRequest (db : Database) (id other : Nat)
    {f : InvitationRequest → InvitationRequest} (hf : ∀ row, (f row).id = row.id) :
    (db.updateRequest id f).request other =
      if other = id then (db.request other).map f else db.request other := by
  obtain ⟨requests, codes, nextRequestId, nextCodeId⟩ := db
  simp only [updateRequest, request]
  induction requests with
  | nil => simp
  | cons row rows ih =>
    by_cases hother : row.id = other
    · by_cases hid : other = id
      · simp [hother, hid, hf]
      · simp [hother, hid]
    · by_cases hid : row.id = id
      · simpa [hid, hf, hother, hid ▸ hother] using ih
      · simpa [hid, hother] using ih

theorem Database.statusOf_updateRequest (db : Database) (id other : Nat)
    {f : InvitationRequest → InvitationRequest} (hf : ∀ row, (f row).id = row.id) :
    (db.updateRequest id f).statusOf other =
      if other = id then (db.request other).map (fun row => (f row).status)
      else db.statusOf other := by
  rw [statusOf, request_updateRequest db id other hf]
  by_cases hid : other = id <;> simp [hid, statusOf, Function.comp_def]

theorem Database.request_insertRequest (db : Database) (row : InvitationRequest) (id : Nat) :
    (db.insertRequest row).request id =
      (db.request id).or (if row.id = id then some row else none) := by
  by_cases hid : row.id = id <;>
    simp [insertRequest, request, List.find?_append, hid]

theorem Database.request_id {db : Database} {id : Nat} {row : InvitationRequest}
    (h : db.request id = some row) : row.id = id := by
  simpa using List.find?_some h

/-! ### Public requests -/

structure InviteRequestCreate where
  name : Text
  email : Text
  experienceId : ExperienceId
  reason : Text
  deriving DecidableEq, Repr

/-- The row `create_invite_request` commits before it queues the fulfillment. -/
def newInvitationRequest (id : Nat) (payload : InviteRequestCreate) : InvitationRequest :=
  { id, name := payload.name, email := payload.email, label := some payload.experienceId.value,
    reason := payload.reason, status := .submitted, reviewedAt := none, reviewerNote := none,
    fulfillmentStatus := .pending, fulfilledAt := none, emailSentAt := none,
    fulfillmentError := none }

def createInviteRequest (payload : InviteRequestCreate) (db : Database) : Database :=
  db.insertRequest (newInvitationRequest db.nextRequestId payload)

/-! ### Email drafts -/

structure EmailDraft where
  provider : Text
  toEmail : Text
  subject : Text
  textBody : Text
  htmlBody : Text
  sendReady : Bool
  deriving DecidableEq, Repr

structure EmailSettings where
  emailProvider : String
  inviteEmailBaseUrl : Text
  deriving DecidableEq, Repr

def EmailSettings.providerName (settings : EmailSettings) : Text :=
  if settings.emailProvider = "oci" then "oci-email-delivery".toList else "stub".toList

def baseUrl (settings : EmailSettings) : Text :=
  settings.inviteEmailBaseUrl.rdropWhile (· == '/')

/-- `StubEmailProvider.build_invite_email`, which the OCI provider inherits. -/
def buildInviteEmail (settings : EmailSettings) (request : InvitationRequest)
    (code : InvitationCode) : EmailDraft :=
  { provider := settings.providerName
    toEmail := request.email
    subject := "Your messy-notes demo invitation".toList
    textBody :=
      "Hi ".toList ++ request.name ++ ",\n\n".toList ++
      "Thanks for requesting access to the messy-notes demo. ".toList ++
      "Use this invitation code to enter the demo: ".toList ++ code.code ++ "\n\n".toList ++
      "Start here: ".toList ++ baseUrl settings ++ "/\n\n".toList ++
      "This is an invite-only phase-1 demo. It supports pasted text, text ".toList ++
      "files, and PDFs with extractable text. It does not support OCR, ".toList ++
      "images, audio, video, or web lookup.\n".toList
    htmlBody :=
      "<p>Hi ".toList ++ request.name ++ ",</p>".toList ++
      "<p>Thanks for requesting access to the messy-notes demo.</p>".toList ++
      "<p><strong>Invitation code:</strong> ".toList ++ code.code ++ "</p>".toList ++
      "<p>Start here: <a href=\"".toList ++ baseUrl settings ++ "/\">".toList ++
      baseUrl settings ++ "/</a></p>".toList ++
      "<p>This phase-1 demo supports pasted text, text files, and PDFs ".toList ++
      "with extractable text. It does not support OCR, images, audio, ".toList ++
      "video, or web lookup.</p>".toList
    sendReady := false }

/-! ### Admin endpoints -/

structure CreateInvitationCodeRequest where
  code : Option Text
  label : ExperienceId := .messyNotes
  maxUses : Option Nat
  invitationRequestId : Option Nat
  deriving DecidableEq, Repr

inductive ReviewOutcome
  | reviewed
  | approved
  | rejected
  deriving DecidableEq, Repr

def ReviewOutcome.status : ReviewOutcome → RequestStatus
  | .reviewed => .reviewed
  | .approved => .approved
  | .rejected => .rejected

structure InvitationRequestReviewRequest where
  status : ReviewOutcome := .reviewed
  reviewerNote : Option Text
  deriving DecidableEq, Repr

structure IssueInviteCodeDraftRequest where
  code : Option Text
  label : Option ExperienceId
  maxUses : Option Nat := some 1
  reviewerNote : Option Text
  deriving DecidableEq, Repr

/-- `payload.code.strip() if payload.code else f"demo-{token}"`. -/
def chosenCode (code : Option Text) (token : Text) : Text :=
  match code with
  | some (c :: cs) => strip (c :: cs)
  | _ => "demo-".toList ++ token

/-- `payload.label` if given, else the request's label, else the messy-notes experience. -/
def issuedLabel (label : Option ExperienceId) (requested : Option String) : String :=
  match label with
  | some experienceId => experienceId.value
  | none =>
    match requested with
    | some value => if value = "" then ExperienceId.messyNotes.value else value
    | none => ExperienceId.messyNotes.value

def getInviteRequestOr404 (db : Database) (id : Nat) : Except HttpException InvitationRequest :=
  match db.request id with
  | some request => .ok request
  | none => .error ⟨404, "Invite request not found."⟩

def requestCode (db : Database) (id : Nat) : Option InvitationCode :=
  ((db.codesOf id).mergeSort (·.id ≤ ·.id)).head?

theorem requestCode_eq_none {db : Database} {id : Nat} :
    requestCode db id = none ↔ db.codesOf id = [] := by
  rw [requestCode, List.head?_eq_none_iff, ← List.length_eq_zero_iff, List.length_mergeSort,
    List.length_eq_zero_iff]

/-- A request that is only submitted counts as reviewed once a code is created for it. -/
def markReviewed (now : Nat) (request : InvitationRequest) : InvitationRequest :=
  if request.status = .submitted then
    { request with status := .reviewed, reviewedAt := some now }
  else request

def createInvitationCode (payload : CreateInvitationCodeRequest) (token : Text) (now : Nat)
    (db : Database) : Except HttpException (InvitationCode × Database) :=
  let code := chosenCode payload.code token
  let row := newInvitationCode db.nextCodeId code payload.label payload.maxUses
    payload.invitationRequestId
  if db.codeTaken code then
    .error ⟨409, "Invitation code already exists."⟩
  else
    match payload.invitationRequestId with
    | none => .ok (row, db.insertCode row)
    | some id =>
      match getInviteRequestOr404 db id with
      | .error e => .error e
      | .ok _ => .ok (row, (db.updateRequest id (markReviewed now)).insertCode row)

def recordReview (status : RequestStatus) (note : Option Text) (now : Nat)
    (request : InvitationRequest) : InvitationRequest :=
  { request with status, reviewedAt := some now, reviewerNote := note }

def reviewInviteRequest (id : Nat) (payload : InvitationRequestReviewRequest) (now : Nat)
    (db : Database) : Except HttpException Database :=
  match getInviteRequestOr404 db id with
  | .error e => .error e
  | .ok request =>
    if request.status = .rejected ∧ payload.status = .approved then
      .error ⟨409, "Rejected invite requests cannot be approved in place."⟩
    else
      .ok (db.updateRequest id (recordReview payload.status.status payload.reviewerNote now))

/-- The row `issue_invite_code_draft` inserts. -/
def draftedCode (id : Nat) (code : Text) (payload : IssueInviteCodeDraftRequest)
    (request : InvitationRequest) : InvitationCode :=
  { id, code, label := some (issuedLabel payload.label request.label), isActive := true,
    maxUses := payload.maxUses, useCount := 0, lastUsedAt := none,
    invitationRequestId := some request.id }

structure IssuedDraft where
  request : InvitationRequest
  invitationCode : InvitationCode
  emailDraft : EmailDraft
  deriving DecidableEq, Repr

def issueInviteCodeDraft (settings : EmailSettings) (id : Nat)
    (payload : IssueInviteCodeDraftRequest) (token : Text) (now : Nat) (db : Database) :
    Except HttpException (IssuedDraft × Database) :=
  match getInviteRequestOr404 db id with
  | .error e => .error e
  | .ok request =>
    if (requestCode db id).isSome then
      .error ⟨409, "Invite request already has an issued invitation code."⟩
    else if request.status = .rejected then
      .error ⟨409, "Rejected invite requests cannot receive an invitation code."⟩
    else
      let code := chosenCode payload.code token
      if db.codeTaken code then
        .error ⟨409, "Invitation code already exists."⟩
      else
        let row := draftedCode db.nextCodeId code payload request
        let approve := recordReview .approved payload.reviewerNote now
        .ok (⟨approve request, row, buildInviteEmail settings (approve request) row⟩,
          (db.updateRequest id approve).insertCode row)

/-! ### What the endpoints do -/

@[simp] theorem markReviewed_id (now : Nat) (request : InvitationRequest) :
    (markReviewed now request).id = request.id := by
  by_cases h : request.status = .submitted <;> simp [markReviewed, h]

theorem statusOf_recordReview (db : Database) (id other : Nat) (status : RequestStatus)
    (note : Option Text) (now : Nat) :
    (db.updateRequest id (recordReview status note now)).statusOf other =
      if other = id then (db.request other).map (fun _ => status) else db.statusOf other :=
  db.statusOf_updateRequest id other fun _ => rfl

theorem createInvitationCode_of_free {payload : CreateInvitationCodeRequest} {token : Text}
    (now : Nat) {id : Nat} {db : Database} {request : InvitationRequest}
    (hfree : db.codeTaken (chosenCode payload.code token) = false)
    (hid : payload.invitationRequestId = some id) (hrequest : db.request id = some request) :
    ∃ row, row.invitationRequestId = some id ∧ createInvitationCode payload token now db =
      .ok (row, (db.updateRequest id (markReviewed now)).insertCode row) := by
  simp [createInvitationCode, hfree, hid, getInviteRequestOr404, hrequest, newInvitationCode]

theorem createInvitationCode_eq_ok {payload : CreateInvitationCodeRequest} {token : Text}
    {now : Nat} {db db' : Database} {row : InvitationCode}
    (h : createInvitationCode payload token now db = .ok (row, db')) :
    db.codeTaken (chosenCode payload.code token) = false ∧
      row.invitationRequestId = payload.invitationRequestId ∧
      ((payload.invitationRequestId = none ∧ db' = db.insertCode row) ∨
        ∃ id request, payload.invitationRequestId = some id ∧ db.request id = some request ∧
          db' = (db.updateRequest id (markReviewed now)).insertCode row) := by
  simp only [createInvitationCode] at h
  by_cases htaken : db.codeTaken (chosenCode payload.code token) = true
  · simp [htaken] at h
  · have hfree : db.codeTaken (chosenCode payload.code token) = false := by simpa using htaken
    refine ⟨hfree, ?_⟩
    cases hid : payload.invitationRequestId with
    | none =>
      simp only [hfree, hid, Bool.false_eq_true, if_false, Except.ok.injEq, Prod.mk.injEq] at h
      obtain ⟨rfl, rfl⟩ := h
      simp [newInvitationCode]
    | some id =>
      cases hrequest : db.request id with
      | none => simp [hfree, hid, getInviteRequestOr404, hrequest] at h
      | some request =>
        simp only [hfree, hid, getInviteRequestOr404, hrequest, Bool.false_eq_true, if_false,
          Except.ok.injEq, Prod.mk.injEq] at h
        obtain ⟨rfl, rfl⟩ := h
        exact ⟨rfl, .inr ⟨id, request, rfl, hrequest, rfl⟩⟩

theorem reviewInviteRequest_of_request {id : Nat} (now : Nat) {db : Database}
    {payload : InvitationRequestReviewRequest} {request : InvitationRequest}
    (hrequest : db.request id = some request)
    (hplace : ¬(request.status = .rejected ∧ payload.status = .approved)) :
    reviewInviteRequest id payload now db =
      .ok (db.updateRequest id (recordReview payload.status.status payload.reviewerNote now)) := by
  simp [reviewInviteRequest, getInviteRequestOr404, hrequest, hplace]

theorem reviewInviteRequest_eq_ok {id now : Nat} {payload : InvitationRequestReviewRequest}
    {db db' : Database} (h : reviewInviteRequest id payload now db = .ok db') :
    ∃ request, db.request id = some request ∧
      ¬(request.status = .rejected ∧ payload.status = .approved) ∧
      db' = db.updateRequest id (recordReview payload.status.status payload.reviewerNote now) := by
  cases hrequest : db.request id with
  | none => simp [reviewInviteRequest, getInviteRequestOr404, hrequest] at h
  | some request =>
    simp only [reviewInviteRequest, getInviteRequestOr404, hrequest] at h
    by_cases hplace : request.status = .rejected ∧ payload.status = .approved
    · simp [hplace] at h
    · rw [if_neg hplace] at h
      exact ⟨request, rfl, hplace, (Except.ok.inj h).symm⟩

theorem issueInviteCodeDraft_of_free (settings : EmailSettings) {id : Nat} (now : Nat)
    {payload : IssueInviteCodeDraftRequest} {token : Text} {db : Database}
    {request : InvitationRequest} (hrequest : db.request id = some request)
    (hnone : db.codesOf id = []) (hstatus : request.status ≠ .rejected)
    (hfree : db.codeTaken (chosenCode payload.code token) = false) :
    ∃ draft : IssuedDraft, issueInviteCodeDraft settings id payload token now db = .ok (draft,
      (db.updateRequest id (recordReview .approved payload.reviewerNote now)).insertCode
        draft.invitationCode) := by
  have hissued := requestCode_eq_none.mpr hnone
  simp [issueInviteCodeDraft, getInviteRequestOr404, hrequest, hissued, hstatus, hfree]

theorem issueInviteCodeDraft_eq_ok {settings : EmailSettings} {id now : Nat}
    {payload : IssueInviteCodeDraftRequest} {token : Text} {db db' : Database}
    {draft : IssuedDraft}
    (h : issueInviteCodeDraft settings id payload token now db = .ok (draft, db')) :
    ∃ request, db.request id = some request ∧ db.codesOf id = [] ∧
      request.status ≠ .rejected ∧
      db.codeTaken (chosenCode payload.code token) = false ∧
      draft.invitationCode.invitationRequestId = some id ∧
      db' = (db.updateRequest id (recordReview .approved payload.reviewerNote now)).insertCode
        draft.invitationCode := by
  cases hrequest : db.request id with
  | none => simp [issueInviteCodeDraft, getInviteRequestOr404, hrequest] at h
  | some request =>
    simp only [issueInviteCodeDraft, getInviteRequestOr404, hrequest] at h
    by_cases hissued : (requestCode db id).isSome = true
    · simp [hissued] at h
    · have hnone : requestCode db id = none := by simpa using hissued
      by_cases hrejected : request.status = .rejected
      · simp [hnone, hrejected] at h
      · by_cases htaken : db.codeTaken (chosenCode payload.code token) = true
        · simp [hnone, hrejected, htaken] at h
        · have hfree : db.codeTaken (chosenCode payload.code token) = false := by
            simpa using htaken
          simp only [hnone, hrejected, hfree, Option.isSome_none, Bool.false_eq_true, if_false,
            Except.ok.injEq, Prod.mk.injEq] at h
          obtain ⟨rfl, rfl⟩ := h
          exact ⟨request, rfl, requestCode_eq_none.mp hnone, hrejected, hfree,
            congrArg some (Database.request_id hrequest), rfl⟩

end DemoService.InviteRequests
