import DemoService.GuardedRuns
import DemoService.InviteFulfillment

/-! Rejected requests over runs of the four operations that change a request, and of the
public endpoint that submits one. A run keeps every state of the tables it went through. -/

namespace DemoService.InviteRequests

open PyText GuardedRuns

inductive Operation
  | createInviteRequest (payload : InviteRequestCreate)
  | createInvitationCode (payload : CreateInvitationCodeRequest) (token : Text) (now : Nat)
  | reviewInviteRequest (id : Nat) (payload : InvitationRequestReviewRequest) (now : Nat)
  | issueInviteCodeDraft (id : Nat) (payload : IssueInviteCodeDraftRequest) (token : Text)
      (now : Nat)
  | fulfillInviteRequest (id : Nat) (attempt : Attempt)

/-- The tables after an operation; a refused one changes nothing. -/
def Operation.apply (settings : EmailSettings) (db : Database) : Operation → Database
  | .createInviteRequest payload => InviteRequests.createInviteRequest payload db
  | .createInvitationCode payload token now =>
    match InviteRequests.createInvitationCode payload token now db with
    | .ok (_, after) => after
    | .error _ => db
  | .reviewInviteRequest id payload now =>
    match InviteRequests.reviewInviteRequest id payload now db with
    | .ok after => after
    | .error _ => db
  | .issueInviteCodeDraft id payload token now =>
    match InviteRequests.issueInviteCodeDraft settings id payload token now db with
    | .ok (_, after) => after
    | .error _ => db
  | .fulfillInviteRequest id attempt => (InviteRequests.fulfillInviteRequest attempt id db).db

structure System where
  db : Database
  /-- The tables before each operation so far, the latest first. -/
  past : List Database
  deriving DecidableEq, Repr

def System.start (db : Database) : System := { db, past := [] }

def System.history (s : System) : List Database := s.db :: s.past

def System.step (settings : EmailSettings) (s : System) (op : Operation) : Option System :=
  some { db := op.apply settings s.db, past := s.history }

/-- The law: no operation adds a code to a request that is rejected when it begins, and a
request that was rejected is never approved later. The latest tables come first. -/
structure StaysRejected (history : List Database) : Prop where
  noCode : history.IsChain fun after before =>
    ∀ id, before.statusOf id = some .rejected → after.codesOf id = before.codesOf id
  notApproved : history.Pairwise fun later earlier =>
    ∀ id, earlier.statusOf id = some .rejected → later.statusOf id ≠ some .approved

def System.WasRejected (s : System) (id : Nat) : Prop :=
  ∃ db ∈ s.history, db.statusOf id = some .rejected

/-- What an operation must meet. The two operations that do not look for a rejection may
reach a rejected request only where another check stops them, and approvals may reach a
request that was ever rejected only where it is refused. -/
def Operation.Respects (s : System) : Operation → Prop
  | .createInviteRequest _ => True
  | .createInvitationCode payload token _ =>
    ∀ id, payload.invitationRequestId = some id → s.db.statusOf id = some .rejected →
      s.db.codeTaken (chosenCode payload.code token) = true
  | .reviewInviteRequest id payload _ =>
    ∀ request, s.db.request id = some request → payload.status = .approved →
      s.WasRejected id → request.status = .rejected
  | .issueInviteCodeDraft id payload token _ =>
    ∀ request, s.db.request id = some request → s.db.codesOf id = [] →
      request.status ≠ .rejected → s.db.codeTaken (chosenCode payload.code token) = false →
      ¬s.WasRejected id
  | .fulfillInviteRequest id attempt =>
    ∀ request, s.db.request id = some request → s.db.codesOf id = [] →
      request.status = .rejected →
      attempt.StopsBeforeCode s.db ∨ ¬LabelSupported request.label

/-! ### One operation -/

/-- What the law asks of the tables an operation leaves. -/
structure System.Keeps (s : System) (after : Database) : Prop where
  noCode : ∀ id, s.db.statusOf id = some .rejected → after.codesOf id = s.db.codesOf id
  notApproved : ∀ id, s.WasRejected id → after.statusOf id ≠ some .approved

theorem staysRejected_cons_iff {s : System} {after : Database} :
    StaysRejected (after :: s.history) ↔ StaysRejected s.history ∧ s.Keeps after := by
  constructor
  · rintro ⟨hchain, hpairs⟩
    have hchain' := List.isChain_cons_cons.mp hchain
    have hpairs' := List.pairwise_cons.mp hpairs
    exact ⟨⟨hchain'.2, hpairs'.2⟩, hchain'.1, fun id ⟨db, hmem, hdb⟩ => hpairs'.1 db hmem id hdb⟩
  · rintro ⟨⟨hchain, hpairs⟩, hcode, happroved⟩
    exact ⟨List.isChain_cons_cons.mpr ⟨hcode, hchain⟩,
      List.pairwise_cons.mpr ⟨fun db hmem id hdb => happroved id ⟨db, hmem, hdb⟩, hpairs⟩⟩

theorem StaysRejected.now {s : System} (h : StaysRejected s.history) :
    ∀ id, s.WasRejected id → s.db.statusOf id ≠ some .approved := by
  rintro id ⟨db, hmem, hdb⟩
  rcases List.mem_cons.mp hmem with rfl | hpast
  · simp [hdb]
  · exact (List.pairwise_cons.mp h.notApproved).1 db hpast id hdb

theorem carried_notApproved : Carried fun before after => ∀ id,
    before.statusOf id ≠ some .approved → after.statusOf id ≠ some .approved where
  refl _ _ h := h
  trans _ _ _ h h' := fun id hid => h' id (h id hid)
  update db id f hf other hother := by
    rw [Database.statusOf_updateRequest db id other hf.id_eq]
    by_cases hid : other = id
    · rw [if_pos hid]
      cases hrow : db.request other with
      | none => simp
      | some row =>
        rw [Database.statusOf, hrow] at hother
        cases hf with
        | processing => simpa [markProcessing] using hother
        | sent now => simp [markSent]
        | failed error => simp [markFailed]
    · rwa [if_neg hid]
  insert _ _ _ h := h

section OneOperation

variable {s : System} (hnow : ∀ id, s.WasRejected id → s.db.statusOf id ≠ some .approved)

include hnow

theorem keeps_same : s.Keeps s.db := ⟨fun _ _ => rfl, hnow⟩

theorem createInviteRequest_keeps (payload : InviteRequestCreate) :
    s.Keeps (createInviteRequest payload s.db) := by
  refine ⟨fun _ _ => rfl, fun id hid => ?_⟩
  have hstatus := hnow id hid
  rw [Database.statusOf, createInviteRequest, Database.request_insertRequest]
  cases hrow : s.db.request id with
  | some request => simpa [Database.statusOf, hrow] using hstatus
  | none =>
    by_cases hnew : (newInvitationRequest s.db.nextRequestId payload).id = id
    · rw [if_pos hnew]
      simp [newInvitationRequest]
    · simp [hnew]

theorem createInvitationCode_keeps_iff (settings : EmailSettings)
    (payload : CreateInvitationCodeRequest) (token : Text) (now : Nat) :
    s.Keeps ((Operation.createInvitationCode payload token now).apply settings s.db) ↔
      (Operation.createInvitationCode payload token now).Respects s := by
  constructor
  · intro hkeeps id hid hrejected
    by_contra htaken
    have hfree : s.db.codeTaken (chosenCode payload.code token) = false := by simpa using htaken
    obtain ⟨request, hrequest, -⟩ := Option.map_eq_some_iff.mp hrejected
    obtain ⟨row, hlink, hok⟩ := createInvitationCode_of_free now hfree hid hrequest
    have hsame := hkeeps.noCode id hrejected
    simp [Operation.apply, hok, Database.codesOf_insertCode, hlink] at hsame
  · intro hrespects
    cases hresult : createInvitationCode payload token now s.db with
    | error e => simpa [Operation.apply, hresult] using keeps_same hnow
    | ok result =>
      obtain ⟨row, after⟩ := result
      obtain ⟨hfree, hlink, hcases⟩ := createInvitationCode_eq_ok hresult
      simp only [Operation.apply, hresult]
      rcases hcases with ⟨hnone, rfl⟩ | ⟨id, request, hid, hrequest, rfl⟩
      · refine ⟨fun other _ => ?_, hnow⟩
        simp [Database.codesOf_insertCode, hlink, hnone]
      · have hnot : s.db.statusOf id ≠ some .rejected := fun hrejected => by
          simp [hrespects id hid hrejected] at hfree
        refine ⟨fun other hrejected => ?_, fun other hwas => ?_⟩
        · have hother : id ≠ other := fun h => hnot (h ▸ hrejected)
          simp [Database.codesOf_insertCode, hlink, hid, hother]
        · have hstatus := hnow other hwas
          change (s.db.updateRequest id (markReviewed now)).statusOf other ≠ some .approved
          rw [Database.statusOf_updateRequest s.db id other (markReviewed_id now)]
          by_cases hother : other = id
          · subst hother
            rw [Database.statusOf, hrequest] at hstatus
            by_cases hsubmitted : request.status = .submitted
            · simp [hrequest, markReviewed, hsubmitted]
            · simpa [hrequest, markReviewed, hsubmitted] using hstatus
          · simpa [hother] using hstatus

theorem reviewInviteRequest_keeps_iff (settings : EmailSettings) (id : Nat)
    (payload : InvitationRequestReviewRequest) (now : Nat) :
    s.Keeps ((Operation.reviewInviteRequest id payload now).apply settings s.db) ↔
      (Operation.reviewInviteRequest id payload now).Respects s := by
  constructor
  · intro hkeeps request hrequest happroved hwas
    by_contra hrejected
    have hok := reviewInviteRequest_of_request now hrequest
      (fun h => hrejected h.1 : ¬(request.status = .rejected ∧ payload.status = .approved))
    have hnever := hkeeps.notApproved id hwas
    simp [Operation.apply, hok, statusOf_recordReview, hrequest, happroved,
      ReviewOutcome.status] at hnever
  · intro hrespects
    cases hresult : reviewInviteRequest id payload now s.db with
    | error e => simpa [Operation.apply, hresult] using keeps_same hnow
    | ok after =>
      obtain ⟨request, hrequest, hplace, rfl⟩ := reviewInviteRequest_eq_ok hresult
      simp only [Operation.apply, hresult]
      refine ⟨fun _ _ => rfl, fun other hwas => ?_⟩
      rw [statusOf_recordReview]
      by_cases hother : other = id
      · subst hother
        have hnot : payload.status ≠ .approved := fun happroved =>
          hplace ⟨hrespects request hrequest happroved hwas, happroved⟩
        cases hstatus : payload.status with
        | approved => exact absurd hstatus hnot
        | reviewed => simp [hrequest, ReviewOutcome.status]
        | rejected => simp [hrequest, ReviewOutcome.status]
      · simpa [hother] using hnow other hwas

theorem issueInviteCodeDraft_keeps_iff (settings : EmailSettings) (id : Nat)
    (payload : IssueInviteCodeDraftRequest) (token : Text) (now : Nat) :
    s.Keeps ((Operation.issueInviteCodeDraft id payload token now).apply settings s.db) ↔
      (Operation.issueInviteCodeDraft id payload token now).Respects s := by
  constructor
  · intro hkeeps request hrequest hnone hstatus hfree hwas
    obtain ⟨draft, hok⟩ :=
      issueInviteCodeDraft_of_free settings now hrequest hnone hstatus hfree
    have hnever := hkeeps.notApproved id hwas
    simp only [Operation.apply, hok] at hnever
    change (s.db.updateRequest id _).statusOf id ≠ some .approved at hnever
    simp [statusOf_recordReview, hrequest] at hnever
  · intro hrespects
    cases hresult : issueInviteCodeDraft settings id payload token now s.db with
    | error e => simpa [Operation.apply, hresult] using keeps_same hnow
    | ok result =>
      obtain ⟨draft, after⟩ := result
      obtain ⟨request, hrequest, hnone, hstatus, hfree, hlink, rfl⟩ :=
        issueInviteCodeDraft_eq_ok hresult
      have hnever := hrespects request hrequest hnone hstatus hfree
      simp only [Operation.apply, hresult]
      refine ⟨fun other hrejected => ?_, fun other hwas => ?_⟩
      · have hother : id ≠ other := by
          rintro rfl
          exact hnever ⟨s.db, List.mem_cons_self, hrejected⟩
        simp [Database.codesOf_insertCode, hlink, hother]
      · have hother : other ≠ id := by
          rintro rfl
          exact hnever hwas
        change (s.db.updateRequest id _).statusOf other ≠ some .approved
        rw [statusOf_recordReview, if_neg hother]
        exact hnow other hwas

theorem fulfillInviteRequest_keeps_iff (settings : EmailSettings) (id : Nat)
    (attempt : Attempt) :
    s.Keeps ((Operation.fulfillInviteRequest id attempt).apply settings s.db) ↔
      (Operation.fulfillInviteRequest id attempt).Respects s := by
  have happroved : ∀ other, s.WasRejected other →
      (fulfillInviteRequest attempt id s.db).db.statusOf other ≠ some .approved :=
    fun other hwas => carried_notApproved.fulfill attempt id s.db other (hnow other hwas)
  constructor
  · intro hkeeps request hrequest hnone hrejected
    rcases codes_fulfill attempt hrequest hnone with ⟨hstops, -⟩ | ⟨-, code, hlink, hcodes⟩
    · exact hstops
    · have hsame := hkeeps.noCode id (by simp [Database.statusOf, hrequest, hrejected])
      rw [Operation.apply, codesOf_append hcodes hlink] at hsame
      simp at hsame
  · intro hrespects
    refine ⟨fun other hrejected => ?_, happroved⟩
    by_cases hnone : s.db.codesOf id = []
    · cases hrequest : s.db.request id with
      | none => simp [Operation.apply, fulfillInviteRequest, hrequest]
      | some request =>
        rcases codes_fulfill attempt hrequest hnone with ⟨-, hcodes⟩ | ⟨hgoes, code, hlink, hcodes⟩
        · simp [Operation.apply, Database.codesOf, hcodes]
        · have hother : id ≠ other := by
            rintro rfl
            obtain ⟨row, hrow, hstatus⟩ := Option.map_eq_some_iff.mp hrejected
            exact hgoes (hrespects row hrow hnone hstatus |>.imp_right fun h => by
              rwa [Option.some.inj (hrequest.symm.trans hrow)])
          simp [Operation.apply, Database.codesOf, hcodes, hlink, hother]
    · simp [Operation.apply, fulfill_of_linked attempt hnone]

theorem keeps_iff_respects (settings : EmailSettings) (op : Operation) :
    s.Keeps (op.apply settings s.db) ↔ op.Respects s := by
  cases op with
  | createInviteRequest payload =>
    exact iff_of_true (createInviteRequest_keeps hnow payload) trivial
  | createInvitationCode payload token now =>
    exact createInvitationCode_keeps_iff hnow settings payload token now
  | reviewInviteRequest id payload now =>
    exact reviewInviteRequest_keeps_iff hnow settings id payload now
  | issueInviteCodeDraft id payload token now =>
    exact issueInviteCodeDraft_keeps_iff hnow settings id payload token now
  | fulfillInviteRequest id attempt =>
    exact fulfillInviteRequest_keeps_iff hnow settings id attempt

end OneOperation

/-! ### Whole runs -/

theorem step_staysRejected_iff (settings : EmailSettings) (s : System) (op : Operation)
    (t : System) (h : s.step settings op = some t) :
    StaysRejected t.history ↔ StaysRejected s.history ∧ op.Respects s := by
  obtain rfl := Option.some.inj h
  rw [show System.history _ = op.apply settings s.db :: s.history from rfl,
    staysRejected_cons_iff]
  exact and_congr_right fun hgood => keeps_iff_respects hgood.now settings op

theorem staysRejected_start (db : Database) : StaysRejected (System.start db).history :=
  ⟨.singleton _, List.pairwise_singleton _ _⟩

/-- Over any operations in any order, rejected requests stay rejected exactly where every
operation meets its condition. -/
theorem staysRejected_iff (settings : EmailSettings) (db : Database) (ops : List Operation)
    (t : System) (h : exec (System.step settings) (System.start db) ops = some t) :
    StaysRejected t.history ↔
      AllSteps (System.step settings) (fun s op => op.Respects s) (System.start db) ops := by
  have hexact : StaysRejected t.history ↔ StaysRejected (System.start db).history ∧
      AllSteps (System.step settings) (fun s op => op.Respects s) (System.start db) ops :=
    exec_good_iff (I := fun _ => True) h trivial (fun _ _ _ _ _ => trivial)
      (fun s op t _ hstep => step_staysRejected_iff settings s op t hstep)
  simpa [staysRejected_start] using hexact

/-! ### Two runs -/

def stub : EmailSettings := ⟨"stub", []⟩

def emptyTables : Database := { requests := [], codes := [], nextRequestId := 0, nextCodeId := 0 }

def visitor : InviteRequestCreate := ⟨['A'], ['a'], .messyNotes, ['r']⟩

def reject : Operation := .reviewInviteRequest 0 ⟨.rejected, none⟩ 1

def approve : Operation := .reviewInviteRequest 0 ⟨.approved, none⟩ 2

/-- The endpoint that creates codes does not look at the status of the request. -/
theorem rejected_request_receives_code :
    ∃ t, exec (System.step stub) (System.start emptyTables)
        [.createInviteRequest visitor, reject,
          .createInvitationCode ⟨some ['c'], .messyNotes, none, some 0⟩ [] 2] = some t ∧
      ¬StaysRejected t.history := by
  refine ⟨_, rfl, fun h => ?_⟩
  have hsame := (List.isChain_cons_cons.mp h.noCode).1 0 (by decide)
  exact absurd hsame (by decide)

theorem refused_approval_stays_rejected :
    ∃ t, exec (System.step stub) (System.start emptyTables)
        [.createInviteRequest visitor, reject, approve] = some t ∧ StaysRejected t.history := by
  have hok : AllSteps (System.step stub) (fun s op => op.Respects s) (System.start emptyTables)
      [.createInviteRequest visitor, reject, approve] := by
    refine ⟨trivial, fun t ht => ?_⟩
    obtain rfl := Option.some.inj ht
    refine ⟨fun _ _ happroved => by simp at happroved, fun u hu => ?_⟩
    obtain rfl := Option.some.inj hu
    refine ⟨fun request hrequest _ _ => ?_, fun _ _ => trivial⟩
    obtain rfl := Option.some.inj hrequest
    rfl
  exact ⟨_, rfl, (staysRejected_iff stub emptyTables _ _ rfl).mpr hok⟩

end DemoService.InviteRequests
