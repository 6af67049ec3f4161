import DemoService.SipReplies

/-! Final answers to INVITEs. An INVITE is told from another by its Call-ID, its
CSeq and the branch of its top Via; the engine forgets it when its call ends. -/

namespace DemoService.Sip

open AssocMap RustText NetAddr GuardedRuns Fallible

def OneAnswerEach (answers : List Answer) : Prop :=
  ∀ x ∈ answers, ∀ y ∈ answers, x.transaction = y.transaction →
    x.status = y.status ∧ x.tag = y.tag

/-- The action brings no copy of an INVITE that was answered finally and whose Call-ID has
neither a dialog nor a pending INVITE any more. -/
def NoLateCopy (t : Transcript) : Action → Prop
  | .datagram _ payload _ => ∀ request, isRequest "INVITE" payload request →
      t.system.engine.inboundDialogs.lookup (callIdOf request) = none →
      t.system.engine.pendingInbound.lookup (callIdOf request) = none →
      ∀ x ∈ t.answers, x.transaction ≠ transactionOf request.headers
  | _ => True

def AtMostOne (transaction : Transaction) (answers : List Answer) : Prop :=
  answers = [] ∨ ∃ x, answers = [x] ∧ x.transaction = transaction

/-- Every call after the turn was there before it. -/
structure Kept (e e' : Engine) : Prop where
  pending : ∀ c p, e'.pendingInbound.lookup c = some p → e.pendingInbound.lookup c = some p
  dialogs : ∀ c d, e'.inboundDialogs.lookup c = some d → e.inboundDialogs.lookup c = some d

/-- What a turn leaves of the calls, and the final answers it gives. -/
inductive Answering (e : Engine) (event : EngineEvent) (e' : Engine) (answers : List Answer) : Prop
  | quiet (hkept : Kept e e') (hanswers : answers = [])
  | resent {c : Str} {dialog : InboundDialog} (hkept : Kept e e')
      (hdialog : e.inboundDialogs.lookup c = some dialog)
      (hanswers : ∀ x ∈ answers, answerOf dialog.inviteOkPayload = some x)
  | rejected {payload : Str} {sourceAddr : SocketAddr} {request : SipParsedRequest}
      (hkept : Kept e e') (hevent : event = .datagram payload sourceAddr)
      (hrequest : isRequest "INVITE" payload request)
      (hdialog : e.inboundDialogs.lookup (callIdOf request) = none)
      (hpending : e.pendingInbound.lookup (callIdOf request) = none)
      (hanswers : AtMostOne (transactionOf request.headers) answers)
  | admitted {payload : Str} {sourceAddr : SocketAddr} {request : SipParsedRequest}
      {p : PendingInboundInvite} (hevent : event = .datagram payload sourceAddr)
      (hrequest : isRequest "INVITE" payload request)
      (hdialog : e.inboundDialogs.lookup (callIdOf request) = none)
      (hpending : e.pendingInbound.lookup (callIdOf request) = none)
      (hcall : callIdOf request ≠ missingCallId) (hp : p.request = request)
      (hnew : ∀ c q, e'.pendingInbound.lookup c = some q →
        (c = callIdOf request ∧ q = p) ∨ e.pendingInbound.lookup c = some q)
      (hdialogs : ∀ c d, e'.inboundDialogs.lookup c = some d → e.inboundDialogs.lookup c = some d)
      (hanswers : answers = [])
  | settled {c : Str} {p : PendingInboundInvite} (hkept : Kept (e.refuse c p) e')
      (hpending : e.pendingInbound.lookup c = some p)
      (hanswers : AtMostOne (transactionOf p.request.headers) answers)
  | opened {c : Str} {p : PendingInboundInvite} {dialog : InboundDialog} {x : Answer}
      (hpending : e.pendingInbound.lookup c = some p)
      (hnew : ∀ k q, e'.pendingInbound.lookup k = some q → k ≠ c ∧ e.pendingInbound.lookup k = some q)
      (hdialogs : ∀ k d, e'.inboundDialogs.lookup k = some d →
        (k = c ∧ d = dialog) ∨ e.inboundDialogs.lookup k = some d)
      (hanswers : answers = [x]) (hx : answerOf dialog.inviteOkPayload = some x)
      (htransaction : x.transaction = transactionOf p.request.headers)

theorem Kept.of_eq {e e' : Engine} (hpending : e'.pendingInbound = e.pendingInbound)
    (hdialogs : e'.inboundDialogs = e.inboundDialogs) : Kept e e' := by
  refine ⟨fun c p hp => ?_, fun c d hd => ?_⟩
  · rwa [hpending] at hp
  · rwa [hdialogs] at hd

theorem Kept.refl (e : Engine) : Kept e e := .of_eq rfl rfl

theorem Kept.countSend {e e' : Engine} (h : Kept e e') (delivered : Bool) :
    Kept e (e'.countSend delivered) := by
  cases delivered with
  | false => exact ⟨h.pending, h.dialogs⟩
  | true => exact h

theorem Kept.teardown {e e' : Engine} (h : Kept e e') (callId : Str) (dialog : InboundDialog) :
    Kept e (e'.teardown callId dialog) :=
  ⟨h.pending, fun c d hd => h.dialogs c d (lookup_erase_some hd).2⟩

theorem Kept.cleanup {e e' : Engine} (h : Kept e e') (now : Nat) : Kept e (cleanupStaleState now e') :=
  ⟨fun c p hp => h.pending c p (lookup_of_retain hp), h.dialogs⟩

theorem Answering.cleanup {e e' : Engine} {event : EngineEvent} {answers : List Answer}
    (h : Answering e event e' answers) (now : Nat) :
    Answering e event (cleanupStaleState now e') answers := by
  cases h with
  | quiet hkept hanswers => exact .quiet (hkept.cleanup now) hanswers
  | resent hkept hdialog hanswers => exact .resent (hkept.cleanup now) hdialog hanswers
  | rejected hkept hevent hrequest hdialog hpending hanswers =>
    exact .rejected (hkept.cleanup now) hevent hrequest hdialog hpending hanswers
  | admitted hevent hrequest hdialog hpending hcall hp hnew hdialogs hanswers =>
    exact .admitted hevent hrequest hdialog hpending hcall hp
      (fun c q hq => hnew c q (lookup_of_retain hq)) hdialogs hanswers
  | settled hkept hpending hanswers => exact .settled (hkept.cleanup now) hpending hanswers
  | opened hpending hnew hdialogs hanswers hx htransaction =>
    exact .opened hpending (fun k q hq => hnew k q (lookup_of_retain hq)) hdialogs hanswers hx
      htransaction

/-! ### The answers of a turn -/

theorem IsReply.answerOf {request : SipParsedRequest} {code : Nat} {text : Str}
    (h : IsReply request code text) (hcode : 200 ≤ code) : ∃ x, answerOf text = some x ∧
      x.transaction = transactionOf request.headers ∧ x.status = code := by
  obtain ⟨response, hparse, rfl, hsame⟩ := h
  refine ⟨⟨transactionOf response.headers, response.statusCode, toTag response.headers⟩, ?_,
    hsame.transaction, rfl⟩
  simp only [Sip.answerOf, hparse, Option.bind_some, hcode, if_true]

theorem IsReply.no_answer {request : SipParsedRequest} {code : Nat} {text : Str}
    (h : IsReply request code text) (hcode : code < 200) : Sip.answerOf text = none := by
  obtain ⟨response, hparse, rfl, -⟩ := h
  have hlow : ¬ 200 ≤ response.statusCode := by omega
  simp only [Sip.answerOf, hparse, Option.bind_some, hlow, if_false]

section

variable {config : AppConfig} {env : Env} {e e' : Engine} {request : SipParsedRequest}
  {code : Nat} {payload : Str} {sourceAddr : SocketAddr} {out : List Output}

/-- A final response is at most one answer, to the request it is built for. -/
theorem reply_answers_eq {site : SendSite} {response : Option Str}
    (h : ∀ text, response = some text → IsReply request code text) (hcode : 200 ≤ code)
    (destination : SocketAddr) :
    (env.reply site response destination).filterMap Output.answer? = [] ∨
      ∃ x, (env.reply site response destination).filterMap Output.answer? = [x] ∧
        x.transaction = transactionOf request.headers ∧ x.status = code := by
  cases response with
  | none => exact .inl rfl
  | some text =>
    obtain ⟨x, hx, hfields⟩ := (h text rfl).answerOf hcode
    cases hsent : env.delivered site with
    | false => exact .inl (by simp [Env.reply, Output.answer?, hsent])
    | true => exact .inr ⟨x, by simp [Env.reply, Output.answer?, hsent, hx], hfields⟩

theorem reply_answers {site : SendSite} {response : Option Str}
    (h : ∀ text, response = some text → IsReply request code text) (hcode : 200 ≤ code)
    (destination : SocketAddr) : AtMostOne (transactionOf request.headers)
      ((env.reply site response destination).filterMap Output.answer?) := by
  rcases reply_answers_eq h hcode destination with hnone | ⟨x, hx, htransaction, -⟩
  · exact .inl hnone
  · exact .inr ⟨x, hx, htransaction⟩

theorem reply_no_answers {site : SendSite} {response : Option Str}
    (h : ∀ text, response = some text → IsReply request code text) (hcode : code < 200)
    (destination : SocketAddr) :
    (env.reply site response destination).filterMap Output.answer? = [] := by
  cases response with
  | none => rfl
  | some text =>
    have hnone := (h text rfl).no_answer hcode
    simp [Env.reply, Output.answer?, hnone]

theorem provisionalResponses_no_answers (henv : env.SimpleUuids) (hrequest : Parsed request) :
    (provisionalResponses config env request sourceAddr).filterMap Output.answer? = [] := by
  have htag : ∀ tag ∈ some (env.uuid .localTag), IsHex tag := by
    simpa using henv .localTag
  have htrying : ∀ text, buildSipTryingForInvite request = some text →
      IsReply request 100 text := by
    intro text h
    exact isReply_of_build hrequest (by omega) (by decide) (by simp) h
  have hringing : ∀ text, buildSipRingingForInvite request (env.uuid .localTag) = some text →
      IsReply request 180 text := by
    intro text h
    exact isReply_of_build hrequest (by omega) (by decide) htag h
  rw [provisionalResponses, List.filterMap_append, reply_no_answers htrying (by omega),
    List.nil_append]
  split
  · exact reply_no_answers hringing (by omega) _
  · rfl

theorem admitInvite_answering (henv : env.SimpleUuids) (hrequest : isRequest "INVITE" payload request)
    (hcall : callIdOf request ≠ missingCallId)
    (hdialog : e.inboundDialogs.lookup (callIdOf request) = none)
    (hpending : e.pendingInbound.lookup (callIdOf request) = none) :
    Answering e (.datagram payload sourceAddr) (admitInvite env e request payload sourceAddr).1
      ((admitInvite env e request payload sourceAddr).2.filterMap Output.answer?) := by
  have hparsed : Parsed request := parseSipRequest_clean hrequest.1
  have htag : ∀ site, ∀ tag ∈ some (env.uuid site), IsHex tag := fun site => by
    simpa using henv site
  have hexhausted : ∀ text, buildSipFinalResponseForInvite request 503
      "Service Unavailable".toList (env.uuid .exhaustedTag) = some text →
      IsReply request 503 text := by
    intro text h
    exact isReply_of_build hparsed (by omega) (by decide) (htag _) h
  have hunacceptable : ∀ text, buildSipFinalResponseForInvite request 488
      "Not Acceptable Here".toList (env.uuid .localTag) = some text →
      IsReply request 488 text := by
    intro text h
    exact isReply_of_build hparsed (by omega) (by decide) (htag _) h
  unfold admitInvite
  split
  · exact .rejected (.of_eq rfl rfl) rfl hrequest hdialog hpending
      (reply_answers hexhausted (by omega) _)
  · split
    · exact .rejected (.of_eq rfl rfl) rfl hrequest hdialog hpending
        (reply_answers hunacceptable (by omega) _)
    · rename_i port pool halloc _ addr haddr
      refine .admitted (p := ⟨request, sourceAddr, env.uuid .localTag, port, env.now, e.spawned⟩) rfl
        hrequest hdialog hpending hcall rfl (fun c q hq => ?_) (fun _ _ h => h) rfl
      rcases lookup_insert_some hq with ⟨rfl, rfl⟩ | ⟨-, hq⟩
      · exact .inl ⟨rfl, rfl⟩
      · exact .inr hq

theorem Answering.fetchAdd {c : Counter} {event : EngineEvent} {answers : List Answer}
    (h : Answering (e.fetchAdd c) event e' answers) : Answering e event e' answers := by
  cases h with
  | quiet hkept hanswers => exact .quiet ⟨hkept.pending, hkept.dialogs⟩ hanswers
  | resent hkept hdialog hanswers => exact .resent ⟨hkept.pending, hkept.dialogs⟩ hdialog hanswers
  | rejected hkept hevent hrequest hdialog hpending hanswers =>
    exact .rejected ⟨hkept.pending, hkept.dialogs⟩ hevent hrequest hdialog hpending hanswers
  | admitted hevent hrequest hdialog hpending hcall hp hnew hdialogs hanswers =>
    exact .admitted hevent hrequest hdialog hpending hcall hp hnew hdialogs hanswers
  | settled hkept hpending hanswers =>
    exact .settled ⟨hkept.pending, hkept.dialogs⟩ hpending hanswers
  | opened hpending hnew hdialogs hanswers hx htransaction =>
    exact .opened hpending hnew hdialogs hanswers hx htransaction

theorem handleInboundInvite_answering (henv : env.SimpleUuids)
    (hrequest : isRequest "INVITE" payload request) :
    Answering e (.datagram payload sourceAddr)
      (handleInboundInvite config env e request payload sourceAddr).1
      ((handleInboundInvite config env e request payload sourceAddr).2.filterMap
        Output.answer?) := by
  have hparsed : Parsed request := parseSipRequest_clean hrequest.1
  have hkept : Kept e (e.fetchAdd .inboundInvitesTotal) := .of_eq rfl rfl
  have hbad : ∀ text, buildResponseForInDialogRequest payload 400 "Bad Request".toList =
      some text → IsReply request 400 text := by
    intro text h
    exact isReply_of_inDialog hrequest.1 (by omega) (by decide) h
  unfold handleInboundInvite
  split
  · rename_i dialog hdialog
    refine .resent (hkept.countSend _) hdialog fun x hx => ?_
    cases hsent : env.delivered .resentOk with
    | false => simp [Output.answer?, hsent] at hx
    | true => simpa [Output.answer?, hsent] using hx
  · exact .quiet hkept rfl
  · rename_i hdialog hpending
    split
    · exact .rejected hkept rfl hrequest hdialog hpending (reply_answers hbad (by omega) _)
    · rename_i hcall
      rw [List.filterMap_append, provisionalResponses_no_answers henv hparsed, List.nil_append]
      exact Answering.fetchAdd (admitInvite_answering henv hrequest hcall hdialog hpending)

theorem handleInboundBye_kept : Kept e (handleInboundBye env e request payload sourceAddr).1 := by
  obtain ⟨hcalls, -, -⟩ := answerBye_calls env (e.fetchAdd .sipByeRequestsTotal) request payload
    sourceAddr
  obtain ⟨-, hpending, hdialogs, -⟩ := CallTables.mk.inj hcalls
  have hkept : Kept e (answerBye env (e.fetchAdd .sipByeRequestsTotal) request payload
      sourceAddr).1 := .of_eq hpending hdialogs
  unfold handleInboundBye
  split
  · exact .of_eq rfl rfl
  · split
    · exact hkept
    · exact hkept.teardown _ _

theorem AtMostOne.filter {transaction : Transaction} {answers : List Answer}
    (h : AtMostOne transaction answers) (keep : Answer → Bool) :
    AtMostOne transaction (answers.filter keep) := by
  rcases h with rfl | ⟨x, rfl, hx⟩
  · exact .inl rfl
  · cases hk : keep x with
    | false => exact .inl (by simp [hk])
    | true => exact .inr ⟨x, by simp [hk], hx⟩

theorem handleInboundCancel_answering {invites byes : Str → Option SipParsedRequest}
    (hrecords : Records e invites byes) (hrequest : isRequest "CANCEL" payload request) :
    Answering e (.datagram payload sourceAddr)
      (handleInboundCancel env e request payload sourceAddr).1
      (((handleInboundCancel env e request payload sourceAddr).2.filterMap
        Output.answer?).filter (·.status ≠ 200)) := by
  have hok : ∀ text, buildResponseForInDialogRequest payload 200 "OK".toList = some text →
      IsReply request 200 text :=
    fun text h => isReply_of_inDialog hrequest.1 (by omega) (by decide) h
  have hown : ((env.reply .cancelOk (buildResponseForInDialogRequest payload 200 "OK".toList)
      sourceAddr).filterMap Output.answer?).filter (·.status ≠ 200) = [] := by
    refine List.filter_eq_nil_iff.mpr fun x hx => ?_
    rcases reply_answers_eq hok (by omega) sourceAddr with hnone | ⟨y, hy, -, hstatus⟩
    · rw [hnone] at hx
      exact absurd hx List.not_mem_nil
    · rw [hy] at hx
      rw [List.mem_singleton.mp hx]
      simpa using hstatus
  unfold handleInboundCancel
  split
  · exact .quiet (.refl e) hown
  · rename_i pending hpending
    obtain ⟨htag, hparsed, -⟩ := hrecords.pending _ pending hpending
    have hterminated : ∀ text, buildSipFinalResponseForInvite pending.request 487
        "Request Terminated".toList pending.localTag = some text →
        IsReply pending.request 487 text := fun text h =>
      isReply_of_build hparsed (by omega) (by decide) (by simpa using htag) h
    refine .settled (.refl _) hpending ?_
    rw [List.filterMap_append, List.filter_append, hown, List.nil_append]
    exact (reply_answers hterminated (by omega) _).filter _

theorem handleInboundRequest_answering {invites byes : Str → Option SipParsedRequest}
    (hrecords : Records e invites byes) (henv : env.SimpleUuids)
    (hparse : parseSipRequest payload = some request) :
    Answering e (.datagram payload sourceAddr)
      (handleInboundRequest config env e request payload sourceAddr).1
      (answersTo (.datagram payload sourceAddr)
        (handleInboundRequest config env e request payload sourceAddr).2) := by
  simp only [answersTo, hparse]
  unfold handleInboundRequest
  split
  · rename_i hmethod
    exact handleInboundInvite_answering henv ⟨hparse, hmethod⟩
  · split
    · rename_i hmethod
      have hother : ¬ request.method = "CANCEL".toList := by
        rw [hmethod]
        decide
      rw [if_neg hother]
      exact .quiet handleInboundBye_kept rfl
    · split
      · rename_i hmethod
        exact handleInboundCancel_answering hrecords ⟨hparse, hmethod⟩
      · exact .quiet (.refl e) rfl

theorem acceptInvite_answering {invites byes : Str → Option SipParsedRequest}
    (hrecords : Records e invites byes) (hhost : '\n' ∉ config.localSipAdvertiseHost)
    {callId : Str} {pending : PendingInboundInvite} {bridge : InboundBridgeHandle}
    (hpending : e.pendingInbound.lookup callId = some pending)
    (h : acceptInvite config env e callId pending bridge = .ok (e', out)) (event : EngineEvent) :
    Answering e event e' (out.filterMap Output.answer?) := by
  obtain ⟨htag, hparsed, -⟩ := hrecords.pending callId pending hpending
  unfold acceptInvite at h
  split at h
  · cases h
    exact .settled (.of_eq rfl rfl) hpending (.inl rfl)
  · rename_i okResponse hok
    obtain ⟨x, hx, htransaction, -⟩ :=
      (isReply_of_build200 hparsed htag hhost hok).answerOf (by omega)
    split at h
    · obtain ⟨dialog, hdialog, hr⟩ := bind_eq_ok.mp h
      have hanswer : answerOf dialog.inviteOkPayload = some x := by
        rw [acceptedDialog_payload hdialog, hx]
      cases hr
      refine .opened hpending (fun k q hq => lookup_erase_some hq) (fun k d hd => ?_)
        (by simp [Output.answer?, hx]) hanswer htransaction
      rcases lookup_insert_some hd with ⟨rfl, rfl⟩ | ⟨-, hd⟩
      · exact .inl ⟨rfl, rfl⟩
      · exact .inr hd
    · cases h
      exact .settled (.of_eq rfl rfl) hpending (.inl rfl)

theorem handleInboundSetupResult_answering {invites byes : Str → Option SipParsedRequest}
    (hrecords : Records e invites byes) (hhost : '\n' ∉ config.localSipAdvertiseHost)
    {callId : Str} {result : Except Str InboundBridgeHandle}
    (h : handleInboundSetupResult config env e callId result = .ok (e', out))
    (event : EngineEvent) : Answering e event e' (out.filterMap Output.answer?) := by
  unfold handleInboundSetupResult at h
  split at h
  · cases h
    exact .quiet (.of_eq rfl rfl) rfl
  · cases h
    exact .quiet (.refl e) rfl
  · rename_i pending bridge hpending
    exact acceptInvite_answering hrecords hhost hpending h event
  · rename_i pending reason hpending
    obtain ⟨htag, hparsed, -⟩ := hrecords.pending callId pending hpending
    have hrejected : ∀ text, buildSipFinalResponseForInvite pending.request 503
        "Service Unavailable".toList pending.localTag = some text →
        IsReply pending.request 503 text := fun text h =>
      isReply_of_build hparsed (by omega) (by decide) (by simpa using htag) h
    have hkept : Kept (e.refuse callId pending)
        ((e.refuse callId pending).fetchAdd .inboundInvitesRejectedTotal) := .of_eq rfl rfl
    cases h
    exact .settled (hkept.countSend _) hpending (reply_answers hrejected (by omega) _)

/-- The inversion of a turn: what it can do to the calls and answer. -/
theorem handle_answering {invites byes : Str → Option SipParsedRequest}
    (hrecords : Records e invites byes) (hhost : '\n' ∉ config.localSipAdvertiseHost)
    (henv : env.SimpleUuids) {event : EngineEvent}
    (h : e.handle config env event = .ok (e', out)) :
    Answering e event e' (answersTo event out) := by
  cases event with
  | command request =>
    have hfirst : (handleOutboundInvite env e request).1 = e' :=
      congrArg Prod.fst (pure_eq_ok.mp h)
    refine .quiet ?_ rfl
    rw [← hfirst]
    unfold handleOutboundInvite
    split
    · exact .of_eq rfl rfl
    · exact .refl e
  | backendEndRequested callId =>
    have hfirst : (handleBackendEnd env e callId).1 = e' := congrArg Prod.fst (pure_eq_ok.mp h)
    refine .quiet ?_ rfl
    rw [← hfirst]
    unfold handleBackendEnd
    split
    · exact .refl e
    · exact (Kept.refl e).teardown _ _
  | inboundSetupResult callId result =>
    exact handleInboundSetupResult_answering hrecords hhost h _
  | datagram payload sourceAddr =>
    obtain ⟨⟨handled, sent⟩, hhandle, hr⟩ := bind_eq_ok.mp h
    cases hr
    refine Answering.cleanup ?_ env.sweepAt
    unfold handlePayload at hhandle
    split at hhandle
    · rename_i request hparse
      have hanswering : Answering e (.datagram payload sourceAddr)
          (handleInboundRequest config env e request payload sourceAddr).1
          (answersTo (.datagram payload sourceAddr)
            (handleInboundRequest config env e request payload sourceAddr).2) :=
        handleInboundRequest_answering hrecords henv hparse
      rwa [pure_eq_ok.mp hhandle] at hanswering
    · rename_i hparse _
      cases hhandle
      exact .quiet (.refl e) (by simp only [answersTo, hparse])
    · rename_i code hparse _
      obtain ⟨⟨acked, replies⟩, hresponse, hr⟩ := bind_eq_ok.mp hhandle
      obtain ⟨-, hpending, hdialogs, -⟩ := CallTables.mk.inj (handleSipResponse_calls hresponse).1
      have hkept : Kept e acked := .of_eq hpending hdialogs
      cases hr
      refine .quiet ?_ (by simp only [answersTo, hparse])
      split
      · exact ⟨hkept.pending, hkept.dialogs⟩
      · exact hkept

end

/-! ### The answers of a run -/

/-- Every INVITE has at most one answer; a pending INVITE has none yet, and a dialog keeps the
answer it was established with. -/
structure AnsweredOnce (e : Engine) (answers : List Answer) : Prop where
  same : ∀ x ∈ answers, ∀ y ∈ answers, x.transaction = y.transaction → x = y
  pending : ∀ c p, e.pendingInbound.lookup c = some p →
    (transactionOf p.request.headers).callId = some c ∧
      ∀ x ∈ answers, x.transaction ≠ transactionOf p.request.headers
  dialogs : ∀ c d, e.inboundDialogs.lookup c = some d →
    ∃ x ∈ answers, answerOf d.inviteOkPayload = some x

theorem answeredOnce_new (config : AppConfig) : AnsweredOnce (Engine.new config) [] where
  same := fun _ hx => absurd hx List.not_mem_nil
  pending := nofun
  dialogs := nofun

theorem AtMostOne.of_mem {transaction : Transaction} {answers : List Answer}
    (h : AtMostOne transaction answers) {x : Answer} (hx : x ∈ answers) :
    answers = [x] ∧ x.transaction = transaction := by
  rcases h with rfl | ⟨y, rfl, hy⟩
  · exact absurd hx List.not_mem_nil
  · obtain rfl := List.mem_singleton.mp hx
    exact ⟨rfl, hy⟩

section

variable {e e' : Engine} {answers new : List Answer} {transaction : Transaction}

/-- A first answer to an INVITE leaves every INVITE with at most one. -/
theorem AnsweredOnce.same_append (h : AnsweredOnce e answers) (hone : AtMostOne transaction new)
    (hfirst : ∀ x ∈ answers, x.transaction ≠ transaction) :
    ∀ x ∈ new ++ answers, ∀ y ∈ new ++ answers, x.transaction = y.transaction → x = y := by
  intro x hx y hy hsame
  rcases List.mem_append.mp hx with hx | hx
  · obtain ⟨hnew, htx⟩ := hone.of_mem hx
    rcases List.mem_append.mp hy with hy | hy
    · rw [hnew] at hy
      exact (List.mem_singleton.mp hy).symm
    · exact absurd (hsame.symm.trans htx) (hfirst y hy)
  · rcases List.mem_append.mp hy with hy | hy
    · obtain ⟨-, hty⟩ := hone.of_mem hy
      exact absurd (hsame.trans hty) (hfirst x hx)
    · exact h.same x hx y hy hsame

theorem AnsweredOnce.unanswered (h : AnsweredOnce e answers) (hone : AtMostOne transaction new)
    {c : Str} {p : PendingInboundInvite} (hp : e.pendingInbound.lookup c = some p)
    (hcall : transaction.callId ≠ some c) : (transactionOf p.request.headers).callId = some c ∧
      ∀ x ∈ new ++ answers, x.transaction ≠ transactionOf p.request.headers := by
  obtain ⟨hown, hnone⟩ := h.pending c p hp
  refine ⟨hown, fun x hx => ?_⟩
  rcases List.mem_append.mp hx with hx | hx
  · obtain ⟨-, htx⟩ := hone.of_mem hx
    rw [htx]
    intro heq
    exact hcall ((congrArg Transaction.callId heq).trans hown)
  · exact hnone x hx

theorem AnsweredOnce.kept (h : AnsweredOnce e answers) (hkept : Kept e e') :
    AnsweredOnce e' answers where
  same := h.same
  pending := fun c p hp => h.pending c p (hkept.pending c p hp)
  dialogs := fun c d hd => h.dialogs c d (hkept.dialogs c d hd)

theorem AnsweredOnce.dialogs_append (h : AnsweredOnce e answers) {c : Str} {d : InboundDialog}
    (hd : e.inboundDialogs.lookup c = some d) :
    ∃ x ∈ new ++ answers, answerOf d.inviteOkPayload = some x := by
  obtain ⟨x, hx, hpayload⟩ := h.dialogs c d hd
  exact ⟨x, List.mem_append_right _ hx, hpayload⟩

theorem transaction_callId_ne {request : SipParsedRequest} {c : Str} (h : c ≠ callIdOf request) :
    (transactionOf request.headers).callId ≠ some c := by
  intro hcall
  have hget : request.headers.get "call-id".toList = some c := hcall
  exact h (by rw [callIdOf, hget, Option.getD_some])

theorem AnsweredOnce.turn (h : AnsweredOnce e answers) {event : EngineEvent}
    (ha : Answering e event e' new)
    (hlate : ∀ payload sourceAddr request, event = .datagram payload sourceAddr →
      isRequest "INVITE" payload request → e.inboundDialogs.lookup (callIdOf request) = none →
      e.pendingInbound.lookup (callIdOf request) = none →
      ∀ x ∈ answers, x.transaction ≠ transactionOf request.headers) :
    AnsweredOnce e' (new ++ answers) := by
  cases ha with
  | quiet hkept hanswers =>
    rw [hanswers, List.nil_append]
    exact h.kept hkept
  | resent hkept hdialog hanswers =>
    obtain ⟨x, hx, hpayload⟩ := h.dialogs _ _ hdialog
    have hold : ∀ y ∈ new ++ answers, y ∈ answers := by
      intro y hy
      rcases List.mem_append.mp hy with hy | hy
      · obtain rfl : x = y := Option.some.inj (hpayload.symm.trans (hanswers y hy))
        exact hx
      · exact hy
    refine ⟨fun y hy z hz => h.same y (hold y hy) z (hold z hz), fun c p hp => ?_,
      fun c d hd => h.dialogs_append (hkept.dialogs c d hd)⟩
    obtain ⟨hown, hnone⟩ := h.pending c p (hkept.pending c p hp)
    exact ⟨hown, fun y hy => hnone y (hold y hy)⟩
  | rejected hkept hevent hrequest hdialog hpending hanswers =>
    refine ⟨h.same_append hanswers (hlate _ _ _ hevent hrequest hdialog hpending), fun c p hp => ?_,
      fun c d hd => h.dialogs_append (hkept.dialogs c d hd)⟩
    have hp := hkept.pending c p hp
    refine h.unanswered hanswers hp (transaction_callId_ne ?_)
    rintro rfl
    exact absurd (hpending.symm.trans hp) nofun
  | admitted hevent hrequest hdialog hpending hcall hp hnew hdialogs hanswers =>
    rw [hanswers, List.nil_append]
    refine ⟨h.same, fun c q hq => ?_, fun c d hd => h.dialogs c d (hdialogs c d hd)⟩
    rcases hnew c q hq with ⟨rfl, rfl⟩ | hq
    · rw [hp]
      exact ⟨callId_of_known hcall, hlate _ _ _ hevent hrequest hdialog hpending⟩
    · exact h.pending c q hq
  | settled hkept hpending hanswers =>
    obtain ⟨hown, hnone⟩ := h.pending _ _ hpending
    refine ⟨h.same_append hanswers hnone, fun c p hp => ?_,
      fun c d hd => h.dialogs_append (hkept.dialogs c d hd)⟩
    obtain ⟨hne, hp⟩ := lookup_erase_some (hkept.pending c p hp)
    refine h.unanswered hanswers hp ?_
    rw [hown]
    exact fun heq => hne (Option.some.inj heq).symm
  | opened hpending hnew hdialogs hanswers hx htransaction =>
    obtain ⟨hown, hnone⟩ := h.pending _ _ hpending
    have hone : AtMostOne (transactionOf _) new := .inr ⟨_, hanswers, htransaction⟩
    refine ⟨h.same_append hone hnone, fun c p hp => ?_, fun c d hd => ?_⟩
    · obtain ⟨hne, hp⟩ := hnew c p hp
      refine h.unanswered hone hp ?_
      rw [hown]
      exact fun heq => hne (Option.some.inj heq).symm
    · rcases hdialogs c d hd with ⟨rfl, rfl⟩ | hd
      · exact ⟨_, List.mem_append_left _ (hanswers ▸ List.mem_singleton_self _), hx⟩
      · exact h.dialogs_append hd

end

structure AnswersSound (t : Transcript) : Prop where
  sound : TranscriptSound t
  once : AnsweredOnce t.system.engine t.answers

theorem AnswersSound.step {config : AppConfig} (hhost : '\n' ∉ config.localSipAdvertiseHost)
    {t u : Transcript} {a : Action} (h : AnswersSound t) (huuid : a.SimpleUuids)
    (hlate : NoLateCopy t a) (hs : t.step config a = some u) : AnswersSound u := by
  refine ⟨h.sound.step hhost huuid hs, ?_⟩
  obtain ⟨s, hstep, rfl⟩ := Option.map_eq_some_iff.mp hs
  unfold Transcript.record
  rcases step_engine hstep with ⟨env, event, hevent, hhandle⟩ | ⟨hevent, hsame⟩
  · simp only [hevent]
    refine h.once.turn (handle_answering h.sound.records hhost (huuid.env hevent) hhandle) ?_
    intro payload sourceAddr request hdatagram hrequest hdialog hpending
    subst hdatagram
    cases a with
    | datagram env' payload' sourceAddr' =>
      cases hevent
      exact hlate request hrequest hdialog hpending
    | receiveResult _ =>
      obtain ⟨r, -, heq⟩ := Option.map_eq_some_iff.mp hevent
      cases heq
    | receiveEnd _ =>
      obtain ⟨callId, -, heq⟩ := Option.map_eq_some_iff.mp hevent
      cases heq
    | _ => cases hevent
  · simp only [hevent]
    exact hsame ▸ h.once

/-- In every run that brings no late copy of an answered INVITE, the final answers to one INVITE
have one status and one To tag. -/
theorem one_answer_each {config : AppConfig} (hhost : '\n' ∉ config.localSipAdvertiseHost)
    {t : Transcript} (h : GuardedRun (Transcript.step config)
      (fun t a => a.SimpleUuids ∧ NoLateCopy t a) (Transcript.init config) t) :
    OneAnswerEach t.answers := by
  have hinit : AnswersSound (Transcript.init config) :=
    ⟨transcriptSound_init config, answeredOnce_new config⟩
  have hsound : AnswersSound t :=
    h.invariant hinit fun _ _ _ hsound ha hs => hsound.step hhost ha.1 ha.2 hs
  intro x hx y hy hsame
  rw [hsound.once.same x hx y hy hsame]
  exact ⟨rfl, rfl⟩

/-- A retransmission in an established call gets the same 200 OK again. -/
theorem retransmitted_invite_is_answered_alike :
    ∃ t : Transcript, t.answers.map (·.status) = [200, 200] ∧ OneAnswerEach t.answers := by
  have hex : (exec (Transcript.step smallConfig) (.init smallConfig) establishCall).map
      (fun t => (t.system.engine.inboundDialogs.lookup "c".toList).isSome &&
        ((t.step smallConfig (.datagram uuidEnv (inviteWith "1 INVITE") peerAddr)).map
          (fun u => u.answers.map (·.status))) == some [200, 200]) = some true := by
    decide +kernel
  have hcall : (parseSipRequest (inviteWith "1 INVITE")).map callIdOf = some "c".toList := by
    decide +kernel
  obtain ⟨t, ht, heq⟩ := Option.map_eq_some_iff.mp hex
  rw [Bool.and_eq_true, beq_iff_eq] at heq
  obtain ⟨hdialog, hnext⟩ := heq
  obtain ⟨u, hu, hstatus⟩ := Option.map_eq_some_iff.mp hnext
  have hrun : exec (Transcript.step smallConfig) (.init smallConfig)
      (establishCall ++ [.datagram uuidEnv (inviteWith "1 INVITE") peerAddr]) = some u := by
    rw [exec_append ht]
    simp [exec, hu]
  have hlate : NoLateCopy t (.datagram uuidEnv (inviteWith "1 INVITE") peerAddr) := by
    intro request hrequest hnone
    have hown : callIdOf request = "c".toList := by
      rw [hrequest.1] at hcall
      exact Option.some.inj hcall
    rw [← hown, hnone] at hdialog
    cases hdialog
  have hfirst : AllSteps (Transcript.step smallConfig) (fun t a => a.SimpleUuids ∧ NoLateCopy t a)
      (.init smallConfig) establishCall := by
    refine ⟨⟨uuidEnv_simple, ?_⟩, fun _ _ => ⟨⟨trivial, trivial⟩, fun _ _ =>
      ⟨⟨uuidEnv_simple, trivial⟩, fun _ _ => trivial⟩⟩⟩
    exact fun _ _ _ _ x hx => absurd hx List.not_mem_nil
  have huuid : (Action.datagram uuidEnv (inviteWith "1 INVITE") peerAddr).SimpleUuids :=
    uuidEnv_simple
  have hall := (allSteps_concat_iff ht).mpr ⟨hfirst, huuid, hlate⟩
  have hhost : '\n' ∉ smallConfig.localSipAdvertiseHost := by decide
  exact ⟨u, hstatus, one_answer_each hhost (guardedRun_of_allSteps hrun hall)⟩

/-- A copy of an INVITE that was answered 503 arrives late and is answered 200. -/
theorem late_copy_is_answered_again :
    ¬ ∀ t, TranscriptRun smallConfig (.init smallConfig) t → OneAnswerEach t.answers := by
  intro hall
  have hex : (exec (Transcript.step smallConfig) (.init smallConfig)
      [.datagram uuidEnv (inviteWith "1 INVITE") peerAddr, .finishSetup 0 (some []),
        .receiveResult uuidEnv, .datagram uuidEnv (inviteWith "1 INVITE") peerAddr,
        .finishSetup 0 none, .receiveResult uuidEnv]).map
      (fun t => t.answers.map (fun x => (x.transaction, x.status))) =
      some [(⟨some "c".toList, some "1 INVITE".toList, none⟩, 200),
        (⟨some "c".toList, some "1 INVITE".toList, none⟩, 503)] := by decide +kernel
  obtain ⟨t, ht, hanswers⟩ := Option.map_eq_some_iff.mp hex
  have hrun : TranscriptRun smallConfig (.init smallConfig) t := by
    refine guardedRun_of_forall ht fun a ha s => ?_
    simp only [List.mem_cons, List.not_mem_nil, or_false] at ha
    rcases ha with rfl | rfl | rfl | rfl | rfl | rfl
    · exact uuidEnv_simple
    · trivial
    · exact uuidEnv_simple
    · exact uuidEnv_simple
    · trivial
    · exact uuidEnv_simple
  obtain ⟨x, rest, hx, hfirst, hrest⟩ := List.map_eq_cons_iff.mp hanswers
  obtain ⟨y, hy, hsecond⟩ := List.map_eq_singleton_iff.mp hrest
  obtain ⟨hxt, hxs⟩ := Prod.mk.inj hfirst
  obtain ⟨hyt, hys⟩ := Prod.mk.inj hsecond
  have hmemx : x ∈ t.answers := by simp [hx]
  have hmemy : y ∈ t.answers := by simp [hx, hy]
  have hstatus := (hall t hrun x hmemx y hmemy (hxt.trans hyt.symm)).1
  omega

end DemoService.Sip
