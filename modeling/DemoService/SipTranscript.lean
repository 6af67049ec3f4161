import DemoService.SipBookkeeping
import DemoService.SipRoundTrip

/-! A transcript of the engine: the final answers it sent to INVITEs, and the
requests its stored answers were made for. -/

namespace DemoService.Sip

open AssocMap RustText NetAddr GuardedRuns Fallible

structure SameHeaders (h g : SipHeaders) : Prop where
  callId : h.get "call-id".toList = g.get "call-id".toList
  cseq : h.get "cseq".toList = g.get "cseq".toList
  via : h.values "via".toList = g.values "via".toList

theorem SameHeaders.symm {h g : SipHeaders} (hs : SameHeaders h g) : SameHeaders g h :=
  ⟨hs.callId.symm, hs.cseq.symm, hs.via.symm⟩

theorem SameHeaders.trans {h g k : SipHeaders} (hs : SameHeaders h g) (hg : SameHeaders g k) :
    SameHeaders h k :=
  ⟨hs.callId.trans hg.callId, hs.cseq.trans hg.cseq, hs.via.trans hg.via⟩

/-- The text is a response with the code that belongs to the request. -/
def IsReply (request : SipParsedRequest) (code : Nat) (text : Str) : Prop :=
  ∃ response, parseSipResponse text = some response ∧ response.statusCode = code ∧
    SameHeaders response.headers request.headers

def Parsed (request : SipParsedRequest) : Prop :=
  ∀ entry ∈ request.headers.entries, Clean entry.2

theorem RoundTrips.isReply {request : SipParsedRequest} {code : Nat} {reason content : Str}
    {localTag built : Option Str} (h : RoundTrips request code reason localTag content built)
    {text : Str} (hbuilt : built = some text) : IsReply request code text := by
  obtain ⟨payload, response, hpayload, hparse, hreads⟩ := h
  obtain rfl : payload = text := Option.some.inj (hpayload.symm.trans hbuilt)
  exact ⟨response, hparse, hreads.statusCode, hreads.callId, hreads.cseq, hreads.via⟩

theorem isReply_of_build {request : SipParsedRequest} (hrequest : Parsed request) {code : Nat}
    (hcode : code < 65536) {reason : Str} (hreason : IsPhrase reason) {localTag : Option Str}
    (htag : ∀ tag ∈ localTag, IsHex tag) {text : Str}
    (h : buildResponseForRequest request code reason localTag none = some text) :
    IsReply request code text := by
  obtain ⟨echo, hecho, -⟩ := buildResponseForRequest_eq_some.mp h
  have hanswer : Answerable request := (answerable_iff localTag).mpr ⟨echo, hecho⟩
  have hround := buildResponseForRequest_roundTrips hrequest hanswer htag hcode
    (splitWhitespace reason) (fun word hword => isWord_of_mem_splitWhitespace hword) none
  rw [show join [' '] (splitWhitespace reason) = reason from hreason] at hround
  exact hround.isReply h

theorem isReply_of_inDialog {payload : Str} {request : SipParsedRequest}
    (hparse : parseSipRequest payload = some request) {code : Nat} (hcode : code < 65536)
    {reason : Str} (hreason : IsPhrase reason) {text : Str}
    (h : buildResponseForInDialogRequest payload code reason = some text) :
    IsReply request code text := by
  rw [buildResponseForInDialogRequest, hparse] at h
  exact isReply_of_build (parseSipRequest_clean hparse) hcode hreason (by simp) h

theorem isReply_of_build200 {request : SipParsedRequest} (hrequest : Parsed request)
    {localTag localHost : Str} (htag : IsHex localTag) (hhost : '\n' ∉ localHost)
    {localRtpPort : Nat} {text : Str}
    (h : buildSip200OkForInvite request localTag localHost localRtpPort = some text) :
    IsReply request 200 text := by
  obtain ⟨echo, hecho, -⟩ := buildSip200OkForInvite_eq_some.mp h
  have hanswer : Answerable request := (answerable_iff (some localTag)).mpr ⟨echo, hecho⟩
  exact (buildSip200OkForInvite_roundTrips hrequest hanswer htag hhost localRtpPort).isReply h

/-! ### Answers to INVITEs -/

/-- The value of a parameter after a header value's semicolons. -/
def headerParam (name : String) (value : Str) : Option Str :=
  ((splitChar ';' value).tail.map trim).findSome? (fun part =>
    if startsWith (name.toList ++ ['=']) (toAsciiLowercase part) then
      some (part.drop (name.length + 1))
    else none)

/-- What tells one INVITE from another on the wire. -/
structure Transaction where
  callId : Option Str
  cseq : Option Str
  branch : Option Str
  deriving DecidableEq

def transactionOf (headers : SipHeaders) : Transaction where
  callId := headers.get "call-id".toList
  cseq := headers.get "cseq".toList
  branch := (headers.values "via".toList).head?.bind (headerParam "branch")

theorem SameHeaders.transaction {h g : SipHeaders} (hs : SameHeaders h g) :
    transactionOf h = transactionOf g := by
  simp only [transactionOf, hs.callId, hs.cseq, hs.via]

/-- The tag of the To header; a name in angle brackets may hold parameters of its own. -/
def toTag (headers : SipHeaders) : Option Str :=
  (headers.get "to".toList).bind (fun value =>
    headerParam "tag" (((rsplitOnce '>' value).map (·.2)).getD value))

structure Answer where
  transaction : Transaction
  status : Nat
  tag : Option Str
  deriving DecidableEq

/-- The final answer a text is. -/
def answerOf (text : Str) : Option Answer :=
  (parseSipResponse text).bind (fun response =>
    if 200 ≤ response.statusCode then
      some ⟨transactionOf response.headers, response.statusCode, toTag response.headers⟩
    else none)

def Output.answer? : Output → Option Answer
  | .send payload _ delivered => if delivered then answerOf payload else none
  | _ => none

/-- The final answers to INVITEs among the outputs for an event. A BYE is
answered itself; a CANCEL is too, with 200, and the INVITE it ends with 487. The
other events make the engine send requests only. -/
def answersTo (event : EngineEvent) (out : List Output) : List Answer :=
  match event with
  | .inboundSetupResult _ _ => out.filterMap Output.answer?
  | .datagram payload _ =>
    match parseSipRequest payload with
    | none => []
    | some request =>
      if request.method = "INVITE".toList then out.filterMap Output.answer?
      else if request.method = "CANCEL".toList then
        (out.filterMap Output.answer?).filter (·.status ≠ 200)
      else []
  | _ => []

/-- The system, what it answered, and for each stored answer the request it was made for. -/
structure Transcript where
  system : System
  answers : List Answer
  /-- By Call-ID, the INVITE of the dialog's 200 OK. -/
  invites : Str → Option SipParsedRequest
  /-- By cache key, the BYE of the cached 200 OK. -/
  byes : Str → Option SipParsedRequest

def Transcript.init (config : AppConfig) : Transcript where
  system := .init config
  answers := []
  invites := fun _ => none
  byes := fun _ => none

def recordInvite (e : Engine) (event : EngineEvent) (invites : Str → Option SipParsedRequest) :
    Str → Option SipParsedRequest :=
  match event with
  | .inboundSetupResult callId _ =>
    match e.pendingInbound.lookup callId with
    | some pending => Function.update invites callId (some pending.request)
    | none => invites
  | _ => invites

def recordBye (e : Engine) (event : EngineEvent) (byes : Str → Option SipParsedRequest) :
    Str → Option SipParsedRequest :=
  match event with
  | .datagram payload _ =>
    match parseSipRequest payload with
    | some request =>
      if request.method = "BYE".toList ∧
          (e.recentByeResponses.lookup (byeCacheKey request)).isNone = true then
        Function.update byes (byeCacheKey request) (some request)
      else byes
    | none => byes
  | _ => byes

def Transcript.record (config : AppConfig) (t : Transcript) (a : Action) (s : System) :
    Transcript :=
  match t.system.event? a with
  | none => { t with system := s }
  | some (_, event) =>
    { system := s
      answers := answersTo event (t.system.sends config a) ++ t.answers
      invites := recordInvite t.system.engine event t.invites
      byes := recordBye t.system.engine event t.byes }

def Transcript.step (config : AppConfig) (t : Transcript) (a : Action) : Option Transcript :=
  (t.system.step config a).map (t.record config a)

def Env.SimpleUuids (env : Env) : Prop := ∀ site, IsHex (env.uuid site)

def Action.SimpleUuids : Action → Prop
  | .command env _ => env.SimpleUuids
  | .datagram env _ _ => env.SimpleUuids
  | .receiveResult env => env.SimpleUuids
  | .receiveEnd env => env.SimpleUuids
  | .finishSetup _ _ => True
  | .bridgeEnds _ => True

theorem Action.SimpleUuids.env {s : System} {a : Action} (h : a.SimpleUuids) {env : Env}
    {event : EngineEvent} (hevent : s.event? a = some (env, event)) : env.SimpleUuids := by
  cases a with
  | command _ _ =>
    cases hevent
    exact h
  | datagram _ _ _ =>
    cases hevent
    exact h
  | receiveResult _ =>
    obtain ⟨r, -, heq⟩ := Option.map_eq_some_iff.mp hevent
    cases heq
    exact h
  | receiveEnd _ =>
    obtain ⟨callId, -, heq⟩ := Option.map_eq_some_iff.mp hevent
    cases heq
    exact h
  | finishSetup _ _ => cases hevent
  | bridgeEnds _ => cases hevent

/-! ### What the transcript records -/

/-- The stored answers are replies to the recorded requests, and the pending INVITEs can be
answered. -/
structure Records (e : Engine) (invites byes : Str → Option SipParsedRequest) : Prop where
  pending : ∀ c p, e.pendingInbound.lookup c = some p → IsHex p.localTag ∧ Parsed p.request ∧
    p.request.headers.get "call-id".toList = some c
  dialogs : ∀ c d, e.inboundDialogs.lookup c = some d → ∃ q, invites c = some q ∧
    IsReply q 200 d.inviteOkPayload ∧ q.headers.get "call-id".toList = some c
  byes : ∀ key cached, e.recentByeResponses.lookup key = some cached → ∃ q, byes key = some q ∧
    IsReply q 200 cached.payload

theorem records_new (config : AppConfig) :
    Records (Engine.new config) (fun _ => none) (fun _ => none) where
  pending := nofun
  dialogs := nofun
  byes := nofun

theorem callId_of_known {request : SipParsedRequest} (h : callIdOf request ≠ missingCallId) :
    request.headers.get "call-id".toList = some (callIdOf request) := by
  cases hget : request.headers.get "call-id".toList with
  | none => exact absurd (by rw [callIdOf, hget, Option.getD_none]) h
  | some value => rw [callIdOf, hget, Option.getD_some]

section

variable {config : AppConfig} {env : Env} {e e' : Engine} {out : List Output}
  {invites byes : Str → Option SipParsedRequest}

theorem Records.refuse (h : Records e invites byes) (callId : Str)
    (pending : PendingInboundInvite) : Records (e.refuse callId pending) invites byes :=
  ⟨fun c p hp => h.pending c p (lookup_erase_some hp).2, h.dialogs, h.byes⟩

theorem Records.teardown (h : Records e invites byes) (callId : Str) (dialog : InboundDialog) :
    Records (e.teardown callId dialog) invites byes :=
  ⟨h.pending, fun c d hd => h.dialogs c d (lookup_erase_some hd).2, h.byes⟩

theorem Records.cleanup (h : Records e invites byes) (now : Nat) :
    Records (cleanupStaleState now e) invites byes :=
  ⟨fun c p hp => h.pending c p (lookup_of_retain hp), h.dialogs,
    fun key cached hc => h.byes key cached (lookup_of_retain hc)⟩

theorem Records.countSend (h : Records e invites byes) (delivered : Bool) :
    Records (e.countSend delivered) invites byes := by
  cases delivered
  · exact ⟨h.pending, h.dialogs, h.byes⟩
  · exact h

theorem Records.noteInvite (h : Records e invites byes) {callId : Str}
    (hnone : e.inboundDialogs.lookup callId = none) (request : SipParsedRequest) :
    Records e (Function.update invites callId (some request)) byes := by
  refine ⟨h.pending, fun c d hd => ?_, h.byes⟩
  have hne : c ≠ callId := by
    rintro rfl
    exact absurd (hnone.symm.trans hd) nofun
  rw [Function.update_of_ne hne]
  exact h.dialogs c d hd

theorem Records.noteBye (h : Records e invites byes) {key : Str}
    (hnone : e.recentByeResponses.lookup key = none) (request : SipParsedRequest) :
    Records e invites (Function.update byes key (some request)) := by
  refine ⟨h.pending, h.dialogs, fun k cached hc => ?_⟩
  have hne : k ≠ key := by
    rintro rfl
    exact absurd (hnone.symm.trans hc) nofun
  rw [Function.update_of_ne hne]
  exact h.byes k cached hc

theorem acceptInvite_records (h : Records e invites byes) (hhost : '\n' ∉ config.localSipAdvertiseHost)
    {callId : Str} {pending : PendingInboundInvite} {bridge : InboundBridgeHandle}
    (hpending : e.pendingInbound.lookup callId = some pending)
    (hinvite : invites callId = some pending.request)
    (hr : acceptInvite config env e callId pending bridge = .ok (e', out)) :
    Records e' invites byes := by
  obtain ⟨htag, hparsed, hcall⟩ := h.pending callId pending hpending
  have hrefused := h.refuse callId pending
  unfold acceptInvite at hr
  split at hr
  · cases hr
    exact ⟨hrefused.pending, hrefused.dialogs, hrefused.byes⟩
  · rename_i okResponse hok
    have hreply := isReply_of_build200 hparsed htag hhost hok
    split at hr
    · obtain ⟨dialog, hdialog, hr⟩ := bind_eq_ok.mp hr
      cases hr
      refine ⟨hrefused.pending, fun c d hd => ?_, h.byes⟩
      rcases lookup_insert_some hd with ⟨rfl, rfl⟩ | ⟨-, hd⟩
      · rw [acceptedDialog_payload hdialog]
        exact ⟨pending.request, hinvite, hreply, hcall⟩
      · exact h.dialogs c d hd
    · cases hr
      exact ⟨hrefused.pending, hrefused.dialogs, hrefused.byes⟩

theorem handleInboundSetupResult_records (h : Records e invites byes)
    (hhost : '\n' ∉ config.localSipAdvertiseHost)
    (hdisjoint : ∀ c p, e.pendingInbound.lookup c = some p → e.inboundDialogs.lookup c = none)
    {callId : Str} {result : Except Str InboundBridgeHandle}
    (hr : handleInboundSetupResult config env e callId result = .ok (e', out)) :
    Records e' (recordInvite e (.inboundSetupResult callId result) invites) byes := by
  unfold handleInboundSetupResult at hr
  unfold recordInvite
  split at hr
  · rename_i bridge hnone
    cases hr
    simp only [hnone]
    exact ⟨h.pending, h.dialogs, h.byes⟩
  · rename_i reason hnone
    cases hr
    simp only [hnone]
    exact h
  · rename_i pending bridge hsome
    simp only [hsome]
    have hrecorded := h.noteInvite (hdisjoint callId pending hsome) pending.request
    exact acceptInvite_records hrecorded hhost hsome (Function.update_self ..) hr
  · rename_i pending reason hsome
    simp only [hsome]
    have hrecorded := h.noteInvite (hdisjoint callId pending hsome) pending.request
    cases hr
    have hrefused := hrecorded.refuse callId pending
    have hcounted : Records ((e.refuse callId pending).fetchAdd .inboundInvitesRejectedTotal)
        (Function.update invites callId (some pending.request)) byes :=
      ⟨hrefused.pending, hrefused.dialogs, hrefused.byes⟩
    exact hcounted.countSend _

theorem admitInvite_records (h : Records e invites byes) (henv : env.SimpleUuids)
    {request : SipParsedRequest} (hparsed : Parsed request)
    (hcall : callIdOf request ≠ missingCallId) (payload : Str) (sourceAddr : SocketAddr) :
    Records (admitInvite env e request payload sourceAddr).1 invites byes := by
  unfold admitInvite
  split
  · exact ⟨h.pending, h.dialogs, h.byes⟩
  · split
    · exact ⟨h.pending, h.dialogs, h.byes⟩
    · refine ⟨fun c p hp => ?_, h.dialogs, h.byes⟩
      rcases lookup_insert_some hp with ⟨rfl, rfl⟩ | ⟨-, hp⟩
      · exact ⟨henv .localTag, hparsed, callId_of_known hcall⟩
      · exact h.pending c p hp

theorem handleInboundInvite_records (h : Records e invites byes) (henv : env.SimpleUuids)
    {request : SipParsedRequest} (hparsed : Parsed request) (payload : Str)
    (sourceAddr : SocketAddr) :
    Records (handleInboundInvite config env e request payload sourceAddr).1 invites byes := by
  have hcounted : Records (e.fetchAdd .inboundInvitesTotal) invites byes :=
    ⟨h.pending, h.dialogs, h.byes⟩
  unfold handleInboundInvite
  split
  · exact hcounted.countSend _
  · exact hcounted
  · split
    · exact hcounted
    · rename_i hcall
      exact admitInvite_records hcounted henv hparsed hcall payload sourceAddr

theorem handleInboundBye_records (h : Records e invites byes) {request : SipParsedRequest}
    {payload : Str} (hparse : parseSipRequest payload = some request)
    (hmethod : request.method = "BYE".toList) (sourceAddr : SocketAddr) :
    Records (handleInboundBye env e request payload sourceAddr).1 invites
      (recordBye e (.datagram payload sourceAddr) byes) := by
  simp only [recordBye, hparse, hmethod, true_and]
  unfold handleInboundBye
  split
  · rename_i cached hcached
    have hsome : (e.recentByeResponses.lookup (byeCacheKey request)).isNone = false := by
      rw [show e.recentByeResponses.lookup (byeCacheKey request) = some cached from hcached]
      rfl
    rw [hsome]
    exact ⟨h.pending, h.dialogs, h.byes⟩
  · rename_i hnone
    have hnone : e.recentByeResponses.lookup (byeCacheKey request) = none := hnone
    rw [hnone, Option.isNone_none, if_pos rfl]
    have hrecorded := h.noteBye hnone request
    have hanswered : Records (answerBye env (e.fetchAdd .sipByeRequestsTotal) request payload
        sourceAddr).1 invites (Function.update byes (byeCacheKey request) (some request)) := by
      unfold answerBye
      split
      · exact ⟨hrecorded.pending, hrecorded.dialogs, hrecorded.byes⟩
      · rename_i text htext
        split
        · refine ⟨hrecorded.pending, hrecorded.dialogs, fun key cached hc => ?_⟩
          rcases lookup_insert_some hc with ⟨rfl, rfl⟩ | ⟨-, hc⟩
          · have hreply := isReply_of_inDialog hparse (by omega) (by decide) htext
            exact ⟨request, Function.update_self .., hreply⟩
          · exact hrecorded.byes key cached hc
        · exact ⟨hrecorded.pending, hrecorded.dialogs, hrecorded.byes⟩
    split
    · exact hanswered
    · exact hanswered.teardown _ _

theorem handleInboundRequest_records (h : Records e invites byes) (henv : env.SimpleUuids)
    {request : SipParsedRequest} {payload : Str} (hparse : parseSipRequest payload = some request)
    (sourceAddr : SocketAddr) :
    Records (handleInboundRequest config env e request payload sourceAddr).1 invites
      (recordBye e (.datagram payload sourceAddr) byes) := by
  by_cases hbye : request.method = "BYE".toList
  · have hne : request.method ≠ "INVITE".toList := by
      rw [hbye]
      decide
    rw [handleInboundRequest, if_neg hne, if_pos hbye]
    exact handleInboundBye_records h hparse hbye sourceAddr
  · have hsame : recordBye e (.datagram payload sourceAddr) byes = byes := by
      simp only [recordBye, hparse, hbye, false_and, if_false]
    rw [hsame]
    unfold handleInboundRequest
    split
    · exact handleInboundInvite_records h henv (parseSipRequest_clean hparse) payload sourceAddr
    · split
      · unfold handleInboundCancel
        split
        · exact h
        · exact h.refuse _ _
      · exact h

theorem Records.of_same (h : Records e invites byes) (hcalls : e'.calls = e.calls)
    (hbyes : e'.recentByeResponses = e.recentByeResponses) : Records e' invites byes := by
  obtain ⟨-, hpending, hdialogs, -⟩ := CallTables.mk.inj hcalls
  have hpending : e'.pendingInbound = e.pendingInbound := hpending
  have hdialogs : e'.inboundDialogs = e.inboundDialogs := hdialogs
  exact ⟨hpending ▸ h.pending, hdialogs ▸ h.dialogs, hbyes ▸ h.byes⟩

theorem acknowledge_byes {callId payload : Str} {sourceAddr : SocketAddr}
    {transaction : OutboundInviteTransaction}
    (h : acknowledge config env e callId payload sourceAddr transaction = .ok (e', out)) :
    e'.recentByeResponses = e.recentByeResponses := by
  unfold acknowledge at h
  obtain ⟨ack, -, hr⟩ := bind_eq_ok.mp h
  cases ack with
  | none =>
    cases hr
    rfl
  | some ack =>
    simp only at hr
    split at hr
    · cases hr
      rfl
    · split at hr
      · cases hr
        rfl
      · cases hr
        rfl

theorem handleSipResponse_byes {code : Nat} {payload : Str} {sourceAddr : SocketAddr}
    (h : handleSipResponse config env e code payload sourceAddr = .ok (e', out)) :
    e'.recentByeResponses = e.recentByeResponses := by
  unfold handleSipResponse at h
  split at h
  · split at h
    · split at h
      · cases h
        rfl
      · obtain ⟨⟨acked, sent⟩, hack, hr⟩ := bind_eq_ok.mp h
        have hsame := acknowledge_byes hack
        simp only at hr
        split at hr
        · cases hr
          exact hsame
        · cases hr
          exact hsame
    · cases h
      rfl
  · cases h
    rfl

theorem handlePayload_records (h : Records e invites byes) (henv : env.SimpleUuids) {payload : Str}
    {sourceAddr : SocketAddr} (hr : handlePayload config env e payload sourceAddr = .ok (e', out)) :
    Records e' invites (recordBye e (.datagram payload sourceAddr) byes) := by
  unfold handlePayload at hr
  split at hr
  · rename_i request hparse
    have hrecords : Records (handleInboundRequest config env e request payload sourceAddr).1 invites
        (recordBye e (.datagram payload sourceAddr) byes) :=
      handleInboundRequest_records h henv hparse sourceAddr
    have hfirst : (handleInboundRequest config env e request payload sourceAddr).1 = e' :=
      congrArg Prod.fst (pure_eq_ok.mp hr)
    rwa [hfirst] at hrecords
  · rename_i hparse _
    cases hr
    simpa only [recordBye, hparse] using h
  · rename_i code hparse _
    obtain ⟨⟨handled, sent⟩, hhandle, hr⟩ := bind_eq_ok.mp hr
    have hcounted : Records (e.fetchAdd .sipResponsesTotal) invites byes :=
      ⟨h.pending, h.dialogs, h.byes⟩
    have hhandled := hcounted.of_same (handleSipResponse_calls hhandle).1
      (handleSipResponse_byes hhandle)
    simp only [recordBye, hparse]
    cases hr
    split
    · exact ⟨hhandled.pending, hhandled.dialogs, hhandled.byes⟩
    · exact hhandled

theorem handle_records (h : Records e invites byes) (hhost : '\n' ∉ config.localSipAdvertiseHost)
    (hdisjoint : ∀ c p, e.pendingInbound.lookup c = some p → e.inboundDialogs.lookup c = none)
    (henv : env.SimpleUuids) {event : EngineEvent}
    (hr : e.handle config env event = .ok (e', out)) :
    Records e' (recordInvite e event invites) (recordBye e event byes) := by
  cases event with
  | command request =>
    have hfirst : (handleOutboundInvite env e request).1 = e' :=
      congrArg Prod.fst (pure_eq_ok.mp hr)
    rw [← hfirst]
    unfold handleOutboundInvite
    split
    · exact ⟨h.pending, h.dialogs, h.byes⟩
    · exact h
  | backendEndRequested callId =>
    have hfirst : (handleBackendEnd env e callId).1 = e' := congrArg Prod.fst (pure_eq_ok.mp hr)
    rw [← hfirst]
    unfold handleBackendEnd
    split
    · exact h
    · exact h.teardown _ _
  | inboundSetupResult callId result => exact handleInboundSetupResult_records h hhost hdisjoint hr
  | datagram payload sourceAddr =>
    obtain ⟨⟨handled, sent⟩, hhandle, hr⟩ := bind_eq_ok.mp hr
    cases hr
    exact (handlePayload_records h henv hhandle).cleanup _

end

structure TranscriptSound (t : Transcript) : Prop where
  wired : Wired False t.system.view
  records : Records t.system.engine t.invites t.byes

theorem transcriptSound_init (config : AppConfig) : TranscriptSound (Transcript.init config) :=
  ⟨wired_init False config, records_new config⟩

theorem TranscriptSound.step {config : AppConfig} (hhost : '\n' ∉ config.localSipAdvertiseHost)
    {t u : Transcript} {a : Action} (h : TranscriptSound t) (ha : a.SimpleUuids)
    (hs : t.step config a = some u) : TranscriptSound u := by
  obtain ⟨s, hstep, rfl⟩ := Option.map_eq_some_iff.mp hs
  have hwired : Wired False s.view := h.wired.run (step_callRun hstep nofun)
  unfold Transcript.record
  rcases step_engine hstep with ⟨env, event, hevent, hhandle⟩ | ⟨hevent, hsame⟩
  · simp only [hevent]
    exact ⟨hwired, handle_records h.records hhost h.wired.disjoint (ha.env hevent) hhandle⟩
  · simp only [hevent]
    exact ⟨hwired, hsame ▸ h.records⟩

abbrev TranscriptRun (config : AppConfig) :=
  GuardedRun (Transcript.step config) (fun _ a => a.SimpleUuids)

theorem TranscriptRun.sound {config : AppConfig} (hhost : '\n' ∉ config.localSipAdvertiseHost)
    {t : Transcript} (h : TranscriptRun config (Transcript.init config) t) : TranscriptSound t :=
  h.invariant (transcriptSound_init config) fun _ _ _ hsound ha hs => hsound.step hhost ha hs

end DemoService.Sip
