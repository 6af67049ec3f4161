import DemoService.SipPanicFreedom

/-! Which payloads make the engine send an ACK. -/

namespace DemoService.Sip

open AssocMap RustText NetAddr Fallible

/-- One turn of the event loop, with the engine it began in and what it sent. -/
structure Turn where
  before : Engine
  event : EngineEvent
  out : List Output

/-- The turns taken on a sequence of events; a panic ends the task. -/
def Engine.turns (config : AppConfig) (e : Engine) : List (Env × EngineEvent) → List Turn
  | [] => []
  | (env, event) :: inputs =>
    match e.handle config env event with
    | .error _ => []
    | .ok (e', out) => ⟨e, event, out⟩ :: e'.turns config inputs

def Output.isAck : Output → Bool
  | .send payload _ _ => startsWith "ACK ".toList payload
  | _ => false

def Turn.Acks (turn : Turn) : Prop := ∃ output ∈ turn.out, output.isAck = true

/-- The payload the turn reacts to. -/
def Turn.payload? (turn : Turn) : Option Str :=
  match turn.event with
  | .datagram payload _ => some payload
  | _ => none

/-- The turn reacts to a response with a final status code. -/
def Turn.Final (turn : Turn) : Prop :=
  ∃ payload response, turn.payload? = some payload ∧ parseSipResponse payload = some response ∧
    200 ≤ response.statusCode

/-- The turn reacts to a provisional response, with a To header, that names an
outbound INVITE by its Call-ID and CSeq. -/
def Turn.Provisional (turn : Turn) : Prop :=
  ∃ payload response, turn.payload? = some payload ∧ parseSipRequest payload = none ∧
    parseSipResponse payload = some response ∧ response.statusCode < 200 ∧
      Acknowledged turn.before response

/-- What the engine keeps to be sent again are responses. -/
structure KeepsResponses (e : Engine) : Prop where
  dialogs : ∀ c dialog, e.inboundDialogs.lookup c = some dialog →
    dialog.inviteOkPayload.head? = some 'S'
  byes : ∀ key cached, e.recentByeResponses.lookup key = some cached →
    cached.payload.head? = some 'S'

theorem isAck_of_head {c : Char} {payload : Str} (h : payload.head? = some c) (hc : c ≠ 'A')
    (destination : SocketAddr) (delivered : Bool) :
    (Output.send payload destination delivered).isAck = false := by
  cases payload with
  | nil => cases h
  | cons d payload =>
    obtain rfl : d = c := Option.some.inj h
    have hb : ('A' == d) = false := by simpa using hc.symm
    show List.isPrefixOf ('A' :: _) (d :: payload) = false
    rw [List.isPrefixOf, hb, Bool.false_and]

theorem reply_no_ack {env : Env} {site : SendSite} {response : Option Str}
    (h : ∀ payload ∈ response, payload.head? = some 'S') (destination : SocketAddr) :
    ∀ output ∈ env.reply site response destination, output.isAck = false := by
  cases response with
  | none => exact fun _ hmem => absurd hmem List.not_mem_nil
  | some payload =>
    exact List.forall_mem_singleton.mpr (isAck_of_head (h payload rfl) (by decide) _ _)

/-- What a turn that is no response to an INVITE keeps and sends. -/
structure Silent (result : Engine × List Output) : Prop where
  keeps : KeepsResponses result.1
  out : ∀ output ∈ result.2, output.isAck = false

section

variable {config : AppConfig} {env : Env} {e : Engine}

theorem KeepsResponses.teardown (h : KeepsResponses e) (callId : Str) (dialog : InboundDialog) :
    KeepsResponses (e.teardown callId dialog) :=
  ⟨fun c d hd => h.dialogs c d (lookup_erase_some hd).2, h.byes⟩

theorem KeepsResponses.cleanup (h : KeepsResponses e) (now : Nat) :
    KeepsResponses (cleanupStaleState now e) :=
  ⟨h.dialogs, fun key cached hc => h.byes key cached (lookup_of_retain hc)⟩

theorem handleOutboundInvite_silent (h : KeepsResponses e) (request : SipInviteRequest) :
    Silent (handleOutboundInvite env e request) := by
  unfold handleOutboundInvite
  split
  · exact ⟨⟨h.dialogs, h.byes⟩, List.forall_mem_singleton.mpr rfl⟩
  · exact ⟨h, nofun⟩

theorem handleBackendEnd_silent (h : KeepsResponses e) (callId : Str) :
    Silent (handleBackendEnd env e callId) := by
  unfold handleBackendEnd
  split
  · exact ⟨h, nofun⟩
  · rename_i dialog hdialog
    have hbye : (buildByeRequest (env.uuid .branch) dialog.signaling).head? = some 'B' :=
      head_buildSipMessage rfl _ _
    refine ⟨h.teardown callId dialog, List.forall_mem_cons.mpr ⟨?_, ?_⟩⟩
    · exact isAck_of_head hbye (by decide) _ _
    · exact List.forall_mem_singleton.mpr rfl

theorem acceptInvite_silent (h : KeepsResponses e) {callId : Str} {pending : PendingInboundInvite}
    {bridge : InboundBridgeHandle} {r : Engine × List Output}
    (hr : acceptInvite config env e callId pending bridge = .ok r) : Silent r := by
  unfold acceptInvite at hr
  split at hr
  · cases hr
    exact ⟨⟨h.dialogs, h.byes⟩, List.forall_mem_singleton.mpr rfl⟩
  · rename_i okResponse hok
    have hhead := head_buildSip200OkForInvite hok
    split at hr
    · obtain ⟨dialog, hdialog, hr⟩ := bind_eq_ok.mp hr
      have hpayload := acceptedDialog_payload hdialog
      cases hr
      refine ⟨⟨fun c d hd => ?_, h.byes⟩, ?_⟩
      · rcases lookup_insert_some hd with ⟨-, rfl⟩ | ⟨-, hd⟩
        · rw [hpayload]
          exact hhead
        · exact h.dialogs c d hd
      · exact List.forall_mem_singleton.mpr (isAck_of_head hhead (by decide) _ _)
    · cases hr
      refine ⟨⟨h.dialogs, h.byes⟩, List.forall_mem_cons.mpr ⟨?_, ?_⟩⟩
      · exact isAck_of_head hhead (by decide) _ _
      · exact List.forall_mem_singleton.mpr rfl

theorem KeepsResponses.countSend (h : KeepsResponses e) (delivered : Bool) :
    KeepsResponses (e.countSend delivered) := by
  cases delivered
  · exact ⟨h.dialogs, h.byes⟩
  · exact h

theorem handleInboundSetupResult_silent (h : KeepsResponses e) {callId : Str}
    {result : Except Str InboundBridgeHandle} {r : Engine × List Output}
    (hr : handleInboundSetupResult config env e callId result = .ok r) : Silent r := by
  unfold handleInboundSetupResult at hr
  split at hr
  · cases hr
    exact ⟨⟨h.dialogs, h.byes⟩, List.forall_mem_singleton.mpr rfl⟩
  · cases hr
    exact ⟨h, nofun⟩
  · exact acceptInvite_silent h hr
  · rename_i pending reason hpending
    cases hr
    have hcounted : KeepsResponses
        ((e.refuse callId pending).fetchAdd .inboundInvitesRejectedTotal) := ⟨h.dialogs, h.byes⟩
    exact ⟨hcounted.countSend _, reply_no_ack (fun _ => head_buildResponseForRequest) _⟩

theorem head_inDialogResponse {payload response reason : Str} {code : Nat}
    (h : buildResponseForInDialogRequest payload code reason = some response) :
    response.head? = some 'S' := by
  obtain ⟨request, -, hbuild⟩ := Option.bind_eq_some_iff.mp h
  exact head_buildResponseForRequest hbuild

theorem provisionalResponses_no_ack (request : SipParsedRequest) (sourceAddr : SocketAddr) :
    ∀ output ∈ provisionalResponses config env request sourceAddr, output.isAck = false := by
  unfold provisionalResponses
  refine List.forall_mem_append.mpr ⟨reply_no_ack (fun _ => head_buildResponseForRequest) _, ?_⟩
  split
  · exact reply_no_ack (fun _ => head_buildResponseForRequest) _
  · exact nofun

theorem admitInvite_silent (h : KeepsResponses e) (request : SipParsedRequest) (payload : Str)
    (sourceAddr : SocketAddr) : Silent (admitInvite env e request payload sourceAddr) := by
  unfold admitInvite
  split
  · exact ⟨⟨h.dialogs, h.byes⟩, reply_no_ack (fun _ => head_buildResponseForRequest) _⟩
  · split
    · exact ⟨⟨h.dialogs, h.byes⟩, reply_no_ack (fun _ => head_buildResponseForRequest) _⟩
    · exact ⟨⟨h.dialogs, h.byes⟩, List.forall_mem_singleton.mpr rfl⟩

theorem handleInboundInvite_silent (h : KeepsResponses e) (request : SipParsedRequest)
    (payload : Str) (sourceAddr : SocketAddr) :
    Silent (handleInboundInvite config env e request payload sourceAddr) := by
  have hcounted : KeepsResponses (e.fetchAdd .inboundInvitesTotal) := ⟨h.dialogs, h.byes⟩
  unfold handleInboundInvite
  split
  · rename_i dialog hdialog
    have hhead := h.dialogs _ dialog hdialog
    exact ⟨hcounted.countSend _, List.forall_mem_singleton.mpr (isAck_of_head hhead (by decide) _ _)⟩
  · exact ⟨hcounted, nofun⟩
  · split
    · exact ⟨hcounted, reply_no_ack (fun _ => head_inDialogResponse) _⟩
    · have hadmitted : Silent (admitInvite env _ request payload sourceAddr) :=
        admitInvite_silent hcounted request payload sourceAddr
      exact ⟨hadmitted.keeps, List.forall_mem_append.mpr
        ⟨provisionalResponses_no_ack request sourceAddr, hadmitted.out⟩⟩

theorem answerBye_silent (h : KeepsResponses e) (request : SipParsedRequest) (payload : Str)
    (sourceAddr : SocketAddr) : Silent (answerBye env e request payload sourceAddr) := by
  unfold answerBye
  split
  · exact ⟨h, nofun⟩
  · rename_i response hresponse
    have hhead := head_inDialogResponse hresponse
    split
    · refine ⟨⟨h.dialogs, fun key cached hc => ?_⟩, ?_⟩
      · rcases lookup_insert_some hc with ⟨-, rfl⟩ | ⟨-, hc⟩
        · exact hhead
        · exact h.byes key cached hc
      · exact List.forall_mem_singleton.mpr (isAck_of_head hhead (by decide) _ _)
    · exact ⟨⟨h.dialogs, h.byes⟩,
        List.forall_mem_singleton.mpr (isAck_of_head hhead (by decide) _ _)⟩

theorem handleInboundBye_silent (h : KeepsResponses e) (request : SipParsedRequest)
    (payload : Str) (sourceAddr : SocketAddr) :
    Silent (handleInboundBye env e request payload sourceAddr) := by
  have hcounted : KeepsResponses (e.fetchAdd .sipByeRequestsTotal) := ⟨h.dialogs, h.byes⟩
  unfold handleInboundBye
  split
  · rename_i cached hcached
    have hhead := h.byes _ cached hcached
    exact ⟨hcounted, List.forall_mem_singleton.mpr (isAck_of_head hhead (by decide) _ _)⟩
  · have hanswered : Silent (answerBye env _ request payload sourceAddr) :=
      answerBye_silent hcounted request payload sourceAddr
    split
    · exact hanswered
    · rename_i dialog hdialog
      exact ⟨hanswered.keeps.teardown _ dialog, List.forall_mem_append.mpr
        ⟨hanswered.out, List.forall_mem_singleton.mpr rfl⟩⟩

theorem handleInboundCancel_silent (h : KeepsResponses e) (request : SipParsedRequest)
    (payload : Str) (sourceAddr : SocketAddr) :
    Silent (handleInboundCancel env e request payload sourceAddr) := by
  have hok : ∀ output ∈ env.reply .cancelOk
      (buildResponseForInDialogRequest payload 200 "OK".toList) sourceAddr, output.isAck = false :=
    reply_no_ack (fun _ => head_inDialogResponse) _
  unfold handleInboundCancel
  split
  · exact ⟨h, hok⟩
  · exact ⟨⟨h.dialogs, h.byes⟩, List.forall_mem_append.mpr
      ⟨hok, reply_no_ack (fun _ => head_buildResponseForRequest) _⟩⟩

theorem handleInboundRequest_silent (h : KeepsResponses e) (request : SipParsedRequest)
    (payload : Str) (sourceAddr : SocketAddr) :
    Silent (handleInboundRequest config env e request payload sourceAddr) := by
  unfold handleInboundRequest
  split
  · exact handleInboundInvite_silent h request payload sourceAddr
  · split
    · exact handleInboundBye_silent h request payload sourceAddr
    · split
      · exact handleInboundCancel_silent h request payload sourceAddr
      · exact ⟨h, nofun⟩

theorem buildAckForFinalResponse_acks {resolve : Resolver} {branch payload localHost : Str}
    {invite : SipInvite} {sourceAddr : SocketAddr} {response : SipParsedResponse}
    {ack : Option SipDatagram} (hparse : parseSipResponse payload = some response)
    (h : buildAckForFinalResponse resolve branch payload invite sourceAddr localHost = .ok ack) :
    (ack.isSome = true ↔ response.headers.get "call-id".toList = some invite.callId ∧
      (response.headers.get "to".toList).isSome = true) ∧
    ∀ datagram ∈ ack, startsWith "ACK ".toList datagram.payload = true := by
  unfold buildAckForFinalResponse at h
  rw [hparse] at h
  simp only at h
  split at h
  · rename_i hcall
    cases h
    exact ⟨⟨nofun, fun hids => absurd (hcall.symm.trans hids.1) nofun⟩, nofun⟩
  · rename_i callId hcall
    split at h
    · rename_i hne
      cases h
      refine ⟨⟨nofun, fun hids => absurd (Option.some.inj (hcall.symm.trans hids.1)) hne⟩, nofun⟩
    · rename_i heq
      split at h
      · rename_i hto
        cases h
        exact ⟨⟨nofun, fun hids => absurd (hto ▸ hids.2) nofun⟩, nofun⟩
      · rename_i toValue hto
        obtain ⟨uri, -, h⟩ := bind_eq_ok.mp h
        obtain ⟨target, -, h⟩ := bind_eq_ok.mp h
        cases pure_eq_ok.mp h
        refine ⟨⟨fun _ => ⟨hcall.trans (congrArg some (not_not.mp heq)), by rw [hto]; rfl⟩,
          fun _ => rfl⟩, ?_⟩
        rintro _ ⟨⟩
        rfl

theorem acknowledge_acks {callId payload : Str} {sourceAddr : SocketAddr}
    {transaction : OutboundInviteTransaction} {response : SipParsedResponse}
    {r : Engine × List Output} (hparse : parseSipResponse payload = some response)
    (h : acknowledge config env e callId payload sourceAddr transaction = .ok r) :
    ((∃ output ∈ r.2, output.isAck = true) ↔
      response.headers.get "call-id".toList = some transaction.invite.callId ∧
        (response.headers.get "to".toList).isSome = true) ∧
    (KeepsResponses e → KeepsResponses r.1) := by
  unfold acknowledge at h
  obtain ⟨ack, hack, h⟩ := bind_eq_ok.mp h
  obtain ⟨hsome, hstart⟩ := buildAckForFinalResponse_acks hparse hack
  rw [← hsome]
  cases ack with
  | none =>
    cases h
    exact ⟨by simp, id⟩
  | some ack =>
    have hacks : ∃ output ∈ [Output.send ack.payload ack.targetAddr (env.delivered .ack)],
        output.isAck = true := ⟨_, List.mem_singleton_self _, hstart ack rfl⟩
    simp only at h
    split at h
    · cases h
      exact ⟨⟨fun _ => rfl, fun _ => hacks⟩, fun hk => ⟨hk.dialogs, hk.byes⟩⟩
    · split at h <;> cases h <;>
        exact ⟨⟨fun _ => rfl, fun _ => hacks⟩, fun hk => ⟨hk.dialogs, hk.byes⟩⟩

theorem handleSipResponse_acks {code : Nat} {payload : Str} {sourceAddr : SocketAddr}
    {response : SipParsedResponse} {r : Engine × List Output}
    (hreq : parseSipRequest payload = none) (hresp : parseSipResponse payload = some response)
    (h : handleSipResponse config env e code payload sourceAddr = .ok r) :
    ((∃ output ∈ r.2, output.isAck = true) ↔ Acknowledged e response) ∧
    (KeepsResponses e → KeepsResponses r.1) := by
  unfold handleSipResponse at h
  rw [sipHeaderValue_of_response hreq hresp, sipHeaderValue_of_response hreq hresp,
    get_congr _ (n := "Call-ID".toList) (m := "call-id".toList) (by decide),
    get_congr _ (n := "CSeq".toList) (m := "cseq".toList) (by decide)] at h
  split at h
  · rename_i callId cseq hcall hcseq
    split at h
    · rename_i hinvite
      split at h
      · rename_i hnone
        cases h
        refine ⟨⟨by simp, fun ⟨c, _, tx, hc, _, _, htx, _⟩ => ?_⟩, id⟩
        cases hcall.symm.trans hc
        exact absurd (hnone.symm.trans htx) nofun
      · rename_i transaction hsome
        obtain ⟨⟨acked, sent⟩, hack, h⟩ := bind_eq_ok.mp h
        obtain ⟨hacks, hkeeps⟩ := acknowledge_acks hresp hack
        have hiff : (response.headers.get "call-id".toList = some transaction.invite.callId ∧
            (response.headers.get "to".toList).isSome = true) ↔ Acknowledged e response := by
          constructor
          · rintro ⟨hid, hto⟩
            have heq : transaction.invite.callId = callId := Option.some.inj (hid.symm.trans hcall)
            exact ⟨callId, cseq, transaction, hcall, hcseq, hinvite, hsome, heq, hto⟩
          · rintro ⟨c, q, tx, hc, hq, _, htx, hid, hto⟩
            cases hcall.symm.trans hc
            cases hsome.symm.trans htx
            exact ⟨hid ▸ hc, hto⟩
        rw [← hiff, ← hacks]
        simp only at h
        split at h
        · cases h
          exact ⟨Iff.rfl, fun hk => ⟨(hkeeps hk).dialogs, (hkeeps hk).byes⟩⟩
        · cases h
          exact ⟨Iff.rfl, hkeeps⟩
    · rename_i hinvite
      cases h
      refine ⟨⟨by simp, fun ⟨_, q, _, _, hq, hin, _⟩ => ?_⟩, id⟩
      cases hcseq.symm.trans hq
      exact absurd hin hinvite
  · rename_i hno
    cases h
    refine ⟨⟨by simp, fun ⟨c, q, _, hc, hq, _⟩ => ?_⟩, id⟩
    exact absurd hq (hno c q hc)

/-- The payload is a response, and no request, that the engine acknowledges. -/
def AcksResponse (e : Engine) (payload : Str) : Prop :=
  parseSipRequest payload = none ∧
    ∃ response, parseSipResponse payload = some response ∧ Acknowledged e response

theorem Silent.acks {r : Engine × List Output} (h : Silent r) :
    ¬ ∃ output ∈ r.2, output.isAck = true := by
  rintro ⟨output, hmem, hack⟩
  rw [h.out output hmem] at hack
  cases hack

theorem handlePayload_acks (hk : KeepsResponses e) {payload : Str} {sourceAddr : SocketAddr}
    {r : Engine × List Output} (h : handlePayload config env e payload sourceAddr = .ok r) :
    ((∃ output ∈ r.2, output.isAck = true) ↔ AcksResponse e payload) ∧ KeepsResponses r.1 := by
  unfold handlePayload at h
  split at h
  · rename_i request hreq
    have hsilent : Silent (handleInboundRequest config env e request payload sourceAddr) :=
      handleInboundRequest_silent hk request payload sourceAddr
    cases h
    exact ⟨⟨fun ha => absurd ha hsilent.acks, fun ha => absurd (hreq.symm.trans ha.1) nofun⟩,
      hsilent.keeps⟩
  · rename_i hreq hcode
    cases h
    refine ⟨⟨by simp, fun ⟨_, response, hresp, _⟩ => ?_⟩, hk⟩
    rw [parseSipStatusCode, hresp] at hcode
    cases hcode
  · rename_i code hreq hcode
    obtain ⟨response, hresp, -⟩ := parseSipStatusCode_eq_some hcode
    obtain ⟨⟨handled, sent⟩, hhandle, h⟩ := bind_eq_ok.mp h
    obtain ⟨hacks, hkeeps⟩ := handleSipResponse_acks hreq hresp hhandle
    have hcounted : KeepsResponses handled := hkeeps ⟨hk.dialogs, hk.byes⟩
    have hiff : (∃ output ∈ sent, output.isAck = true) ↔ AcksResponse e payload := by
      rw [hacks, acknowledged_fetchAdd]
      constructor
      · exact fun ha => ⟨hreq, response, hresp, ha⟩
      · rintro ⟨-, r, hr, ha⟩
        cases hresp.symm.trans hr
        exact ha
    cases h
    refine ⟨hiff, ?_⟩
    split
    · exact ⟨hcounted.dialogs, hcounted.byes⟩
    · exact hcounted

/-- A turn sends an ACK exactly for a response to one of the engine's INVITEs, whatever its status. -/
theorem handle_acks (hk : KeepsResponses e) {event : EngineEvent} {r : Engine × List Output}
    (h : e.handle config env event = .ok r) :
    ((∃ output ∈ r.2, output.isAck = true) ↔
      ∃ payload sourceAddr, event = .datagram payload sourceAddr ∧ AcksResponse e payload) ∧
    KeepsResponses r.1 := by
  have hother : Silent r → (∀ payload sourceAddr, event ≠ .datagram payload sourceAddr) →
      ((∃ output ∈ r.2, output.isAck = true) ↔
        ∃ payload sourceAddr, event = .datagram payload sourceAddr ∧ AcksResponse e payload) ∧
      KeepsResponses r.1 := fun hs hne =>
    ⟨⟨fun ha => absurd ha hs.acks, fun ⟨_, _, he, _⟩ => absurd he (hne _ _)⟩, hs.keeps⟩
  cases event with
  | command request =>
    cases h
    exact hother (handleOutboundInvite_silent hk request) (by simp)
  | backendEndRequested callId =>
    cases h
    exact hother (handleBackendEnd_silent hk callId) (by simp)
  | inboundSetupResult callId result =>
    exact hother (handleInboundSetupResult_silent hk h) (by simp)
  | datagram payload sourceAddr =>
    obtain ⟨⟨handled, sent⟩, hhandle, h⟩ := bind_eq_ok.mp h
    obtain ⟨hacks, hkeeps⟩ := handlePayload_acks hk hhandle
    cases h
    refine ⟨hacks.trans ⟨fun ha => ⟨_, _, rfl, ha⟩, ?_⟩, hkeeps.cleanup _⟩
    rintro ⟨_, _, he, ha⟩
    cases he
    exact ha

end

theorem Turn.final_iff {config : AppConfig} {env : Env} {e e' : Engine} {event : EngineEvent}
    {out : List Output} (hk : KeepsResponses e) (h : e.handle config env event = .ok (e', out)) :
    ((Turn.mk e event out).Acks → (Turn.mk e event out).Final) ↔
      ¬ (Turn.mk e event out).Provisional := by
  have hacks : (Turn.mk e event out).Acks ↔
      ∃ payload sourceAddr, event = .datagram payload sourceAddr ∧ AcksResponse e payload :=
    (handle_acks hk h).1
  rw [hacks]
  constructor
  · rintro hfinal ⟨payload, response, hp, hreq, hresp, hlow, hack⟩
    cases event with
    | datagram text sourceAddr =>
      cases hp
      obtain ⟨p, r, hp, hr, hhigh⟩ :=
        hfinal ⟨payload, sourceAddr, rfl, hreq, response, hresp, hack⟩
      cases hp
      cases hresp.symm.trans hr
      omega
    | _ => cases hp
  · rintro hno ⟨payload, sourceAddr, rfl, hreq, response, hresp, hack⟩
    refine ⟨payload, response, rfl, hresp, ?_⟩
    by_contra hlow
    exact hno ⟨payload, response, rfl, hreq, hresp, by omega, hack⟩

theorem keepsResponses_new (config : AppConfig) : KeepsResponses (Engine.new config) where
  dialogs := fun _ _ h => absurd h (by simp [Engine.new])
  byes := fun _ _ h => absurd h (by simp [Engine.new])

theorem turns_final_iff {config : AppConfig} {e : Engine} (hk : KeepsResponses e)
    (inputs : List (Env × EngineEvent)) :
    (∀ turn ∈ e.turns config inputs, turn.Acks → turn.Final) ↔
      ∀ turn ∈ e.turns config inputs, ¬ turn.Provisional := by
  induction inputs generalizing e with
  | nil => simp [Engine.turns]
  | cons input inputs ih =>
    obtain ⟨env, event⟩ := input
    unfold Engine.turns
    split
    · simp
    · rename_i e' out hhandle
      rw [List.forall_mem_cons, List.forall_mem_cons, Turn.final_iff hk hhandle,
        ih (handle_acks hk hhandle).2]

/-- Along every sequence of events, ACKs answer final responses only exactly when
no provisional response for one of the engine's INVITEs is received. -/
theorem acks_only_final_iff (config : AppConfig) (inputs : List (Env × EngineEvent)) :
    (∀ turn ∈ (Engine.new config).turns config inputs, turn.Acks → turn.Final) ↔
      ∀ turn ∈ (Engine.new config).turns config inputs, ¬ turn.Provisional :=
  turns_final_iff (keepsResponses_new config) inputs

def outboundRequest : SipInviteRequest :=
  ⟨['s'], ['1'], ['2'], ['t'], 5060, ['h'], 10000⟩

def ringing : Str :=
  "SIP/2.0 180 Ringing\nVia: v\nFrom: f\nTo: t\nCall-ID: u----@rust-sbc-node\nCSeq: 1 INVITE\n\n".toList

/-- The 180 Ringing of an outbound call is acknowledged. -/
theorem ringing_is_acknowledged :
    ¬ ∀ (config : AppConfig) (inputs : List (Env × EngineEvent)),
      ∀ turn ∈ (Engine.new config).turns config inputs, turn.Acks → turn.Final := by
  intro hall
  have hturns : ((Engine.new smallConfig).turns smallConfig
      [(quietEnv, .command outboundRequest), (quietEnv, .datagram ringing peerAddr)]).map
      (fun turn => (turn.out.any Output.isAck, turn.payload?)) =
        [(false, none), (true, some ringing)] := by decide +kernel
  have hcode : (parseSipResponse ringing).map (·.statusCode) = some 180 := by decide +kernel
  have hlast : (true, some ringing) ∈ [(false, none), (true, some ringing)] :=
    List.mem_cons_of_mem _ (List.mem_singleton_self _)
  rw [← hturns] at hlast
  obtain ⟨turn, hmem, heq⟩ := List.mem_map.mp hlast
  obtain ⟨hacks, hpayload⟩ := Prod.mk.inj heq
  obtain ⟨payload, response, hp, hresp, hfinal⟩ :=
    hall smallConfig _ turn hmem (List.any_eq_true.mp hacks)
  cases hpayload.symm.trans hp
  rw [hresp] at hcode
  have hlow : response.statusCode = 180 := Option.some.inj hcode
  omega

end DemoService.Sip
