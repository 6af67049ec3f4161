import DemoService.SipPortOwnership
import DemoService.SipResponses

/-! Where a turn of the engine can panic. The one slice of the message code
takes the text between the first `<` and the first `>` of a Contact value, so
exactly the Contact values with these in the wrong order end the task. -/

namespace DemoService.Sip

open AssocMap RustText NetAddr Fallible GuardedRuns

def ContactReversed (headers : SipHeaders) : Prop :=
  ∃ contact, headers.get "contact".toList = some contact ∧ AnglesReversed contact

/-- A response to one of the engine's INVITEs that it acknowledges. -/
def Acknowledged (e : Engine) (response : SipParsedResponse) : Prop :=
  ∃ callId cseq transaction, response.headers.get "call-id".toList = some callId ∧
    response.headers.get "cseq".toList = some cseq ∧
    contains "INVITE".toList (toAsciiUppercase cseq) = true ∧
    e.outboundInvites.lookup callId = some transaction ∧ transaction.invite.callId = callId ∧
    (response.headers.get "to".toList).isSome

/-- The Contact of every call the event makes the engine accept or acknowledge
has its brackets in order. -/
def ContactInOrder (env : Env) (e : Engine) : EngineEvent → Prop
  | .inboundSetupResult callId (.ok _) => ∀ pending,
      e.pendingInbound.lookup callId = some pending → Answerable pending.request →
        env.delivered .inviteOk = true → ¬ ContactReversed pending.request.headers
  | .datagram payload _ => ∀ response, parseSipRequest payload = none →
      parseSipResponse payload = some response → Acknowledged e response →
        ¬ ContactReversed response.headers
  | _ => True

theorem get_congr (headers : SipHeaders) {n m : Str}
    (h : SipHeaders.normalize n = SipHeaders.normalize m) : headers.get n = headers.get m := by
  unfold SipHeaders.get
  rw [h]

theorem andThenContact_succeeds {α : Type} (headers : SipHeaders)
    {parse : Str → Except Panic (Option α)}
    (hparse : ∀ value, Succeeds (parse value) ↔ ¬ AnglesReversed value) :
    Succeeds (andThenContact headers parse) ↔ ¬ ContactReversed headers := by
  unfold andThenContact ContactReversed
  cases headers.get "contact".toList with
  | none => exact ⟨fun _ => nofun, fun _ => succeeds_pure _⟩
  | some contact =>
    rw [hparse contact]
    refine not_congr ⟨fun h => ⟨contact, rfl, h⟩, ?_⟩
    rintro ⟨c, hc, h⟩
    cases hc
    exact h

theorem parseSocketAddrFromSipUri_succeeds (resolve : Resolver) (port : Nat) (value : Str) :
    Succeeds (parseSocketAddrFromSipUri resolve value port) ↔ ¬ AnglesReversed value := by
  unfold parseSocketAddrFromSipUri
  rw [succeeds_bind_total fun _ => succeeds_pure _]
  exact extractUriFromNameAddr_ok_iff value

theorem parseSipTargetFromContact_succeeds (resolve : Resolver) (port : Nat) (value : Str) :
    Succeeds (parseSipTargetFromContact resolve value port) ↔ ¬ AnglesReversed value := by
  unfold parseSipTargetFromContact
  rw [succeeds_bind_total fun _ => succeeds_pure _]
  exact extractUriFromNameAddr_ok_iff value

/-- Parsing a Contact for its URI and then for its target succeeds when one of the two does. -/
theorem contact_pair_succeeds {α β γ : Type} (headers : SipHeaders)
    {first : Str → Except Panic (Option α)} {second : Str → Except Panic (Option β)}
    {f : Option α → Option β → γ}
    (hfirst : ∀ value, Succeeds (first value) ↔ ¬ AnglesReversed value)
    (hsecond : ∀ value, Succeeds (second value) ↔ ¬ AnglesReversed value) :
    Succeeds (do
      let a ← andThenContact headers first
      let b ← andThenContact headers second
      pure (f a b) : Except Panic γ) ↔ ¬ ContactReversed headers := by
  rw [succeeds_bind]
  constructor
  · rintro ⟨a, ha, -⟩
    exact (andThenContact_succeeds headers hfirst).mp ⟨a, ha⟩
  · intro h
    obtain ⟨a, ha⟩ := (andThenContact_succeeds headers hfirst).mpr h
    refine ⟨a, ha, ?_⟩
    rw [succeeds_bind_total fun _ => succeeds_pure _]
    exact (andThenContact_succeeds headers hsecond).mpr h

theorem acceptedDialog_succeeds (config : AppConfig) (env : Env) (callId : Str)
    (pending : PendingInboundInvite) (bridge : InboundBridgeHandle) (okResponse : Str) :
    Succeeds (acceptedDialog config env callId pending bridge okResponse) ↔
      ¬ ContactReversed pending.request.headers :=
  contact_pair_succeeds _ extractUriFromNameAddr_ok_iff
    (parseSipTargetFromContact_succeeds env.resolve pending.sourceAddr.port)

theorem buildSip200OkForInvite_isSome (request : SipParsedRequest) (localTag localHost : Str)
    (port : Nat) :
    (buildSip200OkForInvite request localTag localHost port).isSome ↔ Answerable request := by
  rw [answerable_iff (some localTag), Option.isSome_iff_exists]
  constructor
  · rintro ⟨payload, h⟩
    obtain ⟨echo, hecho, -⟩ := buildSip200OkForInvite_eq_some.mp h
    exact ⟨echo, hecho⟩
  · rintro ⟨echo, hecho⟩
    exact ⟨_, buildSip200OkForInvite_eq_some.mpr ⟨echo, hecho, rfl⟩⟩

theorem acceptInvite_succeeds (config : AppConfig) (env : Env) (e : Engine) (callId : Str)
    (pending : PendingInboundInvite) (bridge : InboundBridgeHandle) :
    Succeeds (acceptInvite config env e callId pending bridge) ↔
      (Answerable pending.request → env.delivered .inviteOk = true →
        ¬ ContactReversed pending.request.headers) := by
  have hbuild := buildSip200OkForInvite_isSome pending.request pending.localTag
    config.localSipAdvertiseHost pending.localRtpPort
  unfold acceptInvite
  split
  · rename_i hnone
    have hno : ¬ Answerable pending.request := by simpa [hnone] using hbuild
    exact ⟨fun _ ha => absurd ha hno, fun _ => succeeds_pure _⟩
  · rename_i okResponse hsome
    have hyes : Answerable pending.request := hbuild.mp (by rw [hsome]; rfl)
    split
    · rename_i hsent
      rw [succeeds_bind_total fun _ => succeeds_pure _, acceptedDialog_succeeds]
      exact ⟨fun h _ _ => h, fun h => h hyes hsent⟩
    · rename_i hlost
      exact ⟨fun _ _ hsent => absurd hsent hlost, fun _ => succeeds_pure _⟩

theorem handleInboundSetupResult_succeeds (config : AppConfig) (env : Env) (e : Engine)
    (callId : Str) (result : Except Str InboundBridgeHandle) :
    Succeeds (handleInboundSetupResult config env e callId result) ↔
      ContactInOrder env e (.inboundSetupResult callId result) := by
  unfold handleInboundSetupResult
  split
  · rename_i bridge hnone
    exact ⟨fun _ pending hp => absurd (hnone.symm.trans hp) nofun, fun _ => succeeds_pure _⟩
  · exact ⟨fun _ => trivial, fun _ => succeeds_pure _⟩
  · rename_i pending bridge hsome
    rw [acceptInvite_succeeds]
    constructor
    · intro h p hp
      cases hsome.symm.trans hp
      exact h
    · exact fun h => h pending hsome
  · exact ⟨fun _ => trivial, fun _ => succeeds_pure _⟩

theorem buildAckForFinalResponse_succeeds (resolve : Resolver) (branch payload : Str)
    (invite : SipInvite) (sourceAddr : SocketAddr) (localHost : Str) {response : SipParsedResponse}
    (hparse : parseSipResponse payload = some response) :
    Succeeds (buildAckForFinalResponse resolve branch payload invite sourceAddr localHost) ↔
      (response.headers.get "call-id".toList = some invite.callId →
        (response.headers.get "to".toList).isSome → ¬ ContactReversed response.headers) := by
  unfold buildAckForFinalResponse
  rw [hparse]
  simp only
  split
  · rename_i hcall
    exact ⟨fun _ h => absurd (hcall.symm.trans h) nofun, fun _ => succeeds_pure _⟩
  · rename_i callId hcall
    split
    · rename_i hne
      refine ⟨fun _ h => absurd (Option.some.inj (hcall.symm.trans h)) hne, fun _ => succeeds_pure _⟩
    · rename_i heq
      have hid : response.headers.get "call-id".toList = some invite.callId :=
        hcall.trans (congrArg some (not_not.mp heq))
      split
      · rename_i hto
        exact ⟨fun _ _ h => absurd h (by rw [hto]; nofun), fun _ => succeeds_pure _⟩
      · rename_i toValue hto
        have hsome : (response.headers.get "to".toList).isSome = true := by rw [hto]; rfl
        rw [contact_pair_succeeds _ extractUriFromNameAddr_ok_iff
          (parseSocketAddrFromSipUri_succeeds resolve sourceAddr.port)]
        exact ⟨fun h _ _ => h, fun h => h hid hsome⟩

theorem acknowledge_succeeds (config : AppConfig) (env : Env) (e : Engine) (callId payload : Str)
    (sourceAddr : SocketAddr) (transaction : OutboundInviteTransaction)
    {response : SipParsedResponse} (hparse : parseSipResponse payload = some response) :
    Succeeds (acknowledge config env e callId payload sourceAddr transaction) ↔
      (response.headers.get "call-id".toList = some transaction.invite.callId →
        (response.headers.get "to".toList).isSome → ¬ ContactReversed response.headers) := by
  unfold acknowledge
  rw [succeeds_bind_total, buildAckForFinalResponse_succeeds _ _ _ _ _ _ hparse]
  intro ack
  split
  · exact succeeds_pure _
  · split
    · exact succeeds_pure _
    · split <;> exact succeeds_pure _

theorem parseSipStatusCode_eq_some {payload : Str} {code : Nat}
    (h : parseSipStatusCode payload = some code) :
    ∃ response, parseSipResponse payload = some response ∧ response.statusCode = code :=
  Option.map_eq_some_iff.mp h

/-- A header of a payload that is a response and no request. -/
theorem sipHeaderValue_of_response {payload name : Str} {response : SipParsedResponse}
    (hreq : parseSipRequest payload = none) (hresp : parseSipResponse payload = some response) :
    sipHeaderValue payload name = response.headers.get name := by
  simp only [sipHeaderValue, hreq, hresp, Option.bind_some]

theorem handleSipResponse_succeeds (config : AppConfig) (env : Env) (e : Engine) (code : Nat)
    {payload : Str} (sourceAddr : SocketAddr) {response : SipParsedResponse}
    (hreq : parseSipRequest payload = none) (hresp : parseSipResponse payload = some response) :
    Succeeds (handleSipResponse config env e code payload sourceAddr) ↔
      (Acknowledged e response → ¬ ContactReversed response.headers) := by
  unfold handleSipResponse
  rw [sipHeaderValue_of_response hreq hresp, sipHeaderValue_of_response hreq hresp,
    get_congr _ (n := "Call-ID".toList) (m := "call-id".toList) (by decide),
    get_congr _ (n := "CSeq".toList) (m := "cseq".toList) (by decide)]
  split
  · rename_i callId cseq hcall hcseq
    split
    · rename_i hinvite
      split
      · rename_i hnone
        refine ⟨fun _ ⟨c, _, tx, hc, _, _, htx, _⟩ => ?_, fun _ => succeeds_pure _⟩
        cases hcall.symm.trans hc
        exact absurd (hnone.symm.trans htx) nofun
      · rename_i transaction hsome
        rw [succeeds_bind_total, acknowledge_succeeds _ _ _ _ _ _ _ hresp]
        · constructor
          · rintro h ⟨c, q, tx, hc, hq, _, htx, hid, hto⟩
            cases hcall.symm.trans hc
            cases hsome.symm.trans htx
            exact h (hid ▸ hc) hto
          · intro h hc hto
            have hid : transaction.invite.callId = callId := Option.some.inj (hc.symm.trans hcall)
            exact h ⟨callId, cseq, transaction, hcall, hcseq, hinvite, hsome, hid, hto⟩
        · rintro ⟨acked, sent⟩
          dsimp only
          split <;> exact succeeds_pure _
    · rename_i hinvite
      refine ⟨fun _ ⟨_, q, _, _, hq, hin, _⟩ => ?_, fun _ => succeeds_pure _⟩
      cases hcseq.symm.trans hq
      exact absurd hin hinvite
  · rename_i hno
    refine ⟨fun _ ⟨c, q, _, hc, hq, _⟩ => ?_, fun _ => succeeds_pure _⟩
    exact absurd hq (hno c q hc)

theorem acknowledged_fetchAdd (e : Engine) (c : Counter) (response : SipParsedResponse) :
    Acknowledged (e.fetchAdd c) response ↔ Acknowledged e response := Iff.rfl

theorem handlePayload_succeeds (config : AppConfig) (env : Env) (e : Engine) (payload : Str)
    (sourceAddr : SocketAddr) :
    Succeeds (handlePayload config env e payload sourceAddr) ↔
      ContactInOrder env e (.datagram payload sourceAddr) := by
  unfold handlePayload
  split
  · rename_i request hreq
    exact ⟨fun _ r hnone => absurd (hreq.symm.trans hnone) nofun, fun _ => succeeds_pure _⟩
  · rename_i hreq hcode
    refine ⟨fun _ r _ hresp => ?_, fun _ => succeeds_pure _⟩
    rw [parseSipStatusCode, hresp] at hcode
    cases hcode
  · rename_i code hreq hcode
    obtain ⟨response, hresp, -⟩ := parseSipStatusCode_eq_some hcode
    rw [succeeds_bind_total fun _ => succeeds_pure _, handleSipResponse_succeeds _ _ _ _ _ hreq hresp,
      acknowledged_fetchAdd]
    constructor
    · intro h r _ hr
      cases hresp.symm.trans hr
      exact h
    · exact fun h => h response hreq hresp

/-- A turn of the engine ends without a panic exactly when every Contact it
parses has its angle brackets in order. -/
theorem handle_succeeds_iff (config : AppConfig) (env : Env) (e : Engine) (event : EngineEvent) :
    (∃ r, e.handle config env event = .ok r) ↔ ContactInOrder env e event := by
  cases event with
  | command request => exact ⟨fun _ => trivial, fun _ => ⟨_, rfl⟩⟩
  | backendEndRequested callId => exact ⟨fun _ => trivial, fun _ => ⟨_, rfl⟩⟩
  | inboundSetupResult callId result =>
    exact handleInboundSetupResult_succeeds config env e callId result
  | datagram payload sourceAddr =>
    have hsweep := succeeds_bind_total (x := handlePayload config env e payload sourceAddr)
      (f := fun r => pure (cleanupStaleState env.sweepAt r.1, r.2)) fun _ => succeeds_pure _
    exact hsweep.trans (handlePayload_succeeds config env e payload sourceAddr)

/-- An INVITE whose Contact is `>a<`. -/
def reversedContactInvite : Str :=
  "INVITE a SIP/2.0\nVia: v\nFrom: f\nTo: t\nCSeq: 1 X\nCall-ID: c\nContact: >a<\n\nm=audio 9".toList

/-- One INVITE and its bridge's success end the engine task. -/
theorem reversed_contact_panics :
    ¬ ∀ (config : AppConfig) (env : Env) (e : Engine) (event : EngineEvent),
      ∃ r, e.handle config env event = .ok r := by
  intro hall
  have hex : (exec (System.step smallConfig) (System.init smallConfig)
      [.datagram quietEnv reversedContactInvite peerAddr, .finishSetup 0 none]).map
      (fun s => s.results.map (fun r =>
        (s.engine.handle smallConfig quietEnv
          (.inboundSetupResult r.params.callId r.result)).isOk)) = some [false] := by
    decide +kernel
  obtain ⟨s, -, hpanic⟩ := Option.map_eq_some_iff.mp hex
  obtain ⟨r, -, hr⟩ := List.mem_map.mp (hpanic ▸ List.mem_singleton_self false)
  obtain ⟨out, hout⟩ := hall smallConfig quietEnv s.engine
    (.inboundSetupResult r.params.callId r.result)
  rw [hout] at hr
  cases hr

end DemoService.Sip
