import DemoService.SipAcks

/-! The answers to the responses of one outbound INVITE, from the turn that sends
it until its transaction is 300 seconds old. -/

namespace DemoService.Sip

open AssocMap RustText NetAddr Fallible GuardedRuns

/-- One turn of the event loop with its environment; a panic ends the task. -/
def Engine.step (config : AppConfig) (e : Engine) (input : Env × EngineEvent) : Option Engine :=
  match e.handle config input.1 input.2 with
  | .ok (e', _) => some e'
  | .error _ => none

/-- The Call-ID of the INVITE a command makes the engine send. -/
def sentCallId (env : Env) : Str := hyphenated (env.uuid .callId) ++ "@rust-sbc-node".toList

/-- The payload is a response with this Call-ID and an INVITE CSeq. -/
def RespondsTo (callId payload : Str) (response : SipParsedResponse) : Prop :=
  parseSipResponse payload = some response ∧
    response.headers.get "call-id".toList = some callId ∧
      ∃ cseq, response.headers.get "cseq".toList = some cseq ∧
        contains "INVITE".toList (toAsciiUppercase cseq) = true

/-- The event is a response to the INVITE with a status from 300 on. -/
def Rejects (callId : Str) (event : EngineEvent) : Prop :=
  ∃ payload sourceAddr response, event = .datagram payload sourceAddr ∧
    parseSipRequest payload = none ∧ RespondsTo callId payload response ∧
      300 ≤ response.statusCode

/-- The engine still has the transaction it opened for the INVITE at a time. -/
def Engine.Awaits (e : Engine) (callId : Str) (createdAt : Nat) : Prop :=
  ∃ transaction, e.outboundInvites.lookup callId = some transaction ∧
    transaction.invite.callId = callId ∧ transaction.createdAt = createdAt

section

variable {config : AppConfig} {env : Env} {e : Engine} {callId : Str} {createdAt : Nat}

theorem Engine.Awaits.congr {e' : Engine} (h : e'.outboundInvites = e.outboundInvites) :
    e'.Awaits callId createdAt ↔ e.Awaits callId createdAt := by
  unfold Engine.Awaits
  rw [h]

theorem countSend_outboundInvites (delivered : Bool) :
    (e.countSend delivered).outboundInvites = e.outboundInvites := by
  cases delivered <;> rfl

theorem handleBackendEnd_outboundInvites (c : Str) :
    (handleBackendEnd env e c).1.outboundInvites = e.outboundInvites := by
  unfold handleBackendEnd
  split <;> rfl

theorem handleInboundSetupResult_outboundInvites {c : Str}
    {result : Except Str InboundBridgeHandle} {r : Engine × List Output}
    (h : handleInboundSetupResult config env e c result = .ok r) :
    r.1.outboundInvites = e.outboundInvites := by
  unfold handleInboundSetupResult at h
  split at h
  · cases h
    rfl
  · cases h
    rfl
  · unfold acceptInvite at h
    split at h
    · cases h
      rfl
    · split at h
      · obtain ⟨dialog, -, h⟩ := bind_eq_ok.mp h
        cases h
        rfl
      · cases h
        rfl
  · cases h
    exact countSend_outboundInvites _

theorem handleInboundInvite_outboundInvites (request : SipParsedRequest) (payload : Str)
    (sourceAddr : SocketAddr) :
    (handleInboundInvite config env e request payload sourceAddr).1.outboundInvites =
      e.outboundInvites := by
  unfold handleInboundInvite
  split
  · exact countSend_outboundInvites _
  · rfl
  · split
    · rfl
    · simp only [admitInvite]
      split
      · rfl
      · split <;> rfl

theorem handleInboundBye_outboundInvites (request : SipParsedRequest) (payload : Str)
    (sourceAddr : SocketAddr) :
    (handleInboundBye env e request payload sourceAddr).1.outboundInvites = e.outboundInvites := by
  have hanswer : (answerBye env (e.fetchAdd .sipByeRequestsTotal) request payload
      sourceAddr).1.outboundInvites = e.outboundInvites := by
    unfold answerBye
    split
    · rfl
    · split <;> rfl
  unfold handleInboundBye
  split
  · rfl
  · dsimp only
    generalize answerBye env (e.fetchAdd .sipByeRequestsTotal) request payload sourceAddr = answer
      at hanswer ⊢
    obtain ⟨answered, sent⟩ := answer
    split
    · exact hanswer
    · exact hanswer

theorem handleInboundRequest_outboundInvites (request : SipParsedRequest) (payload : Str)
    (sourceAddr : SocketAddr) :
    (handleInboundRequest config env e request payload sourceAddr).1.outboundInvites =
      e.outboundInvites := by
  unfold handleInboundRequest
  split
  · exact handleInboundInvite_outboundInvites request payload sourceAddr
  · split
    · exact handleInboundBye_outboundInvites request payload sourceAddr
    · split
      · unfold handleInboundCancel
        split <;> rfl
      · rfl

theorem acknowledge_outboundInvites {c payload : Str} {sourceAddr : SocketAddr}
    {transaction : OutboundInviteTransaction} {r : Engine × List Output}
    (h : acknowledge config env e c payload sourceAddr transaction = .ok r) :
    r.1.outboundInvites = e.outboundInvites ∨
      r.1.outboundInvites = e.outboundInvites.insert c { transaction with ackSentOnce := true } := by
  unfold acknowledge at h
  obtain ⟨ack, -, h⟩ := bind_eq_ok.mp h
  cases ack with
  | none =>
    cases h
    exact .inl rfl
  | some ack =>
    simp only at h
    split at h
    · cases h
      exact .inl rfl
    · split at h
      · cases h
        exact .inl rfl
      · cases h
        exact .inr rfl

/-- A transaction is unchanged by a turn, but for the note that an ACK was sent. -/
def SameTransaction (e e' : Engine) (callId : Str) : Prop :=
  e'.outboundInvites.lookup callId = e.outboundInvites.lookup callId ∨
    ∃ transaction, e.outboundInvites.lookup callId = some transaction ∧
      e'.outboundInvites.lookup callId = some { transaction with ackSentOnce := true }

theorem acknowledge_sameTransaction {c payload : Str} {sourceAddr : SocketAddr}
    {transaction : OutboundInviteTransaction} {r : Engine × List Output}
    (hc : e.outboundInvites.lookup c = some transaction)
    (h : acknowledge config env e c payload sourceAddr transaction = .ok r) (callId : Str) :
    SameTransaction e r.1 callId := by
  unfold SameTransaction
  rcases acknowledge_outboundInvites h with hsame | hnoted
  · exact .inl (by rw [hsame])
  · rw [hnoted]
    by_cases hcall : callId = c
    · subst hcall
      exact .inr ⟨transaction, hc, AList.lookup_insert _⟩
    · exact .inl (AList.lookup_insert_ne hcall)

/-- A response with a status from 300 on takes its transaction away; every other
transaction stays. -/
theorem handleSipResponse_lookup {code : Nat} {payload : Str} {sourceAddr : SocketAddr}
    {response : SipParsedResponse} {r : Engine × List Output}
    (hreq : parseSipRequest payload = none) (hresp : parseSipResponse payload = some response)
    (h : handleSipResponse config env e code payload sourceAddr = .ok r) (callId : Str) :
    (RespondsTo callId payload response ∧ 300 ≤ code → r.1.outboundInvites.lookup callId = none) ∧
      (¬ (RespondsTo callId payload response ∧ 300 ≤ code) → SameTransaction e r.1 callId) := by
  have hrefl : SameTransaction e e callId := .inl rfl
  unfold handleSipResponse at h
  rw [sipHeaderValue_of_response hreq hresp, sipHeaderValue_of_response hreq hresp,
    get_congr _ (n := "Call-ID".toList) (m := "call-id".toList) (by decide),
    get_congr _ (n := "CSeq".toList) (m := "cseq".toList) (by decide)] at h
  split at h
  · rename_i c cseq hcall hcseq
    have hcallId : ∀ {text : Str}, RespondsTo text payload response → c = text := by
      rintro text ⟨hparse, hid, -⟩
      cases hresp.symm.trans hparse
      exact Option.some.inj (hcall.symm.trans hid)
    split at h
    · rename_i hinvite
      have hresponds : RespondsTo c payload response := ⟨hresp, hcall, cseq, hcseq, hinvite⟩
      split at h
      · rename_i hnone
        cases h
        refine ⟨fun hr => ?_, fun _ => hrefl⟩
        rw [← hcallId hr.1]
        exact hnone
      · rename_i transaction hsome
        obtain ⟨⟨acked, sent⟩, hack, h⟩ := bind_eq_ok.mp h
        have hsame := acknowledge_sameTransaction hsome hack
        simp only at h
        split at h
        · rename_i hcode
          cases h
          refine ⟨fun hr => ?_, fun hno => ?_⟩
          · rw [hcallId hr.1]
            exact AList.lookup_erase _ _
          · have hne : callId ≠ c := by
              rintro rfl
              exact hno ⟨hresponds, hcode⟩
            simpa only [SameTransaction, AList.lookup_erase_ne hne] using hsame callId
        · rename_i hcode
          cases h
          exact ⟨fun hr => absurd hr.2 hcode, fun _ => hsame callId⟩
    · rename_i hinvite
      cases h
      refine ⟨?_, fun _ => hrefl⟩
      rintro ⟨⟨hparse, -, q, hq, hin⟩, -⟩
      cases hresp.symm.trans hparse
      cases hcseq.symm.trans hq
      exact absurd hin hinvite
  · rename_i hno
    cases h
    refine ⟨?_, fun _ => hrefl⟩
    rintro ⟨⟨hparse, hid, q, hq, -⟩, -⟩
    cases hresp.symm.trans hparse
    exact absurd hq (hno _ _ hid)

theorem SameTransaction.awaits {e' : Engine} (h : SameTransaction e e' callId)
    (hawaits : e.Awaits callId createdAt) : e'.Awaits callId createdAt := by
  obtain ⟨transaction, hlookup, hid, hat⟩ := hawaits
  rcases h with hsame | ⟨tx, htx, hnoted⟩
  · exact ⟨transaction, hsame.trans hlookup, hid, hat⟩
  · cases hlookup.symm.trans htx
    exact ⟨_, hnoted, hid, hat⟩

theorem SameTransaction.none {e' : Engine} (h : SameTransaction e e' callId)
    (hnone : e.outboundInvites.lookup callId = .none) :
    e'.outboundInvites.lookup callId = .none := by
  rcases h with hsame | ⟨tx, htx, -⟩
  · exact hsame.trans hnone
  · cases hnone.symm.trans htx

theorem Engine.Awaits.cleanup (h : e.Awaits callId createdAt) {now : Nat}
    (hlife : now - createdAt < 300) : (cleanupStaleState now e).Awaits callId createdAt := by
  obtain ⟨transaction, hlookup, hid, rfl⟩ := h
  refine ⟨transaction, ?_, hid, rfl⟩
  have hkeep : (retain (fun tx => now - tx.createdAt < 300) e.outboundInvites).lookup callId =
      some transaction := by
    rw [lookup_retain, hlookup]
    simpa using hlife
  exact hkeep

theorem cleanup_none (h : e.outboundInvites.lookup callId = none) (now : Nat) :
    (cleanupStaleState now e).outboundInvites.lookup callId = none := by
  have hkeep : (retain (fun tx => now - tx.createdAt < 300) e.outboundInvites).lookup callId =
      none := by
    rw [lookup_retain, h]
    rfl
  exact hkeep

/-- What a payload does to the transaction of an INVITE, before the sweep. -/
theorem handlePayload_lookup {payload : Str} {sourceAddr : SocketAddr} {r : Engine × List Output}
    (h : handlePayload config env e payload sourceAddr = .ok r) (callId : Str) :
    (Rejects callId (.datagram payload sourceAddr) → r.1.outboundInvites.lookup callId = none) ∧
      (¬ Rejects callId (.datagram payload sourceAddr) → SameTransaction e r.1 callId) := by
  unfold handlePayload at h
  split at h
  · rename_i request hreq
    cases h
    refine ⟨?_, fun _ => .inl (by rw [handleInboundRequest_outboundInvites])⟩
    rintro ⟨p, s, response, hevent, hnone, -⟩
    cases hevent
    cases hreq.symm.trans hnone
  · rename_i hreq hcode
    cases h
    refine ⟨?_, fun _ => .inl rfl⟩
    rintro ⟨p, s, response, hevent, -, ⟨hparse, -⟩, -⟩
    cases hevent
    rw [parseSipStatusCode, hparse] at hcode
    cases hcode
  · rename_i code hreq hcode
    obtain ⟨response, hresp, rfl⟩ := parseSipStatusCode_eq_some hcode
    obtain ⟨⟨handled, sent⟩, hhandle, h⟩ := bind_eq_ok.mp h
    have hlookup := handleSipResponse_lookup hreq hresp hhandle callId
    have hcounted : r.1.outboundInvites = handled.outboundInvites := by
      cases h
      dsimp only
      split <;> rfl
    have hrejects : Rejects callId (.datagram payload sourceAddr) ↔
        RespondsTo callId payload response ∧ 300 ≤ response.statusCode := by
      constructor
      · rintro ⟨p, s, other, hevent, -, hr, hcode⟩
        cases hevent
        cases hresp.symm.trans hr.1
        exact ⟨hr, hcode⟩
      · rintro ⟨hr, hcode⟩
        exact ⟨payload, sourceAddr, response, rfl, hreq, hr, hcode⟩
    unfold SameTransaction
    rw [hrejects, hcounted]
    exact hlookup

/-- The event sends no INVITE with this Call-ID. -/
def FreshFor (callId : Str) (input : Env × EngineEvent) : Prop :=
  ∀ request, input.2 = .command request → sentCallId input.1 ≠ callId

theorem handleOutboundInvite_same (hfresh : sentCallId env ≠ callId) (request : SipInviteRequest) :
    SameTransaction e (handleOutboundInvite env e request).1 callId := by
  unfold handleOutboundInvite
  split
  · exact .inl (AList.lookup_insert_ne hfresh.symm)
  · exact .inl rfl

theorem not_rejects {event : EngineEvent} (h : ∀ payload sourceAddr, event ≠ .datagram payload sourceAddr) :
    ¬ Rejects callId event := by
  rintro ⟨payload, sourceAddr, -, hevent, -⟩
  exact h payload sourceAddr hevent

/-- One turn takes the transaction away exactly with a response from 300 on. -/
theorem step_awaits {e' : Engine} {input : Env × EngineEvent} (hfresh : FreshFor callId input)
    (hlife : input.1.sweepAt - createdAt < 300) (h : e.step config input = some e') :
    (e.outboundInvites.lookup callId = none → e'.outboundInvites.lookup callId = none) ∧
      (e.Awaits callId createdAt → Rejects callId input.2 →
        e'.outboundInvites.lookup callId = none) ∧
      (e.Awaits callId createdAt → ¬ Rejects callId input.2 → e'.Awaits callId createdAt) := by
  obtain ⟨env, event⟩ := input
  unfold Engine.step at h
  split at h
  · rename_i handled out hhandle
    obtain rfl : handled = e' := Option.some.inj h
    have hother : SameTransaction e handled callId →
        (∀ payload sourceAddr, event ≠ .datagram payload sourceAddr) →
        (e.outboundInvites.lookup callId = none → handled.outboundInvites.lookup callId = none) ∧
          (e.Awaits callId createdAt → Rejects callId event →
            handled.outboundInvites.lookup callId = none) ∧
          (e.Awaits callId createdAt → ¬ Rejects callId event →
            handled.Awaits callId createdAt) := by
      intro hsame hevent
      exact ⟨hsame.none, fun _ hr => absurd hr (not_rejects hevent), fun ha _ => hsame.awaits ha⟩
    cases event with
    | command request =>
      have hfirst : (handleOutboundInvite env e request).1 = handled :=
        congrArg Prod.fst (pure_eq_ok.mp hhandle)
      have hsame := handleOutboundInvite_same (e := e) (hfresh request rfl) request
      rw [hfirst] at hsame
      exact hother hsame (by simp)
    | backendEndRequested c =>
      have hfirst : (handleBackendEnd env e c).1 = handled :=
        congrArg Prod.fst (pure_eq_ok.mp hhandle)
      have hsame : SameTransaction e handled callId :=
        .inl (by rw [← hfirst, handleBackendEnd_outboundInvites])
      exact hother hsame (by simp)
    | inboundSetupResult c result =>
      have hsame : SameTransaction e handled callId := by
        have hkeep := handleInboundSetupResult_outboundInvites hhandle
        exact .inl (by rw [← hkeep])
      exact hother hsame (by simp)
    | datagram payload sourceAddr =>
      obtain ⟨⟨answered, sent⟩, hpayload, hhandle⟩ := bind_eq_ok.mp hhandle
      obtain ⟨hgone, hkept⟩ := handlePayload_lookup hpayload callId
      cases hhandle
      refine ⟨fun hnone => ?_, fun _ hr => cleanup_none (hgone hr) _, fun ha hr => ?_⟩
      · by_cases hr : Rejects callId (.datagram payload sourceAddr)
        · exact cleanup_none (hgone hr) _
        · exact cleanup_none ((hkept hr).none hnone) _
      · exact ((hkept hr).awaits ha).cleanup hlife
  · cases h

/-- From an open transaction on, the engine still has it exactly if no response from 300 on came. -/
theorem exec_awaits {e' : Engine} {inputs : List (Env × EngineEvent)}
    (hfresh : ∀ input ∈ inputs, FreshFor callId input)
    (hlife : ∀ input ∈ inputs, input.1.sweepAt - createdAt < 300)
    (h : exec (Engine.step config) e inputs = some e') :
    (e.outboundInvites.lookup callId = none → e'.outboundInvites.lookup callId = none) ∧
      (e.Awaits callId createdAt →
        (e'.Awaits callId createdAt ∧ ∀ input ∈ inputs, ¬ Rejects callId input.2) ∨
          (e'.outboundInvites.lookup callId = none ∧ ∃ input ∈ inputs, Rejects callId input.2)) := by
  induction inputs generalizing e with
  | nil =>
    obtain rfl : e = e' := Option.some.inj h
    exact ⟨id, fun ha => .inl ⟨ha, nofun⟩⟩
  | cons input inputs ih =>
    obtain ⟨next, hnext, h⟩ := Option.bind_eq_some_iff.mp h
    rw [List.forall_mem_cons] at hfresh hlife
    obtain ⟨hnone, hgone, hkept⟩ := step_awaits hfresh.1 hlife.1 hnext
    obtain ⟨hstays, hopen⟩ := ih hfresh.2 hlife.2 h
    refine ⟨fun hn => hstays (hnone hn), fun ha => ?_⟩
    by_cases hr : Rejects callId input.2
    · exact .inr ⟨hstays (hgone ha hr), input, List.mem_cons_self, hr⟩
    · rcases hopen (hkept ha hr) with ⟨hawaits, hall⟩ | ⟨hlost, other, hmem, hother⟩
      · exact .inl ⟨hawaits, List.forall_mem_cons.mpr ⟨hr, hall⟩⟩
      · exact .inr ⟨hlost, other, List.mem_cons_of_mem _ hmem, hother⟩

theorem step_keepsResponses {e' : Engine} {input : Env × EngineEvent} (hk : KeepsResponses e)
    (h : e.step config input = some e') : KeepsResponses e' := by
  unfold Engine.step at h
  split at h
  · rename_i handled out hhandle
    obtain rfl : handled = e' := Option.some.inj h
    exact (handle_acks hk hhandle).2
  · cases h

theorem exec_keepsResponses {e' : Engine} {inputs : List (Env × EngineEvent)}
    (hk : KeepsResponses e) (h : exec (Engine.step config) e inputs = some e') :
    KeepsResponses e' :=
  (run_of_exec h).invariant hk fun _ _ _ hi _ hstep => step_keepsResponses hi hstep

end

/-- A final response to the INVITE that has a To header. -/
structure FinalResponse (callId payload : Str) (response : SipParsedResponse) : Prop where
  responds : RespondsTo callId payload response
  final : 200 ≤ response.statusCode ∧ response.statusCode ≤ 699
  hasTo : (response.headers.get "to".toList).isSome = true

/-- The turn that receives the payload sends an ACK. -/
def Answered (config : AppConfig) (env : Env) (e : Engine) (payload : Str)
    (sourceAddr : SocketAddr) : Prop :=
  ∃ r, e.handle config env (.datagram payload sourceAddr) = .ok r ∧
    ∃ output ∈ r.2, output.isAck = true

/-- The engine still runs after the events, none of which makes it panic, and answers the payload. -/
def AnsweredAfter (config : AppConfig) (e : Engine) (events : List (Env × EngineEvent)) (env : Env)
    (payload : Str) (sourceAddr : SocketAddr) : Prop :=
  ∃ e', exec (Engine.step config) e events = some e' ∧ Answered config env e' payload sourceAddr

/-- Every event finds the Contact of the calls it accepts or acknowledges in order. -/
def ContactsInOrder (config : AppConfig) (e : Engine) (events : List (Env × EngineEvent)) : Prop :=
  AllSteps (Engine.step config) (fun e input => ContactInOrder input.1 e input.2) e events

theorem exec_succeeds_iff_contactsInOrder {config : AppConfig} {e : Engine}
    {events : List (Env × EngineEvent)} :
    (∃ e', exec (Engine.step config) e events = some e') ↔ ContactsInOrder config e events := by
  refine exec_succeeds_iff fun e input => ?_
  rw [← handle_succeeds_iff config, Engine.step]
  cases e.handle config input.1 input.2 with
  | ok r => exact iff_of_true ⟨_, rfl⟩ ⟨r, rfl⟩
  | error panic => exact iff_of_false nofun nofun

theorem handleOutboundInvite_awaits {sent : Env} (hsent : sent.delivered .outboundInvite = true)
    (e : Engine) (request : SipInviteRequest) :
    (handleOutboundInvite sent e request).1.Awaits (sentCallId sent) sent.now := by
  unfold handleOutboundInvite
  rw [if_pos hsent]
  exact ⟨_, AList.lookup_insert _, rfl, rfl⟩

theorem Engine.Awaits.acknowledged {e : Engine} {callId payload : Str} {createdAt : Nat}
    {response : SipParsedResponse} (h : e.Awaits callId createdAt)
    (hfinal : FinalResponse callId payload response) : Acknowledged e response := by
  obtain ⟨transaction, hlookup, hid, -⟩ := h
  obtain ⟨-, hcall, cseq, hcseq, hinvite⟩ := hfinal.responds
  exact ⟨callId, cseq, transaction, hcall, hcseq, hinvite, hlookup, hid, hfinal.hasTo⟩

section

variable {config : AppConfig} {prior between : List (Env × EngineEvent)} {e : Engine} {sent : Env}
  {request : SipInviteRequest}

/-- At an engine that still runs, a final response is answered with an ACK exactly when no response
from 300 on came for its transaction before, it is not taken for a request, and its Contact has its
brackets in order. -/
theorem answered_iff {e' : Engine}
    (hprior : exec (Engine.step config) (Engine.new config) prior = some e)
    (hsent : sent.delivered .outboundInvite = true)
    (hfresh : ∀ input ∈ between, FreshFor (sentCallId sent) input)
    (hlife : ∀ input ∈ between, input.1.sweepAt - sent.now < 300)
    (hbetween : exec (Engine.step config) (handleOutboundInvite sent e request).1 between = some e')
    (env : Env) {payload : Str} (sourceAddr : SocketAddr) {response : SipParsedResponse}
    (hfinal : FinalResponse (sentCallId sent) payload response) :
    Answered config env e' payload sourceAddr ↔
      (∀ input ∈ between, ¬ Rejects (sentCallId sent) input.2) ∧
        parseSipRequest payload = none ∧ ¬ ContactReversed response.headers := by
  have hparse := hfinal.responds.1
  have hkeeps : KeepsResponses e' := by
    have hopened : KeepsResponses (handleOutboundInvite sent e request).1 :=
      (handleOutboundInvite_silent (exec_keepsResponses (keepsResponses_new config) hprior)
        request).keeps
    exact exec_keepsResponses hopened hbetween
  have hstate := (exec_awaits hfresh hlife hbetween).2 (handleOutboundInvite_awaits hsent e request)
  constructor
  · rintro ⟨r, hr, hsends⟩
    have hacks := ((handle_acks hkeeps hr).1.mp hsends)
    obtain ⟨p, s, hevent, hnone, other, hother, hacked⟩ := hacks
    cases hevent
    cases hparse.symm.trans hother
    have hopen : ∀ input ∈ between, ¬ Rejects (sentCallId sent) input.2 := by
      rcases hstate with ⟨-, hall⟩ | ⟨hlost, -⟩
      · exact hall
      · obtain ⟨c, q, transaction, hc, -, -, hlookup, -⟩ := hacked
        cases hfinal.responds.2.1.symm.trans hc
        exact absurd (hlost.symm.trans hlookup) nofun
    have horder := (handle_succeeds_iff config env e' (.datagram payload sourceAddr)).mp ⟨r, hr⟩
    exact ⟨hopen, hnone, horder response hnone hparse hacked⟩
  · rintro ⟨hopen, hnone, hcontact⟩
    rcases hstate with ⟨hawaits, -⟩ | ⟨-, input, hmem, hrejects⟩
    · have hacked : Acknowledged e' response := hawaits.acknowledged hfinal
      have horder : ContactInOrder env e' (.datagram payload sourceAddr) := by
        intro other _ hother _
        cases hparse.symm.trans hother
        exact hcontact
      obtain ⟨r, hr⟩ := (handle_succeeds_iff config env e' _).mpr horder
      exact ⟨r, hr, (handle_acks hkeeps hr).1.mpr ⟨_, _, rfl, hnone, response, hparse, hacked⟩⟩
    · exact absurd hrejects (hopen input hmem)

end

/-- A final response that comes while the transaction is younger than 300 seconds is answered with
an ACK exactly when no event before it made the engine panic, no response from 300 on came for its
transaction before, it is not taken for a request, and its Contact has its brackets in order. -/
theorem final_response_acked_iff (config : AppConfig) {prior between : List (Env × EngineEvent)}
    {e : Engine} {sent : Env} {request : SipInviteRequest}
    (hprior : exec (Engine.step config) (Engine.new config) prior = some e)
    (hsent : sent.delivered .outboundInvite = true)
    (hfresh : ∀ input ∈ between, FreshFor (sentCallId sent) input)
    (hlife : ∀ input ∈ between, input.1.sweepAt - sent.now < 300)
    (env : Env) {payload : Str} (sourceAddr : SocketAddr) {response : SipParsedResponse}
    (hfinal : FinalResponse (sentCallId sent) payload response) :
    AnsweredAfter config (handleOutboundInvite sent e request).1 between env payload sourceAddr ↔
      ContactsInOrder config (handleOutboundInvite sent e request).1 between ∧
        (∀ input ∈ between, ¬ Rejects (sentCallId sent) input.2) ∧
          parseSipRequest payload = none ∧ ¬ ContactReversed response.headers := by
  rw [← exec_succeeds_iff_contactsInOrder]
  constructor
  · rintro ⟨e', hbetween, h⟩
    exact ⟨⟨e', hbetween⟩,
      (answered_iff hprior hsent hfresh hlife hbetween env sourceAddr hfinal).mp h⟩
  · rintro ⟨⟨e', hbetween⟩, h⟩
    exact ⟨e', hbetween,
      (answered_iff hprior hsent hfresh hlife hbetween env sourceAddr hfinal).mpr h⟩

theorem finalResponse_of_fields {callId payload toValue : Str} {code : Nat}
    (h : ((parseSipResponse payload).map fun r => (r.statusCode, r.headers.get "call-id".toList,
      r.headers.get "cseq".toList, r.headers.get "to".toList)) =
        some (code, some callId, some "1 INVITE".toList, some toValue))
    (hcode : 200 ≤ code ∧ code ≤ 699) :
    ∃ response, FinalResponse callId payload response := by
  obtain ⟨response, hparse, hfields⟩ := Option.map_eq_some_iff.mp h
  simp only [Prod.mk.injEq] at hfields
  obtain ⟨rfl, hcall, hcseq, hto⟩ := hfields
  have hinvite : contains "INVITE".toList (toAsciiUppercase "1 INVITE".toList) = true := by decide
  exact ⟨response, ⟨hparse, hcall, _, hcseq, hinvite⟩, hcode, by rw [hto]; rfl⟩

def answered : Str :=
  "SIP/2.0 200 OK\nTo: t\nCall-ID: u----@rust-sbc-node\nCSeq: 1 INVITE\n\n".toList

theorem answered_acknowledged :
    AnsweredAfter smallConfig (handleOutboundInvite quietEnv (Engine.new smallConfig)
      outboundRequest).1 [(quietEnv, .datagram answered peerAddr)] quietEnv answered peerAddr := by
  have hfields : ((parseSipResponse answered).map fun r => (r.statusCode,
      r.headers.get "call-id".toList, r.headers.get "cseq".toList, r.headers.get "to".toList)) =
        some (200, some (sentCallId quietEnv), some "1 INVITE".toList, some "t".toList) := by
    decide +kernel
  have hnone : parseSipRequest answered = none := by decide +kernel
  have hcontact : ((parseSipResponse answered).map fun r => r.headers.get "contact".toList) =
      some none := by decide +kernel
  obtain ⟨response, hfinal⟩ := finalResponse_of_fields hfields ⟨by omega, by omega⟩
  have hparse := hfinal.responds.1
  rw [hparse] at hcontact
  have hordered : ¬ ContactReversed response.headers := by
    rintro ⟨contact, hget, -⟩
    exact absurd ((Option.some.inj hcontact).symm.trans hget) nofun
  have hprior : exec (Engine.step smallConfig) (Engine.new smallConfig) [] =
      some (Engine.new smallConfig) := rfl
  have hfresh : ∀ input ∈ [(quietEnv, EngineEvent.datagram answered peerAddr)],
      FreshFor (sentCallId quietEnv) input := List.forall_mem_singleton.mpr fun _ h => nomatch h
  have hlife : ∀ input ∈ [(quietEnv, EngineEvent.datagram answered peerAddr)],
      input.1.sweepAt - quietEnv.now < 300 := List.forall_mem_singleton.mpr (by decide)
  refine (final_response_acked_iff smallConfig hprior rfl hfresh hlife quietEnv peerAddr
    hfinal).mpr ⟨⟨?_, fun _ _ => trivial⟩, ?_, hnone, hordered⟩
  · intro other _ hother _
    obtain rfl := Option.some.inj (hparse.symm.trans hother)
    exact hordered
  · rw [List.forall_mem_singleton]
    rintro ⟨p, addr, other, hevent, -, hresponds, hcode⟩
    cases hevent
    obtain rfl := Option.some.inj (hparse.symm.trans hresponds.1)
    rw [hparse, Option.map_some, Option.some.injEq, Prod.mk.injEq] at hfields
    omega

def busy : Str :=
  "SIP/2.0 486 Busy\nTo: t\nCall-ID: u----@rust-sbc-node\nCSeq: 1 INVITE\n\n".toList

/-- A 486 that the peer sends twice is acknowledged once. -/
theorem busy_retransmission_unanswered :
    ¬ ∀ (config : AppConfig) (prior between : List (Env × EngineEvent)) (e : Engine) (sent : Env)
      (request : SipInviteRequest) (env : Env) (payload : Str) (sourceAddr : SocketAddr)
      (response : SipParsedResponse),
      exec (Engine.step config) (Engine.new config) prior = some e →
      sent.delivered .outboundInvite = true →
      (∀ input ∈ between, FreshFor (sentCallId sent) input) →
      (∀ input ∈ between, input.1.sweepAt - sent.now < 300) →
      FinalResponse (sentCallId sent) payload response →
        AnsweredAfter config (handleOutboundInvite sent e request).1 between env payload
          sourceAddr := by
  intro hall
  have hfields : ((parseSipResponse busy).map fun r => (r.statusCode,
      r.headers.get "call-id".toList, r.headers.get "cseq".toList, r.headers.get "to".toList)) =
        some (486, some (sentCallId quietEnv), some "1 INVITE".toList, some "t".toList) := by
    decide +kernel
  have hrun : ((exec (Engine.step smallConfig)
      (handleOutboundInvite quietEnv (Engine.new smallConfig) outboundRequest).1
      [(quietEnv, .datagram busy peerAddr)]).map fun e' =>
        (e'.handle smallConfig quietEnv (.datagram busy peerAddr)).toOption.map
          (fun r => r.2.any Output.isAck)) = some (some false) := by decide +kernel
  obtain ⟨response, hfinal⟩ := finalResponse_of_fields hfields ⟨by omega, by omega⟩
  obtain ⟨e', hexec, hsilent⟩ := Option.map_eq_some_iff.mp hrun
  obtain ⟨e'', hexec', r, hr, output, hmem, hack⟩ := hall smallConfig []
    [(quietEnv, .datagram busy peerAddr)] (Engine.new smallConfig) quietEnv outboundRequest quietEnv
    busy peerAddr response rfl rfl (List.forall_mem_singleton.mpr fun _ h => nomatch h)
    (List.forall_mem_singleton.mpr (by decide)) hfinal
  obtain rfl := Option.some.inj (hexec.symm.trans hexec')
  rw [hr] at hsilent
  have hnone : r.2.any Output.isAck = false := Option.some.inj hsilent
  rw [List.any_eq_true.mpr ⟨output, hmem, hack⟩] at hnone
  cases hnone

end DemoService.Sip
