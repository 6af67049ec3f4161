import DemoService.SipTranscript

/-! The requests the engine's responses belong to: a response carries the
Call-ID, the CSeq and the Via values of the datagram it answers. -/

namespace DemoService.Sip

open AssocMap RustText NetAddr GuardedRuns

/-- The text is a response to the request or, with 487 to a CANCEL, to the INVITE that the
CANCEL terminates. -/
def Answers (e : Engine) (request : SipParsedRequest) (text : Str) : Prop :=
  ∃ response, parseSipResponse text = some response ∧
    if request.method = "CANCEL".toList ∧ response.statusCode = 487 then
      ∃ pending, e.pendingInbound.lookup (callIdOf request) = some pending ∧
        SameHeaders response.headers pending.request.headers
    else SameHeaders response.headers request.headers

/-- An INVITE in a dialog repeats the INVITE of that dialog, and a BYE whose answer is cached
the BYE that was answered. -/
def RepeatsOwn (t : Transcript) (request : SipParsedRequest) : Prop :=
  (request.method = "INVITE".toList → ∀ dialog q,
    t.system.engine.inboundDialogs.lookup (callIdOf request) = some dialog →
    t.invites (callIdOf request) = some q → SameHeaders q.headers request.headers) ∧
  (request.method = "BYE".toList → ∀ cached q,
    t.system.engine.recentByeResponses.lookup (byeCacheKey request) = some cached →
    t.byes (byeCacheKey request) = some q → SameHeaders q.headers request.headers)

/-- A reply to another request is one to this request where the two have the same headers. -/
theorem IsReply.answers_iff {e : Engine} {q request : SipParsedRequest} {code : Nat} {text : Str}
    (h : IsReply q code text) (hcode : request.method = "CANCEL".toList → code ≠ 487) :
    Answers e request text ↔ SameHeaders q.headers request.headers := by
  obtain ⟨response, hparse, rfl, hsame⟩ := h
  have hother : ¬ (request.method = "CANCEL".toList ∧ response.statusCode = 487) :=
    fun hc => hcode hc.1 hc.2
  constructor
  · rintro ⟨r, hr, hif⟩
    obtain rfl : r = response := Option.some.inj (hr.symm.trans hparse)
    rw [if_neg hother] at hif
    exact hsame.symm.trans hif
  · intro hq
    refine ⟨response, hparse, ?_⟩
    rw [if_neg hother]
    exact hsame.trans hq

theorem SameHeaders.refl (h : SipHeaders) : SameHeaders h h := ⟨rfl, rfl, rfl⟩

theorem mem_reply {env : Env} {site : SendSite} {response : Option Str}
    {target destination : SocketAddr} {text : Str} {delivered : Bool}
    (h : Output.send text destination delivered ∈ env.reply site response target) :
    response = some text := by
  obtain ⟨payload, hpayload, heq⟩ := List.mem_map.mp h
  cases heq
  exact Option.mem_toList.mp hpayload

section

variable {config : AppConfig} {env : Env} {e : Engine} {request : SipParsedRequest} {payload : Str}
  {sourceAddr destination : SocketAddr} {text : Str} {delivered : Bool}

theorem provisionalResponses_sends (henv : env.SimpleUuids) (hrequest : Parsed request)
    (h : .send text destination delivered ∈ provisionalResponses config env request sourceAddr) :
    ∃ code, IsReply request code text := by
  have htag : ∀ tag ∈ some (env.uuid .localTag), IsHex tag := by
    simpa using henv .localTag
  unfold provisionalResponses at h
  rcases List.mem_append.mp h with h | h
  · exact ⟨100, isReply_of_build hrequest (by omega) (by decide) (by simp) (mem_reply h)⟩
  · split at h
    · exact ⟨180, isReply_of_build hrequest (by omega) (by decide) htag (mem_reply h)⟩
    · exact absurd h List.not_mem_nil

theorem admitInvite_sends (henv : env.SimpleUuids) (hrequest : Parsed request)
    (h : .send text destination delivered ∈ (admitInvite env e request payload sourceAddr).2) :
    ∃ code, IsReply request code text := by
  have htag : ∀ site, ∀ tag ∈ some (env.uuid site), IsHex tag := fun site => by
    simpa using henv site
  unfold admitInvite at h
  split at h
  · exact ⟨503, isReply_of_build hrequest (by omega) (by decide) (htag _) (mem_reply h)⟩
  · split at h
    · exact ⟨488, isReply_of_build hrequest (by omega) (by decide) (htag _) (mem_reply h)⟩
    · cases List.mem_singleton.mp h

theorem handleInboundInvite_sends (henv : env.SimpleUuids)
    (hparse : parseSipRequest payload = some request)
    (hnone : e.inboundDialogs.lookup (callIdOf request) = none)
    (h : .send text destination delivered ∈
      (handleInboundInvite config env e request payload sourceAddr).2) :
    ∃ code, IsReply request code text := by
  have hrequest : Parsed request := parseSipRequest_clean hparse
  unfold handleInboundInvite at h
  split at h
  · rename_i dialog hdialog
    exact absurd (hnone.symm.trans hdialog) nofun
  · exact absurd h List.not_mem_nil
  · split at h
    · exact ⟨400, isReply_of_inDialog hparse (by omega) (by decide) (mem_reply h)⟩
    · rcases List.mem_append.mp h with h | h
      · exact provisionalResponses_sends henv hrequest h
      · exact admitInvite_sends henv hrequest h

theorem handleInboundBye_sends (hparse : parseSipRequest payload = some request)
    (hnone : e.recentByeResponses.lookup (byeCacheKey request) = none)
    (h : .send text destination delivered ∈
      (handleInboundBye env e request payload sourceAddr).2) : IsReply request 200 text := by
  have hanswered : .send text destination delivered ∈
      (answerBye env (e.fetchAdd .sipByeRequestsTotal) request payload sourceAddr).2 →
      IsReply request 200 text := by
    intro hmem
    unfold answerBye at hmem
    split at hmem
    · exact absurd hmem List.not_mem_nil
    · rename_i built hbuilt
      have hreply := isReply_of_inDialog hparse (by omega) (by decide) hbuilt
      split at hmem
      · cases List.mem_singleton.mp hmem
        exact hreply
      · cases List.mem_singleton.mp hmem
        exact hreply
  unfold handleInboundBye at h
  split at h
  · rename_i cached hcached
    exact absurd (hnone.symm.trans hcached) nofun
  · split at h
    · exact hanswered h
    · rcases List.mem_append.mp h with h | h
      · exact hanswered h
      · cases List.mem_singleton.mp h

theorem handleInboundCancel_answers {invites byes : Str → Option SipParsedRequest}
    (hrecords : Records e invites byes) (hparse : parseSipRequest payload = some request)
    (hmethod : request.method = "CANCEL".toList)
    (h : .send text destination delivered ∈
      (handleInboundCancel env e request payload sourceAddr).2) : Answers e request text := by
  have hok : .send text destination delivered ∈ env.reply .cancelOk
      (buildResponseForInDialogRequest payload 200 "OK".toList) sourceAddr →
      Answers e request text := by
    intro hmem
    have hreply := isReply_of_inDialog hparse (by omega) (by decide) (mem_reply hmem)
    exact (hreply.answers_iff (by omega)).mpr (.refl _)
  unfold handleInboundCancel at h
  split at h
  · exact hok h
  · rename_i pending hpending
    rcases List.mem_append.mp h with h | h
    · exact hok h
    · obtain ⟨htag, hparsed, -⟩ := hrecords.pending _ pending hpending
      obtain ⟨response, hresponse, hcode, hsame⟩ := isReply_of_build hparsed (by omega) (by decide)
        (by simpa using htag) (mem_reply h)
      refine ⟨response, hresponse, ?_⟩
      rw [if_pos ⟨hmethod, hcode⟩]
      exact ⟨pending, hpending, hsame⟩

/-- A stored answer that is resent matches exactly the requests like the one it was made for. -/
theorem resent_match_iff {q : SipParsedRequest} {code : Nat} {stored : Str} {target : SocketAddr}
    (hreply : IsReply q code stored) (hmethod : request.method ≠ "CANCEL".toList)
    {out : List Output} (hout : out = [.send stored target delivered]) :
    (∀ text destination delivered, .send text destination delivered ∈ out →
      Answers e request text) ↔ SameHeaders q.headers request.headers := by
  have hiff : Answers e request stored ↔ SameHeaders q.headers request.headers :=
    hreply.answers_iff fun hc => absurd hc hmethod
  rw [hout]
  constructor
  · intro h
    exact hiff.mp (h _ _ _ (List.mem_singleton_self _))
  · intro h text destination delivered hmem
    cases List.mem_singleton.mp hmem
    exact hiff.mpr h

theorem handleInboundInvite_match_iff {invites byes : Str → Option SipParsedRequest}
    (hrecords : Records e invites byes) (henv : env.SimpleUuids)
    (hparse : parseSipRequest payload = some request) (hmethod : request.method ≠ "CANCEL".toList) :
    (∀ text destination delivered, .send text destination delivered ∈
      (handleInboundInvite config env e request payload sourceAddr).2 → Answers e request text) ↔
    ∀ dialog q, e.inboundDialogs.lookup (callIdOf request) = some dialog →
      invites (callIdOf request) = some q → SameHeaders q.headers request.headers := by
  cases hdialog : e.inboundDialogs.lookup (callIdOf request) with
  | none =>
    refine iff_of_true (fun text destination delivered hmem => ?_) nofun
    obtain ⟨code, hreply⟩ := handleInboundInvite_sends henv hparse hdialog hmem
    exact (hreply.answers_iff fun hc => absurd hc hmethod).mpr (.refl _)
  | some dialog =>
    obtain ⟨q, hq, hreply, -⟩ := hrecords.dialogs _ dialog hdialog
    have hout : (handleInboundInvite config env e request payload sourceAddr).2 =
        [.send dialog.inviteOkPayload dialog.inviteResponseTarget (env.delivered .resentOk)] := by
      simp only [handleInboundInvite, hdialog]
    rw [resent_match_iff hreply hmethod hout]
    constructor
    · intro h d r _ hr
      obtain rfl : q = r := Option.some.inj (hq.symm.trans hr)
      exact h
    · intro h
      exact h dialog q rfl hq

theorem handleInboundBye_match_iff {invites byes : Str → Option SipParsedRequest}
    (hrecords : Records e invites byes) (hparse : parseSipRequest payload = some request)
    (hmethod : request.method ≠ "CANCEL".toList) :
    (∀ text destination delivered, .send text destination delivered ∈
      (handleInboundBye env e request payload sourceAddr).2 → Answers e request text) ↔
    ∀ cached q, e.recentByeResponses.lookup (byeCacheKey request) = some cached →
      byes (byeCacheKey request) = some q → SameHeaders q.headers request.headers := by
  cases hcached : e.recentByeResponses.lookup (byeCacheKey request) with
  | none =>
    refine iff_of_true (fun text destination delivered hmem => ?_) nofun
    have hreply := handleInboundBye_sends hparse hcached hmem
    exact (hreply.answers_iff fun hc => absurd hc hmethod).mpr (.refl _)
  | some cached =>
    obtain ⟨q, hq, hreply⟩ := hrecords.byes _ cached hcached
    have hout : (handleInboundBye env e request payload sourceAddr).2 =
        [.send cached.payload cached.destination (env.delivered .cachedBye)] := by
      simp only [handleInboundBye, hcached]
    rw [resent_match_iff hreply hmethod hout]
    constructor
    · intro h d r _ hr
      obtain rfl : q = r := Option.some.inj (hq.symm.trans hr)
      exact h
    · intro h
      exact h cached q rfl hq

end

theorem sends_datagram (config : AppConfig) (s : System) (env : Env) {request : SipParsedRequest}
    {payload : Str} (hparse : parseSipRequest payload = some request) (sourceAddr : SocketAddr) :
    s.sends config (.datagram env payload sourceAddr) =
      (handleInboundRequest config env s.engine request payload sourceAddr).2 := by
  have hpayload : handlePayload config env s.engine payload sourceAddr =
      .ok (handleInboundRequest config env s.engine request payload sourceAddr) := by
    simp only [handlePayload, hparse]
    rfl
  simp only [System.sends, System.event?, Engine.handle, hpayload]
  rfl

/-- In every reachable state, the responses to a datagram match it exactly where a stored
answer is resent only to a request like the one it was made for. -/
theorem replies_match_iff {config : AppConfig} (hhost : '\n' ∉ config.localSipAdvertiseHost)
    {t : Transcript} (hrun : TranscriptRun config (Transcript.init config) t) {env : Env}
    (henv : env.SimpleUuids) {payload : Str} {request : SipParsedRequest}
    (hparse : parseSipRequest payload = some request) (sourceAddr : SocketAddr) :
    (∀ text destination delivered, .send text destination delivered ∈
      t.system.sends config (.datagram env payload sourceAddr) →
        Answers t.system.engine request text) ↔ RepeatsOwn t request := by
  have hrecords := (hrun.sound hhost).records
  have hmethods : "INVITE".toList ≠ "BYE".toList := by decide
  rw [sends_datagram config t.system env hparse]
  unfold handleInboundRequest RepeatsOwn
  split
  · rename_i hmethod
    have hother : request.method ≠ "CANCEL".toList := by
      rw [hmethod]
      decide
    rw [handleInboundInvite_match_iff hrecords henv hparse hother]
    exact ⟨fun h => ⟨fun _ => h, fun hb => absurd (hmethod.symm.trans hb) hmethods⟩,
      fun h => h.1 hmethod⟩
  · rename_i hno
    split
    · rename_i hmethod
      have hother : request.method ≠ "CANCEL".toList := by
        rw [hmethod]
        decide
      rw [handleInboundBye_match_iff hrecords hparse hother]
      exact ⟨fun h => ⟨fun hi => absurd hi hno, fun _ => h⟩, fun h => h.2 hmethod⟩
    · rename_i hnobye
      refine iff_of_true ?_ ⟨fun hi => absurd hi hno, fun hb => absurd hb hnobye⟩
      intro text destination delivered hmem
      split at hmem
      · rename_i hmethod
        exact handleInboundCancel_answers hrecords hparse hmethod hmem
      · exact absurd hmem List.not_mem_nil

def uuidEnv : Env := { quietEnv with uuid := fun _ => "a".toList }

theorem uuidEnv_simple : uuidEnv.SimpleUuids := by
  have hdigit : IsHex "a".toList := isHex_of_all (by decide)
  exact fun _ => hdigit

def inviteWith (cseq : String) : Str :=
  "INVITE a SIP/2.0\nVia: v\nFrom: f\nTo: t\nCall-ID: c\nCSeq: ".toList ++ cseq.toList ++
    "\n\nm=audio 9".toList

def establishCall : List Action :=
  [.datagram uuidEnv (inviteWith "1 INVITE") peerAddr, .finishSetup 0 none, .receiveResult uuidEnv]

theorem establishCall_run {t : Transcript}
    (h : exec (Transcript.step smallConfig) (.init smallConfig) establishCall = some t) :
    TranscriptRun smallConfig (.init smallConfig) t := by
  refine guardedRun_of_forall h fun a ha s => ?_
  simp only [establishCall, List.mem_cons, List.not_mem_nil, or_false] at ha
  rcases ha with rfl | rfl | rfl
  · exact uuidEnv_simple
  · trivial
  · exact uuidEnv_simple

/-- The retransmitted INVITE of a call gets that INVITE's 200 OK. -/
theorem retransmission_is_answered : ∃ (t : Transcript) (request : SipParsedRequest),
    parseSipRequest (inviteWith "1 INVITE") = some request ∧
    ∀ text destination delivered, .send text destination delivered ∈
      t.system.sends smallConfig (.datagram uuidEnv (inviteWith "1 INVITE") peerAddr) →
        Answers t.system.engine request text := by
  have hex : (exec (Transcript.step smallConfig) (.init smallConfig) establishCall).map
      (fun t => decide (t.invites "c".toList = parseSipRequest (inviteWith "1 INVITE") ∧
        (t.invites "c".toList).map callIdOf = some "c".toList ∧
        (t.invites "c".toList).map (·.method) = some "INVITE".toList)) = some true := by
    decide +kernel
  obtain ⟨t, ht, heq⟩ := Option.map_eq_some_iff.mp hex
  obtain ⟨hsame, hcall, hmethod⟩ := of_decide_eq_true heq
  obtain ⟨request, hrequest, hcall⟩ := Option.map_eq_some_iff.mp hcall
  rw [hrequest] at hsame hmethod
  have hmethod : request.method = "INVITE".toList := Option.some.inj hmethod
  have hhost : '\n' ∉ smallConfig.localSipAdvertiseHost := by decide
  have hown : RepeatsOwn t request := by
    refine ⟨fun _ dialog q _ hq => ?_, fun hb => ?_⟩
    · rw [hcall, hrequest] at hq
      obtain rfl := Option.some.inj hq
      exact .refl _
    · rw [hmethod] at hb
      exact absurd hb (by decide)
  exact ⟨t, request, hsame.symm,
    (replies_match_iff hhost (establishCall_run ht) uuidEnv_simple hsame.symm peerAddr).mpr hown⟩

def sentCseq : Output → Option Str
  | .send text _ _ => (parseSipResponse text).bind (·.headers.get "cseq".toList)
  | _ => none

/-- The 200 OK to a re-INVITE with CSeq 2 has CSeq 1. -/
theorem reinvite_gets_old_answer :
    ¬ ∀ t, TranscriptRun smallConfig (.init smallConfig) t → ∀ payload request,
      parseSipRequest payload = some request → Answerable request → ∀ text destination delivered,
      .send text destination delivered ∈
        t.system.sends smallConfig (.datagram uuidEnv payload peerAddr) →
      Answers t.system.engine request text := by
  intro hall
  have hex : (exec (Transcript.step smallConfig) (.init smallConfig) establishCall).map
      (fun t => (t.system.sends smallConfig
        (.datagram uuidEnv (inviteWith "2 INVITE") peerAddr)).map sentCseq) =
      some [some "1 INVITE".toList] := by
    decide +kernel
  have hinvite : (parseSipRequest (inviteWith "2 INVITE")).map (fun request =>
      decide (Answerable request ∧ request.method = "INVITE".toList ∧
        request.headers.get "cseq".toList = some "2 INVITE".toList)) = some true := by
    decide +kernel
  obtain ⟨t, ht, hsent⟩ := Option.map_eq_some_iff.mp hex
  obtain ⟨request, hparse, hrequest⟩ := Option.map_eq_some_iff.mp hinvite
  obtain ⟨hanswer, hmethod, hcseq⟩ := of_decide_eq_true hrequest
  obtain ⟨output, houts, houtput⟩ := List.map_eq_singleton_iff.mp hsent
  have hmem : output ∈ t.system.sends smallConfig
      (.datagram uuidEnv (inviteWith "2 INVITE") peerAddr) := by
    rw [houts]
    exact List.mem_singleton_self _
  cases output with
  | send text destination delivered =>
    obtain ⟨response, hresponse, hsame⟩ := hall t (establishCall_run ht) _ request hparse hanswer
      text destination delivered hmem
    have hother : ¬ (request.method = "CANCEL".toList ∧ response.statusCode = 487) := by
      rw [hmethod]
      exact fun hc => absurd hc.1 (by decide)
    rw [if_neg hother] at hsame
    have hsent : response.headers.get "cseq".toList = some "1 INVITE".toList := by
      simpa only [sentCseq, hresponse, Option.bind_some] using houtput
    rw [hsame.cseq, hcseq] at hsent
    exact absurd hsent (by decide)
  | _ => cases houtput

end DemoService.Sip
