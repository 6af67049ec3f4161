import DemoService.SipPortOwnership

/-! The bookkeeping of inbound calls: the gauge of active calls and the two
tables of Call-IDs. -/

namespace DemoService.Sip

open AssocMap RustText NetAddr GuardedRuns Fallible

def Engine.gauge (e : Engine) : UInt64 := e.metrics .inboundCallsActive

/-- The number of established dialogs. -/
def Engine.dialogCount (e : Engine) : Nat := e.inboundDialogs.entries.length

/-- What a turn does to the dialogs and, in step with them, to the gauge. -/
inductive Tally (e e' : Engine) : Prop
  | kept (hdialogs : e'.inboundDialogs = e.inboundDialogs) (hgauge : e'.gauge = e.gauge)
  | opened {callId : Str} {dialog : InboundDialog} (h : e.inboundDialogs.lookup callId = none)
      (hdialogs : e'.inboundDialogs = e.inboundDialogs.insert callId dialog)
      (hgauge : e'.gauge = e.gauge + 1)
  | ended {callId : Str} {dialog : InboundDialog} (h : e.inboundDialogs.lookup callId = some dialog)
      (hdialogs : e'.inboundDialogs = e.inboundDialogs.erase callId)
      (hgauge : e'.gauge = e.gauge - 1)

section

variable {config : AppConfig} {env : Env} {e e' : Engine}

theorem Engine.gauge_fetchAdd (e : Engine) (c : Counter) (h : c ≠ .inboundCallsActive) :
    (e.fetchAdd c).gauge = e.gauge := by
  simp [Engine.gauge, Engine.fetchAdd, h.symm]

@[simp] theorem Engine.gauge_countSend (delivered : Bool) :
    (e.countSend delivered).gauge = e.gauge := by
  cases delivered with
  | true => rfl
  | false => exact Engine.gauge_fetchAdd e .udpSendErrorsTotal (by decide)

@[simp] theorem Engine.dialogs_countSend (delivered : Bool) :
    (e.countSend delivered).inboundDialogs = e.inboundDialogs := by
  cases delivered <;> rfl

theorem Engine.gauge_teardown (callId : Str) (dialog : InboundDialog) :
    (e.teardown callId dialog).gauge = e.gauge - 1 := by
  have hadd : ((e.fetchSub .inboundCallsActive).fetchAdd .sipDialogTeardownCleanTotal).gauge =
      (e.fetchSub .inboundCallsActive).gauge := Engine.gauge_fetchAdd _ _ (by decide)
  have hsub : (e.fetchSub .inboundCallsActive).gauge = e.gauge - 1 := by
    simp [Engine.gauge, Engine.fetchSub]
  exact hadd.trans hsub

/-- A step before the tally that touches neither the dialogs nor the gauge. -/
theorem Tally.of_same {d : Engine} (h : Tally d e') (hdialogs : d.inboundDialogs = e.inboundDialogs)
    (hgauge : d.gauge = e.gauge) : Tally e e' := by
  cases h with
  | kept hd hg => exact .kept (hd.trans hdialogs) (hg.trans hgauge)
  | opened hc hd hg =>
    rw [hdialogs] at hc hd
    exact .opened hc hd (hgauge ▸ hg)
  | ended hc hd hg =>
    rw [hdialogs] at hc hd
    exact .ended hc hd (hgauge ▸ hg)

theorem tally_teardown {callId : Str} {dialog : InboundDialog}
    (h : e.inboundDialogs.lookup callId = some dialog) : Tally e (e.teardown callId dialog) :=
  .ended h rfl (Engine.gauge_teardown callId dialog)

theorem handleOutboundInvite_tally (request : SipInviteRequest) :
    Tally e (handleOutboundInvite env e request).1 := by
  unfold handleOutboundInvite
  split
  · exact .kept rfl (Engine.gauge_fetchAdd e .sipInvitesSentTotal (by decide))
  · exact .kept rfl rfl

theorem handleBackendEnd_tally (callId : Str) : Tally e (handleBackendEnd env e callId).1 := by
  unfold handleBackendEnd
  split
  · exact .kept rfl rfl
  · rename_i dialog hdialog
    exact tally_teardown hdialog

theorem handleInboundSetupResult_tally
    (hdisjoint : ∀ c p, e.pendingInbound.lookup c = some p → e.inboundDialogs.lookup c = none)
    {callId : Str} {result : Except Str InboundBridgeHandle} {r : Engine × List Output}
    (h : handleInboundSetupResult config env e callId result = .ok r) : Tally e r.1 := by
  unfold handleInboundSetupResult at h
  split at h
  · cases h
    exact .kept rfl rfl
  · cases h
    exact .kept rfl rfl
  · rename_i pending bridge hpending
    unfold acceptInvite at h
    split at h
    · cases h
      exact .kept rfl
        (Engine.gauge_fetchAdd (e.refuse callId pending) .inboundInvitesRejectedTotal (by decide))
    · split at h
      · obtain ⟨dialog, -, h⟩ := bind_eq_ok.mp h
        cases h
        refine .opened (hdisjoint callId pending hpending) rfl ?_
        simp [Engine.gauge, Engine.fetchAdd]
      · cases h
        exact .kept rfl
          (Engine.gauge_fetchAdd (e.refuse callId pending) .udpSendErrorsTotal (by decide))
  · rename_i pending reason hpending
    cases h
    refine .kept (Engine.dialogs_countSend _) ((Engine.gauge_countSend _).trans ?_)
    exact Engine.gauge_fetchAdd (e.refuse callId pending) .inboundInvitesRejectedTotal (by decide)

theorem admitInvite_tally (request : SipParsedRequest) (payload : Str) (sourceAddr : SocketAddr) :
    Tally e (admitInvite env e request payload sourceAddr).1 := by
  have hrejected := Engine.gauge_fetchAdd e .inboundInvitesRejectedTotal (by decide)
  unfold admitInvite
  split
  · exact .kept rfl hrejected
  · split
    · exact .kept rfl hrejected
    · exact .kept rfl rfl

theorem handleInboundInvite_tally (request : SipParsedRequest) (payload : Str)
    (sourceAddr : SocketAddr) :
    Tally e (handleInboundInvite config env e request payload sourceAddr).1 := by
  have hcounted := Engine.gauge_fetchAdd e .inboundInvitesTotal (by decide)
  unfold handleInboundInvite
  split
  · exact .kept (Engine.dialogs_countSend _) ((Engine.gauge_countSend _).trans hcounted)
  · exact .kept rfl hcounted
  · split
    · exact .kept rfl hcounted
    · exact (admitInvite_tally request payload sourceAddr).of_same rfl hcounted

theorem answerBye_same (request : SipParsedRequest) (payload : Str) (sourceAddr : SocketAddr) :
    (answerBye env e request payload sourceAddr).1.inboundDialogs = e.inboundDialogs ∧
      (answerBye env e request payload sourceAddr).1.gauge = e.gauge := by
  unfold answerBye
  split
  · exact ⟨rfl, rfl⟩
  · split
    · exact ⟨rfl, Engine.gauge_fetchAdd e .sipBye200SentTotal (by decide)⟩
    · exact ⟨rfl, Engine.gauge_fetchAdd e .udpSendErrorsTotal (by decide)⟩

theorem handleInboundBye_tally (request : SipParsedRequest) (payload : Str)
    (sourceAddr : SocketAddr) :
    Tally e (handleInboundBye env e request payload sourceAddr).1 := by
  have hcounted := Engine.gauge_fetchAdd e .sipByeRequestsTotal (by decide)
  unfold handleInboundBye
  split
  · exact .kept rfl hcounted
  · obtain ⟨hdialogs, hgauge⟩ : (answerBye env (e.fetchAdd .sipByeRequestsTotal) request payload
        sourceAddr).1.inboundDialogs = e.inboundDialogs ∧
        (answerBye env (e.fetchAdd .sipByeRequestsTotal) request payload sourceAddr).1.gauge =
          (e.fetchAdd .sipByeRequestsTotal).gauge := answerBye_same request payload sourceAddr
    split
    · exact .kept hdialogs (hgauge.trans hcounted)
    · rename_i dialog hdialog
      rw [← hdialogs] at hdialog
      exact (tally_teardown hdialog).of_same hdialogs (hgauge.trans hcounted)

theorem handleInboundRequest_tally (request : SipParsedRequest) (payload : Str)
    (sourceAddr : SocketAddr) :
    Tally e (handleInboundRequest config env e request payload sourceAddr).1 := by
  unfold handleInboundRequest
  split
  · exact handleInboundInvite_tally request payload sourceAddr
  · split
    · exact handleInboundBye_tally request payload sourceAddr
    · split
      · unfold handleInboundCancel
        split <;> exact .kept rfl rfl
      · exact .kept rfl rfl

theorem acknowledge_same {callId payload : Str} {sourceAddr : SocketAddr}
    {transaction : OutboundInviteTransaction} {r : Engine × List Output}
    (h : acknowledge config env e callId payload sourceAddr transaction = .ok r) :
    r.1.inboundDialogs = e.inboundDialogs ∧ r.1.gauge = e.gauge := by
  unfold acknowledge at h
  obtain ⟨ack, -, h⟩ := bind_eq_ok.mp h
  cases ack with
  | none =>
    cases h
    exact ⟨rfl, rfl⟩
  | some ack =>
    simp only at h
    split at h
    · cases h
      exact ⟨rfl, Engine.gauge_fetchAdd e .udpSendErrorsTotal (by decide)⟩
    · split at h
      · cases h
        exact ⟨rfl, Engine.gauge_fetchAdd e .sipAckResendTotal (by decide)⟩
      · cases h
        exact ⟨rfl, Engine.gauge_fetchAdd e .sipAckSentTotal (by decide)⟩

theorem handleSipResponse_tally {code : Nat} {payload : Str} {sourceAddr : SocketAddr}
    {r : Engine × List Output}
    (h : handleSipResponse config env e code payload sourceAddr = .ok r) : Tally e r.1 := by
  unfold handleSipResponse at h
  split at h
  · split at h
    · split at h
      · cases h
        exact .kept rfl rfl
      · obtain ⟨⟨acked, sent⟩, hack, h⟩ := bind_eq_ok.mp h
        obtain ⟨hdialogs, hgauge⟩ := acknowledge_same hack
        simp only at h
        split at h <;> cases h <;> exact .kept hdialogs hgauge
    · cases h
      exact .kept rfl rfl
  · cases h
    exact .kept rfl rfl

theorem handlePayload_tally {payload : Str} {sourceAddr : SocketAddr} {r : Engine × List Output}
    (h : handlePayload config env e payload sourceAddr = .ok r) : Tally e r.1 := by
  unfold handlePayload at h
  split at h
  · cases h
    exact handleInboundRequest_tally _ payload sourceAddr
  · cases h
    exact .kept rfl rfl
  · obtain ⟨⟨handled, sent⟩, hhandle, h⟩ := bind_eq_ok.mp h
    have hcounted := Engine.gauge_fetchAdd e .sipResponsesTotal (by decide)
    have hhandled : Tally e handled := (handleSipResponse_tally hhandle).of_same rfl hcounted
    cases h
    split
    · have hok := Engine.gauge_fetchAdd handled .sip200OkTotal (by decide)
      cases hhandled with
      | kept hd hg => exact .kept hd (hok.trans hg)
      | opened hc hd hg => exact .opened hc hd (hok.trans hg)
      | ended hc hd hg => exact .ended hc hd (hok.trans hg)
    · exact hhandled

/-- Every turn keeps the gauge in step with the dialogs. -/
theorem handle_tally
    (hdisjoint : ∀ c p, e.pendingInbound.lookup c = some p → e.inboundDialogs.lookup c = none)
    {event : EngineEvent} {r : Engine × List Output} (h : e.handle config env event = .ok r) :
    Tally e r.1 := by
  cases event with
  | command request =>
    cases h
    exact handleOutboundInvite_tally request
  | backendEndRequested callId =>
    cases h
    exact handleBackendEnd_tally callId
  | inboundSetupResult callId result => exact handleInboundSetupResult_tally hdisjoint h
  | datagram payload sourceAddr =>
    obtain ⟨⟨handled, sent⟩, hhandle, h⟩ := bind_eq_ok.mp h
    cases h
    cases handlePayload_tally hhandle with
    | kept hd hg => exact .kept hd hg
    | opened hc hd hg => exact .opened hc hd hg
    | ended hc hd hg => exact .ended hc hd hg

theorem Tally.counts (h : Tally e e') :
    (e'.dialogCount = e.dialogCount ∧ e'.gauge = e.gauge) ∨
      (e'.dialogCount = e.dialogCount + 1 ∧ e'.gauge = e.gauge + 1) ∨
      (e'.dialogCount + 1 = e.dialogCount ∧ e'.gauge = e.gauge - 1) := by
  cases h with
  | kept hd hg => exact .inl ⟨congrArg (·.entries.length) hd, hg⟩
  | opened hc hd hg =>
    rename_i callId dialog
    refine .inr (.inl ⟨?_, hg⟩)
    have hcard := congrArg Multiset.card (image_insert id dialog hc)
    rw [Multiset.card_cons, card_image, card_image, ← hd] at hcard
    exact hcard
  | ended hc hd hg =>
    refine .inr (.inr ⟨?_, hg⟩)
    have hcard := congrArg Multiset.card (image_erase id hc)
    rw [Multiset.card_cons, card_image, card_image, ← hd] at hcard
    exact hcard.symm

end

/-- The two tables are disjoint and the gauge is the number of dialogs, as a 64-bit counter. -/
structure Bookkept (e : Engine) : Prop where
  disjoint : ∀ c, c ∈ e.pendingInbound → c ∉ e.inboundDialogs
  counted : e.gauge = UInt64.ofNat e.dialogCount

namespace Bookkept

theorem step {e e' : Engine} (h : Bookkept e) (ht : Tally e e')
    (hdisjoint : ∀ c, c ∈ e'.pendingInbound → c ∉ e'.inboundDialogs) : Bookkept e' := by
  refine ⟨hdisjoint, ?_⟩
  rcases ht.counts with ⟨hcount, hgauge⟩ | ⟨hcount, hgauge⟩ | ⟨hcount, hgauge⟩
  · rw [hgauge, hcount, h.counted]
  · rw [hgauge, hcount, h.counted, UInt64.ofNat_add]
    rfl
  · rw [hgauge, h.counted, ← hcount, UInt64.ofNat_add]
    simp

/-- The gauge has not wrapped below zero. -/
theorem gauge_le {e : Engine} (h : Bookkept e) : e.gauge.toNat ≤ e.dialogCount := by
  rw [h.counted, UInt64.toNat_ofNat']
  exact Nat.mod_le _ _

theorem gauge_eq {e : Engine} (h : Bookkept e) (hsize : e.dialogCount < UInt64.size) :
    e.gauge.toNat = e.dialogCount := by
  rw [h.counted, UInt64.toNat_ofNat']
  exact Nat.mod_eq_of_lt hsize

end Bookkept

theorem pending_notMem_dialogs {own : Prop} {s : System} (h : Wired own s.view) (c : Str)
    (hc : c ∈ s.engine.pendingInbound) : c ∉ s.engine.inboundDialogs := by
  obtain ⟨p, hp⟩ := Option.isSome_iff_exists.mp (AList.lookup_isSome.mpr hc)
  exact AList.lookup_eq_none.mp (h.disjoint c p hp)

theorem System.step_tally {own : Prop} {config : AppConfig} {s t : System} {a : Action}
    (h : Wired own s.view) (ht : s.step config a = some t) : Tally s.engine t.engine := by
  rcases step_engine ht with ⟨env, event, -, hhandle⟩ | ⟨-, hsame⟩
  · exact handle_tally h.disjoint hhandle
  · exact .kept (by rw [hsame]) (by rw [hsame])

theorem Run.wired {config : AppConfig} {s : System} (h : Run config (System.init config) s) :
    Wired False s.view := by
  have hcalls : CallRun False (System.init config).view s.view :=
    h.simulates System.view (I := fun _ => True) trivial (fun _ _ _ _ _ _ => trivial)
      (fun _ _ _ _ _ hs => step_callRun hs nofun)
  exact (wired_init False config).run hcalls

theorem Run.bookkept {config : AppConfig} {s : System} (h : Run config (System.init config) s) :
    Bookkept s.engine := by
  have hinit : Bookkept (System.init config).engine := ⟨nofun, rfl⟩
  induction h with
  | refl => exact hinit
  | tail hr hs ih =>
    obtain ⟨a, -, ht⟩ := hs
    have hwired := Run.wired hr
    have hnext := Run.wired (hr.tail ⟨a, trivial, ht⟩)
    exact ih.step (System.step_tally hwired ht) (pending_notMem_dialogs hnext)

/-- In every reachable state the tables of Call-IDs are disjoint and the gauge is the number of
dialogs, and no further step overwrites a dialog or lowers the gauge without ending one. -/
theorem call_bookkeeping {config : AppConfig} {s : System}
    (h : Run config (System.init config) s) :
    Bookkept s.engine ∧ s.engine.gauge.toNat ≤ s.engine.dialogCount ∧
      (s.engine.dialogCount < UInt64.size → s.engine.gauge.toNat = s.engine.dialogCount) ∧
      ∀ a t, s.step config a = some t → Tally s.engine t.engine :=
  ⟨h.bookkept, h.bookkept.gauge_le, h.bookkept.gauge_eq, fun _ _ ht => System.step_tally h.wired ht⟩

/-- An established call. -/
theorem established_call_is_counted :
    ∃ s : System, s.engine.gauge = 1 ∧ Bookkept s.engine := by
  have hex : (exec (System.step smallConfig) (System.init smallConfig)
      [peerSends "INVITE" "c", .finishSetup 0 none, .receiveResult quietEnv]).map
        (fun s => s.engine.gauge) = some 1 := by decide +kernel
  obtain ⟨s, hs, hgauge⟩ := Option.map_eq_some_iff.mp hex
  exact ⟨s, hgauge, (call_bookkeeping (run_of_exec hs)).1⟩

end DemoService.Sip
