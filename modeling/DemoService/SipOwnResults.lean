import DemoService.SipBookkeeping
import DemoService.SipPortReturn

/-! Setup results and the INVITEs they are applied to. A result carries only a
Call-ID, so a log beside the engine keeps, for every setup task, the media
address in the SDP of the INVITE that spawned it. -/

namespace DemoService.Sip

open AssocMap RustText NetAddr GuardedRuns Fallible

structure Logged where
  system : System
  /-- The media address each setup task's INVITE asked for. -/
  offers : Nat → Option SocketAddr

def Logged.init (config : AppConfig) : Logged := ⟨.init config, fun _ => none⟩

/-- A datagram's media address is logged for the next task; an INVITE that is
not admitted spawns none, and the next datagram's replaces it. -/
def Logged.record (l : Logged) : Action → Nat → Option SocketAddr
  | .datagram _ payload sourceAddr =>
    Function.update l.offers l.system.engine.spawned
      (extractMediaAddrFromSdp payload sourceAddr.ip)
  | _ => l.offers

def Logged.step (config : AppConfig) (l : Logged) (a : Action) : Option Logged :=
  (l.system.step config a).map (fun t => ⟨t, l.record a⟩)

/-- A dialog that replaces a pending INVITE has that INVITE's port, tag and media address, and
its 200 OK advertises the port its bridge is bound to. -/
def AppliesOwn (config : AppConfig) (l : Logged) (a : Action) : Prop :=
  ∀ m c p d, l.step config a = some m → l.system.engine.pendingInbound.lookup c = some p →
    m.system.engine.inboundDialogs.lookup c = some d →
    d.bridge.localRtpPort = p.localRtpPort ∧ d.bridge.localTag = p.localTag ∧
      l.offers p.task = some d.bridge.remoteMediaAddr ∧
      buildSip200OkForInvite p.request p.localTag config.localSipAdvertiseHost
        d.bridge.localRtpPort = some d.inviteOkPayload

/-- The engine does not take a ready bridge that another INVITE's setup made while an INVITE
is pending under the Call-ID whose 200 OK can be built and is delivered. -/
def OwnResult (config : AppConfig) (l : Logged) : Action → Prop
  | .receiveResult env => ∀ r rest p, l.system.results = r :: rest → r.failure = none →
      l.system.engine.pendingInbound.lookup r.params.callId = some p →
      env.delivered .inviteOk = true →
      (buildSip200OkForInvite p.request p.localTag config.localSipAdvertiseHost
        p.localRtpPort).isSome = true → p.task = r.params.task
  | _ => True

/-- The local tag drawn for a datagram is not the tag of a setup in flight. -/
def FreshTag (l : Logged) : Action → Prop
  | .datagram env _ _ => ∀ x ∈ l.system.view.inFlight, x.localTag ≠ env.uuid .localTag
  | _ => True

section

variable {config : AppConfig} {env : Env} {e e' : Engine} {callId c : Str} {d : InboundDialog}
  {out : List Output}

theorem spawns_admitInvite {request : SipParsedRequest} {payload : Str} {sourceAddr : SocketAddr}
    {x : InboundBridgeParams} (hx : x ∈ spawns (admitInvite env e request payload sourceAddr).2) :
    x.task = e.spawned ∧ x.localTag = env.uuid .localTag ∧
      extractMediaAddrFromSdp payload sourceAddr.ip = some x.remoteMediaAddr := by
  unfold admitInvite at hx
  split at hx
  · simp at hx
  · split at hx
    · simp at hx
    · rename_i addr haddr
      obtain rfl := List.mem_singleton.mp hx
      exact ⟨rfl, rfl, haddr⟩

theorem spawns_handleInboundRequest {request : SipParsedRequest} {payload : Str}
    {sourceAddr : SocketAddr} {x : InboundBridgeParams}
    (hx : x ∈ spawns (handleInboundRequest config env e request payload sourceAddr).2) :
    x.task = e.spawned ∧ x.localTag = env.uuid .localTag ∧
      extractMediaAddrFromSdp payload sourceAddr.ip = some x.remoteMediaAddr := by
  unfold handleInboundRequest at hx
  split at hx
  · unfold handleInboundInvite at hx
    split at hx
    · exact (List.not_mem_nil hx).elim
    · exact (List.not_mem_nil hx).elim
    · split at hx
      · simp at hx
      · have hnone := (spawns_provisionalResponses config env request sourceAddr).1
        rw [spawns_append, hnone, List.nil_append] at hx
        exact spawns_admitInvite (e := e.fetchAdd .inboundInvitesTotal) hx
  · split at hx
    · obtain ⟨-, hnone, -⟩ := answerBye_calls env (e.fetchAdd .sipByeRequestsTotal) request payload
        sourceAddr
      unfold handleInboundBye at hx
      split at hx
      · exact (List.not_mem_nil hx).elim
      · split at hx
        · rw [hnone] at hx
          exact (List.not_mem_nil hx).elim
        · rw [spawns_append, hnone] at hx
          exact (List.not_mem_nil hx).elim
    · split at hx
      · unfold handleInboundCancel at hx
        split at hx
        · simp at hx
        · simp at hx
      · exact (List.not_mem_nil hx).elim

/-- What a payload spawns, it spawns with its tag and its media address. -/
theorem spawns_handlePayload {payload : Str} {sourceAddr : SocketAddr}
    (h : handlePayload config env e payload sourceAddr = .ok (e', out)) {x : InboundBridgeParams}
    (hx : x ∈ spawns out) :
    x.task = e.spawned ∧ x.localTag = env.uuid .localTag ∧
      extractMediaAddrFromSdp payload sourceAddr.ip = some x.remoteMediaAddr := by
  unfold handlePayload at h
  split at h
  · rename_i request _
    have hout : (handleInboundRequest config env e request payload sourceAddr).2 = out :=
      congrArg Prod.snd (pure_eq_ok.mp h)
    rw [← hout] at hx
    exact spawns_handleInboundRequest hx
  · cases h
    exact (List.not_mem_nil hx).elim
  · obtain ⟨⟨handled, sent⟩, hhandle, hr⟩ := bind_eq_ok.mp h
    obtain ⟨-, hnone, -⟩ := handleSipResponse_calls hhandle
    cases hr
    rw [hnone] at hx
    exact (List.not_mem_nil hx).elim

theorem Moves.spawns_nil {event : EngineEvent} {t : CallTables} {sp : List InboundBridgeParams}
    {st : List InboundBridgeHandle} (h : Moves e event t sp st)
    (hevent : ∀ payload sourceAddr, event ≠ .datagram payload sourceAddr) : sp = [] := by
  cases h with
  | payload now hp => exact absurd rfl (hevent _ _)
  | _ => rfl

theorem Moves.dialog_of {event : EngineEvent} {t : CallTables} {sp : List InboundBridgeParams}
    {st : List InboundBridgeHandle} (h : Moves e event t sp st)
    (hevent : ∀ callId result, event ≠ .inboundSetupResult callId result)
    (hd : t.dialogs.lookup c = some d) : e.inboundDialogs.lookup c = some d := by
  cases h with
  | command request => exact hd
  | endUnknown hnone => exact hd
  | endDialog hsome => exact (lookup_erase_some hd).2
  | payload now hp =>
    cases hp with
    | byeDialog hreq hdialog => exact (lookup_erase_some hd).2
    | _ => exact hd
  | _ => exact absurd rfl (hevent _ _)

theorem acceptInvite_dialog {pending : PendingInboundInvite} {bridge : InboundBridgeHandle}
    (hnone : e.inboundDialogs.lookup c = none)
    (h : acceptInvite config env e callId pending bridge = .ok (e', out))
    (hd : e'.inboundDialogs.lookup c = some d) :
    c = callId ∧ env.delivered .inviteOk = true ∧ d.bridge = bridge ∧
      buildSip200OkForInvite pending.request pending.localTag config.localSipAdvertiseHost
        pending.localRtpPort = some d.inviteOkPayload := by
  have hkept : e.inboundDialogs.lookup c = some d → False := fun hsome =>
    absurd (hnone.symm.trans hsome) nofun
  unfold acceptInvite at h
  split at h
  · cases h
    exact (hkept hd).elim
  · rename_i okResponse hok
    split at h
    · rename_i hsent
      obtain ⟨dialog, hdialog, hr⟩ := bind_eq_ok.mp h
      cases hr
      rcases lookup_insert_some hd with ⟨rfl, rfl⟩ | ⟨-, hd⟩
      · exact ⟨rfl, hsent, (acceptedDialog_fields hdialog).2,
          hok.trans (congrArg some (acceptedDialog_payload hdialog).symm)⟩
      · exact (hkept hd).elim
    · cases h
      exact (hkept hd).elim

theorem acceptInvite_opens {pending : PendingInboundInvite} {bridge : InboundBridgeHandle}
    (h : acceptInvite config env e callId pending bridge = .ok (e', out))
    (hsent : env.delivered .inviteOk = true)
    (hok : (buildSip200OkForInvite pending.request pending.localTag config.localSipAdvertiseHost
      pending.localRtpPort).isSome = true) :
    ∃ d, e'.inboundDialogs.lookup callId = some d ∧ d.bridge = bridge := by
  obtain ⟨okResponse, hok⟩ := Option.isSome_iff_exists.mp hok
  simp only [acceptInvite, hok, hsent, if_true] at h
  obtain ⟨dialog, hdialog, hr⟩ := bind_eq_ok.mp h
  cases hr
  exact ⟨dialog, AList.lookup_insert _, (acceptedDialog_fields hdialog).2⟩

end

/-- Every pending INVITE still has its own setup in flight. -/
def OwnSetups (v : CallSystem) : Prop :=
  ∀ c p, v.calls.pending.lookup c = some p → ∃ x ∈ v.inFlight,
    x = ⟨c, p.localTag, p.localRtpPort, x.remoteMediaAddr, p.task⟩

/-- Taking a result leaves the setups of the other Call-IDs in flight. -/
theorem OwnSetups.rest {v : CallSystem} (h : OwnSetups v) {params : InboundBridgeParams}
    {rest : Multiset InboundBridgeParams} (hrest : v.inFlight = params ::ₘ rest) {c : Str}
    {p : PendingInboundInvite} (hp : v.calls.pending.lookup c = some p) (hc : c ≠ params.callId) :
    ∃ x ∈ rest, x = ⟨c, p.localTag, p.localRtpPort, x.remoteMediaAddr, p.task⟩ := by
  obtain ⟨x, hx, hown⟩ := h c p hp
  rw [hrest] at hx
  rcases Multiset.mem_cons.mp hx with rfl | hx
  · exact absurd (congrArg (·.callId) hown).symm hc
  · exact ⟨x, hx, hown⟩

theorem OwnSetups.step {own : Prop} {v w : CallSystem} (h : OwnSetups v) (hs : CallStep own v w) :
    OwnSetups w := by
  intro c p hp
  cases hs with
  | sweep now => exact h c p (lookup_of_retain hp)
  | admission hdialog hpending hfree htask hparams =>
    rename_i callId pending params
    rcases lookup_insert_some hp with ⟨rfl, rfl⟩ | ⟨-, hp⟩
    · exact ⟨params, Multiset.mem_cons_self .., hparams⟩
    · obtain ⟨x, hx, hown⟩ := h c p hp
      exact ⟨x, Multiset.mem_cons_of_mem hx, hown⟩
  | endDialog hd => exact h c p hp
  | cancel hown hpending => exact h c p (lookup_erase_some hp).2
  | orphanReady hrest hnone =>
    refine h.rest hrest hp fun hc => ?_
    have hsame := hnone
    rw [← hc] at hsame
    exact absurd (hsame.symm.trans hp) nofun
  | orphanFailed hrest hnone =>
    refine h.rest hrest hp fun hc => ?_
    have hsame := hnone
    rw [← hc] at hsame
    exact absurd (hsame.symm.trans hp) nofun
  | refuse hrest hpending htask =>
    obtain ⟨hc, hp⟩ := lookup_erase_some hp
    exact h.rest hrest hp hc
  | accept hrest hpending htask hport hbridge =>
    obtain ⟨hc, hp⟩ := lookup_erase_some hp
    exact h.rest hrest hp hc

theorem OwnSetups.run {own : Prop} {v w : CallSystem} (h : OwnSetups v) (hr : CallRun own v w) :
    OwnSetups w := by
  induction hr with
  | refl => exact h
  | tail _ hs ih => exact ih.step hs

structure LoggedWired (l : Logged) : Prop where
  wired : Wired False l.system.view
  own : OwnSetups l.system.view
  offers : ∀ x ∈ l.system.view.inFlight, l.offers x.task = some x.remoteMediaAddr

theorem loggedWired_init (config : AppConfig) : LoggedWired (Logged.init config) :=
  ⟨wired_init False config, nofun, fun _ hx => absurd hx (Multiset.notMem_zero _)⟩

theorem turn_inFlight {config : AppConfig} {env : Env} {event : EngineEvent} {s t : System}
    (h : s.turn config env event = some t) {x : InboundBridgeParams} (hx : x ∈ t.view.inFlight) :
    x ∈ s.view.inFlight ∨ ∃ payload sourceAddr, event = .datagram payload sourceAddr ∧
      x.task = s.engine.spawned ∧ x.localTag = env.uuid .localTag ∧
      extractMediaAddrFromSdp payload sourceAddr.ip = some x.remoteMediaAddr := by
  unfold System.turn at h
  split at h
  · cases h
  · rename_i e out hhandle
    obtain rfl := Option.some.inj h
    rw [view_afterTurn] at hx
    rcases Multiset.mem_add.mp hx with hx | hx
    · exact .inl hx
    · right
      have hmem : x ∈ spawns out := Multiset.mem_coe.mp hx
      have hnone : (∀ payload sourceAddr, event ≠ .datagram payload sourceAddr) → False := by
        intro hevent
        rw [(Engine.handle_moves hhandle).spawns_nil hevent] at hmem
        exact List.not_mem_nil hmem
      cases event with
      | datagram payload sourceAddr =>
        obtain ⟨⟨handled, sent⟩, hpayload, hr⟩ := bind_eq_ok.mp hhandle
        have hsent : sent = out := congrArg Prod.snd (pure_eq_ok.mp hr)
        exact ⟨payload, sourceAddr, rfl, spawns_handlePayload hpayload (hsent ▸ hmem)⟩
      | command request => exact (hnone nofun).elim
      | backendEndRequested callId => exact (hnone nofun).elim
      | inboundSetupResult callId result => exact (hnone nofun).elim

theorem step_inFlight {config : AppConfig} {s t : System} {a : Action}
    (h : s.step config a = some t) {x : InboundBridgeParams} (hx : x ∈ t.view.inFlight) :
    x ∈ s.view.inFlight ∨ ∃ env payload sourceAddr, a = .datagram env payload sourceAddr ∧
      x.task = s.engine.spawned ∧ x.localTag = env.uuid .localTag ∧
      extractMediaAddrFromSdp payload sourceAddr.ip = some x.remoteMediaAddr := by
  cases a with
  | command env request =>
    have hturn : s.turn config env (.command request) = some t := h
    rcases turn_inFlight hturn hx with hx | ⟨payload, sourceAddr, he, -⟩
    · exact .inl hx
    · cases he
  | datagram env payload sourceAddr =>
    have hturn : s.turn config env (.datagram payload sourceAddr) = some t := h
    rcases turn_inFlight hturn hx with hx | ⟨payload', sourceAddr', he, hspawn⟩
    · exact .inl hx
    · cases he
      exact .inr ⟨env, payload, sourceAddr, rfl, hspawn⟩
  | receiveResult env =>
    simp only [System.step] at h
    split at h
    · cases h
    · rename_i r rest hresults
      rcases turn_inFlight h hx with hx | ⟨payload, sourceAddr, he, -⟩
      · refine .inl ?_
        rw [System.view, hresults, List.map_cons, ← Multiset.cons_coe, Multiset.add_cons]
        exact Multiset.mem_cons_of_mem hx
      · cases he
  | receiveEnd env =>
    simp only [System.step] at h
    split at h
    · cases h
    · rename_i callId rest hends
      rcases turn_inFlight h hx with hx | ⟨payload, sourceAddr, he, -⟩
      · exact .inl hx
      · cases he
  | finishSetup i failure =>
    obtain ⟨params, hi, rfl⟩ := Option.map_eq_some_iff.mp h
    rw [view_finish failure hi] at hx
    exact .inl hx
  | bridgeEnds i =>
    obtain ⟨bridge, hi, rfl⟩ := Option.map_eq_some_iff.mp h
    exact .inl hx

theorem LoggedWired.step {config : AppConfig} {l m : Logged} {a : Action} (h : LoggedWired l)
    (hs : l.step config a = some m) : LoggedWired m := by
  obtain ⟨t, ht, rfl⟩ := Option.map_eq_some_iff.mp hs
  have hrun : CallRun False l.system.view t.view := step_callRun ht nofun
  refine ⟨h.wired.run hrun, h.own.run hrun, ?_⟩
  intro x hx
  rcases step_inFlight ht hx with hx | ⟨env, payload, sourceAddr, rfl, htask, -, haddr⟩
  · have hold := h.offers x hx
    have hlt : x.task < l.system.engine.spawned := h.wired.bounded x hx
    cases a with
    | datagram env payload sourceAddr =>
      have hne : x.task ≠ l.system.engine.spawned := by omega
      exact (Function.update_of_ne hne _ _).trans hold
    | _ => exact hold
  · rw [htask]
    exact (Function.update_self _ _ _).trans haddr

theorem handle_opens {config : AppConfig} {env : Env} {event : EngineEvent} {e e' : Engine}
    {out : List Output} {c : Str} {d : InboundDialog}
    (hnone : e.inboundDialogs.lookup c = none)
    (h : e.handle config env event = .ok (e', out)) (hd : e'.inboundDialogs.lookup c = some d) :
    ∃ bridge p, event = .inboundSetupResult c (.ok bridge) ∧
      e.pendingInbound.lookup c = some p ∧ env.delivered .inviteOk = true ∧ d.bridge = bridge ∧
      buildSip200OkForInvite p.request p.localTag config.localSipAdvertiseHost p.localRtpPort =
        some d.inviteOkPayload := by
  have hkept : e.inboundDialogs.lookup c = some d → False := fun hsome =>
    absurd (hnone.symm.trans hsome) nofun
  have hmoves := Engine.handle_moves h
  cases event with
  | inboundSetupResult callId result =>
    have hresult : handleInboundSetupResult config env e callId result = .ok (e', out) := h
    unfold handleInboundSetupResult at hresult
    split at hresult
    · cases hresult
      exact (hkept hd).elim
    · cases hresult
      exact (hkept hd).elim
    · rename_i pending bridge hpending
      obtain ⟨rfl, hsent, hbridge, hok⟩ := acceptInvite_dialog hnone hresult hd
      exact ⟨bridge, pending, rfl, hpending, hsent, hbridge, hok⟩
    · rename_i pending reason hpending
      have hsame : e'.inboundDialogs = e.inboundDialogs := by
        have heq := congrArg (fun r => r.1.inboundDialogs) (pure_eq_ok.mp hresult)
        exact heq.symm.trans (Engine.dialogs_countSend _)
      exact (hkept (hsame ▸ hd)).elim
  | command request => exact (hkept (hmoves.dialog_of nofun hd)).elim
  | backendEndRequested callId => exact (hkept (hmoves.dialog_of nofun hd)).elim
  | datagram payload sourceAddr => exact (hkept (hmoves.dialog_of nofun hd)).elim

theorem event?_eq_setupResult {s : System} {a : Action} {env : Env} {callId : Str}
    {result : Except Str InboundBridgeHandle}
    (h : s.event? a = some (env, .inboundSetupResult callId result)) :
    ∃ r rest, a = .receiveResult env ∧ s.results = r :: rest ∧ r.params.callId = callId ∧
      r.result = result := by
  cases a with
  | receiveResult env' =>
    obtain ⟨r, hr, heq⟩ := Option.map_eq_some_iff.mp h
    obtain ⟨rest, hresults⟩ := List.head?_eq_some_iff.mp hr
    obtain ⟨rfl, hevent⟩ := Prod.mk.inj heq
    obtain ⟨hcall, hresult⟩ := EngineEvent.inboundSetupResult.inj hevent
    exact ⟨r, rest, rfl, hresults, hcall, hresult⟩
  | receiveEnd env' =>
    obtain ⟨c, -, heq⟩ := Option.map_eq_some_iff.mp h
    cases heq
  | _ => cases h

theorem step_opens {config : AppConfig} {s t : System} {a : Action} (hw : Wired False s.view)
    (h : s.step config a = some t) {c : Str} {p : PendingInboundInvite} {d : InboundDialog}
    (hp : s.engine.pendingInbound.lookup c = some p)
    (hd : t.engine.inboundDialogs.lookup c = some d) :
    ∃ env r rest, a = .receiveResult env ∧ s.results = r :: rest ∧ r.params.callId = c ∧
      r.failure = none ∧ env.delivered .inviteOk = true ∧
      d.bridge = startInboundBridge r.params ∧
      buildSip200OkForInvite p.request p.localTag config.localSipAdvertiseHost p.localRtpPort =
        some d.inviteOkPayload := by
  have hnone : s.engine.inboundDialogs.lookup c = none := hw.disjoint c p hp
  rcases step_engine h with ⟨env, event, hevent, hhandle⟩ | ⟨-, hsame⟩
  · obtain ⟨bridge, q, rfl, hq, hsent, hbridge, hok⟩ := handle_opens hnone hhandle hd
    obtain rfl : q = p := Option.some.inj (hq.symm.trans hp)
    obtain ⟨r, rest, rfl, hresults, hcall, hresult⟩ := event?_eq_setupResult hevent
    have hready : r.failure = none := by
      cases hf : r.failure with
      | none => rfl
      | some reason => simp [SetupResult.result, hf] at hresult
    exact ⟨env, r, rest, rfl, hresults, hcall, hready, hsent,
      hbridge.trans (SetupResult.result_eq_ok hresult), hok⟩
  · rw [hsame, hnone] at hd
    cases hd

/-- A step that takes the pending INVITE's own result applies it to that INVITE. -/
theorem OwnResult.applies {config : AppConfig} {l : Logged} {a : Action} (hw : LoggedWired l)
    (h : OwnResult config l a) : AppliesOwn config l a := by
  intro m c p d hs hp hd
  obtain ⟨t, ht, rfl⟩ := Option.map_eq_some_iff.mp hs
  obtain ⟨env, r, rest, rfl, hresults, rfl, hready, hsent, hbridge, hok⟩ :=
    step_opens hw.wired ht hp hd
  have htask : p.task = r.params.task := h r rest p hresults hready hp hsent (by rw [hok]; rfl)
  obtain ⟨x, hx, hown⟩ := hw.own _ p hp
  have hmem : r.params ∈ l.system.view.inFlight := by
    rw [view_of_results hresults]
    exact Multiset.mem_cons_self ..
  have hsame : x = r.params :=
    Multiset.inj_on_of_nodup_map hw.wired.tasks x hx _ hmem ((congrArg (·.task) hown).trans htask)
  rw [hsame] at hown
  have hport : d.bridge.localRtpPort = p.localRtpPort := by
    rw [hbridge]
    exact congrArg (·.localRtpPort) hown
  refine ⟨hport, ?_, ?_, by rw [hport, hok]⟩
  · rw [hbridge]
    exact congrArg (·.localTag) hown
  · rw [hbridge, htask]
    exact hw.offers _ hmem

def DistinctTags (l : Logged) : Prop :=
  ∀ x ∈ l.system.view.inFlight, ∀ y ∈ l.system.view.inFlight, x.localTag = y.localTag → x = y

theorem DistinctTags.step {config : AppConfig} {l m : Logged} {a : Action} (h : DistinctTags l)
    (hfresh : FreshTag l a) (hs : l.step config a = some m) (hw : LoggedWired m) :
    DistinctTags m := by
  obtain ⟨t, ht, rfl⟩ := Option.map_eq_some_iff.mp hs
  intro x hx y hy htag
  rcases step_inFlight ht hx with hx' | ⟨env, payload, sourceAddr, rfl, htask, hxtag, -⟩
  · rcases step_inFlight ht hy with hy' | ⟨env, payload, sourceAddr, rfl, -, hytag, -⟩
    · exact h x hx' y hy' htag
    · exact absurd (htag.trans hytag) (hfresh x hx')
  · rcases step_inFlight ht hy with hy' | ⟨_, _, _, -, hytask, -⟩
    · exact absurd (htag.symm.trans hxtag) (hfresh y hy')
    · exact Multiset.inj_on_of_nodup_map hw.wired.tasks x hx y hy (htask.trans hytask.symm)

theorem AppliesOwn.ownResult {config : AppConfig} {l m : Logged} {a : Action} (hw : LoggedWired l)
    (htags : DistinctTags l) (hs : l.step config a = some m) (h : AppliesOwn config l a) :
    OwnResult config l a := by
  cases a with
  | receiveResult env =>
    intro r rest p hresults hready hp hsent hok
    obtain ⟨t, ht, rfl⟩ := Option.map_eq_some_iff.mp hs
    have hresult : r.result = .ok (startInboundBridge r.params) := by
      rw [SetupResult.result, hready]
    have hturn : System.turn config env (.inboundSetupResult r.params.callId r.result)
        { l.system with results := rest } = some t := by
      simpa only [System.step, hresults] using ht
    unfold System.turn at hturn
    split at hturn
    · cases hturn
    · rename_i e out hhandle
      obtain rfl := Option.some.inj hturn
      have haccept : acceptInvite config env l.system.engine r.params.callId p
          (startInboundBridge r.params) = .ok (e, out) := by
        simpa only [Engine.handle, handleInboundSetupResult, hp, hresult] using hhandle
      obtain ⟨d, hd, hbridge⟩ := acceptInvite_opens haccept hsent hok
      obtain ⟨-, htag, -⟩ := h _ _ p d hs hp hd
      obtain ⟨x, hx, hown⟩ := hw.own _ p hp
      have hmem : r.params ∈ l.system.view.inFlight := by
        rw [view_of_results hresults]
        exact Multiset.mem_cons_self ..
      have hsame : x = r.params := by
        refine htags x hx _ hmem ?_
        calc x.localTag = p.localTag := congrArg (·.localTag) hown
          _ = d.bridge.localTag := htag.symm
          _ = r.params.localTag := by rw [hbridge, startInboundBridge]
      rw [← hsame]
      exact (congrArg (·.task) hown).symm
  | _ => trivial

/-- In every run in which no pending INVITE takes a bridge of another INVITE's setup, each
dialog has the port, the tag and the media address of the INVITE it replaces; and where no two
setups in flight draw the same tag, only in those. -/
theorem dialogs_replace_own_invites {config : AppConfig} {actions : List Action} {l : Logged}
    (h : exec (Logged.step config) (Logged.init config) actions = some l) :
    (AllSteps (Logged.step config) (OwnResult config) (Logged.init config) actions →
      AllSteps (Logged.step config) (AppliesOwn config) (Logged.init config) actions) ∧
    (AllSteps (Logged.step config) FreshTag (Logged.init config) actions →
      AllSteps (Logged.step config) (AppliesOwn config) (Logged.init config) actions →
      AllSteps (Logged.step config) (OwnResult config) (Logged.init config) actions) := by
  have hinit := loggedWired_init config
  constructor
  · intro hown
    exact hown.mono_of_invariant h hinit (fun _ _ _ hw _ hs => hw.step hs)
      fun _ _ _ hw hown _ => hown.applies hw
  · intro hfresh happlies
    have htags : DistinctTags (Logged.init config) := fun _ hx => absurd hx (Multiset.notMem_zero _)
    refine (hfresh.and happlies).mono_of_invariant (I := fun l => LoggedWired l ∧ DistinctTags l) h
      ⟨hinit, htags⟩ (fun s a t hI hok hs => ?_) fun s a t hI hok hs => ?_
    · have hw := hI.1.step hs
      exact ⟨hw, hI.2.step hok.1 hs hw⟩
    · exact hok.2.ownResult hI.1 hI.2 hs

/-- A caller cancels and calls again, and the second setup finishes first. -/
theorem retried_invite_gets_own_bridge :
    ∃ l, exec (Logged.step smallConfig) (Logged.init smallConfig)
        [peerSends "INVITE" "c", peerSends "CANCEL" "c", peerSends "INVITE" "c",
          .finishSetup 1 none, .receiveResult quietEnv] = some l ∧
      AllSteps (Logged.step smallConfig) (AppliesOwn smallConfig) (Logged.init smallConfig)
        [peerSends "INVITE" "c", peerSends "CANCEL" "c", peerSends "INVITE" "c",
          .finishSetup 1 none, .receiveResult quietEnv] := by
  have hex : (exec (Logged.step smallConfig) (Logged.init smallConfig)
      [peerSends "INVITE" "c", peerSends "CANCEL" "c", peerSends "INVITE" "c",
        .finishSetup 1 none]).map
      (fun l => (l.system.results.map (fun r => (r.params.callId, r.params.task)),
        (l.system.engine.pendingInbound.lookup "c".toList).map (·.task),
        (l.step smallConfig (.receiveResult quietEnv)).isSome)) =
      some ([("c".toList, 1)], some 1, true) := by decide +kernel
  obtain ⟨l, hl, heq⟩ := Option.map_eq_some_iff.mp hex
  simp only [Prod.mk.injEq] at heq
  obtain ⟨hresults, hpending, hnext⟩ := heq
  obtain ⟨m, hm⟩ := Option.isSome_iff_exists.mp hnext
  have hown : OwnResult smallConfig l (.receiveResult quietEnv) := by
    intro r rest p hr _ hp _ _
    rw [hr, List.map_cons, List.cons.injEq, Prod.mk.injEq] at hresults
    obtain ⟨⟨hcall, htask⟩, -⟩ := hresults
    rw [hcall] at hp
    rw [hp] at hpending
    exact (Option.some.inj hpending).trans htask.symm
  have hrun : exec (Logged.step smallConfig) (Logged.init smallConfig)
      ([peerSends "INVITE" "c", peerSends "CANCEL" "c", peerSends "INVITE" "c",
        .finishSetup 1 none] ++ [.receiveResult quietEnv]) = some m := by
    rw [exec_append hl]
    simp [exec, hm]
  refine ⟨m, hrun, (dialogs_replace_own_invites hrun).1 ?_⟩
  refine (allSteps_concat_iff hl).mpr ⟨?_, hown⟩
  simp [AllSteps, peerSends, OwnResult]

/-- A caller cancels, another call takes the freed port, and the caller's second INVITE is
answered with the bridge of the first. -/
theorem cancelled_bridge_answers_next_invite :
    ¬ ∀ actions l, exec (Logged.step smallConfig) (Logged.init smallConfig) actions = some l →
      AllSteps (Logged.step smallConfig) (AppliesOwn smallConfig) (Logged.init smallConfig)
        actions := by
  intro hall
  have hex : (exec (Logged.step smallConfig) (Logged.init smallConfig)
      [peerSends "INVITE" "c", peerSends "CANCEL" "c", peerSends "INVITE" "d",
        peerSends "INVITE" "c", .finishSetup 0 none]).map
      (fun l => ((l.system.engine.pendingInbound.lookup "c".toList).map (·.localRtpPort),
        (l.step smallConfig (.receiveResult quietEnv)).bind (fun m =>
          (m.system.engine.inboundDialogs.lookup "c".toList).map (·.bridge.localRtpPort)))) =
      some (some 10001, some 10000) := by decide +kernel
  obtain ⟨l, hl, heq⟩ := Option.map_eq_some_iff.mp hex
  obtain ⟨hpending, hdialog⟩ := Prod.mk.inj heq
  obtain ⟨p, hp, hport⟩ := Option.map_eq_some_iff.mp hpending
  obtain ⟨m, hm, hdialog⟩ := Option.bind_eq_some_iff.mp hdialog
  obtain ⟨d, hd, hbridge⟩ := Option.map_eq_some_iff.mp hdialog
  have hrun : exec (Logged.step smallConfig) (Logged.init smallConfig)
      ([peerSends "INVITE" "c", peerSends "CANCEL" "c", peerSends "INVITE" "d",
        peerSends "INVITE" "c", .finishSetup 0 none] ++ [.receiveResult quietEnv]) = some m := by
    rw [exec_append hl]
    simp [exec, hm]
  have happlies := ((allSteps_concat_iff hl).mp (hall _ m hrun)).2
  have hsame := (happlies m _ p d hm hp hd).1
  omega

end DemoService.Sip
