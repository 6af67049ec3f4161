import DemoService.Fallible
import DemoService.SipEngine

/-! What one turn of the engine does to the inbound calls: the port pool, the
pending INVITEs, the dialogs and the number of spawned setups. -/

namespace DemoService.Sip

open AssocMap RustText NetAddr

structure CallTables where
  pool : BoundedRtpPortPool
  pending : Map Str PendingInboundInvite
  dialogs : Map Str InboundDialog
  spawned : Nat

def Engine.calls (e : Engine) : CallTables :=
  ⟨e.rtpPortPool, e.pendingInbound, e.inboundDialogs, e.spawned⟩

@[simp] theorem Engine.calls_fetchAdd (e : Engine) (c : Counter) :
    (e.fetchAdd c).calls = e.calls := rfl

@[simp] theorem Engine.calls_countSend (e : Engine) (delivered : Bool) :
    (e.countSend delivered).calls = e.calls := by
  cases delivered <;> rfl

namespace CallTables

def endDialog (t : CallTables) (callId : Str) (dialog : InboundDialog) : CallTables :=
  { t with dialogs := t.dialogs.erase callId, pool := t.pool.release dialog.localRtpPort }

/-- Drops a pending INVITE and releases its port. -/
def refuse (t : CallTables) (callId : Str) (pending : PendingInboundInvite) : CallTables :=
  { t with pending := t.pending.erase callId, pool := t.pool.release pending.localRtpPort }

def accept (t : CallTables) (callId : Str) (dialog : InboundDialog) : CallTables :=
  { t with pending := t.pending.erase callId, dialogs := t.dialogs.insert callId dialog }

def discard (t : CallTables) (bridge : InboundBridgeHandle) : CallTables :=
  { t with pool := t.pool.release bridge.localRtpPort }

def admitCall (t : CallTables) (callId : Str) (pending : PendingInboundInvite) : CallTables :=
  { pool := { t.pool with inUse := insert pending.localRtpPort t.pool.inUse }
    pending := t.pending.insert callId pending
    dialogs := t.dialogs
    spawned := t.spawned + 1 }

def sweep (t : CallTables) (now : Nat) : CallTables :=
  { t with pending := retain (fun invite => now - invite.createdAt < 60) t.pending }

end CallTables

@[simp] theorem Engine.calls_refuse (e : Engine) (callId : Str) (pending : PendingInboundInvite) :
    (e.refuse callId pending).calls = e.calls.refuse callId pending := rfl

@[simp] theorem Engine.calls_teardown (e : Engine) (callId : Str) (dialog : InboundDialog) :
    (e.teardown callId dialog).calls = e.calls.endDialog callId dialog := rfl

def Output.spawned? : Output → Option InboundBridgeParams
  | .spawnSetup params => some params
  | _ => none

def Output.stopped? : Output → Option InboundBridgeHandle
  | .stopBridge bridge => some bridge
  | _ => none

def Output.isDelivered : Output → Bool
  | .send _ _ delivered => delivered
  | _ => false

def spawns (out : List Output) : List InboundBridgeParams := out.filterMap Output.spawned?

def stops (out : List Output) : List InboundBridgeHandle := out.filterMap Output.stopped?

@[simp] theorem spawns_append (a b : List Output) : spawns (a ++ b) = spawns a ++ spawns b :=
  List.filterMap_append

@[simp] theorem stops_append (a b : List Output) : stops (a ++ b) = stops a ++ stops b :=
  List.filterMap_append

@[simp] theorem spawns_reply (env : Env) (site : SendSite) (r : Option Str) (d : SocketAddr) :
    spawns (env.reply site r d) = [] := by
  cases r <;> rfl

@[simp] theorem stops_reply (env : Env) (site : SendSite) (r : Option Str) (d : SocketAddr) :
    stops (env.reply site r d) = [] := by
  cases r <;> rfl

def isRequest (method : String) (payload : Str) (request : SipParsedRequest) : Prop :=
  parseSipRequest payload = some request ∧ request.method = method.toList

/-- What a payload does to the calls before the sweep. -/
inductive PayloadMoves (e : Engine) (payload : Str) :
    CallTables → List InboundBridgeParams → List InboundBridgeHandle → Prop
  | ignored (h : ∀ request, ¬ isRequest "BYE" payload request ∧ ¬ isRequest "CANCEL" payload request) :
      PayloadMoves e payload e.calls [] []
  | admitted {request : SipParsedRequest} {p : PendingInboundInvite}
      {params : InboundBridgeParams} (hreq : isRequest "INVITE" payload request)
      (hdialog : e.inboundDialogs.lookup (callIdOf request) = none)
      (hpending : e.pendingInbound.lookup (callIdOf request) = none)
      (hfree : p.localRtpPort ∉ e.rtpPortPool.inUse) (htask : p.task = e.spawned)
      (hparams : params = ⟨callIdOf request, p.localTag, p.localRtpPort, params.remoteMediaAddr,
        p.task⟩) :
      PayloadMoves e payload (e.calls.admitCall (callIdOf request) p) [params] []
  | byeCached {request : SipParsedRequest} {cached : CachedSipResponse}
      (hreq : isRequest "BYE" payload request)
      (hcached : e.recentByeResponses.lookup (byeCacheKey request) = some cached) :
      PayloadMoves e payload e.calls [] []
  | byeUnknown {request : SipParsedRequest} (hreq : isRequest "BYE" payload request)
      (hdialog : e.inboundDialogs.lookup (callIdOf request) = none) :
      PayloadMoves e payload e.calls [] []
  | byeDialog {request : SipParsedRequest} {dialog : InboundDialog}
      (hreq : isRequest "BYE" payload request)
      (hdialog : e.inboundDialogs.lookup (callIdOf request) = some dialog) :
      PayloadMoves e payload (e.calls.endDialog (callIdOf request) dialog) [] [dialog.bridge]
  | cancelUnknown {request : SipParsedRequest} (hreq : isRequest "CANCEL" payload request)
      (hpending : e.pendingInbound.lookup (callIdOf request) = none) :
      PayloadMoves e payload e.calls [] []
  | cancelPending {request : SipParsedRequest} {pending : PendingInboundInvite}
      (hreq : isRequest "CANCEL" payload request)
      (hpending : e.pendingInbound.lookup (callIdOf request) = some pending) :
      PayloadMoves e payload (e.calls.refuse (callIdOf request) pending) [] []

/-- What one event does to the calls, with the setups it spawns and the bridges it stops. -/
inductive Moves (e : Engine) : EngineEvent → CallTables → List InboundBridgeParams →
    List InboundBridgeHandle → Prop
  | command (request : SipInviteRequest) : Moves e (.command request) e.calls [] []
  | endUnknown {callId : Str} (h : e.inboundDialogs.lookup callId = none) :
      Moves e (.backendEndRequested callId) e.calls [] []
  | endDialog {callId : Str} {dialog : InboundDialog}
      (h : e.inboundDialogs.lookup callId = some dialog) :
      Moves e (.backendEndRequested callId) (e.calls.endDialog callId dialog) [] [dialog.bridge]
  | orphanReady {callId : Str} (bridge : InboundBridgeHandle)
      (h : e.pendingInbound.lookup callId = none) :
      Moves e (.inboundSetupResult callId (.ok bridge)) (e.calls.discard bridge) [] [bridge]
  | orphanFailed {callId : Str} (reason : Str) (h : e.pendingInbound.lookup callId = none) :
      Moves e (.inboundSetupResult callId (.error reason)) e.calls [] []
  | failed {callId : Str} {pending : PendingInboundInvite} (reason : Str)
      (h : e.pendingInbound.lookup callId = some pending) :
      Moves e (.inboundSetupResult callId (.error reason)) (e.calls.refuse callId pending) [] []
  | unanswered {callId : Str} {pending : PendingInboundInvite} (bridge : InboundBridgeHandle)
      (h : e.pendingInbound.lookup callId = some pending) :
      Moves e (.inboundSetupResult callId (.ok bridge)) (e.calls.refuse callId pending) [] [bridge]
  | accepted {callId : Str} {pending : PendingInboundInvite} {dialog : InboundDialog}
      (h : e.pendingInbound.lookup callId = some pending)
      (hport : dialog.localRtpPort = pending.localRtpPort) :
      Moves e (.inboundSetupResult callId (.ok dialog.bridge)) (e.calls.accept callId dialog) [] []
  | payload {payload : Str} {sourceAddr : SocketAddr} {t : CallTables}
      {sp : List InboundBridgeParams} {st : List InboundBridgeHandle} (now : Nat)
      (h : PayloadMoves e payload t sp st) :
      Moves e (.datagram payload sourceAddr) (t.sweep now) sp st

theorem handleOutboundInvite_moves (env : Env) (e : Engine) (request : SipInviteRequest) :
    Moves e (.command request) (handleOutboundInvite env e request).1.calls
      (spawns (handleOutboundInvite env e request).2)
      (stops (handleOutboundInvite env e request).2) := by
  unfold handleOutboundInvite
  split <;> exact .command request

theorem handleBackendEnd_moves (env : Env) (e : Engine) (callId : Str) :
    Moves e (.backendEndRequested callId) (handleBackendEnd env e callId).1.calls
      (spawns (handleBackendEnd env e callId).2) (stops (handleBackendEnd env e callId).2) := by
  unfold handleBackendEnd
  split
  · rename_i h
    exact .endUnknown h
  · rename_i dialog h
    exact .endDialog h

theorem acceptedDialog_fields {config : AppConfig} {env : Env} {callId okResponse : Str}
    {pending : PendingInboundInvite} {bridge : InboundBridgeHandle} {dialog : InboundDialog}
    (h : acceptedDialog config env callId pending bridge okResponse = .ok dialog) :
    dialog.localRtpPort = pending.localRtpPort ∧ dialog.bridge = bridge := by
  unfold acceptedDialog at h
  obtain ⟨uri, -, h⟩ := Fallible.bind_eq_ok.mp h
  obtain ⟨target, -, h⟩ := Fallible.bind_eq_ok.mp h
  rw [← Fallible.pure_eq_ok.mp h]
  exact ⟨rfl, rfl⟩

theorem acceptedDialog_payload {config : AppConfig} {env : Env} {callId okResponse : Str}
    {pending : PendingInboundInvite} {bridge : InboundBridgeHandle} {dialog : InboundDialog}
    (h : acceptedDialog config env callId pending bridge okResponse = .ok dialog) :
    dialog.inviteOkPayload = okResponse := by
  unfold acceptedDialog at h
  obtain ⟨uri, -, h⟩ := Fallible.bind_eq_ok.mp h
  obtain ⟨target, -, h⟩ := Fallible.bind_eq_ok.mp h
  rw [← Fallible.pure_eq_ok.mp h]

theorem handleInboundSetupResult_moves {config : AppConfig} {env : Env} {e e' : Engine}
    {callId : Str} {result : Except Str InboundBridgeHandle} {out : List Output}
    (h : handleInboundSetupResult config env e callId result = .ok (e', out)) :
    Moves e (.inboundSetupResult callId result) e'.calls (spawns out) (stops out) := by
  unfold handleInboundSetupResult at h
  split at h
  · rename_i bridge hnone
    cases h
    exact .orphanReady bridge hnone
  · rename_i reason hnone
    cases h
    exact .orphanFailed reason hnone
  · rename_i pending bridge hsome
    unfold acceptInvite at h
    split at h
    · cases h
      exact .unanswered bridge hsome
    · split at h
      · obtain ⟨dialog, hdialog, hr⟩ := Fallible.bind_eq_ok.mp h
        obtain ⟨hport, rfl⟩ := acceptedDialog_fields hdialog
        cases hr
        exact .accepted hsome hport
      · cases h
        exact .unanswered bridge hsome
  · rename_i pending reason hsome
    cases h
    simpa [rejectInvite] using Moves.failed reason hsome

theorem not_isRequest_of_method {payload : Str} {request r : SipParsedRequest} {m m' : String}
    (h : isRequest m payload request) (hne : m.toList ≠ m'.toList) : ¬ isRequest m' payload r := by
  intro hr
  obtain rfl := Option.some.inj (h.1.symm.trans hr.1)
  exact hne (h.2.symm.trans hr.2)

theorem not_isRequest_of_none {payload : Str} (h : parseSipRequest payload = none)
    (request : SipParsedRequest) :
    ¬ isRequest "BYE" payload request ∧ ¬ isRequest "CANCEL" payload request :=
  ⟨fun hr => (by cases h.symm.trans hr.1), fun hr => (by cases h.symm.trans hr.1)⟩

theorem admitInvite_moves (env : Env) (e : Engine) (sourceAddr : SocketAddr)
    {request : SipParsedRequest} {payload : Str} (hreq : isRequest "INVITE" payload request)
    (hdialog : e.inboundDialogs.lookup (callIdOf request) = none)
    (hpending : e.pendingInbound.lookup (callIdOf request) = none) :
    PayloadMoves e payload (admitInvite env e request payload sourceAddr).1.calls
      (spawns (admitInvite env e request payload sourceAddr).2)
      (stops (admitInvite env e request payload sourceAddr).2) := by
  have hignored : PayloadMoves e payload e.calls [] [] := .ignored fun r =>
    ⟨not_isRequest_of_method hreq (by decide), not_isRequest_of_method hreq (by decide)⟩
  unfold admitInvite
  split
  · simpa using hignored
  · rename_i port pool halloc
    split
    · have hcalls : ({ e.fetchAdd .inboundInvitesRejectedTotal with
          rtpPortPool := pool.release port } : Engine).calls = e.calls := by
        rw [BoundedRtpPortPool.release_allocated halloc]
        rfl
      simpa [hcalls] using hignored
    · obtain ⟨hfree, rfl⟩ := BoundedRtpPortPool.allocate_eq_some halloc
      exact .admitted (p := ⟨request, sourceAddr, env.uuid .localTag, port, env.now, e.spawned⟩)
        hreq hdialog hpending hfree rfl rfl

theorem PayloadMoves.of_fetchAdd {e : Engine} {c : Counter} {payload : Str} {t : CallTables}
    {sp : List InboundBridgeParams} {st : List InboundBridgeHandle}
    (h : PayloadMoves (e.fetchAdd c) payload t sp st) : PayloadMoves e payload t sp st := by
  cases h with
  | ignored h => exact .ignored h
  | admitted hreq hdialog hpending hfree htask hparams =>
    exact .admitted hreq hdialog hpending hfree htask hparams
  | byeCached hreq hcached => exact .byeCached hreq hcached
  | byeUnknown hreq hdialog => exact .byeUnknown hreq hdialog
  | byeDialog hreq hdialog => exact .byeDialog hreq hdialog
  | cancelUnknown hreq hpending => exact .cancelUnknown hreq hpending
  | cancelPending hreq hpending => exact .cancelPending hreq hpending

theorem spawns_provisionalResponses (config : AppConfig) (env : Env) (request : SipParsedRequest)
    (sourceAddr : SocketAddr) :
    spawns (provisionalResponses config env request sourceAddr) = [] ∧
      stops (provisionalResponses config env request sourceAddr) = [] := by
  unfold provisionalResponses
  rw [spawns_append, stops_append, spawns_reply, stops_reply]
  split
  · simp
  · exact ⟨rfl, rfl⟩

theorem handleInboundInvite_moves {config : AppConfig} {env : Env} {e : Engine}
    {request : SipParsedRequest} {payload : Str} {sourceAddr : SocketAddr}
    (hreq : isRequest "INVITE" payload request) :
    PayloadMoves e payload (handleInboundInvite config env e request payload sourceAddr).1.calls
      (spawns (handleInboundInvite config env e request payload sourceAddr).2)
      (stops (handleInboundInvite config env e request payload sourceAddr).2) := by
  have hignored : PayloadMoves e payload e.calls [] [] := .ignored fun r =>
    ⟨not_isRequest_of_method hreq (by decide), not_isRequest_of_method hreq (by decide)⟩
  unfold handleInboundInvite
  split
  · rw [Engine.calls_countSend]
    exact hignored
  · exact hignored
  · rename_i hdialog hpending
    split
    · simpa using hignored
    · have hadmitted := admitInvite_moves env (e.fetchAdd .inboundInvitesTotal) sourceAddr hreq hdialog
        hpending
      obtain ⟨hspawns, hstops⟩ := spawns_provisionalResponses config env request sourceAddr
      simpa [hspawns, hstops] using hadmitted.of_fetchAdd

theorem answerBye_calls (env : Env) (e : Engine) (request : SipParsedRequest) (payload : Str)
    (sourceAddr : SocketAddr) :
    (answerBye env e request payload sourceAddr).1.calls = e.calls ∧
      spawns (answerBye env e request payload sourceAddr).2 = [] ∧
      stops (answerBye env e request payload sourceAddr).2 = [] := by
  unfold answerBye
  split
  · exact ⟨rfl, rfl, rfl⟩
  · split <;> exact ⟨rfl, rfl, rfl⟩

theorem handleInboundBye_moves {env : Env} {e : Engine} {request : SipParsedRequest} {payload : Str}
    {sourceAddr : SocketAddr} (hreq : isRequest "BYE" payload request) :
    PayloadMoves e payload (handleInboundBye env e request payload sourceAddr).1.calls
      (spawns (handleInboundBye env e request payload sourceAddr).2)
      (stops (handleInboundBye env e request payload sourceAddr).2) := by
  unfold handleInboundBye
  split
  · rename_i cached hcached
    exact .byeCached hreq hcached
  · obtain ⟨hcalls, hspawns, hstops⟩ :=
      answerBye_calls env (e.fetchAdd .sipByeRequestsTotal) request payload sourceAddr
    rw [Engine.calls_fetchAdd] at hcalls
    split
    · rename_i hdialog
      rw [hcalls, hspawns, hstops]
      exact .byeUnknown hreq hdialog
    · rename_i dialog hdialog
      rw [Engine.calls_teardown, hcalls, spawns_append, stops_append, hspawns, hstops]
      exact .byeDialog hreq hdialog

theorem handleInboundCancel_moves {env : Env} {e : Engine} {request : SipParsedRequest}
    {payload : Str} {sourceAddr : SocketAddr} (hreq : isRequest "CANCEL" payload request) :
    PayloadMoves e payload (handleInboundCancel env e request payload sourceAddr).1.calls
      (spawns (handleInboundCancel env e request payload sourceAddr).2)
      (stops (handleInboundCancel env e request payload sourceAddr).2) := by
  unfold handleInboundCancel
  split
  · rename_i hpending
    simpa using PayloadMoves.cancelUnknown hreq hpending
  · rename_i pending hpending
    simpa using PayloadMoves.cancelPending hreq hpending

theorem handleInboundRequest_moves (config : AppConfig) (env : Env) (e : Engine)
    (sourceAddr : SocketAddr) {request : SipParsedRequest} {payload : Str}
    (hparse : parseSipRequest payload = some request) :
    PayloadMoves e payload (handleInboundRequest config env e request payload sourceAddr).1.calls
      (spawns (handleInboundRequest config env e request payload sourceAddr).2)
      (stops (handleInboundRequest config env e request payload sourceAddr).2) := by
  unfold handleInboundRequest
  split
  · rename_i hm
    exact handleInboundInvite_moves ⟨hparse, hm⟩
  · split
    · rename_i hm
      exact handleInboundBye_moves ⟨hparse, hm⟩
    · rename_i hbye
      split
      · rename_i hm
        exact handleInboundCancel_moves ⟨hparse, hm⟩
      · rename_i hcancel
        refine .ignored fun r => ⟨fun hr => ?_, fun hr => ?_⟩
        · obtain rfl := Option.some.inj (hparse.symm.trans hr.1)
          exact hbye hr.2
        · obtain rfl := Option.some.inj (hparse.symm.trans hr.1)
          exact hcancel hr.2

theorem acknowledge_calls {config : AppConfig} {env : Env} {e e' : Engine} {callId payload : Str}
    {sourceAddr : SocketAddr} {transaction : OutboundInviteTransaction} {out : List Output}
    (h : acknowledge config env e callId payload sourceAddr transaction = .ok (e', out)) :
    e'.calls = e.calls ∧ spawns out = [] ∧ stops out = [] := by
  unfold acknowledge at h
  obtain ⟨ack, -, hr⟩ := Fallible.bind_eq_ok.mp h
  cases ack with
  | none =>
    cases hr
    exact ⟨rfl, rfl, rfl⟩
  | some ack =>
    simp only at hr
    split at hr
    · cases hr
      exact ⟨rfl, rfl, rfl⟩
    · split at hr <;> cases hr <;> exact ⟨rfl, rfl, rfl⟩

theorem handleSipResponse_calls {config : AppConfig} {env : Env} {e e' : Engine} {code : Nat}
    {payload : Str} {sourceAddr : SocketAddr} {out : List Output}
    (h : handleSipResponse config env e code payload sourceAddr = .ok (e', out)) :
    e'.calls = e.calls ∧ spawns out = [] ∧ stops out = [] := by
  unfold handleSipResponse at h
  split at h
  · split at h
    · split at h
      · cases h
        exact ⟨rfl, rfl, rfl⟩
      · obtain ⟨⟨acked, sent⟩, hack, hr⟩ := Fallible.bind_eq_ok.mp h
        have hcalls := acknowledge_calls hack
        simp only at hr
        split at hr <;> cases hr <;> exact hcalls
    · cases h
      exact ⟨rfl, rfl, rfl⟩
  · cases h
    exact ⟨rfl, rfl, rfl⟩

theorem handlePayload_moves {config : AppConfig} {env : Env} {e e' : Engine} {payload : Str}
    {sourceAddr : SocketAddr} {out : List Output}
    (h : handlePayload config env e payload sourceAddr = .ok (e', out)) :
    PayloadMoves e payload e'.calls (spawns out) (stops out) := by
  unfold handlePayload at h
  split at h
  · rename_i request hparse
    have hmoves := handleInboundRequest_moves config env e sourceAddr hparse
    rwa [Except.ok.inj h] at hmoves
  · rename_i hparse _
    cases h
    exact .ignored (not_isRequest_of_none hparse)
  · rename_i code hparse _
    have hignored : PayloadMoves e payload e.calls [] [] :=
      .ignored (not_isRequest_of_none hparse)
    obtain ⟨⟨handled, sent⟩, hhandle, hr⟩ := Fallible.bind_eq_ok.mp h
    obtain ⟨hcalls, hspawns, hstops⟩ := handleSipResponse_calls hhandle
    cases hr
    split <;> simpa [hcalls, hspawns, hstops] using hignored

/-- The inversion of one turn: everything it can do to the calls. -/
theorem Engine.handle_moves {config : AppConfig} {env : Env} {e e' : Engine} {event : EngineEvent}
    {out : List Output} (h : e.handle config env event = .ok (e', out)) :
    Moves e event e'.calls (spawns out) (stops out) := by
  cases event with
  | command request =>
    have hmoves := handleOutboundInvite_moves env e request
    rwa [Except.ok.inj h] at hmoves
  | backendEndRequested callId =>
    have hmoves := handleBackendEnd_moves env e callId
    rwa [Except.ok.inj h] at hmoves
  | inboundSetupResult callId result => exact handleInboundSetupResult_moves h
  | datagram payload sourceAddr =>
    obtain ⟨⟨handled, sent⟩, hhandle, hr⟩ := Fallible.bind_eq_ok.mp h
    cases hr
    exact .payload env.sweepAt (handlePayload_moves hhandle)

end DemoService.Sip
