import DemoService.AssocMap
import DemoService.SipMessage
import Mathlib.Data.Finset.Basic

/-! The SIP engine task: its tables and what it does with one event. The
outcomes of its sends, its random ids, the resolver and the clock are inputs of
each step; its sends and the bridges it starts and stops are outputs. -/

namespace DemoService.Sip

open AssocMap RustText NetAddr

structure AppConfig where
  localSipAdvertiseHost : Str
  rtpStartPort : Nat
  rtpEndPort : Nat
  sipRingingEnabled : Bool

/-- The `AtomicU64` counters of `Metrics` that the engine touches. -/
inductive Counter
  | sipInvitesSentTotal
  | sipResponsesTotal
  | sip200OkTotal
  | sipByeRequestsTotal
  | sipBye200SentTotal
  | sipAckSentTotal
  | sipAckResendTotal
  | sipDialogTeardownCleanTotal
  | udpSendErrorsTotal
  | inboundInvitesTotal
  | inboundInvitesRejectedTotal
  | inboundCallsActive
  deriving DecidableEq

abbrev Metrics := Counter → UInt64

structure BoundedRtpPortPool where
  start : Nat
  stop : Nat
  inUse : Finset Nat

namespace BoundedRtpPortPool

def allocate (pool : BoundedRtpPortPool) : Option (Nat × BoundedRtpPortPool) :=
  ((List.range' pool.start (pool.stop + 1 - pool.start)).find? (· ∉ pool.inUse)).map
    (fun port => (port, { pool with inUse := insert port pool.inUse }))

def release (pool : BoundedRtpPortPool) (port : Nat) : BoundedRtpPortPool :=
  { pool with inUse := pool.inUse.erase port }

theorem allocate_eq_some {pool pool' : BoundedRtpPortPool} {port : Nat}
    (h : pool.allocate = some (port, pool')) :
    port ∉ pool.inUse ∧ pool' = { pool with inUse := insert port pool.inUse } := by
  obtain ⟨p, hp, he⟩ := Option.map_eq_some_iff.mp h
  obtain ⟨rfl, rfl⟩ := Prod.mk.inj he
  exact ⟨by simpa using List.find?_some hp, rfl⟩

/-- Releasing the port just allocated gives the pool back as it was. -/
theorem release_allocated {pool pool' : BoundedRtpPortPool} {port : Nat}
    (h : pool.allocate = some (port, pool')) : pool'.release port = pool := by
  obtain ⟨hfree, rfl⟩ := allocate_eq_some h
  simp [release, Finset.erase_insert hfree]

end BoundedRtpPortPool

structure OutboundInviteTransaction where
  invite : SipInvite
  createdAt : Nat
  ackSentOnce : Bool

/-- What a spawned setup task is given. `task` numbers the spawns; nothing reads it. -/
structure InboundBridgeParams where
  callId : Str
  localTag : Str
  localRtpPort : Nat
  remoteMediaAddr : SocketAddr
  task : Nat
  deriving DecidableEq

/-- A running bridge; `task` is the setup task that made it. -/
structure InboundBridgeHandle where
  callId : Str
  localRtpPort : Nat
  localTag : Str
  remoteMediaAddr : SocketAddr
  task : Nat
  deriving DecidableEq

/-- The handle `start_inbound_bridge` returns when the backend answers. -/
def startInboundBridge (params : InboundBridgeParams) : InboundBridgeHandle :=
  { callId := params.callId, localRtpPort := params.localRtpPort, localTag := params.localTag,
    remoteMediaAddr := params.remoteMediaAddr, task := params.task }

structure InboundDialog where
  localRtpPort : Nat
  signaling : InboundDialogSignaling
  remoteTargetAddr : SocketAddr
  inviteOkPayload : Str
  inviteResponseTarget : SocketAddr
  bridge : InboundBridgeHandle

structure PendingInboundInvite where
  request : SipParsedRequest
  sourceAddr : SocketAddr
  localTag : Str
  localRtpPort : Nat
  createdAt : Nat
  task : Nat

structure CachedSipResponse where
  payload : Str
  destination : SocketAddr
  createdAt : Nat

structure Engine where
  outboundInvites : Map Str OutboundInviteTransaction
  pendingInbound : Map Str PendingInboundInvite
  inboundDialogs : Map Str InboundDialog
  recentByeResponses : Map Str CachedSipResponse
  rtpPortPool : BoundedRtpPortPool
  metrics : Metrics
  /-- How many setup tasks have been spawned. -/
  spawned : Nat

def Engine.new (config : AppConfig) : Engine where
  outboundInvites := ∅
  pendingInbound := ∅
  inboundDialogs := ∅
  recentByeResponses := ∅
  rtpPortPool := ⟨config.rtpStartPort, config.rtpEndPort, ∅⟩
  metrics := fun _ => 0
  spawned := 0

def Engine.fetchAdd (e : Engine) (c : Counter) : Engine :=
  { e with metrics := Function.update e.metrics c (e.metrics c + 1) }

def Engine.fetchSub (e : Engine) (c : Counter) : Engine :=
  { e with metrics := Function.update e.metrics c (e.metrics c - 1) }

/-- Counts a failed send. -/
def Engine.countSend (e : Engine) (delivered : Bool) : Engine :=
  if delivered then e else e.fetchAdd .udpSendErrorsTotal

/-- The places where the engine sends a datagram. -/
inductive SendSite
  | outboundInvite
  | byeToPeer
  | inviteOk
  | inviteRejected
  | resentOk
  | missingCallId
  | trying
  | ringing
  | poolExhausted
  | notAcceptable
  | cachedBye
  | byeOk
  | cancelOk
  | terminated
  | ack
  deriving DecidableEq

/-- The places where the engine draws a random id. -/
inductive UuidSite
  | callId
  | branch
  | fromTag
  | localTag
  | exhaustedTag
  deriving DecidableEq

/-- What one step reads from its environment. -/
structure Env where
  delivered : SendSite → Bool
  uuid : UuidSite → Str
  resolve : Resolver
  now : Nat
  sweepAt : Nat

inductive Output
  | send (payload : Str) (destination : SocketAddr) (delivered : Bool)
  | sendToHost (payload target : Str)
  | spawnSetup (params : InboundBridgeParams)
  | stopBridge (bridge : InboundBridgeHandle)
  deriving DecidableEq

inductive EngineEvent
  | command (request : SipInviteRequest)
  | backendEndRequested (callId : Str)
  | inboundSetupResult (callId : Str) (result : Except Str InboundBridgeHandle)
  | datagram (payload : Str) (sourceAddr : SocketAddr)

def missingCallId : Str := "<missing-call-id>".toList

def callIdOf (request : SipParsedRequest) : Str :=
  (request.headers.get "call-id".toList).getD missingCallId

/-- Sends a response if it could be built. -/
def Env.reply (env : Env) (site : SendSite) (response : Option Str) (destination : SocketAddr) :
    List Output :=
  response.toList.map (fun payload => .send payload destination (env.delivered site))

def ensureTag (value tag : Str) : Str := withTag value (some tag)

def handleOutboundInvite (env : Env) (e : Engine) (request : SipInviteRequest) :
    Engine × List Output :=
  let invite := buildSipInvite (env.uuid .callId) (env.uuid .branch) (env.uuid .fromTag) request
  if env.delivered .outboundInvite then
    ({ e.fetchAdd .sipInvitesSentTotal with
        outboundInvites := e.outboundInvites.insert invite.callId ⟨invite, env.now, false⟩ },
      [.sendToHost invite.payload invite.targetAddr])
  else (e, [])

/-- Removes an established dialog and releases its port. -/
def Engine.teardown (e : Engine) (callId : Str) (dialog : InboundDialog) : Engine :=
  { (e.fetchSub .inboundCallsActive).fetchAdd .sipDialogTeardownCleanTotal with
    inboundDialogs := e.inboundDialogs.erase callId
    rtpPortPool := e.rtpPortPool.release dialog.localRtpPort }

/-- Removes a pending INVITE and releases its port. -/
def Engine.refuse (e : Engine) (callId : Str) (pending : PendingInboundInvite) : Engine :=
  { e with
    pendingInbound := e.pendingInbound.erase callId
    rtpPortPool := e.rtpPortPool.release pending.localRtpPort }

def handleBackendEnd (env : Env) (e : Engine) (callId : Str) : Engine × List Output :=
  match e.inboundDialogs.lookup callId with
  | none => (e, [])
  | some dialog =>
    (e.teardown callId dialog,
      [.send (buildByeRequest (env.uuid .branch) dialog.signaling) dialog.remoteTargetAddr
        (env.delivered .byeToPeer), .stopBridge dialog.bridge])

/-- The dialog of an accepted call; its Contact is parsed after the 200 OK went out. -/
def acceptedDialog (config : AppConfig) (env : Env) (callId : Str) (pending : PendingInboundInvite)
    (bridge : InboundBridgeHandle) (okResponse : Str) : Except Panic InboundDialog := do
  let headers := pending.request.headers
  let uri ← andThenContact headers extractUriFromNameAddr
  let target ← andThenContact headers
    (fun contact => parseSipTargetFromContact env.resolve contact pending.sourceAddr.port)
  pure {
    localRtpPort := pending.localRtpPort
    signaling :=
      { callId
        localFrom :=
          match headers.get "to".toList with
          | some value => ensureTag value pending.localTag
          | none => "<sip:unknown@".toList ++ config.localSipAdvertiseHost ++ ">;tag=".toList ++
              pending.localTag
        remoteTo := (headers.get "from".toList).getD "<sip:unknown@unknown>;tag=remote".toList
        remoteRequestUri := uri.getD pending.request.requestUri
        localHost := config.localSipAdvertiseHost
        localCseq := 1 }
    remoteTargetAddr := target.getD pending.sourceAddr
    inviteOkPayload := okResponse
    inviteResponseTarget := pending.sourceAddr
    bridge }

/-- A ready bridge whose INVITE is still pending. -/
def acceptInvite (config : AppConfig) (env : Env) (e : Engine) (callId : Str)
    (pending : PendingInboundInvite) (bridge : InboundBridgeHandle) :
    Except Panic (Engine × List Output) :=
  match buildSip200OkForInvite pending.request pending.localTag config.localSipAdvertiseHost
      pending.localRtpPort with
  | none =>
    pure ((e.refuse callId pending).fetchAdd .inboundInvitesRejectedTotal, [.stopBridge bridge])
  | some okResponse =>
    if env.delivered .inviteOk then do
      let dialog ← acceptedDialog config env callId pending bridge okResponse
      pure ({ e.fetchAdd .inboundCallsActive with
          pendingInbound := e.pendingInbound.erase callId
          inboundDialogs := e.inboundDialogs.insert callId dialog },
        [.send okResponse pending.sourceAddr true])
    else
      pure ((e.refuse callId pending).fetchAdd .udpSendErrorsTotal,
        [.send okResponse pending.sourceAddr false, .stopBridge bridge])

/-- A failed setup whose INVITE is still pending. -/
def rejectInvite (env : Env) (e : Engine) (callId : Str) (pending : PendingInboundInvite) :
    Engine × List Output :=
  let response := buildSipFinalResponseForInvite pending.request 503
    "Service Unavailable".toList pending.localTag
  let counted := (e.refuse callId pending).fetchAdd .inboundInvitesRejectedTotal
  (counted.countSend (response.isNone || env.delivered .inviteRejected),
    env.reply .inviteRejected response pending.sourceAddr)

def handleInboundSetupResult (config : AppConfig) (env : Env) (e : Engine) (callId : Str)
    (result : Except Str InboundBridgeHandle) : Except Panic (Engine × List Output) :=
  match e.pendingInbound.lookup callId, result with
  | none, .ok bridge =>
    pure ({ e with rtpPortPool := e.rtpPortPool.release bridge.localRtpPort },
      [.stopBridge bridge])
  | none, .error _ => pure (e, [])
  | some pending, .ok bridge => acceptInvite config env e callId pending bridge
  | some pending, .error _ => pure (rejectInvite env e callId pending)

def provisionalResponses (config : AppConfig) (env : Env) (request : SipParsedRequest)
    (sourceAddr : SocketAddr) : List Output :=
  env.reply .trying (buildSipTryingForInvite request) sourceAddr ++
    if config.sipRingingEnabled then
      env.reply .ringing (buildSipRingingForInvite request (env.uuid .localTag)) sourceAddr
    else []

/-- A new INVITE: takes a port and the caller's media address, and spawns the setup. -/
def admitInvite (env : Env) (e : Engine) (request : SipParsedRequest) (rawPayload : Str)
    (sourceAddr : SocketAddr) : Engine × List Output :=
  let callId := callIdOf request
  let localTag := env.uuid .localTag
  match e.rtpPortPool.allocate with
  | none =>
    (e.fetchAdd .inboundInvitesRejectedTotal,
      env.reply .poolExhausted
        (buildSipFinalResponseForInvite request 503 "Service Unavailable".toList
          (env.uuid .exhaustedTag)) sourceAddr)
  | some (localRtpPort, pool) =>
    match extractMediaAddrFromSdp rawPayload sourceAddr.ip with
    | none =>
      ({ e.fetchAdd .inboundInvitesRejectedTotal with rtpPortPool := pool.release localRtpPort },
        env.reply .notAcceptable
          (buildSipFinalResponseForInvite request 488 "Not Acceptable Here".toList localTag)
          sourceAddr)
    | some remoteMediaAddr =>
      ({ e with
          rtpPortPool := pool
          pendingInbound := e.pendingInbound.insert callId
            { request, sourceAddr, localTag, localRtpPort, createdAt := env.now, task := e.spawned }
          spawned := e.spawned + 1 },
        [.spawnSetup { callId, localTag, localRtpPort, remoteMediaAddr, task := e.spawned }])

def handleInboundInvite (config : AppConfig) (env : Env) (e : Engine) (request : SipParsedRequest)
    (rawPayload : Str) (sourceAddr : SocketAddr) : Engine × List Output :=
  let counted := e.fetchAdd .inboundInvitesTotal
  match e.inboundDialogs.lookup (callIdOf request), e.pendingInbound.lookup (callIdOf request) with
  | some dialog, _ =>
    (counted.countSend (env.delivered .resentOk),
      [.send dialog.inviteOkPayload dialog.inviteResponseTarget (env.delivered .resentOk)])
  | none, some _ => (counted, [])
  | none, none =>
    if callIdOf request = missingCallId then
      (counted, env.reply .missingCallId
        (buildResponseForInDialogRequest rawPayload 400 "Bad Request".toList) sourceAddr)
    else
      let (admitted, out) := admitInvite env counted request rawPayload sourceAddr
      (admitted, provisionalResponses config env request sourceAddr ++ out)

/-- The cache key of a BYE: its Call-ID and CSeq. -/
def byeCacheKey (request : SipParsedRequest) : Str :=
  callIdOf request ++ ['|'] ++ (request.headers.get "cseq".toList).getD "0 BYE".toList

/-- Answers a BYE that is not in the cache, and caches the answer if it was sent. -/
def answerBye (env : Env) (e : Engine) (request : SipParsedRequest) (rawPayload : Str)
    (sourceAddr : SocketAddr) : Engine × List Output :=
  match buildResponseForInDialogRequest rawPayload 200 "OK".toList with
  | none => (e, [])
  | some payload =>
    if env.delivered .byeOk then
      ({ e.fetchAdd .sipBye200SentTotal with
          recentByeResponses := e.recentByeResponses.insert (byeCacheKey request)
            ⟨payload, sourceAddr, env.now⟩ },
        [.send payload sourceAddr true])
    else (e.fetchAdd .udpSendErrorsTotal, [.send payload sourceAddr false])

def handleInboundBye (env : Env) (e : Engine) (request : SipParsedRequest) (rawPayload : Str)
    (sourceAddr : SocketAddr) : Engine × List Output :=
  let counted := e.fetchAdd .sipByeRequestsTotal
  match e.recentByeResponses.lookup (byeCacheKey request) with
  | some cached => (counted, [.send cached.payload cached.destination (env.delivered .cachedBye)])
  | none =>
    let (answered, sent) := answerBye env counted request rawPayload sourceAddr
    match e.inboundDialogs.lookup (callIdOf request) with
    | none => (answered, sent)
    | some dialog =>
      (answered.teardown (callIdOf request) dialog, sent ++ [.stopBridge dialog.bridge])

def handleInboundCancel (env : Env) (e : Engine) (request : SipParsedRequest) (rawPayload : Str)
    (sourceAddr : SocketAddr) : Engine × List Output :=
  let sent := env.reply .cancelOk
    (buildResponseForInDialogRequest rawPayload 200 "OK".toList) sourceAddr
  match e.pendingInbound.lookup (callIdOf request) with
  | none => (e, sent)
  | some pending =>
    (e.refuse (callIdOf request) pending,
      sent ++ env.reply .terminated
        (buildSipFinalResponseForInvite pending.request 487 "Request Terminated".toList
          pending.localTag) pending.sourceAddr)

def handleInboundRequest (config : AppConfig) (env : Env) (e : Engine) (request : SipParsedRequest)
    (rawPayload : Str) (sourceAddr : SocketAddr) : Engine × List Output :=
  if request.method = "INVITE".toList then
    handleInboundInvite config env e request rawPayload sourceAddr
  else if request.method = "BYE".toList then handleInboundBye env e request rawPayload sourceAddr
  else if request.method = "CANCEL".toList then
    handleInboundCancel env e request rawPayload sourceAddr
  else (e, [])

/-- The answer to a response that belongs to an outbound INVITE. -/
def acknowledge (config : AppConfig) (env : Env) (e : Engine) (callId payload : Str)
    (sourceAddr : SocketAddr) (transaction : OutboundInviteTransaction) :
    Except Panic (Engine × List Output) := do
  let ack ← buildAckForFinalResponse env.resolve (env.uuid .branch) payload transaction.invite
    sourceAddr config.localSipAdvertiseHost
  match ack with
  | none => pure (e, [])
  | some ack =>
    let sent := [.send ack.payload ack.targetAddr (env.delivered .ack)]
    if !env.delivered .ack then pure (e.fetchAdd .udpSendErrorsTotal, sent)
    else if transaction.ackSentOnce then pure (e.fetchAdd .sipAckResendTotal, sent)
    else
      pure ({ e.fetchAdd .sipAckSentTotal with
          outboundInvites := e.outboundInvites.insert callId
            { transaction with ackSentOnce := true } }, sent)

def handleSipResponse (config : AppConfig) (env : Env) (e : Engine) (statusCode : Nat)
    (payload : Str) (sourceAddr : SocketAddr) : Except Panic (Engine × List Output) :=
  match sipHeaderValue payload "Call-ID".toList, sipHeaderValue payload "CSeq".toList with
  | some callId, some cseq =>
    if contains "INVITE".toList (toAsciiUppercase cseq) then
      match e.outboundInvites.lookup callId with
      | none => pure (e, [])
      | some transaction => do
        let (acked, sent) ← acknowledge config env e callId payload sourceAddr transaction
        if 300 ≤ statusCode then
          pure ({ acked with outboundInvites := acked.outboundInvites.erase callId }, sent)
        else pure (acked, sent)
    else pure (e, [])
  | _, _ => pure (e, [])

def cleanupStaleState (now : Nat) (e : Engine) : Engine :=
  { e with
    outboundInvites := retain (fun tx => now - tx.createdAt < 300) e.outboundInvites
    pendingInbound := retain (fun invite => now - invite.createdAt < 60) e.pendingInbound
    recentByeResponses := retain (fun cached => now - cached.createdAt < 300) e.recentByeResponses }

/-- What the engine does with a received payload before it sweeps its tables. -/
def handlePayload (config : AppConfig) (env : Env) (e : Engine) (payload : Str)
    (sourceAddr : SocketAddr) : Except Panic (Engine × List Output) :=
  match parseSipRequest payload, parseSipStatusCode payload with
  | some request, _ => pure (handleInboundRequest config env e request payload sourceAddr)
  | none, none => pure (e, [])
  | none, some statusCode => do
    let (handled, sent) ← handleSipResponse config env (e.fetchAdd .sipResponsesTotal) statusCode
      payload sourceAddr
    pure (if statusCode = 200 then handled.fetchAdd .sip200OkTotal else handled, sent)

/-- One turn of the event loop; an error is a panic that ends the task. -/
def Engine.handle (config : AppConfig) (env : Env) (e : Engine) :
    EngineEvent → Except Panic (Engine × List Output)
  | .command request => pure (handleOutboundInvite env e request)
  | .backendEndRequested callId => pure (handleBackendEnd env e callId)
  | .inboundSetupResult callId result => handleInboundSetupResult config env e callId result
  | .datagram payload sourceAddr => do
    let (handled, sent) ← handlePayload config env e payload sourceAddr
    pure (cleanupStaleState env.sweepAt handled, sent)

end DemoService.Sip
