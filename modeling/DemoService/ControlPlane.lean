import DemoService.GuardedRuns
import DemoService.SipEngine

/-! The control plane of the gateway: the session registry, the port pool of outbound
transfers and the request handlers, each as the steps it takes between two locks. -/

namespace DemoService.ControlPlane

open AssocMap RustText NetAddr Sip

inductive CallState
  | normalCall
  | warmTransferActive
  | transferComplete
  deriving DecidableEq, Repr

/-- The sending half of a channel, named by its channel. -/
abbrev Channel := Nat

structure CallSession where
  sessionId : Str
  currentState : CallState
  browserWsTx : Option Channel
  outboundSipRtpTx : Option Channel
  aiEngineTx : Option Channel
  deriving DecidableEq, Repr

def CallSession.new (sessionId : Str) : CallSession :=
  ⟨sessionId, .normalCall, none, none, none⟩

structure SessionRegistry where
  inner : Map Str CallSession
  keyed : ∀ id session, inner.lookup id = some session → session.sessionId = id

namespace SessionRegistry

def empty : SessionRegistry := ⟨∅, by simp⟩

def get (registry : SessionRegistry) (sessionId : Str) : Option CallSession :=
  registry.inner.lookup sessionId

theorem lookup_insert_keyed {inner : Map Str CallSession}
    (keyed : ∀ id session, inner.lookup id = some session → session.sessionId = id)
    (new : CallSession) :
    ∀ id session, (inner.insert new.sessionId new).lookup id = some session →
      session.sessionId = id := by
  intro id session h
  by_cases hid : id = new.sessionId
  · rw [hid, AList.lookup_insert] at h
    rw [hid, Option.some.inj h]
  · rw [AList.lookup_insert_ne hid] at h
    exact keyed id session h

def upsert (registry : SessionRegistry) (session : CallSession) : SessionRegistry :=
  ⟨registry.inner.insert session.sessionId session, lookup_insert_keyed registry.keyed session⟩

/-- `update_state`; the entry is changed in place. -/
def updateState (registry : SessionRegistry) (sessionId : Str) (newState : CallState) :
    Option CallSession × SessionRegistry :=
  match registry.get sessionId with
  | none => (none, registry)
  | some session =>
    let session := { session with currentState := newState }
    (some session, registry.upsert session)

theorem get_upsert (registry : SessionRegistry) (session : CallSession) (id : Str) :
    (registry.upsert session).get id =
      if id = session.sessionId then some session else registry.get id := by
  by_cases hid : id = session.sessionId
  · rw [if_pos hid, hid]
    exact AList.lookup_insert _
  · rw [if_neg hid]
    exact AList.lookup_insert_ne hid

theorem get_updateState (registry : SessionRegistry) (sessionId : Str) (newState : CallState)
    (id : Str) : (registry.updateState sessionId newState).2.get id =
      if id = sessionId then
        (registry.get id).map fun session => { session with currentState := newState }
      else registry.get id := by
  rw [updateState]
  cases hget : registry.get sessionId with
  | none =>
    by_cases hid : id = sessionId
    · simp [hid, hget]
    · simp [hid]
  | some session =>
    have hkey : session.sessionId = sessionId := registry.keyed sessionId session hget
    rw [get_upsert, hkey]
    by_cases hid : id = sessionId
    · simp [hid, hget, hkey]
    · simp [hid]

end SessionRegistry

/-- The pool of `main.rs`, which has the code of the engine's pool. -/
abbrev RtpPortPool := BoundedRtpPortPool

/-- A spawned sender: it receives from its channel and sends from its port. -/
structure RtpSender where
  channel : Channel
  localPort : Nat
  remoteAddr : SocketAddr
  deriving DecidableEq, Repr

/-- What the handlers share. `nextChannel` numbers the channels made so far. -/
structure AppState where
  localSipAdvertiseHost : Str
  defaultTrunkPort : Nat
  sessions : SessionRegistry
  rtpPorts : RtpPortPool
  rtpSenders : List RtpSender
  sentInvites : List SipInviteRequest
  nextChannel : Channel

def AppState.initial (host : Str) (trunkPort rtpStartPort rtpEndPort : Nat) : AppState where
  localSipAdvertiseHost := host
  defaultTrunkPort := trunkPort
  sessions := .empty
  rtpPorts := ⟨rtpStartPort, rtpEndPort, ∅⟩
  rtpSenders := []
  sentInvites := []
  nextChannel := 0

structure StartTransferRequest where
  sessionId : Str
  targetPhone : Str
  twilioNumber : Str
  trunkHost : Str
  trunkPort : Option Nat
  rtpTargetHost : Option Str
  rtpTargetPort : Option Nat
  deriving DecidableEq, Repr

inductive Request
  | createSession (sessionId : Str)
  | updateState (sessionId : Str) (state : CallState)
  | startTransfer (payload : StartTransferRequest)
  | wsStream (sessionId : Str)
  deriving DecidableEq, Repr

inductive Response
  | session (sessionId : Str) (state : CallState)
  | transferStarted (sessionId : Str) (state : CallState) (localRtpPort : Nat)
  | refused (status : Nat) (text : Str)
  deriving DecidableEq, Repr

def isLoopback : IpAddr → Bool
  | .v4 a _ _ _ => a = 127
  | .v6 segments => segments = [0, 0, 0, 0, 0, 0, 0, 1]

def isUnspecified : IpAddr → Bool
  | .v4 a b c d => a = 0 && b = 0 && c = 0 && d = 0
  | .v6 segments => segments = [0, 0, 0, 0, 0, 0, 0, 0]

def isViableAdvertiseHost (host : Str) : Bool :=
  match parseIpAddr host with
  | some ip => !isLoopback ip && !isUnspecified ip
  | none => false

/-- The RTP target of a request: none given, or its text with the address it parses to. -/
def StartTransferRequest.rtpTarget (payload : StartTransferRequest) : Option (Option SocketAddr) :=
  match payload.rtpTargetHost, payload.rtpTargetPort with
  | some host, some port => some (parseSocketAddr (host ++ ':' :: RustText.ofNat port))
  | _, _ => none

def hostNotViable : Response :=
  .refused 503 "SBC_ADVERTISE_HOST must be a reachable non-loopback IP address for SIP/RTP".toList

def noPortsAvailable : Response :=
  .refused 503 "no RTP ports available in configured pool".toList

def invalidRtpTarget : Response :=
  .refused 400 "invalid RTP target address: invalid socket address syntax".toList

def sipEngineUnavailable : Response :=
  .refused 503 "SIP engine unavailable, try again".toList

def sessionNotFound : Response := .refused 404 "session not found".toList

/-- Where a handler stands: what it does next is one critical section. -/
inductive Task
  | creating (sessionId : Str)
  | updating (sessionId : Str) (state : CallState)
  | allocating (payload : StartTransferRequest)
  | loading (payload : StartTransferRequest) (rtpPort : Nat)
  | publishing (payload : StartTransferRequest) (rtpPort : Nat) (session : CallSession)
  | sending (payload : StartTransferRequest) (rtpPort : Nat)
  | connecting (sessionId : Str)
  | registering (session : CallSession)
  | streaming (sessionId : Str)
  | answered (response : Response)
  deriving DecidableEq, Repr

def Task.start : Request → Task
  | .createSession sessionId => .creating sessionId
  | .updateState sessionId state => .updating sessionId state
  | .startTransfer payload => .allocating payload
  | .wsStream sessionId => .connecting sessionId

def createSession (app : AppState) (sessionId : Str) : AppState × Task :=
  let session := CallSession.new sessionId
  ({ app with sessions := app.sessions.upsert session },
    .answered (.session session.sessionId session.currentState))

def updateState (app : AppState) (sessionId : Str) (state : CallState) : AppState × Task :=
  let updated := app.sessions.updateState sessionId state
  ({ app with sessions := updated.2 },
    .answered (match updated.1 with
      | some session => .session session.sessionId session.currentState
      | none => sessionNotFound))

/-- `start_transfer` up to the port. -/
def allocatePort (app : AppState) (payload : StartTransferRequest) : AppState × Task :=
  if isViableAdvertiseHost app.localSipAdvertiseHost then
    match app.rtpPorts.allocate with
    | some (port, pool) => ({ app with rtpPorts := pool }, .loading payload port)
    | none => (app, .answered noPortsAvailable)
  else (app, .answered hostNotViable)

/-- `get(..).await.unwrap_or_else(|| CallSession::new(..))`. -/
def loadSession (app : AppState) (sessionId : Str) : CallSession :=
  (app.sessions.get sessionId).getD (CallSession.new sessionId)

theorem loadSession_sessionId (app : AppState) (id : Str) : (loadSession app id).sessionId = id := by
  rw [loadSession]
  cases hget : app.sessions.get id with
  | none => rfl
  | some session => exact app.sessions.keyed id session hget

def CallSession.withTransfer (session : CallSession) (tx : Option Channel) : CallSession :=
  { session with
    currentState := .warmTransferActive
    outboundSipRtpTx := tx.or session.outboundSipRtpTx }

/-- `start_transfer` from the session to its upsert, or to the release after a bad target. -/
def publishTransfer (app : AppState) (payload : StartTransferRequest) (rtpPort : Nat)
    (session : CallSession) : AppState × Task :=
  match payload.rtpTarget with
  | some none =>
    ({ app with rtpPorts := app.rtpPorts.release rtpPort }, .answered invalidRtpTarget)
  | some (some remoteAddr) =>
    ({ app with
        sessions := app.sessions.upsert (session.withTransfer (some app.nextChannel))
        rtpSenders := app.rtpSenders ++ [⟨app.nextChannel, rtpPort, remoteAddr⟩]
        nextChannel := app.nextChannel + 1 },
      .sending payload rtpPort)
  | none =>
    ({ app with sessions := app.sessions.upsert (session.withTransfer none) },
      .sending payload rtpPort)

def inviteRequest (app : AppState) (payload : StartTransferRequest) (rtpPort : Nat) :
    SipInviteRequest where
  sessionId := payload.sessionId
  targetPhone := payload.targetPhone
  twilioNumber := payload.twilioNumber
  trunkHost := payload.trunkHost
  trunkPort := payload.trunkPort.getD app.defaultTrunkPort
  localHost := app.localSipAdvertiseHost
  localRtpPort := rtpPort

/-- `start_transfer` at the engine's channel, which is closed once the engine has stopped. -/
def sendInvite (engineUp : Bool) (app : AppState) (payload : StartTransferRequest) (rtpPort : Nat) :
    AppState × Task :=
  if engineUp then
    ({ app with sentInvites := app.sentInvites ++ [inviteRequest app payload rtpPort] },
      .answered (.transferStarted payload.sessionId .warmTransferActive rtpPort))
  else
    ({ app with rtpPorts := app.rtpPorts.release rtpPort }, .answered sipEngineUnavailable)

/-- The next critical section of a handler. An open stream only reads the registry. -/
def Task.proceed (engineUp : Bool) (app : AppState) : Task → Option (AppState × Task)
  | .creating sessionId => some (createSession app sessionId)
  | .updating sessionId state => some (updateState app sessionId state)
  | .allocating payload => some (allocatePort app payload)
  | .loading payload rtpPort =>
    some (app, .publishing payload rtpPort (loadSession app payload.sessionId))
  | .publishing payload rtpPort session => some (publishTransfer app payload rtpPort session)
  | .sending payload rtpPort => some (sendInvite engineUp app payload rtpPort)
  | .connecting sessionId => some (app, .registering (loadSession app sessionId))
  | .registering session =>
    some ({ app with sessions := app.sessions.upsert session }, .streaming session.sessionId)
  | .streaming _ => none
  | .answered _ => none

/-- What a handler does to the entry of its session. -/
inductive SessionOp
  | create
  | setState (state : CallState)
  | transfer (tx : Option Channel)
  | connect
  deriving DecidableEq, Repr

def SessionOp.apply (sessionId : Str) : SessionOp → Option CallSession → Option CallSession
  | .create, _ => some (CallSession.new sessionId)
  | .setState state, entry => entry.map fun session => { session with currentState := state }
  | .transfer tx, entry => some ((entry.getD (CallSession.new sessionId)).withTransfer tx)
  | .connect, entry => some (entry.getD (CallSession.new sessionId))

/-- The write that a handler does next: the session id and the operation. -/
def Task.write (app : AppState) : Task → Option (Str × SessionOp)
  | .creating sessionId => some (sessionId, .create)
  | .updating sessionId state => some (sessionId, .setState state)
  | .publishing payload _ session =>
    match payload.rtpTarget with
    | some none => none
    | some (some _) => some (session.sessionId, .transfer (some app.nextChannel))
    | none => some (session.sessionId, .transfer none)
  | .registering session => some (session.sessionId, .connect)
  | _ => none

structure Write where
  handler : Nat
  sessionId : Str
  op : SessionOp
  deriving DecidableEq, Repr

/-- The handlers by their arrival. `writes` is a history that nothing reads. -/
structure System where
  app : AppState
  handlers : List Task
  writes : List Write

inductive Event
  | arrives (request : Request)
  | proceeds (handler : Nat) (engineUp : Bool)
  deriving DecidableEq, Repr

def step (s : System) : Event → Option System
  | .arrives request => some { s with handlers := s.handlers ++ [Task.start request] }
  | .proceeds handler engineUp => do
    let task ← s.handlers[handler]?
    let (app, task') ← task.proceed engineUp s.app
    pure {
      app := app
      handlers := s.handlers.set handler task'
      writes := s.writes ++ ((task.write s.app).map fun w => ⟨handler, w.1, w.2⟩).toList }

def System.fresh (app : AppState) : System := ⟨app, [], []⟩

/-- What one critical section can do, guards included. -/
inductive Proceeds (engineUp : Bool) (app : AppState) : Task → AppState → Task → Prop
  | create (sessionId : Str) :
    Proceeds engineUp app (.creating sessionId)
      { app with sessions := app.sessions.upsert (.new sessionId) }
      (.answered (.session sessionId .normalCall))
  | update (sessionId : Str) (state : CallState) (session : CallSession) :
    Proceeds engineUp app (.updating sessionId state)
      { app with sessions := (app.sessions.updateState sessionId state).2 }
      (.answered (.session session.sessionId session.currentState))
  | updateMissing (sessionId : Str) (state : CallState) :
    Proceeds engineUp app (.updating sessionId state)
      { app with sessions := (app.sessions.updateState sessionId state).2 }
      (.answered sessionNotFound)
  | refuse (payload : StartTransferRequest) (status : Nat) (text : Str) :
    Proceeds engineUp app (.allocating payload) app (.answered (.refused status text))
  | allocate (payload : StartTransferRequest) (rtpPort : Nat) (pool : RtpPortPool)
      (hport : app.rtpPorts.allocate = some (rtpPort, pool)) :
    Proceeds engineUp app (.allocating payload) { app with rtpPorts := pool }
      (.loading payload rtpPort)
  | load (payload : StartTransferRequest) (rtpPort : Nat) :
    Proceeds engineUp app (.loading payload rtpPort) app
      (.publishing payload rtpPort (loadSession app payload.sessionId))
  | badTarget (payload : StartTransferRequest) (rtpPort : Nat) (session : CallSession)
      (htarget : payload.rtpTarget = some none) :
    Proceeds engineUp app (.publishing payload rtpPort session)
      { app with rtpPorts := app.rtpPorts.release rtpPort } (.answered invalidRtpTarget)
  | publish (payload : StartTransferRequest) (rtpPort : Nat) (session : CallSession)
      (tx : Option Channel) (senders : List RtpSender) (nextChannel : Channel)
      (hwrite : Task.write app (.publishing payload rtpPort session) =
        some (session.sessionId, .transfer tx)) :
    Proceeds engineUp app (.publishing payload rtpPort session)
      { app with
        sessions := app.sessions.upsert (session.withTransfer tx)
        rtpSenders := senders
        nextChannel := nextChannel }
      (.sending payload rtpPort)
  | send (payload : StartTransferRequest) (rtpPort : Nat) (hup : engineUp = true) :
    Proceeds engineUp app (.sending payload rtpPort)
      { app with sentInvites := app.sentInvites ++ [inviteRequest app payload rtpPort] }
      (.answered (.transferStarted payload.sessionId .warmTransferActive rtpPort))
  | sendFails (payload : StartTransferRequest) (rtpPort : Nat) (hdown : engineUp = false) :
    Proceeds engineUp app (.sending payload rtpPort)
      { app with rtpPorts := app.rtpPorts.release rtpPort } (.answered sipEngineUnavailable)
  | connect (sessionId : Str) :
    Proceeds engineUp app (.connecting sessionId) app (.registering (loadSession app sessionId))
  | register (session : CallSession) :
    Proceeds engineUp app (.registering session)
      { app with sessions := app.sessions.upsert session } (.streaming session.sessionId)

theorem proceeds_publishTransfer {engineUp : Bool} {app : AppState}
    {payload : StartTransferRequest} {rtpPort : Nat} {session : CallSession} :
    Proceeds engineUp app (.publishing payload rtpPort session)
      (publishTransfer app payload rtpPort session).1
      (publishTransfer app payload rtpPort session).2 := by
  cases htarget : payload.rtpTarget with
  | none =>
    simp only [publishTransfer, htarget]
    exact .publish payload rtpPort session none _ _ (by simp [Task.write, htarget])
  | some target =>
    cases target with
    | none =>
      simp only [publishTransfer, htarget]
      exact .badTarget payload rtpPort session htarget
    | some remoteAddr =>
      simp only [publishTransfer, htarget]
      exact .publish payload rtpPort session _ _ _ (by simp [Task.write, htarget])

theorem proceeds_allocatePort {engineUp : Bool} {app : AppState} {payload : StartTransferRequest} :
    Proceeds engineUp app (.allocating payload) (allocatePort app payload).1
      (allocatePort app payload).2 := by
  rw [allocatePort]
  by_cases hviable : isViableAdvertiseHost app.localSipAdvertiseHost = true
  · rw [if_pos hviable]
    cases hport : app.rtpPorts.allocate with
    | none => exact .refuse payload _ _
    | some found => exact .allocate payload found.1 found.2 hport
  · rw [if_neg hviable]
    exact .refuse payload _ _

theorem proceeds_of_proceed {engineUp : Bool} {app app' : AppState} {task task' : Task}
    (h : task.proceed engineUp app = some (app', task')) :
    Proceeds engineUp app task app' task' := by
  cases task with
  | creating sessionId =>
    obtain ⟨rfl, rfl⟩ := Prod.mk.inj (Option.some.inj h)
    exact .create sessionId
  | updating sessionId state =>
    obtain ⟨rfl, rfl⟩ := Prod.mk.inj (Option.some.inj h)
    cases (app.sessions.updateState sessionId state).1 with
    | none => exact .updateMissing sessionId state
    | some session => exact .update sessionId state session
  | allocating payload =>
    obtain ⟨rfl, rfl⟩ := Prod.mk.inj (Option.some.inj h)
    exact proceeds_allocatePort
  | loading payload rtpPort =>
    obtain ⟨rfl, rfl⟩ := Prod.mk.inj (Option.some.inj h)
    exact .load payload rtpPort
  | publishing payload rtpPort session =>
    obtain ⟨rfl, rfl⟩ := Prod.mk.inj (Option.some.inj h)
    exact proceeds_publishTransfer
  | sending payload rtpPort =>
    rw [Task.proceed, Option.some.injEq, sendInvite] at h
    cases engineUp with
    | true =>
      obtain ⟨rfl, rfl⟩ := Prod.mk.inj h
      exact .send payload rtpPort rfl
    | false =>
      obtain ⟨rfl, rfl⟩ := Prod.mk.inj h
      exact .sendFails payload rtpPort rfl
  | connecting sessionId =>
    obtain ⟨rfl, rfl⟩ := Prod.mk.inj (Option.some.inj h)
    exact .connect sessionId
  | registering session =>
    obtain ⟨rfl, rfl⟩ := Prod.mk.inj (Option.some.inj h)
    exact .register session
  | streaming sessionId => cases h
  | answered response => cases h

theorem step_proceeds {s t : System} {handler : Nat} {engineUp : Bool}
    (h : step s (.proceeds handler engineUp) = some t) :
    ∃ task app task', s.handlers[handler]? = some task ∧
      Proceeds engineUp s.app task app task' ∧
      t = ⟨app, s.handlers.set handler task',
        s.writes ++ ((task.write s.app).map fun w => ⟨handler, w.1, w.2⟩).toList⟩ := by
  obtain ⟨task, htask, h⟩ := Option.bind_eq_some_iff.mp h
  obtain ⟨⟨app, task'⟩, hproceed, h⟩ := Option.bind_eq_some_iff.mp h
  exact ⟨task, app, task', htask, proceeds_of_proceed hproceed, (Option.some.inj h).symm⟩

section Examples

def quietApp : AppState := .initial "203.0.113.5".toList 5060 10000 10001

def transferRequest (target : Option Str) : StartTransferRequest where
  sessionId := "call-1".toList
  targetPhone := "+1555".toList
  twilioNumber := "+1666".toList
  trunkHost := "198.51.100.7".toList
  trunkPort := none
  rtpTargetHost := target
  rtpTargetPort := some 4000

end Examples

end DemoService.ControlPlane
