import DemoService.SipSystem
import DemoService.TransferPorts
import Mathlib.Data.Finset.Basic

/-! The gateway as a whole: the handlers of the control API and the SIP engine, joined by the
channel of INVITE commands. Each has a port pool of its own over the configured range. -/

namespace DemoService.SbcGateway

open RustText NetAddr Sip GuardedRuns

/-! ### The steps of a pool -/

/-- A pool hands out the free port that was asked of it, or takes some back. -/
inductive PoolStep (inUse : Finset Nat) : Option Nat → Finset Nat → Prop
  | takes (port : Nat) (free : port ∉ inUse) : PoolStep inUse (some port) (insert port inUse)
  | returns {inUse' : Finset Nat} (h : inUse' ⊆ inUse) : PoolStep inUse none inUse'

theorem PoolStep.disjoint_iff {inUse inUse' other : Finset Nat} {taken : Option Nat}
    (h : PoolStep inUse taken inUse') (hdisjoint : Disjoint inUse other) :
    Disjoint inUse' other ↔ ∀ port ∈ taken, port ∉ other := by
  cases h with
  | takes port free =>
    rw [Finset.disjoint_insert_left]
    simp [hdisjoint]
  | returns hsub => exact iff_of_true (hdisjoint.mono_left hsub) (by simp)

/-! ### The engine -/

/-- The port that a received payload takes: that of a new INVITE with a media address. -/
def portForPayload (e : Engine) (payload : Str) (sourceAddr : SocketAddr) : Option Nat :=
  match parseSipRequest payload with
  | none => none
  | some request =>
    if request.method = "INVITE".toList ∧ (e.inboundDialogs.lookup (callIdOf request)).isNone ∧
        (e.pendingInbound.lookup (callIdOf request)).isNone ∧ callIdOf request ≠ missingCallId ∧
        (extractMediaAddrFromSdp payload sourceAddr.ip).isSome then
      e.rtpPortPool.allocate.map Prod.fst
    else none

def portForEvent (e : Engine) : EngineEvent → Option Nat
  | .datagram payload sourceAddr => portForPayload e payload sourceAddr
  | _ => none

theorem admitInvite_poolStep (env : Env) (e : Engine) (request : SipParsedRequest) (payload : Str)
    (sourceAddr : SocketAddr) :
    PoolStep e.rtpPortPool.inUse
      (if (extractMediaAddrFromSdp payload sourceAddr.ip).isSome then
        e.rtpPortPool.allocate.map Prod.fst else none)
      (admitInvite env e request payload sourceAddr).1.rtpPortPool.inUse := by
  rw [admitInvite]
  cases halloc : e.rtpPortPool.allocate with
  | none =>
    rw [Option.map_none, ite_self]
    exact .returns subset_rfl
  | some found =>
    obtain ⟨port, pool⟩ := found
    cases hmedia : extractMediaAddrFromSdp payload sourceAddr.ip with
    | none =>
      have hback : (pool.release port).inUse = e.rtpPortPool.inUse :=
        congrArg _ (BoundedRtpPortPool.release_allocated halloc)
      exact .returns hback.subset
    | some mediaAddr =>
      obtain ⟨hfree, rfl⟩ := BoundedRtpPortPool.allocate_eq_some halloc
      exact .takes port hfree

theorem handleInboundInvite_poolStep (config : AppConfig) (env : Env) (e : Engine)
    (sourceAddr : SocketAddr) {request : SipParsedRequest} {payload : Str}
    (hreq : isRequest "INVITE" payload request) :
    PoolStep e.rtpPortPool.inUse (portForPayload e payload sourceAddr)
      (handleInboundInvite config env e request payload sourceAddr).1.rtpPortPool.inUse := by
  simp only [portForPayload, hreq.1, hreq.2, true_and, handleInboundInvite]
  cases hdialog : e.inboundDialogs.lookup (callIdOf request) with
  | some dialog =>
    simp only [Option.isNone_some, Bool.false_eq_true, false_and, if_false]
    cases env.delivered .resentOk <;> exact .returns subset_rfl
  | none =>
    cases hpending : e.pendingInbound.lookup (callIdOf request) with
    | some pending =>
      simp only [Option.isNone_some, Bool.false_eq_true, false_and, and_false, if_false]
      exact .returns subset_rfl
    | none =>
      by_cases hmissing : callIdOf request = missingCallId
      · simp only [hmissing, ne_eq, not_true_eq_false, false_and, and_false, if_false, if_true]
        exact .returns subset_rfl
      · simp only [hmissing, Option.isNone_none, ne_eq, not_false_eq_true, true_and, if_false]
        exact admitInvite_poolStep env (e.fetchAdd .inboundInvitesTotal) request payload sourceAddr

/-- Without an INVITE, a payload takes no port. -/
theorem PayloadMoves.returns {e : Engine} {payload : Str} {t : CallTables}
    {sp : List InboundBridgeParams} {st : List InboundBridgeHandle}
    (h : PayloadMoves e payload t sp st) (hno : ∀ request, ¬ isRequest "INVITE" payload request) :
    t.pool.inUse ⊆ e.rtpPortPool.inUse := by
  cases h with
  | admitted hreq => exact absurd hreq (hno _)
  | ignored _ | byeCached _ _ | byeUnknown _ _ | cancelUnknown _ _ => exact subset_rfl
  | byeDialog _ _ | cancelPending _ _ => exact Finset.erase_subset _ _

/-- What an event that is no payload does to the calls gives ports back at most. -/
theorem Moves.returns {e : Engine} {event : EngineEvent} {t : CallTables}
    {sp : List InboundBridgeParams} {st : List InboundBridgeHandle} (h : Moves e event t sp st)
    (hno : ∀ payload sourceAddr, event = .datagram payload sourceAddr →
      ∀ request, ¬ isRequest "INVITE" payload request) :
    t.pool.inUse ⊆ e.rtpPortPool.inUse := by
  cases h with
  | command _ | endUnknown _ | orphanFailed _ _ | accepted _ _ => exact subset_rfl
  | endDialog _ | orphanReady _ _ | failed _ _ | unanswered _ _ => exact Finset.erase_subset _ _
  | payload now h =>
    have hreturns := PayloadMoves.returns h (hno _ _ rfl)
    exact hreturns

theorem handle_poolStep {config : AppConfig} {env : Env} {e e' : Engine} {event : EngineEvent}
    {out : List Output} (h : e.handle config env event = .ok (e', out)) :
    PoolStep e.rtpPortPool.inUse (portForEvent e event) e'.rtpPortPool.inUse := by
  have hmoves := Engine.handle_moves h
  cases event with
  | command request => exact .returns (Moves.returns hmoves nofun)
  | backendEndRequested callId => exact .returns (Moves.returns hmoves nofun)
  | inboundSetupResult callId result => exact .returns (Moves.returns hmoves nofun)
  | datagram payload sourceAddr =>
    by_cases hinvite : ∃ request, isRequest "INVITE" payload request
    · obtain ⟨request, hreq⟩ := hinvite
      obtain ⟨⟨handled, sent⟩, hhandle, h⟩ := Fallible.bind_eq_ok.mp h
      obtain ⟨rfl, rfl⟩ := Prod.mk.inj (Fallible.pure_eq_ok.mp h)
      simp only [handlePayload, hreq.1, handleInboundRequest, hreq.2, if_true] at hhandle
      have hpool := handleInboundInvite_poolStep config env e sourceAddr hreq
      rw [Fallible.pure_eq_ok.mp hhandle] at hpool
      exact hpool
    · have hnone : portForPayload e payload sourceAddr = none := by
        rw [portForPayload]
        cases hparse : parseSipRequest payload with
        | none => rfl
        | some request => exact if_neg fun hcond => hinvite ⟨request, hparse, hcond.1⟩
      rw [portForEvent, hnone]
      refine .returns (Moves.returns hmoves fun payload' sourceAddr' hevent request hreq => ?_)
      cases hevent
      exact hinvite ⟨request, hreq⟩

def portForAction (s : Sip.System) (action : Sip.Action) : Option Nat :=
  (s.event? action).bind fun event => portForEvent s.engine event.2

theorem engine_poolStep {config : AppConfig} {s t : Sip.System} {action : Sip.Action}
    (h : s.step config action = some t) :
    PoolStep s.engine.rtpPortPool.inUse (portForAction s action) t.engine.rtpPortPool.inUse := by
  rcases step_engine h with ⟨env, event, hevent, hhandle⟩ | ⟨hevent, hsame⟩
  · rw [portForAction, hevent]
    exact handle_poolStep hhandle
  · rw [portForAction, hevent, hsame]
    exact .returns subset_rfl

/-! ### The control API -/

/-- The port that a handler's next critical section takes. -/
def portForTask (app : ControlPlane.AppState) : ControlPlane.Task → Option Nat
  | .allocating _ =>
    if ControlPlane.isViableAdvertiseHost app.localSipAdvertiseHost then
      app.rtpPorts.allocate.map Prod.fst
    else none
  | _ => none

def portForRequest (s : ControlPlane.System) : ControlPlane.Event → Option Nat
  | .arrives _ => none
  | .proceeds handler _ => s.handlers[handler]?.bind (portForTask s.app)

theorem proceeds_returns {engineUp : Bool} {app app' : ControlPlane.AppState}
    {task task' : ControlPlane.Task} (h : ControlPlane.Proceeds engineUp app task app' task')
    (hno : ∀ payload, task ≠ .allocating payload) :
    app'.rtpPorts.inUse ⊆ app.rtpPorts.inUse := by
  cases h with
  | allocate payload _ _ _ => exact absurd rfl (hno payload)
  | badTarget _ _ _ _ | sendFails _ _ _ => exact Finset.erase_subset _ _
  | _ => exact subset_rfl

theorem allocatePort_poolStep (app : ControlPlane.AppState)
    (payload : ControlPlane.StartTransferRequest) :
    PoolStep app.rtpPorts.inUse (portForTask app (.allocating payload))
      (ControlPlane.allocatePort app payload).1.rtpPorts.inUse := by
  simp only [portForTask, ControlPlane.allocatePort]
  by_cases hviable : ControlPlane.isViableAdvertiseHost app.localSipAdvertiseHost = true
  · rw [if_pos hviable, if_pos hviable]
    cases halloc : app.rtpPorts.allocate with
    | none => exact .returns subset_rfl
    | some found =>
      obtain ⟨port, pool⟩ := found
      obtain ⟨hfree, rfl⟩ := BoundedRtpPortPool.allocate_eq_some halloc
      exact .takes port hfree
  · rw [if_neg hviable, if_neg hviable]
    exact .returns subset_rfl

theorem proceed_poolStep {engineUp : Bool} {app app' : ControlPlane.AppState}
    {task task' : ControlPlane.Task} (h : task.proceed engineUp app = some (app', task')) :
    PoolStep app.rtpPorts.inUse (portForTask app task) app'.rtpPorts.inUse := by
  have hproceeds := ControlPlane.proceeds_of_proceed h
  cases task with
  | allocating payload =>
    have happ : ControlPlane.allocatePort app payload = (app', task') := Option.some.inj h
    have hstep := allocatePort_poolStep app payload
    rwa [happ] at hstep
  | _ => exact .returns (proceeds_returns hproceeds nofun)

theorem control_poolStep {s t : ControlPlane.System} {event : ControlPlane.Event}
    (h : ControlPlane.step s event = some t) :
    PoolStep s.app.rtpPorts.inUse (portForRequest s event) t.app.rtpPorts.inUse := by
  cases event with
  | arrives request =>
    obtain rfl := Option.some.inj h
    exact .returns subset_rfl
  | proceeds handler engineUp =>
    obtain ⟨task, htask, h⟩ := Option.bind_eq_some_iff.mp h
    obtain ⟨⟨app, task'⟩, hproceed, h⟩ := Option.bind_eq_some_iff.mp h
    obtain rfl := Option.some.inj h
    rw [portForRequest, htask]
    exact proceed_poolStep hproceed

/-! ### The gateway -/

/-- `taken` counts the INVITE commands that the engine has received from its channel. -/
structure Gateway where
  control : ControlPlane.System
  engine : Sip.System
  taken : Nat

/-- Both pools are built over the configured range. -/
def Gateway.start (config : AppConfig) (defaultTrunkPort : Nat) : Gateway where
  control := .fresh (.initial config.localSipAdvertiseHost defaultTrunkPort config.rtpStartPort
    config.rtpEndPort)
  engine := .init config
  taken := 0

inductive GatewayEvent
  | control (event : ControlPlane.Event)
  | receiveCommand (env : Env)
  | engine (action : Sip.Action)

def Gateway.step (config : AppConfig) (g : Gateway) : GatewayEvent → Option Gateway
  | .control event =>
    (ControlPlane.step g.control event).map fun control => { g with control := control }
  | .receiveCommand env => do
    let request ← g.control.app.sentInvites[g.taken]?
    let engine ← g.engine.step config (.command env request)
    pure { g with engine := engine, taken := g.taken + 1 }
  | .engine (.command _ _) => none
  | .engine action => (g.engine.step config action).map fun engine => { g with engine := engine }

def Gateway.transferPorts (g : Gateway) : Finset Nat := g.control.app.rtpPorts.inUse

def Gateway.inboundPorts (g : Gateway) : Finset Nat := g.engine.engine.rtpPortPool.inUse

/-- No port is allocated to a transfer and to an inbound call at the same time. -/
def PortsApart (g : Gateway) : Prop := Disjoint g.transferPorts g.inboundPorts

/-- A pool hands out its first free port only while the other pool has not handed it out. -/
def TakesUnshared (g : Gateway) : GatewayEvent → Prop
  | .control event => ∀ port ∈ portForRequest g.control event, port ∉ g.inboundPorts
  | .receiveCommand _ => True
  | .engine action => ∀ port ∈ portForAction g.engine action, port ∉ g.transferPorts

instance decidableTakesUnshared (g : Gateway) :
    (event : GatewayEvent) → Decidable (TakesUnshared g event)
  | .control event => inferInstanceAs (Decidable (∀ port ∈ portForRequest g.control event, _))
  | .receiveCommand _ => .isTrue trivial
  | .engine action => inferInstanceAs (Decidable (∀ port ∈ portForAction g.engine action, _))

theorem control_apart_iff {g : Gateway} {control : ControlPlane.System}
    {event : ControlPlane.Event} (hg : PortsApart g)
    (h : ControlPlane.step g.control event = some control) :
    PortsApart { g with control := control } ↔ TakesUnshared g (.control event) :=
  (control_poolStep h).disjoint_iff hg

theorem engine_apart_iff {config : AppConfig} {g : Gateway} {engine : Sip.System}
    {action : Sip.Action} (hg : PortsApart g) (h : g.engine.step config action = some engine)
    (taken : Nat) :
    PortsApart ⟨g.control, engine, taken⟩ ↔
      ∀ port ∈ portForAction g.engine action, port ∉ g.transferPorts :=
  disjoint_comm.trans ((engine_poolStep h).disjoint_iff (disjoint_comm.mp hg))

theorem step_apart_iff {config : AppConfig} {g g' : Gateway} {event : GatewayEvent}
    (hg : PortsApart g) (h : g.step config event = some g') :
    PortsApart g' ↔ TakesUnshared g event := by
  cases event with
  | control event =>
    obtain ⟨control, hcontrol, rfl⟩ := Option.map_eq_some_iff.mp h
    exact control_apart_iff hg hcontrol
  | receiveCommand env =>
    obtain ⟨request, -, h⟩ := Option.bind_eq_some_iff.mp h
    obtain ⟨engine, hengine, h⟩ := Option.bind_eq_some_iff.mp h
    obtain rfl := Option.some.inj h
    exact (engine_apart_iff hg hengine _).trans (iff_of_true nofun trivial)
  | engine action =>
    have hstep : ∃ engine, g.engine.step config action = some engine ∧
        g' = { g with engine := engine } := by
      cases action with
      | command env request => cases h
      | _ =>
        obtain ⟨engine, hengine, rfl⟩ := Option.map_eq_some_iff.mp h
        exact ⟨engine, hengine, rfl⟩
    obtain ⟨engine, hengine, rfl⟩ := hstep
    exact engine_apart_iff hg hengine _

/-- The ports in use stay apart exactly in the runs in which neither pool hands out its first
free port while the other pool has handed that port out. -/
theorem ports_apart_iff (config : AppConfig) (defaultTrunkPort : Nat) {events : List GatewayEvent}
    {g : Gateway}
    (h : exec (Gateway.step config) (.start config defaultTrunkPort) events = some g) :
    Always (Gateway.step config) PortsApart (.start config defaultTrunkPort) events ↔
      AllSteps (Gateway.step config) TakesUnshared (.start config defaultTrunkPort) events :=
  always_iff (I := fun _ => True) h trivial (Finset.disjoint_empty_left _)
    (fun _ _ _ _ _ => trivial) fun _ _ _ _ hg hstep => step_apart_iff hg hstep

def reachableConfig : AppConfig := { smallConfig with localSipAdvertiseHost := "203.0.113.5".toList }

def startsTransfer : List GatewayEvent :=
  [.control (.arrives (.startTransfer (ControlPlane.transferRequest none))),
    .control (.proceeds 0 true)]

/-- A call that is cancelled has given its port back before a transfer takes it. -/
theorem cancelled_call_apart :
    Always (Gateway.step reachableConfig) PortsApart (.start reachableConfig 5060)
      (.engine (peerSends "INVITE" "c") :: .engine (peerSends "CANCEL" "c") :: startsTransfer) := by
  obtain ⟨g, hg⟩ := Option.isSome_iff_exists.mp (show (exec (guard (Gateway.step reachableConfig)
    TakesUnshared) (.start reachableConfig 5060) (.engine (peerSends "INVITE" "c") ::
      .engine (peerSends "CANCEL" "c") :: startsTransfer)).isSome from by decide +kernel)
  obtain ⟨hall, hexec⟩ := allSteps_of_exec hg
  exact (ports_apart_iff reachableConfig 5060 hexec).mpr hall

/-- The first transfer and the first inbound call get the same port. -/
theorem transfer_and_call_share_port :
    (exec (Gateway.step reachableConfig) (.start reachableConfig 5060)
        (startsTransfer ++ [.engine (peerSends "INVITE" "c")])).map
      (fun g => (g.transferPorts, g.inboundPorts)) = some ({10000}, {10000}) := by
  decide +kernel

end DemoService.SbcGateway
