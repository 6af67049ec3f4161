import DemoService.GuardedRuns
import DemoService.SipCalls
import Mathlib.Data.List.Perm.Basic

/-! The engine among its setup tasks and bridges. Setups finish in any order and
as late as they like; a running bridge may send its end event at any moment;
results and end events wait in the engine's two channels. A turn that panics
ends the engine task, so it leads to no further state. -/

namespace DemoService.Sip

open AssocMap RustText NetAddr GuardedRuns

/-- A finished setup: the bridge, or the reason it failed. -/
structure SetupResult where
  params : InboundBridgeParams
  failure : Option Str

def SetupResult.result (r : SetupResult) : Except Str InboundBridgeHandle :=
  match r.failure with
  | none => .ok (startInboundBridge r.params)
  | some reason => .error reason

theorem SetupResult.result_eq_ok {r : SetupResult} {bridge : InboundBridgeHandle}
    (h : r.result = .ok bridge) : bridge = startInboundBridge r.params := by
  unfold SetupResult.result at h
  split at h
  · exact (Except.ok.inj h).symm
  · cases h

structure System where
  engine : Engine
  /-- Setup tasks that have not finished. -/
  setups : List InboundBridgeParams
  /-- The internal channel. -/
  results : List SetupResult
  /-- Running bridges that can still send their end event. -/
  readers : List InboundBridgeHandle
  /-- The bridge event channel. -/
  endEvents : List Str
  /-- For every Call-ID, the task of its last admitted INVITE. -/
  latest : Str → Option Nat
  /-- The tasks of calls that were told to end. -/
  closed : List Nat

def System.init (config : AppConfig) : System :=
  { engine := .new config, setups := [], results := [], readers := [], endEvents := [],
    latest := fun _ => none, closed := [] }

inductive Action
  | command (env : Env) (request : SipInviteRequest)
  | datagram (env : Env) (payload : Str) (sourceAddr : SocketAddr)
  | receiveResult (env : Env)
  | receiveEnd (env : Env)
  | finishSetup (i : Nat) (failure : Option Str)
  | bridgeEnds (i : Nat)

/-- The call that a BYE answered with 200 OK closes. -/
def System.closedBy (s : System) (event : EngineEvent) (out : List Output) : List Nat :=
  match event with
  | .datagram payload _ =>
    match parseSipRequest payload with
    | some request =>
      if request.method = "BYE".toList ∧ out.any Output.isDelivered then
        (s.latest (callIdOf request)).toList
      else []
    | none => []
  | _ => []

def System.afterTurn (s : System) (event : EngineEvent) (e : Engine) (out : List Output) : System :=
  { s with
    engine := e
    setups := s.setups ++ spawns out
    readers := s.readers.filter (· ∉ stops out)
    latest := (spawns out).foldl (fun l p => Function.update l p.callId (some p.task)) s.latest
    closed := s.closedBy event out ++ s.closed }

def System.turn (config : AppConfig) (env : Env) (event : EngineEvent) (s : System) :
    Option System :=
  match s.engine.handle config env event with
  | .error _ => none
  | .ok (e, out) => some (s.afterTurn event e out)

def System.finish (s : System) (i : Nat) (params : InboundBridgeParams) (failure : Option Str) :
    System :=
  { s with
    setups := s.setups.eraseIdx i
    results := s.results ++ [⟨params, failure⟩]
    readers :=
      if failure.isNone then s.readers ++ [startInboundBridge params] else s.readers }

def System.step (config : AppConfig) (s : System) : Action → Option System
  | .command env request => s.turn config env (.command request)
  | .datagram env payload sourceAddr => s.turn config env (.datagram payload sourceAddr)
  | .receiveResult env =>
    match s.results with
    | [] => none
    | r :: rest =>
      System.turn config env (.inboundSetupResult r.params.callId r.result)
        { s with results := rest }
  | .receiveEnd env =>
    match s.endEvents with
    | [] => none
    | callId :: rest =>
      System.turn config env (.backendEndRequested callId) { s with endEvents := rest }
  | .finishSetup i failure => s.setups[i]?.map (fun params => s.finish i params failure)
  | .bridgeEnds i =>
    s.readers[i]?.map (fun bridge =>
      { s with
        readers := s.readers.eraseIdx i
        endEvents := s.endEvents ++ [bridge.callId]
        closed := bridge.task :: s.closed })

abbrev Run (config : AppConfig) := GuardedRuns.Run (System.step config)

/-- The event the engine takes in an action, and what it reads from its environment. -/
def System.event? (s : System) : Action → Option (Env × EngineEvent)
  | .command env request => some (env, .command request)
  | .datagram env payload sourceAddr => some (env, .datagram payload sourceAddr)
  | .receiveResult env =>
    s.results.head?.map (fun r => (env, .inboundSetupResult r.params.callId r.result))
  | .receiveEnd env => s.endEvents.head?.map (fun callId => (env, .backendEndRequested callId))
  | .finishSetup _ _ => none
  | .bridgeEnds _ => none

/-- The outputs of the engine in an action. -/
def System.sends (config : AppConfig) (s : System) (a : Action) : List Output :=
  match s.event? a with
  | none => []
  | some (env, event) =>
    match s.engine.handle config env event with
    | .error _ => []
    | .ok (_, out) => out

theorem turn_engine {config : AppConfig} {env : Env} {event : EngineEvent} {s t : System}
    (h : s.turn config env event = some t) :
    ∃ out, s.engine.handle config env event = .ok (t.engine, out) := by
  unfold System.turn at h
  split at h
  · cases h
  · rename_i e out hhandle
    obtain rfl := Option.some.inj h
    exact ⟨out, hhandle⟩

/-- A step is a turn of the engine, or leaves it alone. -/
theorem step_engine {config : AppConfig} {s t : System} {a : Action}
    (h : s.step config a = some t) :
    (∃ env event, s.event? a = some (env, event) ∧
      s.engine.handle config env event = .ok (t.engine, s.sends config a)) ∨
    (s.event? a = none ∧ t.engine = s.engine) := by
  have hturn : ∀ {env : Env} {event : EngineEvent}, s.event? a = some (env, event) →
      (∃ out, s.engine.handle config env event = .ok (t.engine, out)) →
      ∃ env event, s.event? a = some (env, event) ∧
        s.engine.handle config env event = .ok (t.engine, s.sends config a) := by
    intro env event hevent hout
    obtain ⟨out, hout⟩ := hout
    refine ⟨env, event, hevent, ?_⟩
    simp only [System.sends, hevent, hout]
  cases a with
  | command env request =>
    have hstep : s.turn config env (.command request) = some t := h
    exact .inl (hturn rfl (turn_engine hstep))
  | datagram env payload sourceAddr =>
    have hstep : s.turn config env (.datagram payload sourceAddr) = some t := h
    exact .inl (hturn rfl (turn_engine hstep))
  | receiveResult env =>
    simp only [System.step] at h
    split at h
    · cases h
    · rename_i r rest hresults
      have hevent : s.event? (.receiveResult env) =
          some (env, .inboundSetupResult r.params.callId r.result) := by
        simp only [System.event?, hresults, List.head?_cons, Option.map_some]
      exact .inl (hturn hevent (turn_engine (s := { s with results := rest }) h))
  | receiveEnd env =>
    simp only [System.step] at h
    split at h
    · cases h
    · rename_i callId rest hends
      have hevent : s.event? (.receiveEnd env) = some (env, .backendEndRequested callId) := by
        simp only [System.event?, hends, List.head?_cons, Option.map_some]
      exact .inl (hturn hevent (turn_engine (s := { s with endEvents := rest }) h))
  | finishSetup i failure =>
    obtain ⟨params, -, rfl⟩ := Option.map_eq_some_iff.mp h
    exact .inr ⟨rfl, rfl⟩
  | bridgeEnds i =>
    obtain ⟨bridge, -, rfl⟩ := Option.map_eq_some_iff.mp h
    exact .inr ⟨rfl, rfl⟩

theorem turn_eq_some {config : AppConfig} {env : Env} {event : EngineEvent} {s t : System}
    (h : s.turn config env event = some t) :
    ∃ e out, Moves s.engine event e.calls (spawns out) (stops out) ∧ t = s.afterTurn event e out := by
  unfold System.turn at h
  split at h
  · cases h
  · rename_i e out he
    exact ⟨e, out, Engine.handle_moves he, (Option.some.inj h).symm⟩

/-! ### The calls and the setups in flight -/

structure CallSystem where
  calls : CallTables
  inFlight : Multiset InboundBridgeParams

def System.view (s : System) : CallSystem :=
  ⟨s.engine.calls, ↑s.setups + ↑(s.results.map (·.params))⟩

/-- The steps of the calls. `own` restricts them to those in which every result
meets the INVITE it was made for, and no pending INVITE is cancelled. -/
inductive CallStep (own : Prop) : CallSystem → CallSystem → Prop
  | sweep (v : CallSystem) (now : Nat) : CallStep own v ⟨v.calls.sweep now, v.inFlight⟩
  | admission {v : CallSystem} {callId : Str} {pending : PendingInboundInvite}
      {params : InboundBridgeParams} (hdialog : v.calls.dialogs.lookup callId = none)
      (hpending : v.calls.pending.lookup callId = none)
      (hfree : pending.localRtpPort ∉ v.calls.pool.inUse) (htask : pending.task = v.calls.spawned)
      (hparams : params = ⟨callId, pending.localTag, pending.localRtpPort, params.remoteMediaAddr,
        pending.task⟩) :
      CallStep own v ⟨v.calls.admitCall callId pending, params ::ₘ v.inFlight⟩
  | endDialog {v : CallSystem} {callId : Str} {dialog : InboundDialog}
      (h : v.calls.dialogs.lookup callId = some dialog) :
      CallStep own v ⟨v.calls.endDialog callId dialog, v.inFlight⟩
  | cancel {v : CallSystem} {callId : Str} {pending : PendingInboundInvite} (hown : ¬ own)
      (h : v.calls.pending.lookup callId = some pending) :
      CallStep own v ⟨v.calls.refuse callId pending, v.inFlight⟩
  | orphanReady {v : CallSystem} {params : InboundBridgeParams}
      {rest : Multiset InboundBridgeParams} (hrest : v.inFlight = params ::ₘ rest)
      (h : v.calls.pending.lookup params.callId = none) :
      CallStep own v ⟨v.calls.discard (startInboundBridge params), rest⟩
  | orphanFailed {v : CallSystem} {params : InboundBridgeParams}
      {rest : Multiset InboundBridgeParams} (hrest : v.inFlight = params ::ₘ rest)
      (h : v.calls.pending.lookup params.callId = none) : CallStep own v ⟨v.calls, rest⟩
  | refuse {v : CallSystem} {params : InboundBridgeParams} {pending : PendingInboundInvite}
      {rest : Multiset InboundBridgeParams} (hrest : v.inFlight = params ::ₘ rest)
      (h : v.calls.pending.lookup params.callId = some pending)
      (htask : own → pending.task = params.task) :
      CallStep own v ⟨v.calls.refuse params.callId pending, rest⟩
  | accept {v : CallSystem} {params : InboundBridgeParams} {pending : PendingInboundInvite}
      {dialog : InboundDialog} {rest : Multiset InboundBridgeParams}
      (hrest : v.inFlight = params ::ₘ rest)
      (h : v.calls.pending.lookup params.callId = some pending)
      (htask : own → pending.task = params.task)
      (hport : dialog.localRtpPort = pending.localRtpPort)
      (hbridge : dialog.bridge = startInboundBridge params) :
      CallStep own v ⟨v.calls.accept params.callId dialog, rest⟩

abbrev CallRun (own : Prop) := Relation.ReflTransGen (CallStep own)

/-- The turn cancels no pending INVITE, and hands no pending INVITE another setup's result. -/
def MeetsOwnInvite (s : System) : Action → Bool
  | .datagram _ payload _ =>
    match parseSipRequest payload with
    | some request =>
      request.method ≠ "CANCEL".toList || (s.engine.pendingInbound.lookup (callIdOf request)).isNone
    | none => true
  | .receiveResult _ =>
    match s.results with
    | r :: _ =>
      (s.engine.pendingInbound.lookup r.params.callId).all (fun p => p.task = r.params.task)
    | [] => true
  | _ => true

theorem PayloadMoves.callRun {own : Prop} {e : Engine} {payload : Str} {t : CallTables}
    {sp : List InboundBridgeParams} {st : List InboundBridgeHandle} {f : Multiset InboundBridgeParams}
    (h : PayloadMoves e payload t sp st)
    (hown : own → ∀ request, isRequest "CANCEL" payload request →
      e.pendingInbound.lookup (callIdOf request) = none) :
    CallRun own ⟨e.calls, f⟩ ⟨t, f + ↑sp⟩ := by
  cases h with
  | ignored h => rw [Multiset.coe_nil, Multiset.add_zero]
  | admitted hreq hdialog hpending hfree htask hparams =>
    rw [Multiset.add_comm]
    exact .single (.admission (v := ⟨e.calls, f⟩) hdialog hpending hfree htask hparams)
  | byeCached hreq hcached => rw [Multiset.coe_nil, Multiset.add_zero]
  | byeUnknown hreq hdialog => rw [Multiset.coe_nil, Multiset.add_zero]
  | byeDialog hreq hdialog =>
    rw [Multiset.coe_nil, Multiset.add_zero]
    exact .single (.endDialog (v := ⟨e.calls, f⟩) hdialog)
  | cancelUnknown hreq hpending => rw [Multiset.coe_nil, Multiset.add_zero]
  | cancelPending hreq hpending =>
    rw [Multiset.coe_nil, Multiset.add_zero]
    refine .single (.cancel (v := ⟨e.calls, f⟩) (fun ho => ?_) hpending)
    exact absurd ((hown ho _ hreq).symm.trans hpending) nofun

theorem view_afterTurn (s : System) (event : EngineEvent) (e : Engine) (out : List Output) :
    (s.afterTurn event e out).view =
      ⟨e.calls, ↑s.setups + ↑(s.results.map (·.params)) + ↑(spawns out)⟩ := by
  simp only [System.view, System.afterTurn, CallSystem.mk.injEq, true_and, ← Multiset.coe_add]
  rw [Multiset.add_assoc, Multiset.add_assoc]
  exact congrArg _ (Multiset.add_comm ..)

/-- One turn, seen from the calls. -/
theorem turn_view {config : AppConfig} {env : Env} {event : EngineEvent} {s t : System}
    (h : s.turn config env event = some t) :
    ∃ calls sp st, Moves s.engine event calls sp st ∧ t.engine.calls = calls ∧
      t.view = ⟨calls, ↑s.setups + ↑(s.results.map (·.params)) + ↑sp⟩ := by
  obtain ⟨e, out, hmoves, rfl⟩ := turn_eq_some h
  exact ⟨e.calls, spawns out, stops out, hmoves, rfl, view_afterTurn s event e out⟩

theorem view_finish {s : System} {i : Nat} {params : InboundBridgeParams} (failure : Option Str)
    (h : s.setups[i]? = some params) : (s.finish i params failure).view = s.view := by
  obtain ⟨hlt, rfl⟩ := List.getElem?_eq_some_iff.mp h
  have hperm := Multiset.coe_eq_coe.mpr (List.getElem_cons_eraseIdx_perm hlt)
  simp only [System.view, System.finish, List.map_append, List.map_cons, List.map_nil,
    CallSystem.mk.injEq, true_and]
  rw [← hperm, ← Multiset.cons_coe, ← Multiset.coe_add, Multiset.cons_add, ← Multiset.add_cons]
  exact congrArg _ (Multiset.add_comm ..)

/-- The engine refines the calls: a step of the system is a run of call steps. -/
theorem step_callRun {own : Prop} {config : AppConfig} {s t : System} {a : Action}
    (h : s.step config a = some t) (hown : own → MeetsOwnInvite s a = true) :
    CallRun own s.view t.view := by
  cases a with
  | command env request =>
    obtain ⟨calls, sp, st, hmoves, -, hview⟩ :=
      turn_view (show s.turn config env (.command request) = some t from h)
    rw [hview]
    cases hmoves
    rw [Multiset.coe_nil, Multiset.add_zero]
    exact .refl
  | datagram env payload sourceAddr =>
    obtain ⟨calls, sp, st, hmoves, -, hview⟩ :=
      turn_view (show s.turn config env (.datagram payload sourceAddr) = some t from h)
    rw [hview]
    cases hmoves with
    | payload now hp =>
      refine (hp.callRun fun ho request hreq => ?_).tail (.sweep _ now)
      have hm := hown ho
      simp only [MeetsOwnInvite, hreq.1, hreq.2] at hm
      simpa using hm
  | receiveResult env =>
    simp only [System.step] at h
    split at h
    · cases h
    · rename_i r rest hresults
      obtain ⟨calls, sp, st, hmoves, -, hview⟩ := turn_view h
      rw [hview]
      have hrest : s.view.inFlight = r.params ::ₘ (↑s.setups + ↑(rest.map (·.params))) := by
        rw [System.view, hresults, List.map_cons, ← Multiset.cons_coe, Multiset.add_cons]
      have htask : ∀ pending, s.engine.pendingInbound.lookup r.params.callId = some pending →
          own → pending.task = r.params.task := by
        intro pending hp ho
        have hm := hown ho
        simpa [MeetsOwnInvite, hresults, hp] using hm
      generalize hres : r.result = result at hmoves
      cases hmoves with
      | orphanReady bridge hp =>
        rw [Multiset.coe_nil, Multiset.add_zero, SetupResult.result_eq_ok hres]
        exact .single (.orphanReady hrest hp)
      | orphanFailed reason hp =>
        rw [Multiset.coe_nil, Multiset.add_zero]
        exact .single (.orphanFailed hrest hp)
      | failed reason hp =>
        rw [Multiset.coe_nil, Multiset.add_zero]
        exact .single (.refuse hrest hp (htask _ hp))
      | unanswered bridge hp =>
        rw [Multiset.coe_nil, Multiset.add_zero]
        exact .single (.refuse hrest hp (htask _ hp))
      | accepted hp hport =>
        rw [Multiset.coe_nil, Multiset.add_zero]
        exact .single (.accept hrest hp (htask _ hp) hport (SetupResult.result_eq_ok hres))
  | receiveEnd env =>
    simp only [System.step] at h
    split at h
    · cases h
    · obtain ⟨calls, sp, st, hmoves, -, hview⟩ := turn_view h
      rw [hview]
      cases hmoves with
      | endUnknown hd =>
        rw [Multiset.coe_nil, Multiset.add_zero]
        exact .refl
      | endDialog hd =>
        rw [Multiset.coe_nil, Multiset.add_zero]
        exact .single (.endDialog (v := s.view) hd)
  | finishSetup i failure =>
    obtain ⟨params, hi, rfl⟩ := Option.map_eq_some_iff.mp h
    rw [view_finish failure hi]
  | bridgeEnds i =>
    obtain ⟨bridge, hi, rfl⟩ := Option.map_eq_some_iff.mp h
    exact .refl

/-! ### A small configuration and a peer, for concrete runs -/

def smallConfig : AppConfig := ⟨"h".toList, 10000, 10001, false⟩

/-- Every datagram is delivered and names do not resolve. -/
def quietEnv : Env := ⟨fun _ => true, fun _ => "u".toList, fun _ _ => none, 0, 0⟩

def peerAddr : SocketAddr := .new (.v4 10 0 0 1) 5060

def peerRequest (method callId : String) : Str :=
  method.toList ++ " a SIP/2.0\nVia: v\nFrom: f\nTo: t\nCSeq: 1 X\nCall-ID: ".toList ++
    callId.toList ++ "\n\nm=audio 9".toList

def peerSends (method callId : String) : Action :=
  .datagram quietEnv (peerRequest method callId) peerAddr

end DemoService.Sip
