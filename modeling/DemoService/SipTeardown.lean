import DemoService.SipPortOwnership

/-! Teardown of calls. A call is closed once a BYE for it was answered or its
bridge sent the end event; from then on its dialog has to go away. -/

namespace DemoService.Sip

open AssocMap RustText NetAddr GuardedRuns

/-- Tasks name calls: the last admitted task of a Call-ID, and the bridges made
by a task, belong to one Call-ID. -/
structure Named (s : System) : Prop where
  latest : ∀ c n, s.latest c = some n → n < s.engine.spawned
  one : ∀ c c' n, s.latest c = some n → s.latest c' = some n → c = c'
  inFlight : ∀ x ∈ s.view.inFlight, x.task < s.engine.spawned ∧
    ∀ c, s.latest c = some x.task → c = x.callId
  readers : ∀ b ∈ s.readers, b.task < s.engine.spawned ∧
    ∀ c, s.latest c = some b.task → c = b.callId
  closed : ∀ n ∈ s.closed, n < s.engine.spawned

def AbsentIn (e : Engine) (callId : Str) : Prop :=
  e.pendingInbound.lookup callId = none ∧ e.inboundDialogs.lookup callId = none

/-- A closed call is out of both tables, or its end event is still to be received. -/
def Ended (s : System) : Prop :=
  ∀ c n, s.latest c = some n → n ∈ s.closed → AbsentIn s.engine c ∨ c ∈ s.endEvents

theorem PayloadMoves.spawned {e : Engine} {payload : Str} {t : CallTables}
    {sp : List InboundBridgeParams} {st : List InboundBridgeHandle}
    (h : PayloadMoves e payload t sp st) :
    (sp = [] ∧ t.spawned = e.spawned) ∨
      ∃ params, sp = [params] ∧ params.task = e.spawned ∧ t.spawned = e.spawned + 1 := by
  cases h with
  | admitted hreq hdialog hpending hfree htask hparams =>
    exact .inr ⟨_, rfl, (congrArg (·.task) hparams).trans htask, rfl⟩
  | _ => exact .inl ⟨rfl, rfl⟩

theorem Moves.spawned {e : Engine} {event : EngineEvent} {t : CallTables}
    {sp : List InboundBridgeParams} {st : List InboundBridgeHandle} (h : Moves e event t sp st) :
    (sp = [] ∧ t.spawned = e.spawned) ∨
      ∃ params, sp = [params] ∧ params.task = e.spawned ∧ t.spawned = e.spawned + 1 := by
  cases h with
  | payload now h => exact h.spawned
  | _ => exact .inl ⟨rfl, rfl⟩

theorem PayloadMoves.absent {e : Engine} {payload : Str} {t : CallTables}
    {sp : List InboundBridgeParams} {st : List InboundBridgeHandle} {c : Str}
    (h : PayloadMoves e payload t sp st) (ha : AbsentIn e c) (hc : ∀ p ∈ sp, p.callId ≠ c) :
    t.pending.lookup c = none ∧ t.dialogs.lookup c = none := by
  cases h with
  | admitted hreq hdialog hpending hfree htask hparams =>
    have hne := hc _ (List.mem_singleton_self _)
    rw [hparams] at hne
    exact ⟨(AList.lookup_insert_ne (Ne.symm hne)).trans ha.1, ha.2⟩
  | byeDialog hreq hdialog => exact ⟨ha.1, lookup_erase_none ha.2⟩
  | cancelPending hreq hpending => exact ⟨lookup_erase_none ha.1, ha.2⟩
  | _ => exact ha

/-- A call that is in neither table stays so until it is admitted again. -/
theorem Moves.absent {e : Engine} {event : EngineEvent} {t : CallTables}
    {sp : List InboundBridgeParams} {st : List InboundBridgeHandle} {c : Str}
    (h : Moves e event t sp st) (ha : AbsentIn e c) (hc : ∀ p ∈ sp, p.callId ≠ c) :
    t.pending.lookup c = none ∧ t.dialogs.lookup c = none := by
  cases h with
  | endDialog hd => exact ⟨ha.1, lookup_erase_none ha.2⟩
  | failed reason hp => exact ⟨lookup_erase_none ha.1, ha.2⟩
  | unanswered bridge hp => exact ⟨lookup_erase_none ha.1, ha.2⟩
  | accepted hp hport =>
    refine ⟨lookup_erase_none ha.1, ?_⟩
    have hne : c ≠ _ := fun he => absurd ((he ▸ ha.1).symm.trans hp) nofun
    exact (AList.lookup_insert_ne hne).trans ha.2
  | payload now h =>
    obtain ⟨hp, hd⟩ := h.absent ha hc
    exact ⟨by simp [CallTables.sweep, lookup_retain, hp], hd⟩
  | _ => exact ha

/-- A BYE that is not answered from the cache, or finds no dialog, leaves none. -/
theorem Moves.bye {e : Engine} {payload : Str} {sourceAddr : SocketAddr} {t : CallTables}
    {sp : List InboundBridgeParams} {st : List InboundBridgeHandle} {request : SipParsedRequest}
    (h : Moves e (.datagram payload sourceAddr) t sp st) (hreq : isRequest "BYE" payload request)
    (hpending : e.pendingInbound.lookup (callIdOf request) = none)
    (hcache : e.recentByeResponses.lookup (byeCacheKey request) = none ∨
      e.inboundDialogs.lookup (callIdOf request) = none) :
    t.pending.lookup (callIdOf request) = none ∧ t.dialogs.lookup (callIdOf request) = none := by
  have hsame : ∀ r, isRequest "BYE" payload r → r = request :=
    fun r hr => Option.some.inj (hr.1.symm.trans hreq.1)
  cases h with
  | payload now h =>
    have hp : ∀ m : Map Str PendingInboundInvite, m.lookup (callIdOf request) = none →
        (retain (fun invite => now - invite.createdAt < 60) m).lookup (callIdOf request) = none :=
      fun m hm => by simp [lookup_retain, hm]
    cases h with
    | ignored hno => exact absurd hreq (hno request).1
    | admitted hinvite => exact absurd hreq (not_isRequest_of_method hinvite (by decide))
    | byeCached hr hcached =>
      obtain rfl := hsame _ hr
      exact ⟨hp _ hpending, hcache.resolve_left (by simp [hcached])⟩
    | byeUnknown hr hdialog =>
      obtain rfl := hsame _ hr
      exact ⟨hp _ hpending, hdialog⟩
    | byeDialog hr hdialog =>
      obtain rfl := hsame _ hr
      exact ⟨hp _ hpending, AList.lookup_erase ..⟩
    | cancelUnknown hcancel => exact absurd hreq (not_isRequest_of_method hcancel (by decide))
    | cancelPending hcancel => exact absurd hreq (not_isRequest_of_method hcancel (by decide))

theorem closedBy_eq_some {s : System} {event : EngineEvent} {out : List Output} {n : Nat}
    (h : n ∈ s.closedBy event out) :
    ∃ payload sourceAddr request, event = .datagram payload sourceAddr ∧
      isRequest "BYE" payload request ∧ s.latest (callIdOf request) = some n := by
  unfold System.closedBy at h
  split at h
  · rename_i payload sourceAddr
    split at h
    · rename_i request hparse
      split at h
      · rename_i hbye
        exact ⟨payload, sourceAddr, request, rfl, ⟨hparse, hbye.1⟩, by simpa using h⟩
      · cases h
    · cases h
  · cases h

theorem named_init (config : AppConfig) : Named (System.init config) :=
  ⟨nofun, nofun, fun _ hx => absurd hx (Multiset.notMem_zero _), nofun, nofun⟩

theorem Named.afterTurn {s : System} (h : Named s) {event : EngineEvent} {e : Engine}
    {out : List Output} (hm : Moves s.engine event e.calls (spawns out) (stops out)) :
    Named (s.afterTurn event e out) := by
  have hclosedBy : ∀ n ∈ s.closedBy event out, n < s.engine.spawned := by
    intro n hn
    obtain ⟨_, _, request, _, _, hl⟩ := closedBy_eq_some hn
    exact h.latest _ n hl
  have hclosed : ∀ n ∈ s.closedBy event out ++ s.closed, n < s.engine.spawned :=
    fun n hn => (List.mem_append.mp hn).elim (hclosedBy n) (h.closed n)
  rcases hm.spawned with ⟨hnone, hspawned⟩ | ⟨params, hone, htask, hspawned⟩
  · have hlatest : (s.afterTurn event e out).latest = s.latest := by
      simp [System.afterTurn, hnone]
    have hcount : (s.afterTurn event e out).engine.spawned = s.engine.spawned := hspawned
    constructor
    · rw [hlatest, hcount]
      exact h.latest
    · rw [hlatest]
      exact h.one
    · rw [hlatest, hcount, view_afterTurn, hnone, Multiset.coe_nil, Multiset.add_zero]
      exact h.inFlight
    · rw [hlatest, hcount]
      exact fun b hb => h.readers b (List.mem_filter.mp hb).1
    · rw [hcount]
      exact hclosed
  · have hlatest : (s.afterTurn event e out).latest =
        Function.update s.latest params.callId (some params.task) := by
      simp [System.afterTurn, hone]
    have hcount : (s.afterTurn event e out).engine.spawned = s.engine.spawned + 1 := hspawned
    have hnew : ∀ c n, (s.afterTurn event e out).latest c = some n →
        (c = params.callId ∧ n = s.engine.spawned) ∨ (c ≠ params.callId ∧ s.latest c = some n) := by
      intro c n hl
      rw [hlatest] at hl
      by_cases hc : c = params.callId
      · rw [hc, Function.update_self, htask] at hl
        exact .inl ⟨hc, (Option.some.inj hl).symm⟩
      · rw [Function.update_of_ne hc] at hl
        exact .inr ⟨hc, hl⟩
    have hold : ∀ {x : Nat} {callId : Str}, x < s.engine.spawned →
        (∀ c, s.latest c = some x → c = callId) →
          ∀ c, (s.afterTurn event e out).latest c = some x → c = callId := by
      intro x callId hlt hx c hl
      rcases hnew c x hl with ⟨-, rfl⟩ | ⟨-, hl⟩
      · exact absurd hlt (Nat.lt_irrefl _)
      · exact hx c hl
    constructor
    · intro c n hl
      rw [hcount]
      rcases hnew c n hl with ⟨-, rfl⟩ | ⟨-, hl⟩
      · exact Nat.lt_succ_self _
      · exact Nat.lt_succ_of_lt (h.latest c n hl)
    · intro c c' n hl hl'
      rcases hnew c n hl with ⟨rfl, rfl⟩ | ⟨-, hl⟩ <;>
        rcases hnew c' _ hl' with ⟨rfl, hn⟩ | ⟨-, hl'⟩
      · rfl
      · exact absurd (h.latest c' _ hl') (Nat.lt_irrefl _)
      · exact absurd (hn ▸ h.latest c _ hl) (Nat.lt_irrefl _)
      · exact h.one c c' n hl hl'
    · rw [hcount, view_afterTurn, hone]
      intro x hx
      rcases Multiset.mem_add.mp hx with hx | hx
      · obtain ⟨hlt, hcall⟩ := h.inFlight x hx
        exact ⟨Nat.lt_succ_of_lt hlt, hold hlt hcall⟩
      · obtain rfl := List.mem_singleton.mp hx
        refine ⟨by omega, fun c hl => ?_⟩
        rcases hnew c _ hl with ⟨hc, -⟩ | ⟨-, hl⟩
        · exact hc
        · have hlt := h.latest c _ hl
          omega
    · rw [hcount]
      intro b hb
      obtain ⟨hlt, hcall⟩ := h.readers b (List.mem_filter.mp hb).1
      exact ⟨Nat.lt_succ_of_lt hlt, hold hlt hcall⟩
    · rw [hcount]
      exact fun n hn => Nat.lt_succ_of_lt (hclosed n hn)

/-- One turn keeps closed calls out of the tables, if it does so for the calls it closes. -/
theorem Ended.afterTurn {s : System} (hn : Named s) {event : EngineEvent} {e : Engine}
    {out : List Output} (hm : Moves s.engine event e.calls (spawns out) (stops out))
    (h : ∀ c n, s.latest c = some n → n ∈ s.closed →
      AbsentIn s.engine c ∨ AbsentIn e c ∨ c ∈ s.endEvents)
    (hbye : ∀ c n, s.latest c = some n → n ∈ s.closedBy event out → AbsentIn e c) :
    Ended (s.afterTurn event e out) := by
  have hclosed : ∀ n ∈ s.closedBy event out ++ s.closed, n < s.engine.spawned := by
    intro n hmem
    rcases List.mem_append.mp hmem with hmem | hmem
    · obtain ⟨_, _, request, _, _, hl⟩ := closedBy_eq_some hmem
      exact hn.latest _ n hl
    · exact hn.closed n hmem
  intro c n hl hmem
  by_cases hadmitted : ∃ p ∈ spawns out, p.callId = c
  · obtain ⟨p, hp, hpc⟩ := hadmitted
    rcases hm.spawned with ⟨hnone, -⟩ | ⟨params, hone, htask, -⟩
    · rw [hnone] at hp
      cases hp
    · have hlatest : (s.afterTurn event e out).latest c = some s.engine.spawned := by
        rw [hone] at hp
        obtain rfl := List.mem_singleton.mp hp
        simp [System.afterTurn, hone, ← hpc, htask]
      have he : n = s.engine.spawned := Option.some.inj (hl.symm.trans hlatest)
      exact absurd (he ▸ hclosed n hmem) (Nat.lt_irrefl _)
  · have hsame : ∀ p ∈ spawns out, p.callId ≠ c := fun p hp hc => hadmitted ⟨p, hp, hc⟩
    have hlatest : s.latest c = some n := by
      rcases hm.spawned with ⟨hnone, -⟩ | ⟨params, hone, -, -⟩
      · simpa [System.afterTurn, hnone] using hl
      · have hne := hsame params (by simp [hone])
        simpa [System.afterTurn, hone, Function.update_of_ne (Ne.symm hne)] using hl
    rcases List.mem_append.mp hmem with hmem | hmem
    · exact .inl (hbye c n hlatest hmem)
    · rcases h c n hlatest hmem with ha | ha | hq
      · exact .inl (hm.absent ha hsame)
      · exact .inl ha
      · exact .inr hq

/-- A BYE finds its INVITE no longer pending and is not answered from the cache
while its dialog stands, and an end event is received when its INVITE is no
longer pending. -/
def TeardownMeetsCall (s : System) : Action → Bool
  | .datagram _ payload _ =>
    match parseSipRequest payload with
    | some request =>
      request.method ≠ "BYE".toList ||
        (s.engine.pendingInbound.lookup (callIdOf request)).isNone &&
          ((s.engine.recentByeResponses.lookup (byeCacheKey request)).isNone ||
            (s.engine.inboundDialogs.lookup (callIdOf request)).isNone)
    | none => true
  | .receiveEnd _ =>
    match s.endEvents with
    | c :: _ => (s.engine.pendingInbound.lookup c).isNone
    | [] => true
  | _ => true

structure TornDown (s : System) : Prop where
  named : Named s
  ended : Ended s

/-- A turn on an event other than a datagram closes no call. -/
theorem TornDown.turn {s : System} (hn : Named s) {config : AppConfig} {env : Env}
    {event : EngineEvent} {t : System} (ht : s.turn config env event = some t)
    (hevent : ∀ payload sourceAddr, event ≠ .datagram payload sourceAddr)
    (h : ∀ e out, Moves s.engine event e.calls (spawns out) (stops out) →
      ∀ c n, s.latest c = some n → n ∈ s.closed →
        AbsentIn s.engine c ∨ AbsentIn e c ∨ c ∈ s.endEvents) : TornDown t := by
  obtain ⟨e, out, hmoves, rfl⟩ := turn_eq_some ht
  refine ⟨hn.afterTurn hmoves, Ended.afterTurn hn hmoves (h e out hmoves) ?_⟩
  intro c n _ hc
  obtain ⟨payload, sourceAddr, _, he, _⟩ := closedBy_eq_some hc
  exact absurd he (hevent payload sourceAddr)

theorem TornDown.datagram {s : System} (h : TornDown s) {config : AppConfig} {env : Env}
    {payload : Str} {sourceAddr : SocketAddr} {t : System}
    (ht : s.turn config env (.datagram payload sourceAddr) = some t)
    (hok : TeardownMeetsCall s (.datagram env payload sourceAddr) = true) : TornDown t := by
  obtain ⟨e, out, hmoves, rfl⟩ := turn_eq_some ht
  refine ⟨h.named.afterTurn hmoves, Ended.afterTurn h.named hmoves ?_ ?_⟩
  · exact fun c n hl hc => (h.ended c n hl hc).imp id .inr
  · intro c n hl hc
    obtain ⟨_, _, request, he, hreq, hr⟩ := closedBy_eq_some hc
    cases he
    obtain rfl := h.named.one c _ n hl hr
    simp only [TeardownMeetsCall, hreq.1, hreq.2] at hok
    simp only [ne_eq, not_true_eq_false, decide_false, Bool.false_or, Bool.and_eq_true,
      Bool.or_eq_true, Option.isNone_iff_eq_none] at hok
    exact hmoves.bye hreq hok.1 hok.2

theorem Named.rest {s : System} (h : Named s) {r : SetupResult} {rest : List SetupResult}
    (hr : s.results = r :: rest) : Named { s with results := rest } where
  latest := h.latest
  one := h.one
  inFlight := by
    intro x hx
    refine h.inFlight x ?_
    rw [System.view, hr]
    rcases Multiset.mem_add.mp hx with hx | hx
    · exact Multiset.mem_add.mpr (.inl hx)
    · exact Multiset.mem_add.mpr (.inr (List.mem_cons_of_mem _ hx))
  readers := h.readers
  closed := h.closed

theorem Named.finish {s : System} (h : Named s) {i : Nat} {params : InboundBridgeParams}
    (failure : Option Str) (hi : s.setups[i]? = some params) :
    Named (s.finish i params failure) where
  latest := h.latest
  one := h.one
  inFlight := by
    rw [view_finish failure hi]
    exact h.inFlight
  readers := by
    have hmem : params ∈ s.view.inFlight :=
      Multiset.mem_add.mpr (.inl (List.mem_of_getElem? hi))
    intro b hb
    simp only [System.finish] at hb
    split at hb
    · rcases List.mem_append.mp hb with hb | hb
      · exact h.readers b hb
      · obtain rfl := List.mem_singleton.mp hb
        exact h.inFlight params hmem
    · exact h.readers b hb
  closed := h.closed

/-- The end event of a received Call-ID takes its dialog away. -/
theorem Moves.endEvent {e : Engine} {callId : Str} {t : CallTables}
    {sp : List InboundBridgeParams} {st : List InboundBridgeHandle}
    (h : Moves e (.backendEndRequested callId) t sp st)
    (hp : e.pendingInbound.lookup callId = none) :
    t.pending.lookup callId = none ∧ t.dialogs.lookup callId = none := by
  cases h with
  | endUnknown hd => exact ⟨hp, hd⟩
  | endDialog hd => exact ⟨hp, AList.lookup_erase ..⟩

theorem TornDown.step {config : AppConfig} {s t : System} {a : Action} (h : TornDown s)
    (hok : TeardownMeetsCall s a = true) (hs : s.step config a = some t) : TornDown t := by
  cases a with
  | command env request =>
    exact TornDown.turn h.named (show s.turn config env (.command request) = some _ from hs) (by simp)
      fun _ _ _ c n hl hc => (h.ended c n hl hc).imp id .inr
  | datagram env payload sourceAddr =>
    exact h.datagram (show s.turn config env (.datagram payload sourceAddr) = some _ from hs) hok
  | receiveResult env =>
    simp only [System.step] at hs
    split at hs
    · cases hs
    · rename_i r rest hr
      exact TornDown.turn (h.named.rest hr) hs (by simp)
        fun _ _ _ c n hl hc => (h.ended c n hl hc).imp id .inr
  | receiveEnd env =>
    simp only [System.step] at hs
    split at hs
    · cases hs
    · rename_i callId rest hevents
      have hp : s.engine.pendingInbound.lookup callId = none := by
        simpa [TeardownMeetsCall, hevents] using hok
      have hnamed : Named { s with endEvents := rest } :=
        ⟨h.named.latest, h.named.one, h.named.inFlight, h.named.readers, h.named.closed⟩
      refine TornDown.turn hnamed hs (by simp) fun e out hmoves c n hl hc => ?_
      rcases h.ended c n hl hc with ha | hq
      · exact .inl ha
      · rw [hevents] at hq
        rcases List.mem_cons.mp hq with rfl | hq
        · exact .inr (.inl (hmoves.endEvent hp))
        · exact .inr (.inr hq)
  | finishSetup i failure =>
    obtain ⟨params, hi, rfl⟩ := Option.map_eq_some_iff.mp hs
    exact ⟨h.named.finish failure hi, h.ended⟩
  | bridgeEnds i =>
    obtain ⟨bridge, hi, rfl⟩ := Option.map_eq_some_iff.mp hs
    obtain ⟨hlt, hcall⟩ := h.named.readers bridge (List.mem_of_getElem? hi)
    refine ⟨⟨h.named.latest, h.named.one, h.named.inFlight, ?_, ?_⟩, ?_⟩
    · exact fun b hb => h.named.readers b (List.mem_of_mem_eraseIdx hb)
    · exact fun n hn => (List.mem_cons.mp hn).elim (fun he => he ▸ hlt) (h.named.closed n)
    · intro c n hl hc
      rcases List.mem_cons.mp hc with rfl | hc
      · exact .inr (List.mem_append_right _ (hcall c hl ▸ List.mem_singleton_self _))
      · exact (h.ended c n hl hc).imp id (List.mem_append_left _)

/-- The setups still running and the results and end events not yet received. -/
def System.inTransit (s : System) : Nat := s.setups.length + s.results.length + s.endEvents.length

/-- Once everything in flight is processed, no closed call has a dialog. -/
def NoTeardownLost (s : System) : Prop :=
  s.inTransit = 0 → ∀ c n, s.latest c = some n → n ∈ s.closed →
    s.engine.inboundDialogs.lookup c = none

/-- Along every run whose teardowns meet their call outside the pending table
and outside the BYE cache, no teardown is lost. -/
theorem no_teardown_lost_of_meets_call {config : AppConfig} {s : System}
    (h : GuardedRun (System.step config) (fun s a => TeardownMeetsCall s a = true)
      (System.init config) s) : NoTeardownLost s := by
  have hinit : TornDown (System.init config) := ⟨named_init config, nofun⟩
  have hs : TornDown s := h.invariant hinit fun _ _ _ ht hok hstep => ht.step hok hstep
  intro hdrained c n hl hc
  rcases hs.ended c n hl hc with ha | hq
  · exact ha.2
  · have hpos := List.length_pos_of_mem hq
    unfold System.inTransit at hdrained
    omega

/-- An established call that the peer ends with BYE. -/
theorem answered_bye_ends_the_call :
    ∃ s : System, s.inTransit = 0 ∧ s.closed = [0] ∧ NoTeardownLost s := by
  have hex : (exec (guard (System.step smallConfig) (fun s a => TeardownMeetsCall s a = true))
      (System.init smallConfig) [peerSends "INVITE" "c", .finishSetup 0 none,
        .receiveResult quietEnv, peerSends "BYE" "c"]).map
      (fun s => (s.inTransit, s.closed)) = some (0, [0]) := by decide +kernel
  obtain ⟨s, hs, heq⟩ := Option.map_eq_some_iff.mp hex
  obtain ⟨htransit, hclosed⟩ := Prod.mk.inj heq
  exact ⟨s, htransit, hclosed, no_teardown_lost_of_meets_call (guardedRun_of_exec hs)⟩

/-- The backend ends the call before the engine has taken the setup result: the
end event finds no dialog, and the dialog set up afterwards stays for ever. -/
theorem early_end_event_is_lost :
    ¬ ∀ s : System, Run smallConfig (System.init smallConfig) s → NoTeardownLost s := by
  intro hall
  have hex : (exec (System.step smallConfig) (System.init smallConfig)
      [peerSends "INVITE" "c", .finishSetup 0 none, .bridgeEnds 0, .receiveEnd quietEnv,
        .receiveResult quietEnv]).map
      (fun s => (s.inTransit, s.latest ['c'], s.closed,
        (s.engine.inboundDialogs.lookup ['c']).isSome)) = some (0, some 0, [0], true) := by
    decide +kernel
  obtain ⟨s, hs, heq⟩ := Option.map_eq_some_iff.mp hex
  simp only [Prod.mk.injEq] at heq
  obtain ⟨htransit, hlatest, hclosed, hdialog⟩ := heq
  have hnone := hall s (run_of_exec hs) htransit _ 0 hlatest (hclosed ▸ List.mem_singleton_self _)
  rw [hnone] at hdialog
  cases hdialog

end DemoService.Sip
