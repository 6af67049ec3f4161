import DemoService.Lease
import DemoService.SipSystem

/-! Ownership of the inbound RTP ports. A setup in flight owns the port it was
given and an established dialog the port its bridge is bound to. -/

namespace DemoService.Sip

open AssocMap RustText NetAddr GuardedRuns

/-- How the tables and the setups in flight hang together. -/
structure Wired (own : Prop) (v : CallSystem) : Prop where
  tasks : (v.inFlight.map (·.task)).Nodup
  bounded : ∀ x ∈ v.inFlight, x.task < v.calls.spawned
  pending : ∀ c p, v.calls.pending.lookup c = some p →
    ∃ x ∈ v.inFlight, x.task = p.task ∧ x.callId = c ∧ x.localRtpPort = p.localRtpPort
  disjoint : ∀ c p, v.calls.pending.lookup c = some p → v.calls.dialogs.lookup c = none
  dialogPort : own → ∀ c d, v.calls.dialogs.lookup c = some d →
    d.localRtpPort = d.bridge.localRtpPort

theorem wired_init (own : Prop) (config : AppConfig) : Wired own (System.init config).view where
  tasks := Multiset.nodup_zero
  bounded := fun _ hx => absurd hx (Multiset.notMem_zero _)
  pending := nofun
  disjoint := nofun
  dialogPort := fun _ => nofun

section

variable {own : Prop} {v : CallSystem} {callId : Str}

theorem lookup_erase_some {V : Type} {m : Map Str V} {c k : Str} {x : V}
    (h : (m.erase k).lookup c = some x) : c ≠ k ∧ m.lookup c = some x := by
  have hne : c ≠ k := by
    rintro rfl
    rw [AList.lookup_erase] at h
    cases h
  rw [AList.lookup_erase_ne hne] at h
  exact ⟨hne, h⟩

theorem lookup_insert_some {V : Type} {m : Map Str V} {c k : Str} {x y : V}
    (h : (m.insert k y).lookup c = some x) : (c = k ∧ y = x) ∨ (c ≠ k ∧ m.lookup c = some x) := by
  by_cases hc : c = k
  · subst hc
    rw [AList.lookup_insert] at h
    exact .inl ⟨rfl, Option.some.inj h⟩
  · rw [AList.lookup_insert_ne hc] at h
    exact .inr ⟨hc, h⟩

theorem lookup_erase_none {V : Type} {m : Map Str V} {c k : Str} (h : m.lookup c = none) :
    (m.erase k).lookup c = none := by
  by_contra hne
  obtain ⟨x, hx⟩ := Option.ne_none_iff_exists'.mp hne
  exact absurd ((lookup_erase_some hx).2.symm.trans h) nofun

/-- The setup a pending INVITE waits for, once another setup's result is taken. -/
theorem Wired.pending_rest (h : Wired own v) {params : InboundBridgeParams}
    {rest : Multiset InboundBridgeParams} (hrest : v.inFlight = params ::ₘ rest) {c : Str}
    {p : PendingInboundInvite} (hp : v.calls.pending.lookup c = some p) (hc : c ≠ params.callId) :
    ∃ x ∈ rest, x.task = p.task ∧ x.callId = c ∧ x.localRtpPort = p.localRtpPort := by
  obtain ⟨x, hx, ht, hcall, hport⟩ := h.pending c p hp
  rw [hrest] at hx
  rcases Multiset.mem_cons.mp hx with rfl | hx
  · exact absurd hcall.symm hc
  · exact ⟨x, hx, ht, hcall, hport⟩

theorem Wired.tasks_rest (h : Wired own v) {params : InboundBridgeParams}
    {rest : Multiset InboundBridgeParams} (hrest : v.inFlight = params ::ₘ rest) :
    (rest.map (·.task)).Nodup := by
  have ht := h.tasks
  rw [hrest, Multiset.map_cons] at ht
  exact (Multiset.nodup_cons.mp ht).2

theorem Wired.bounded_rest (h : Wired own v) {params : InboundBridgeParams}
    {rest : Multiset InboundBridgeParams} (hrest : v.inFlight = params ::ₘ rest) :
    ∀ x ∈ rest, x.task < v.calls.spawned :=
  fun x hx => h.bounded x (hrest ▸ Multiset.mem_cons_of_mem hx)

/-- The INVITE a result belongs to has the result's port. -/
theorem Wired.own_port (h : Wired own v) {params : InboundBridgeParams}
    (hmem : params ∈ v.inFlight) {p : PendingInboundInvite}
    (hp : v.calls.pending.lookup callId = some p) (ht : p.task = params.task) :
    p.localRtpPort = params.localRtpPort := by
  obtain ⟨x, hx, hxt, -, hport⟩ := h.pending callId p hp
  have hsame : x = params := Multiset.inj_on_of_nodup_map h.tasks x hx params hmem (hxt.trans ht)
  rw [← hport, hsame]

theorem Wired.admission (h : Wired own v) {pending : PendingInboundInvite} {params : InboundBridgeParams}
    (hdialog : v.calls.dialogs.lookup callId = none) (htask : pending.task = v.calls.spawned)
    (hparams : params = ⟨callId, pending.localTag, pending.localRtpPort, params.remoteMediaAddr,
      pending.task⟩) :
    Wired own ⟨v.calls.admitCall callId pending, params ::ₘ v.inFlight⟩ := by
  have hnew : params.task = v.calls.spawned := (congrArg (·.task) hparams).trans htask
  refine ⟨?_, ?_, ?_, ?_, h.dialogPort⟩
  · rw [Multiset.map_cons]
    refine Multiset.nodup_cons.mpr ⟨fun hmem => ?_, h.tasks⟩
    obtain ⟨x, hx, hxt⟩ := Multiset.mem_map.mp hmem
    have hlt := h.bounded x hx
    omega
  · intro x hx
    rcases Multiset.mem_cons.mp hx with rfl | hx
    · exact hnew ▸ Nat.lt_succ_self _
    · exact Nat.lt_succ_of_lt (h.bounded x hx)
  · intro c p hp
    rcases lookup_insert_some hp with ⟨rfl, rfl⟩ | ⟨-, hp⟩
    · exact ⟨params, Multiset.mem_cons_self .., congrArg (·.task) hparams,
        congrArg (·.callId) hparams, congrArg (·.localRtpPort) hparams⟩
    · obtain ⟨x, hx, hrest⟩ := h.pending c p hp
      exact ⟨x, Multiset.mem_cons_of_mem hx, hrest⟩
  · intro c p hp
    rcases lookup_insert_some hp with ⟨rfl, -⟩ | ⟨-, hp⟩
    · exact hdialog
    · exact h.disjoint c p hp

theorem Wired.endDialog (h : Wired own v) (dialog : InboundDialog) :
    Wired own ⟨v.calls.endDialog callId dialog, v.inFlight⟩ where
  tasks := h.tasks
  bounded := h.bounded
  pending := h.pending
  disjoint := fun c p hp => lookup_erase_none (h.disjoint c p hp)
  dialogPort := fun ho c d hd => h.dialogPort ho c d (lookup_erase_some hd).2

theorem Wired.accept (h : Wired own v) {params : InboundBridgeParams} {p : PendingInboundInvite}
    {dialog : InboundDialog} {rest : Multiset InboundBridgeParams}
    (hrest : v.inFlight = params ::ₘ rest) (hp : v.calls.pending.lookup params.callId = some p)
    (htask : own → p.task = params.task) (hport : dialog.localRtpPort = p.localRtpPort)
    (hbridge : dialog.bridge = startInboundBridge params) :
    Wired own ⟨v.calls.accept params.callId dialog, rest⟩ where
  tasks := h.tasks_rest hrest
  bounded := h.bounded_rest hrest
  pending := fun _ _ hq =>
    h.pending_rest hrest (lookup_erase_some hq).2 (lookup_erase_some hq).1
  disjoint := by
    intro c q hq
    obtain ⟨hne, hq⟩ := lookup_erase_some hq
    have hd := h.disjoint c q hq
    rwa [← AList.lookup_insert_ne hne] at hd
  dialogPort := by
    intro ho c d hd
    rcases lookup_insert_some hd with ⟨-, rfl⟩ | ⟨-, hd⟩
    · have hmem : params ∈ v.inFlight := hrest ▸ Multiset.mem_cons_self ..
      rw [hport, hbridge, h.own_port hmem hp (htask ho)]
      rfl
    · exact h.dialogPort ho c d hd

theorem Wired.refuse (h : Wired own v) {params : InboundBridgeParams} {p : PendingInboundInvite}
    {rest : Multiset InboundBridgeParams} (hrest : v.inFlight = params ::ₘ rest) :
    Wired own ⟨v.calls.refuse params.callId p, rest⟩ where
  tasks := h.tasks_rest hrest
  bounded := h.bounded_rest hrest
  pending := fun _ _ hq =>
    h.pending_rest hrest (lookup_erase_some hq).2 (lookup_erase_some hq).1
  disjoint := fun c q hq => h.disjoint c q (lookup_erase_some hq).2
  dialogPort := h.dialogPort

/-- An orphan's result changes at most the pool. -/
theorem Wired.orphan (h : Wired own v) {params : InboundBridgeParams}
    {rest : Multiset InboundBridgeParams} (hrest : v.inFlight = params ::ₘ rest)
    (hnone : v.calls.pending.lookup params.callId = none) (pool : BoundedRtpPortPool) :
    Wired own ⟨{ v.calls with pool }, rest⟩ where
  tasks := h.tasks_rest hrest
  bounded := h.bounded_rest hrest
  pending := by
    intro c p hp
    refine h.pending_rest hrest hp ?_
    rintro rfl
    exact absurd (hnone.symm.trans hp) nofun
  disjoint := h.disjoint
  dialogPort := h.dialogPort

theorem Wired.step {w : CallSystem} (h : Wired own v) (hs : CallStep own v w) : Wired own w := by
  cases hs with
  | sweep now =>
    exact ⟨h.tasks, h.bounded, fun c p hp => h.pending c p (lookup_of_retain hp),
      fun c p hp => h.disjoint c p (lookup_of_retain hp), h.dialogPort⟩
  | admission hdialog hpending hfree htask hparams => exact h.admission hdialog htask hparams
  | endDialog hd => exact h.endDialog _
  | cancel hown hp =>
    exact ⟨h.tasks, h.bounded, fun c q hq => h.pending c q (lookup_erase_some hq).2,
      fun c q hq => h.disjoint c q (lookup_erase_some hq).2, h.dialogPort⟩
  | orphanReady hrest hp => exact h.orphan hrest hp _
  | orphanFailed hrest hp => exact h.orphan hrest hp _
  | refuse hrest hp htask => exact h.refuse hrest
  | accept hrest hp htask hport hbridge => exact h.accept hrest hp htask hport hbridge

theorem Wired.run {w : CallSystem} (h : Wired own v) (hr : CallRun own v w) : Wired own w := by
  induction hr with
  | refl => exact h
  | tail _ hs ih => exact ih.step hs

end

/-- The ports in use, and the ports of the setups in flight and of the dialogs' bridges. -/
def CallSystem.lease (v : CallSystem) : Lease.State Nat :=
  ⟨v.calls.pool.inUse,
    v.inFlight.map (·.localRtpPort) + image (·.bridge.localRtpPort) v.calls.dialogs⟩

theorem lease_rest {v : CallSystem} {params : InboundBridgeParams}
    {rest : Multiset InboundBridgeParams} (hrest : v.inFlight = params ::ₘ rest) :
    v.lease.owned = params.localRtpPort ::ₘ
      (rest.map (·.localRtpPort) + image (·.bridge.localRtpPort) v.calls.dialogs) := by
  rw [CallSystem.lease, hrest, Multiset.map_cons, Multiset.cons_add]

/-- A setup's port goes back to the pool when its own result is turned down. -/
theorem lease_release {v : CallSystem} {params : InboundBridgeParams}
    {rest : Multiset InboundBridgeParams} (hrest : v.inFlight = params ::ₘ rest) {port : Nat}
    (hport : port = params.localRtpPort) :
    Lease.Step v.lease ⟨v.calls.pool.inUse.erase port,
      rest.map (·.localRtpPort) + image (·.bridge.localRtpPort) v.calls.dialogs⟩ := by
  have howned := lease_rest hrest
  have hstep := Lease.Step.release v.lease port (by rw [howned, hport]; exact Multiset.mem_cons_self ..)
  rw [howned, hport, Multiset.erase_cons_head] at hstep
  rw [hport]
  exact hstep

/-- Where every result meets its own INVITE, each call step is a run of leases. -/
theorem Wired.leases {v w : CallSystem} (h : Wired True v) (hs : CallStep True v w) :
    Relation.ReflTransGen Lease.Step v.lease w.lease := by
  cases hs with
  | sweep now => exact .refl
  | admission hdialog hpending hfree htask hparams =>
    rename_i callId pending params
    have hport : params.localRtpPort = pending.localRtpPort := congrArg (·.localRtpPort) hparams
    have hstep := Lease.Step.acquire v.lease pending.localRtpPort hfree
    have hnew : CallSystem.lease ⟨v.calls.admitCall callId pending, params ::ₘ v.inFlight⟩ =
        ⟨insert pending.localRtpPort v.lease.inUse, pending.localRtpPort ::ₘ v.lease.owned⟩ := by
      simp only [CallSystem.lease, Multiset.map_cons, Multiset.cons_add, hport]
      rfl
    exact hnew ▸ .single hstep
  | endDialog hd =>
    rename_i callId dialog
    have himage := image_erase (·.bridge.localRtpPort) hd
    have hport := h.dialogPort trivial callId dialog hd
    have howned : v.lease.owned = dialog.localRtpPort ::ₘ (v.inFlight.map (·.localRtpPort) +
        image (·.bridge.localRtpPort) (v.calls.dialogs.erase callId)) := by
      rw [CallSystem.lease, himage, Multiset.add_cons, hport]
    have hstep := Lease.Step.release v.lease dialog.localRtpPort
      (by rw [howned]; exact Multiset.mem_cons_self ..)
    rw [howned, Multiset.erase_cons_head] at hstep
    exact .single hstep
  | cancel hown hp => exact absurd trivial hown
  | orphanReady hrest hp => exact .single (lease_release hrest rfl)
  | orphanFailed hrest hp =>
    rename_i params rest
    have howned := lease_rest hrest
    have hstep := Lease.Step.abandon v.lease params.localRtpPort
      (by rw [howned]; exact Multiset.mem_cons_self ..)
    rw [howned, Multiset.erase_cons_head] at hstep
    exact .single hstep
  | refuse hrest hp htask =>
    have hmem := hrest ▸ Multiset.mem_cons_self ..
    exact .single (lease_release hrest (h.own_port hmem hp (htask trivial)))
  | accept hrest hp htask hport hbridge =>
    rename_i params pending dialog rest
    have himage := image_insert (·.bridge.localRtpPort) dialog (h.disjoint _ _ hp)
    have hsame : CallSystem.lease ⟨v.calls.accept params.callId dialog, rest⟩ = v.lease := by
      rw [CallSystem.lease, CallSystem.lease, hrest, Multiset.map_cons]
      simp only [CallTables.accept, himage, hbridge, startInboundBridge, Multiset.add_cons,
        Multiset.cons_add]
    rw [hsame]

theorem Wired.leaseRun {v w : CallSystem} (h : Wired True v) (hr : CallRun True v w) :
    Relation.ReflTransGen Lease.Step v.lease w.lease := by
  induction hr with
  | refl => exact .refl
  | tail hprev hs ih => exact ih.trans ((h.run hprev).leases hs)

/-- The ports of the setups whose INVITE is pending or gone, and of the dialogs' bridges. -/
def System.ownedPorts (s : System) : List Nat :=
  s.setups.map (·.localRtpPort) ++ s.results.map (·.params.localRtpPort) ++
    s.engine.inboundDialogs.entries.map (·.2.bridge.localRtpPort)

/-- No two owners have the same port, and no owned port is free. -/
structure PortsOwnedOnce (s : System) : Prop where
  distinct : s.ownedPorts.Nodup
  inUse : ∀ port ∈ s.ownedPorts, port ∈ s.engine.rtpPortPool.inUse

theorem lease_owned (s : System) : s.view.lease.owned = ↑s.ownedPorts := by
  simp [CallSystem.lease, System.view, System.ownedPorts, image, Engine.calls, Function.comp_def]

/-- Along every run in which no pending INVITE is cancelled and no pending
INVITE is handed another setup's result, inbound ports have one owner each. -/
theorem ports_owned_once_of_own_results {config : AppConfig} {s : System}
    (h : GuardedRun (System.step config) (fun s a => MeetsOwnInvite s a = true)
      (System.init config) s) : PortsOwnedOnce s := by
  have hcalls : CallRun True (System.init config).view s.view :=
    h.simulates System.view (I := fun _ => True) trivial (fun _ _ _ _ _ _ => trivial)
      (fun _ _ _ _ ha hs => step_callRun hs fun _ => ha)
  have hleases := (wired_init True config).leaseRun hcalls
  have hinit : Lease.Sound (System.init config).view.lease :=
    ⟨Multiset.nodup_zero, fun p hp => absurd hp (Multiset.notMem_zero p)⟩
  obtain ⟨honce, hmarked⟩ := hinit.run hleases
  rw [lease_owned] at honce hmarked
  exact ⟨Multiset.coe_nodup.mp honce, fun port hport => hmarked port (Multiset.mem_coe.mpr hport)⟩

/-- An established call and a second one whose setup is still running. -/
theorem two_calls_own_two_ports :
    ∃ s : System, s.ownedPorts = [10001, 10000] ∧ PortsOwnedOnce s := by
  have hex : (exec (guard (System.step smallConfig) (fun s a => MeetsOwnInvite s a = true))
      (System.init smallConfig) [peerSends "INVITE" "c", .finishSetup 0 none,
        .receiveResult quietEnv, peerSends "INVITE" "d"]).map System.ownedPorts =
      some [10001, 10000] := by decide +kernel
  obtain ⟨s, hs, howned⟩ := Option.map_eq_some_iff.mp hex
  exact ⟨s, howned, ports_owned_once_of_own_results (guardedRun_of_exec hs)⟩

/-- CANCEL frees the port while the setup that is bound to it still runs. -/
theorem cancelled_setup_owns_a_free_port :
    ¬ ∀ s : System, Run smallConfig (System.init smallConfig) s → PortsOwnedOnce s := by
  intro hall
  have hex : (exec (System.step smallConfig) (System.init smallConfig)
      [peerSends "INVITE" "c", peerSends "CANCEL" "c"]).map
        (fun s => (s.ownedPorts, s.engine.rtpPortPool.inUse)) = some ([10000], ∅) := by
    decide +kernel
  obtain ⟨s, hs, heq⟩ := Option.map_eq_some_iff.mp hex
  obtain ⟨howned, huse⟩ := Prod.mk.inj heq
  have hin := (hall s (run_of_exec hs)).inUse 10000 (by rw [howned]; exact List.mem_singleton_self _)
  rw [huse] at hin
  exact absurd hin (Finset.notMem_empty _)

end DemoService.Sip
