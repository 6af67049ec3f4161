import DemoService.SipPortOwnership

/-! The return of inbound RTP ports. A port in use is accounted for while a
pending INVITE, a dialog or a setup in flight has it; a quiet engine has none of
these, so what is still in use then is lost for good. -/

namespace DemoService.Sip

open AssocMap RustText NetAddr GuardedRuns

def CallTables.Holds (t : CallTables) (port : Nat) : Prop :=
  (∃ c p, t.pending.lookup c = some p ∧ p.localRtpPort = port) ∨
    ∃ c d, t.dialogs.lookup c = some d ∧ d.localRtpPort = port

def CallSystem.Held (v : CallSystem) (port : Nat) : Prop :=
  v.calls.Holds port ∨ ∃ x ∈ v.inFlight, x.localRtpPort = port

/-- No port in use is lost. -/
def CallSystem.Accounted (v : CallSystem) : Prop := ∀ port ∈ v.calls.pool.inUse, v.Held port

/-- The engine takes a setup result that failed or finds another INVITE pending,
and the result's setup is the last to have its port: its own INVITE was swept. -/
def System.StrandsPort (s : System) : Action → Prop
  | .receiveResult _ => ∃ r rest, s.results = r :: rest ∧
      (r.failure.isSome = true ∨ (s.engine.pendingInbound.lookup r.params.callId).isSome = true) ∧
      r.params.localRtpPort ∈ s.engine.rtpPortPool.inUse ∧
      ¬ CallSystem.Held ⟨s.engine.calls, ↑s.setups + ↑(rest.map (·.params))⟩ r.params.localRtpPort
  | _ => False

section

variable {t : CallTables} {callId : Str} {port : Nat} {f f' : Multiset InboundBridgeParams}

theorem Holds.of_refuse {pending : PendingInboundInvite}
    (h : (t.refuse callId pending).Holds port) : t.Holds port := by
  rcases h with ⟨c, p, hp, hport⟩ | hd
  · exact .inl ⟨c, p, (lookup_erase_some hp).2, hport⟩
  · exact .inr hd

theorem Holds.of_endDialog {dialog : InboundDialog}
    (h : (t.endDialog callId dialog).Holds port) : t.Holds port := by
  rcases h with hp | ⟨c, d, hd, hport⟩
  · exact .inl hp
  · exact .inr ⟨c, d, (lookup_erase_some hd).2, hport⟩

theorem Holds.of_accept {pending : PendingInboundInvite} {dialog : InboundDialog}
    (hpending : t.pending.lookup callId = some pending)
    (hport : dialog.localRtpPort = pending.localRtpPort)
    (h : (t.accept callId dialog).Holds port) : t.Holds port := by
  rcases h with ⟨c, p, hp, hp'⟩ | ⟨c, d, hd, hd'⟩
  · exact .inl ⟨c, p, (lookup_erase_some hp).2, hp'⟩
  · rcases lookup_insert_some hd with ⟨-, rfl⟩ | ⟨-, hd⟩
    · exact .inl ⟨callId, pending, hpending, hport.symm.trans hd'⟩
    · exact .inr ⟨c, d, hd, hd'⟩

theorem Holds.refuse {pending : PendingInboundInvite}
    (hpending : t.pending.lookup callId = some pending) (hne : port ≠ pending.localRtpPort)
    (h : t.Holds port) : (t.refuse callId pending).Holds port := by
  rcases h with ⟨c, p, hp, hport⟩ | hd
  · refine .inl ⟨c, p, ?_, hport⟩
    have hc : c ≠ callId := by
      rintro rfl
      cases hpending.symm.trans hp
      exact hne hport.symm
    exact (AList.lookup_erase_ne hc).trans hp
  · exact .inr hd

theorem Holds.endDialog {dialog : InboundDialog}
    (hdialog : t.dialogs.lookup callId = some dialog) (hne : port ≠ dialog.localRtpPort)
    (h : t.Holds port) : (t.endDialog callId dialog).Holds port := by
  rcases h with hp | ⟨c, d, hd, hport⟩
  · exact .inl hp
  · refine .inr ⟨c, d, ?_, hport⟩
    have hc : c ≠ callId := by
      rintro rfl
      cases hdialog.symm.trans hd
      exact hne hport.symm
    exact (AList.lookup_erase_ne hc).trans hd

theorem Holds.accept {pending : PendingInboundInvite} {dialog : InboundDialog}
    (hpending : t.pending.lookup callId = some pending)
    (hnone : t.dialogs.lookup callId = none)
    (hport : dialog.localRtpPort = pending.localRtpPort) (h : t.Holds port) :
    (t.accept callId dialog).Holds port := by
  rcases h with ⟨c, p, hp, hp'⟩ | ⟨c, d, hd, hd'⟩
  · by_cases hc : c = callId
    · subst hc
      cases hpending.symm.trans hp
      exact .inr ⟨c, dialog, AList.lookup_insert _, hport.trans hp'⟩
    · exact .inl ⟨c, p, (AList.lookup_erase_ne hc).trans hp, hp'⟩
  · have hc : c ≠ callId := by
      rintro rfl
      exact absurd (hnone.symm.trans hd) nofun
    exact .inr ⟨c, d, (AList.lookup_insert_ne hc).trans hd, hd'⟩

end

theorem Held.mono {t : CallTables} {f f' : Multiset InboundBridgeParams} {port : Nat}
    (hf : ∀ x ∈ f, x ∈ f') (h : CallSystem.Held ⟨t, f⟩ port) : CallSystem.Held ⟨t, f'⟩ port :=
  h.imp id fun ⟨x, hx, hport⟩ => ⟨x, hf x hx, hport⟩

/-- A port that nobody holds stays in use for ever. -/
theorem CallStep.lost {own : Prop} {v w : CallSystem} (hs : CallStep own v w) {port : Nat}
    (huse : port ∈ v.calls.pool.inUse) (hlost : ¬ v.Held port) :
    port ∈ w.calls.pool.inUse ∧ ¬ w.Held port := by
  cases hs with
  | sweep now =>
    refine ⟨huse, fun hheld => hlost ?_⟩
    rcases hheld with (⟨c, p, hp, hport⟩ | hd) | hx
    · exact .inl (.inl ⟨c, p, lookup_of_retain hp, hport⟩)
    · exact .inl (.inr hd)
    · exact .inr hx
  | admission hdialog hpending hfree htask hparams =>
    rename_i callId pending params
    have hne : pending.localRtpPort ≠ port := fun he => hfree (he ▸ huse)
    refine ⟨Finset.mem_insert_of_mem huse, fun hheld => hlost ?_⟩
    rcases hheld with (⟨c, p, hp, hport⟩ | hd) | ⟨x, hx, hport⟩
    · rcases lookup_insert_some hp with ⟨-, rfl⟩ | ⟨-, hp⟩
      · exact absurd hport hne
      · exact .inl (.inl ⟨c, p, hp, hport⟩)
    · exact .inl (.inr hd)
    · rcases Multiset.mem_cons.mp hx with rfl | hx
      · exact absurd ((congrArg (·.localRtpPort) hparams).symm.trans hport) hne
      · exact .inr ⟨x, hx, hport⟩
  | endDialog hd =>
    rename_i callId dialog
    have hne : port ≠ dialog.localRtpPort := fun he => hlost (.inl (.inr ⟨callId, dialog, hd, he.symm⟩))
    refine ⟨Finset.mem_erase.mpr ⟨hne, huse⟩, fun hheld => hlost ?_⟩
    exact hheld.imp_left Holds.of_endDialog
  | cancel hown hp =>
    rename_i callId pending
    have hne : port ≠ pending.localRtpPort :=
      fun he => hlost (.inl (.inl ⟨callId, pending, hp, he.symm⟩))
    refine ⟨Finset.mem_erase.mpr ⟨hne, huse⟩, fun hheld => hlost ?_⟩
    exact hheld.imp_left Holds.of_refuse
  | orphanReady hrest hp =>
    rename_i params rest
    have hmem : ∀ x ∈ params ::ₘ rest, x ∈ v.inFlight := fun x hx => hrest ▸ hx
    have hne : port ≠ params.localRtpPort :=
      fun he => hlost (.inr ⟨params, hmem _ (Multiset.mem_cons_self ..), he.symm⟩)
    refine ⟨Finset.mem_erase.mpr ⟨hne, huse⟩, fun hheld => hlost ?_⟩
    exact Held.mono (fun x hx => hmem x (Multiset.mem_cons_of_mem hx)) hheld
  | orphanFailed hrest hp =>
    rename_i params rest
    refine ⟨huse, fun hheld => hlost (Held.mono (fun x hx => ?_) hheld)⟩
    exact hrest ▸ Multiset.mem_cons_of_mem hx
  | refuse hrest hp htask =>
    rename_i params pending rest
    have hne : port ≠ pending.localRtpPort :=
      fun he => hlost (.inl (.inl ⟨params.callId, pending, hp, he.symm⟩))
    refine ⟨Finset.mem_erase.mpr ⟨hne, huse⟩, fun hheld => hlost ?_⟩
    exact Held.mono (fun x hx => hrest ▸ Multiset.mem_cons_of_mem hx)
      (hheld.imp_left Holds.of_refuse)
  | accept hrest hp htask hport hbridge =>
    rename_i params pending dialog rest
    refine ⟨huse, fun hheld => hlost ?_⟩
    exact Held.mono (fun x hx => hrest ▸ Multiset.mem_cons_of_mem hx)
      (hheld.imp_left (Holds.of_accept hp hport))

theorem CallRun.lost {own : Prop} {v w : CallSystem} (hr : CallRun own v w) {port : Nat}
    (huse : port ∈ v.calls.pool.inUse) (hlost : ¬ v.Held port) :
    port ∈ w.calls.pool.inUse ∧ ¬ w.Held port := by
  induction hr with
  | refl => exact ⟨huse, hlost⟩
  | tail _ hs ih => exact hs.lost ih.1 ih.2

section

variable {own : Prop} {t : CallTables} {f : Multiset InboundBridgeParams} {callId : Str}

theorem Accounted.sweep (h : CallSystem.Accounted ⟨t, f⟩) (hw : Wired own ⟨t, f⟩) (now : Nat) :
    CallSystem.Accounted ⟨t.sweep now, f⟩ := by
  intro port huse
  rcases h port huse with (⟨c, p, hp, hport⟩ | hd) | hx
  · obtain ⟨x, hx, -, -, hx'⟩ := hw.pending c p hp
    exact .inr ⟨x, hx, hx'.trans hport⟩
  · exact .inl (.inr hd)
  · exact .inr hx

theorem Accounted.admitCall (h : CallSystem.Accounted ⟨t, f⟩) {pending : PendingInboundInvite}
    {params : InboundBridgeParams} (hpending : t.pending.lookup callId = none) :
    CallSystem.Accounted ⟨t.admitCall callId pending, params ::ₘ f⟩ := by
  intro port huse
  rcases Finset.mem_insert.mp huse with rfl | huse
  · exact .inl (.inl ⟨callId, pending, AList.lookup_insert _, rfl⟩)
  · rcases h port huse with (⟨c, p, hp, hport⟩ | hd) | ⟨x, hx, hport⟩
    · have hc : c ≠ callId := by
        rintro rfl
        exact absurd (hpending.symm.trans hp) nofun
      exact .inl (.inl ⟨c, p, (AList.lookup_insert_ne hc).trans hp, hport⟩)
    · exact .inl (.inr hd)
    · exact .inr ⟨x, Multiset.mem_cons_of_mem hx, hport⟩

theorem Accounted.endDialog (h : CallSystem.Accounted ⟨t, f⟩) {dialog : InboundDialog}
    (hdialog : t.dialogs.lookup callId = some dialog) :
    CallSystem.Accounted ⟨t.endDialog callId dialog, f⟩ := by
  intro port huse
  obtain ⟨hne, huse⟩ := Finset.mem_erase.mp huse
  exact (h port huse).imp_left (Holds.endDialog hdialog hne)

theorem Accounted.refuse (h : CallSystem.Accounted ⟨t, f⟩) {pending : PendingInboundInvite}
    (hpending : t.pending.lookup callId = some pending) :
    CallSystem.Accounted ⟨t.refuse callId pending, f⟩ := by
  intro port huse
  obtain ⟨hne, huse⟩ := Finset.mem_erase.mp huse
  exact (h port huse).imp_left (Holds.refuse hpending hne)

end

theorem PayloadMoves.accounted {e : Engine} {payload : Str} {t : CallTables}
    {sp : List InboundBridgeParams} {st : List InboundBridgeHandle} {f : Multiset InboundBridgeParams}
    (h : PayloadMoves e payload t sp st) (hacc : CallSystem.Accounted ⟨e.calls, f⟩) :
    CallSystem.Accounted ⟨t, f + ↑sp⟩ := by
  cases h with
  | admitted hreq hdialog hpending hfree htask hparams =>
    rw [Multiset.add_comm]
    exact Accounted.admitCall hacc hpending
  | byeDialog hreq hdialog =>
    rw [Multiset.coe_nil, Multiset.add_zero]
    exact Accounted.endDialog hacc hdialog
  | cancelPending hreq hpending =>
    rw [Multiset.coe_nil, Multiset.add_zero]
    exact Accounted.refuse hacc hpending
  | _ =>
    rw [Multiset.coe_nil, Multiset.add_zero]
    exact hacc

theorem Moves.accounted {own : Prop} {e : Engine} {event : EngineEvent} {t : CallTables}
    {sp : List InboundBridgeParams} {st : List InboundBridgeHandle} {f : Multiset InboundBridgeParams}
    (h : Moves e event t sp st) (hevent : ∀ callId result, event ≠ .inboundSetupResult callId result)
    (hw : Wired own ⟨e.calls, f⟩) (hacc : CallSystem.Accounted ⟨e.calls, f⟩) :
    CallSystem.Accounted ⟨t, f + ↑sp⟩ := by
  cases h with
  | endDialog hdialog =>
    rw [Multiset.coe_nil, Multiset.add_zero]
    exact Accounted.endDialog hacc hdialog
  | payload now hp =>
    have hwired : Wired False ⟨e.calls, f⟩ :=
      ⟨hw.tasks, hw.bounded, hw.pending, hw.disjoint, nofun⟩
    exact Accounted.sweep (hp.accounted hacc) (hwired.run (hp.callRun nofun)) now
  | command request =>
    rw [Multiset.coe_nil, Multiset.add_zero]
    exact hacc
  | endUnknown hd =>
    rw [Multiset.coe_nil, Multiset.add_zero]
    exact hacc
  | _ => exact absurd rfl (hevent _ _)

inductive TakesResult (e : Engine) (r : SetupResult) : CallTables → Prop
  | released (hp : e.pendingInbound.lookup r.params.callId = none) (hr : r.failure = none) :
      TakesResult e r (e.calls.discard (startInboundBridge r.params))
  | dropped (hp : e.pendingInbound.lookup r.params.callId = none) (hr : r.failure.isSome = true) :
      TakesResult e r e.calls
  | refused {pending : PendingInboundInvite}
      (hp : e.pendingInbound.lookup r.params.callId = some pending) :
      TakesResult e r (e.calls.refuse r.params.callId pending)
  | accepted {pending : PendingInboundInvite} {dialog : InboundDialog}
      (hp : e.pendingInbound.lookup r.params.callId = some pending)
      (hport : dialog.localRtpPort = pending.localRtpPort) :
      TakesResult e r (e.calls.accept r.params.callId dialog)

def System.inFlightAfter (s : System) (rest : List SetupResult) : Multiset InboundBridgeParams :=
  ↑s.setups + ↑(rest.map (·.params))

theorem view_of_results {s : System} {r : SetupResult} {rest : List SetupResult}
    (h : s.results = r :: rest) : s.view.inFlight = r.params ::ₘ s.inFlightAfter rest := by
  rw [System.view, System.inFlightAfter, h, List.map_cons, ← Multiset.cons_coe, Multiset.add_cons]

theorem receiveResult_cases {config : AppConfig} {env : Env} {s t : System}
    (h : s.step config (.receiveResult env) = some t) :
    ∃ r rest, s.results = r :: rest ∧ t.view = ⟨t.engine.calls, s.inFlightAfter rest⟩ ∧
      TakesResult s.engine r t.engine.calls := by
  simp only [System.step] at h
  split at h
  · cases h
  · rename_i r rest hresults
    obtain ⟨calls, sp, st, hmoves, hcalls, hview⟩ := turn_view h
    refine ⟨r, rest, hresults, ?_⟩
    rw [hview, hcalls]
    generalize hres : r.result = result at hmoves
    cases hmoves with
    | orphanReady bridge hp =>
      have hfailure : r.failure = none := by
        cases hf : r.failure with
        | none => rfl
        | some reason => simp [SetupResult.result, hf] at hres
      obtain rfl := SetupResult.result_eq_ok hres
      exact ⟨by rw [Multiset.coe_nil, Multiset.add_zero, System.inFlightAfter],
        .released hp hfailure⟩
    | orphanFailed reason hp =>
      have hfailure : r.failure.isSome = true := by
        cases hf : r.failure with
        | none => simp [SetupResult.result, hf] at hres
        | some reason => rfl
      exact ⟨by rw [Multiset.coe_nil, Multiset.add_zero, System.inFlightAfter],
        .dropped hp hfailure⟩
    | failed reason hp =>
      exact ⟨by rw [Multiset.coe_nil, Multiset.add_zero, System.inFlightAfter], .refused hp⟩
    | unanswered bridge hp =>
      exact ⟨by rw [Multiset.coe_nil, Multiset.add_zero, System.inFlightAfter], .refused hp⟩
    | accepted hp hport =>
      exact ⟨by rw [Multiset.coe_nil, Multiset.add_zero, System.inFlightAfter], .accepted hp hport⟩

section

variable {own : Prop} {e : Engine} {r : SetupResult} {calls : CallTables}
  {rest : Multiset InboundBridgeParams}

theorem TakesResult.accounted (h : TakesResult e r calls)
    (hw : Wired own ⟨e.calls, r.params ::ₘ rest⟩)
    (hacc : CallSystem.Accounted ⟨e.calls, r.params ::ₘ rest⟩)
    (hheld : (r.failure.isSome = true ∨
        (e.pendingInbound.lookup r.params.callId).isSome = true) →
      r.params.localRtpPort ∈ e.rtpPortPool.inUse →
        CallSystem.Held ⟨e.calls, rest⟩ r.params.localRtpPort) :
    CallSystem.Accounted ⟨calls, rest⟩ := by
  have hrest : (r.failure.isSome = true ∨
      (e.pendingInbound.lookup r.params.callId).isSome = true) →
      CallSystem.Accounted ⟨e.calls, rest⟩ := by
    intro hcase port huse
    rcases hacc port huse with ht | ⟨x, hx, hport⟩
    · exact .inl ht
    · rcases Multiset.mem_cons.mp hx with rfl | hx
      · exact hport ▸ hheld hcase (hport ▸ huse)
      · exact .inr ⟨x, hx, hport⟩
  cases h with
  | released hp hr =>
    intro port huse
    obtain ⟨hne, huse⟩ := Finset.mem_erase.mp huse
    rcases hacc port huse with ht | ⟨x, hx, hport⟩
    · exact .inl ht
    · rcases Multiset.mem_cons.mp hx with rfl | hx
      · exact absurd hport.symm hne
      · exact .inr ⟨x, hx, hport⟩
  | dropped hp hr => exact hrest (.inl hr)
  | refused hp => exact Accounted.refuse (hrest (.inr (by rw [hp]; rfl))) hp
  | accepted hp hport =>
    intro port huse
    have hcase := hrest (.inr (by rw [hp]; rfl)) port huse
    exact hcase.imp_left (Holds.accept hp (hw.disjoint _ _ hp) hport)

theorem TakesResult.strands (h : TakesResult e r calls)
    (hcase : r.failure.isSome = true ∨
      (e.pendingInbound.lookup r.params.callId).isSome = true)
    (huse : r.params.localRtpPort ∈ e.rtpPortPool.inUse)
    (hlost : ¬ CallSystem.Held ⟨e.calls, rest⟩ r.params.localRtpPort) :
    ¬ CallSystem.Accounted ⟨calls, rest⟩ := by
  intro hacc
  cases h with
  | released hp hr =>
    rw [hp, hr] at hcase
    exact hcase.elim nofun nofun
  | dropped hp hr => exact hlost (hacc _ huse)
  | refused hp =>
    rename_i pending
    have hne : r.params.localRtpPort ≠ pending.localRtpPort :=
      fun he => hlost (.inl (.inl ⟨_, pending, hp, he.symm⟩))
    exact hlost ((hacc _ (Finset.mem_erase.mpr ⟨hne, huse⟩)).imp_left Holds.of_refuse)
  | accepted hp hport => exact hlost ((hacc _ huse).imp_left (Holds.of_accept hp hport))

end

/-- A step leads to a state that accounts for its ports exactly from one that
does, and by not taking the result of the last setup with its port. -/
theorem step_accounted_iff {config : AppConfig} {s t : System} {a : Action}
    (hw : Wired False s.view) (h : s.step config a = some t) :
    t.view.Accounted ↔ s.view.Accounted ∧ ¬ s.StrandsPort a := by
  have hback : t.view.Accounted → s.view.Accounted := by
    intro hacc port huse
    by_contra hlost
    have hrun : CallRun False s.view t.view := step_callRun h nofun
    obtain ⟨huse, hlost⟩ := hrun.lost huse hlost
    exact hlost (hacc port huse)
  cases a with
  | receiveResult env =>
    obtain ⟨r, rest, hresults, hview, htakes⟩ := receiveResult_cases h
    have hbefore := view_of_results hresults
    rw [hview] at hback ⊢
    refine ⟨fun hacc => ⟨hback hacc, ?_⟩, ?_⟩
    · rintro ⟨r', rest', hr', hcase, huse, hlost⟩
      obtain ⟨rfl, rfl⟩ := List.cons.inj (hresults.symm.trans hr')
      exact htakes.strands hcase huse hlost hacc
    · rintro ⟨hacc, hno⟩
      have hsplit : s.view = ⟨s.engine.calls, r.params ::ₘ s.inFlightAfter rest⟩ := by
        rw [← hbefore]
        rfl
      rw [hsplit] at hw hacc
      refine htakes.accounted hw hacc fun hcase huse => ?_
      by_contra hlost
      exact hno ⟨r, rest, hresults, hcase, huse, hlost⟩
  | command env request =>
    obtain ⟨e, out, hmoves, rfl⟩ := turn_eq_some
      (show s.turn config env (.command request) = some _ from h)
    rw [view_afterTurn] at hback ⊢
    exact ⟨fun hacc => ⟨hback hacc, id⟩, fun hacc => hmoves.accounted (by simp) hw hacc.1⟩
  | datagram env payload sourceAddr =>
    obtain ⟨e, out, hmoves, rfl⟩ := turn_eq_some
      (show s.turn config env (.datagram payload sourceAddr) = some _ from h)
    rw [view_afterTurn] at hback ⊢
    exact ⟨fun hacc => ⟨hback hacc, id⟩, fun hacc => hmoves.accounted (by simp) hw hacc.1⟩
  | receiveEnd env =>
    simp only [System.step] at h
    split at h
    · cases h
    · obtain ⟨e, out, hmoves, rfl⟩ := turn_eq_some h
      rw [view_afterTurn] at hback ⊢
      exact ⟨fun hacc => ⟨hback hacc, id⟩, fun hacc => hmoves.accounted (by simp) hw hacc.1⟩
  | finishSetup i failure =>
    obtain ⟨params, hi, rfl⟩ := Option.map_eq_some_iff.mp h
    rw [view_finish failure hi]
    exact ⟨fun hacc => ⟨hacc, id⟩, fun hacc => hacc.1⟩
  | bridgeEnds i =>
    obtain ⟨bridge, hi, rfl⟩ := Option.map_eq_some_iff.mp h
    exact ⟨fun hacc => ⟨hacc, id⟩, fun hacc => hacc.1⟩

/-- No pending INVITE, no dialog, and no setup or event in flight. -/
structure System.Quiet (s : System) : Prop where
  pending : s.engine.pendingInbound = ∅
  dialogs : s.engine.inboundDialogs = ∅
  setups : s.setups = []
  results : s.results = []
  endEvents : s.endEvents = []

theorem System.Quiet.accounted_iff {s : System} (h : s.Quiet) :
    s.view.Accounted ↔ s.engine.rtpPortPool.inUse = ∅ := by
  constructor
  · intro hacc
    refine Finset.eq_empty_of_forall_notMem fun port huse => ?_
    rcases hacc port huse with (⟨c, p, hp, -⟩ | ⟨c, d, hd, -⟩) | ⟨x, hx, -⟩
    · have hp : s.engine.pendingInbound.lookup c = some p := hp
      rw [h.pending, AList.lookup_empty] at hp
      cases hp
    · have hd : s.engine.inboundDialogs.lookup c = some d := hd
      rw [h.dialogs, AList.lookup_empty] at hd
      cases hd
    · rw [System.view, h.setups, h.results] at hx
      exact absurd hx (Multiset.notMem_zero x)
  · intro hempty port huse
    have huse : port ∈ s.engine.rtpPortPool.inUse := huse
    rw [hempty] at huse
    exact absurd huse (Finset.notMem_empty port)

/-- A run that ends in a quiet state has given every port back exactly when no
step of it took the result of the last setup with its port. -/
theorem quiet_ports_free_iff {config : AppConfig} {actions : List Action} {s : System}
    (h : exec (System.step config) (System.init config) actions = some s) (hquiet : s.Quiet) :
    s.engine.rtpPortPool.inUse = ∅ ↔
      AllSteps (System.step config) (fun s a => ¬ s.StrandsPort a) (System.init config) actions := by
  have hinit : (System.init config).view.Accounted := fun port huse =>
    absurd huse (Finset.notMem_empty port)
  have hinv : ∀ s a t, Wired False s.view → System.step config s a = some t →
      Wired False t.view := fun s a t hw hs => hw.run (step_callRun hs nofun)
  rw [← hquiet.accounted_iff, exec_good_iff h (wired_init False config) hinv
    fun s a t hw hs => step_accounted_iff hw hs]
  exact ⟨fun hall => hall.2, fun hall => ⟨hinit, hall⟩⟩

theorem eq_empty_of_keys {V : Type} {m : Map Str V} (h : m.keys = []) : m = ∅ :=
  AList.ext (List.map_eq_nil_iff.mp h)

def System.census (s : System) : List Str × List Str × Nat × Nat × List Str :=
  (s.engine.pendingInbound.keys, s.engine.inboundDialogs.keys, s.setups.length, s.results.length,
    s.endEvents)

theorem quiet_of_census {s : System} (h : s.census = ([], [], 0, 0, [])) : s.Quiet := by
  simp only [System.census, Prod.mk.injEq, List.length_eq_zero_iff] at h
  exact ⟨eq_empty_of_keys h.1, eq_empty_of_keys h.2.1, h.2.2.1, h.2.2.2.1, h.2.2.2.2⟩

/-- An established call that ends with BYE gives its port back. -/
theorem ended_call_returns_its_port :
    ∃ s : System, s.Quiet ∧ (s.engine.rtpPortPool.inUse = ∅ ↔
      AllSteps (System.step smallConfig) (fun s a => ¬ s.StrandsPort a) (System.init smallConfig)
        [peerSends "INVITE" "c", .finishSetup 0 none, .receiveResult quietEnv,
          peerSends "BYE" "c"]) := by
  have hex : (exec (System.step smallConfig) (System.init smallConfig)
      [peerSends "INVITE" "c", .finishSetup 0 none, .receiveResult quietEnv,
        peerSends "BYE" "c"]).map System.census = some ([], [], 0, 0, []) := by decide +kernel
  obtain ⟨s, hs, hcensus⟩ := Option.map_eq_some_iff.mp hex
  exact ⟨s, quiet_of_census hcensus, quiet_ports_free_iff hs (quiet_of_census hcensus)⟩

/-- A setup fails after the sweep has dropped its INVITE: the port stays in use. -/
theorem swept_setup_keeps_its_port :
    ¬ ∀ s : System, Run smallConfig (System.init smallConfig) s → s.Quiet →
      s.engine.rtpPortPool.inUse = ∅ := by
  intro hall
  have hex : (exec (System.step smallConfig) (System.init smallConfig)
      [peerSends "INVITE" "c", .datagram { quietEnv with sweepAt := 60 } [] peerAddr,
        .finishSetup 0 (some []), .receiveResult quietEnv]).map
      (fun s => decide (s.census = ([], [], 0, 0, []) ∧ 10000 ∈ s.engine.rtpPortPool.inUse)) =
        some true := by decide +kernel
  obtain ⟨s, hs, heq⟩ := Option.map_eq_some_iff.mp hex
  obtain ⟨hcensus, huse⟩ := of_decide_eq_true heq
  rw [hall s (run_of_exec hs) (quiet_of_census hcensus)] at huse
  exact absurd huse (Finset.notMem_empty _)

end DemoService.Sip
