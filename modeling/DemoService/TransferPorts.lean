import DemoService.ControlPlane
import DemoService.Holders

/-! Who owns the ports of the transfer pool. A port is given back only when its own request
fails, so a transfer that succeeded keeps its port when another one replaces it. -/

namespace DemoService.ControlPlane

open GuardedRuns RustText Sip Holders

/-- The port that a handler has from the pool; a transfer that was answered keeps its port. -/
def Task.heldPort : Task → Option Nat
  | .loading _ rtpPort => some rtpPort
  | .publishing _ rtpPort _ => some rtpPort
  | .sending _ rtpPort => some rtpPort
  | .answered (.transferStarted _ _ rtpPort) => some rtpPort
  | _ => none

def Task.transferring : Task → Bool
  | .allocating _ => true
  | .loading _ _ => true
  | .publishing _ _ _ => true
  | .sending _ _ => true
  | _ => false

/-- The latest transfer of a session after an operation; a new session has had none. -/
def SessionOp.latest (handler : Nat) : SessionOp → Option Nat → Option Nat
  | .create, _ => none
  | .transfer _, _ => some handler
  | _, latest => latest

/-- The operation puts another transfer, or none, in the place of the session's latest one. -/
def SessionOp.replaces : SessionOp → Bool
  | .create => true
  | .transfer _ => true
  | _ => false

def latestTransfer (writes : List Write) (id : Str) : Option Nat :=
  writes.foldl (fun latest write =>
    if write.sessionId = id then write.op.latest write.handler latest else latest) none

/-- The port belongs to a transfer that is being handled, or that is the latest of a registered
session. -/
def PortOwned (s : System) (port : Nat) : Prop :=
  ∃ (handler : Nat) (task : Task), s.handlers[handler]? = some task ∧ task.heldPort = some port ∧
    (task.transferring = true ∨ ∃ id, (s.app.sessions.get id).isSome = true ∧
      latestTransfer s.writes id = some handler)

def PortsOwned (s : System) : Prop := ∀ port ∈ s.app.rtpPorts.inUse, PortOwned s port

/-- The latest transfer of the session has been answered with success. -/
def Served (s : System) (id : Str) : Prop :=
  ∃ (handler : Nat) (sessionId : Str) (state : CallState) (rtpPort : Nat),
    latestTransfer s.writes id = some handler ∧
      s.handlers[handler]? = some (.answered (.transferStarted sessionId state rtpPort))

/-- No session is replaced whose latest transfer was answered with success, and no transfer is
answered with success after it was replaced. -/
def TransfersKept (s : System) : Event → Prop
  | .arrives _ => True
  | .proceeds handler engineUp => ∀ task, s.handlers[handler]? = some task →
      (∀ w, task.write s.app = some w → w.2.replaces = true → ¬ Served s w.1) ∧
      ∀ payload rtpPort, task = .sending payload rtpPort → engineUp = true →
        latestTransfer s.writes payload.sessionId = some handler

theorem latestTransfer_append (writes : List Write) (write : Write) (id : Str) :
    latestTransfer (writes ++ [write]) id =
      if write.sessionId = id then write.op.latest write.handler (latestTransfer writes id)
      else latestTransfer writes id := by
  simp [latestTransfer]

/-! ### One critical section -/

section Proceed

variable {engineUp : Bool} {app app' : AppState} {task task' : Task}

/-- A handler keeps its port, takes a free one, or gives its own back. -/
theorem proceeds_change (h : Proceeds engineUp app task app' task') :
    Change app.rtpPorts.inUse task.heldPort task'.heldPort app'.rtpPorts.inUse := by
  cases h with
  | create sessionId => exact .keep none
  | update sessionId state session => exact .keep none
  | updateMissing sessionId state => exact .keep none
  | refuse payload status text => exact .keep none
  | allocate payload rtpPort pool hport =>
    obtain ⟨hfree, rfl⟩ := BoundedRtpPortPool.allocate_eq_some hport
    exact .take rtpPort hfree
  | load payload rtpPort => exact .keep (some rtpPort)
  | badTarget payload rtpPort session htarget => exact .release rtpPort
  | publish payload rtpPort session tx senders nextChannel hwrite => exact .keep (some rtpPort)
  | send payload rtpPort hup => exact .keep (some rtpPort)
  | sendFails payload rtpPort hdown => exact .release rtpPort
  | connect sessionId => exact .keep none
  | register session => exact .keep none

/-- The transfer of a session that has been published, whatever has become of it since. -/
def Task.Published (id : Str) : Task → Prop
  | .sending payload _ => payload.sessionId = id
  | .answered (.transferStarted sessionId _ _) => sessionId = id
  | .answered (.refused _ _) => True
  | _ => False

theorem proceeds_published (h : Proceeds engineUp app task app' task') {id : Str}
    (hpublished : task.Published id) : task'.Published id := by
  cases h with
  | send payload rtpPort hup => exact hpublished
  | sendFails payload rtpPort hdown => trivial
  | _ => exact (show False from hpublished).elim

theorem proceeds_registered (h : Proceeds engineUp app task app' task') {id : Str}
    (hsome : (app.sessions.get id).isSome = true) : (app'.sessions.get id).isSome = true := by
  have hupsert : ∀ session, ((app.sessions.upsert session).get id).isSome = true := by
    intro session
    rw [SessionRegistry.get_upsert]
    by_cases hid : id = session.sessionId
    · simp [hid]
    · simpa [hid] using hsome
  have hupdate : ∀ sessionId state,
      ((app.sessions.updateState sessionId state).2.get id).isSome = true := by
    intro sessionId state
    rw [SessionRegistry.get_updateState]
    by_cases hid : id = sessionId
    · simpa [hid] using hsome
    · simpa [hid] using hsome
  cases h with
  | create sessionId => exact hupsert _
  | update sessionId state session => exact hupdate _ _
  | updateMissing sessionId state => exact hupdate _ _
  | publish payload rtpPort session tx senders nextChannel hwrite => exact hupsert _
  | register session => exact hupsert _
  | _ => exact hsome

theorem proceeds_transfer (h : Proceeds engineUp app task app' task') {id : Str}
    {tx : Option Channel} (hwrite : task.write app = some (id, .transfer tx)) :
    (app'.sessions.get id).isSome = true ∧ ∃ payload rtpPort session,
      task = .publishing payload rtpPort session ∧ session.sessionId = id ∧
        task' = .sending payload rtpPort := by
  cases h with
  | publish payload rtpPort session tx' senders nextChannel hpublish =>
    obtain rfl := (Prod.mk.inj (Option.some.inj (hpublish.symm.trans hwrite))).1
    refine ⟨?_, payload, rtpPort, session, rfl, rfl, rfl⟩
    dsimp only
    rw [SessionRegistry.get_upsert]
    exact Option.isSome_iff_exists.mpr ⟨_, if_pos rfl⟩
  | badTarget payload rtpPort session htarget => simp [Task.write, htarget] at hwrite
  | _ => simp [Task.write] at hwrite

theorem proceeds_started (h : Proceeds engineUp app task app' task') {sessionId : Str}
    {state : CallState} {rtpPort : Nat}
    (hstarted : task' = .answered (.transferStarted sessionId state rtpPort)) :
    engineUp = true ∧ ∃ payload, task = .sending payload rtpPort ∧
      payload.sessionId = sessionId := by
  cases h with
  | send payload rtpPort hup =>
    cases hstarted
    exact ⟨hup, payload, rfl, rfl⟩
  | _ => cases hstarted

theorem proceeds_loaded (h : Proceeds engineUp app task app' task') {payload : StartTransferRequest}
    {rtpPort : Nat} {session : CallSession} (hloaded : task' = .publishing payload rtpPort session) :
    session.sessionId = payload.sessionId := by
  cases h with
  | load payload rtpPort =>
    cases hloaded
    exact loadSession_sessionId app payload.sessionId
  | _ => cases hloaded

theorem not_proceeds_answered {response : Response} :
    ¬ Proceeds engineUp app (.answered response) app' task' := nofun

end Proceed

/-! ### The ledger of a run -/

/-- How the pool, the handlers and the registry hang together. -/
structure Ledger (s : System) : Prop where
  ports : Exact Task.heldPort s.handlers s.app.rtpPorts.inUse
  latest : ∀ id handler, latestTransfer s.writes id = some handler →
    (s.app.sessions.get id).isSome = true ∧
      ∃ task, s.handlers[handler]? = some task ∧ task.Published id
  loaded : ∀ {handler : Nat} {payload : StartTransferRequest} {rtpPort : Nat}
    {session : CallSession}, s.handlers[handler]? = some (.publishing payload rtpPort session) →
    session.sessionId = payload.sessionId

theorem ledger_initial (host : Str) (trunkPort start stop : Nat) :
    Ledger (System.fresh (.initial host trunkPort start stop)) where
  ports := exact_nil _
  latest := fun id handler h => by simp [System.fresh, latestTransfer] at h
  loaded := fun h => by simp [System.fresh] at h

theorem start_heldPort (request : Request) : (Task.start request).heldPort = none := by
  cases request <;> rfl

theorem getElem?_append_start {handlers : List Task} {request : Request} {handler : Nat} {task : Task}
    (h : (handlers ++ [Task.start request])[handler]? = some task) :
    handlers[handler]? = some task ∨ task = Task.start request := by
  by_cases hlt : handler < handlers.length
  · rw [List.getElem?_append_left hlt] at h
    exact .inl h
  · have hmem := List.mem_of_getElem? h
    rw [List.getElem?_append_right (Nat.le_of_not_lt hlt)] at h
    exact .inr (List.mem_singleton.mp (List.mem_of_getElem? h))

theorem latestTransfer_write {writes : List Write} {handler : Nat} {w : Option (Str × SessionOp)}
    {id : Str} {found : Nat}
    (h : latestTransfer (writes ++ (w.map fun w => (⟨handler, w.1, w.2⟩ : Write)).toList) id =
      some found) :
    latestTransfer writes id = some found ∨
      (found = handler ∧ ∃ tx, w = some (id, .transfer tx)) := by
  cases w with
  | none => exact .inl (by simpa using h)
  | some w =>
    obtain ⟨sessionId, op⟩ := w
    simp only [Option.map_some, Option.toList_some, latestTransfer_append] at h
    by_cases hid : sessionId = id
    · rw [if_pos hid] at h
      cases op with
      | create => simp [SessionOp.latest] at h
      | setState state => exact .inl h
      | transfer tx => exact .inr ⟨(Option.some.inj h).symm, tx, by rw [hid]⟩
      | connect => exact .inl h
    · rw [if_neg hid] at h
      exact .inl h

theorem Ledger.step {s t : System} {event : Event} (hs : Ledger s) (h : step s event = some t) :
    Ledger t := by
  cases event with
  | arrives request =>
    obtain rfl := Option.some.inj h
    refine ⟨hs.ports.append (start_heldPort request), fun id handler hlatest => ?_, fun hloaded => ?_⟩
    · obtain ⟨hregistered, task, htask, hpublished⟩ := hs.latest id handler hlatest
      have hlt : handler < s.handlers.length := (List.getElem?_eq_some_iff.mp htask).1
      exact ⟨hregistered, task, by rwa [List.getElem?_append_left hlt], hpublished⟩
    · rcases getElem?_append_start hloaded with hloaded | hloaded
      · exact hs.loaded hloaded
      · cases request <;> cases hloaded
  | proceeds handler engineUp =>
    obtain ⟨task, app', task', htask, hproceeds, rfl⟩ := step_proceeds h
    refine ⟨hs.ports.set htask (proceeds_change hproceeds), fun id found hlatest => ?_,
      fun hloaded => ?_⟩
    · rcases latestTransfer_write hlatest with hlatest | ⟨rfl, tx, hwrite⟩
      · obtain ⟨hregistered, other, hother, hpublished⟩ := hs.latest id found hlatest
        refine ⟨proceeds_registered hproceeds hregistered, ?_⟩
        by_cases hsame : handler = found
        · subst hsame
          obtain rfl := Option.some.inj (htask.symm.trans hother)
          exact ⟨task', getElem?_set_of htask, proceeds_published hproceeds hpublished⟩
        · exact ⟨other, by rwa [List.getElem?_set_ne hsame], hpublished⟩
      · obtain ⟨hregistered, payload, rtpPort, session, rfl, hid, rfl⟩ :=
          proceeds_transfer hproceeds hwrite
        exact ⟨hregistered, _, getElem?_set_of htask, (hs.loaded htask).symm.trans hid⟩
    · rcases getElem?_set_cases hloaded with ⟨-, hloaded⟩ | ⟨-, hloaded⟩
      · exact proceeds_loaded hproceeds hloaded.symm
      · exact hs.loaded hloaded

/-- Every transfer answered with success is still the latest of its session. -/
def Kept (s : System) : Prop :=
  ∀ (handler : Nat) (sessionId : Str) (state : CallState) (rtpPort : Nat),
    s.handlers[handler]? = some (.answered (.transferStarted sessionId state rtpPort)) →
      latestTransfer s.writes sessionId = some handler

theorem Ledger.session_eq {s : System} (h : Ledger s) {id sessionId : Str} {handler rtpPort : Nat}
    {state : CallState} (hlatest : latestTransfer s.writes id = some handler)
    (htask : s.handlers[handler]? = some (.answered (.transferStarted sessionId state rtpPort))) :
    sessionId = id := by
  obtain ⟨-, task, htask', hpublished⟩ := h.latest id handler hlatest
  obtain rfl := Option.some.inj (htask.symm.trans htask')
  exact hpublished

theorem heldPort_cases {task : Task} {port : Nat} (h : task.heldPort = some port) :
    task.transferring = true ∨
      ∃ sessionId state, task = .answered (.transferStarted sessionId state port) := by
  cases task with
  | answered response =>
    cases response with
    | transferStarted sessionId state rtpPort =>
      obtain rfl := Option.some.inj h
      exact .inr ⟨sessionId, state, rfl⟩
    | session sessionId state => cases h
    | refused status text => cases h
  | loading payload rtpPort => exact .inl rfl
  | publishing payload rtpPort session => exact .inl rfl
  | sending payload rtpPort => exact .inl rfl
  | _ => cases h

theorem Ledger.portsOwned_iff {s : System} (h : Ledger s) : PortsOwned s ↔ Kept s := by
  constructor
  · intro howned handler sessionId state rtpPort htask
    have hused : rtpPort ∈ s.app.rtpPorts.inUse := (h.ports.held rtpPort).mpr ⟨handler, _, htask, rfl⟩
    obtain ⟨other, task, hother, hheld, howner⟩ := howned rtpPort hused
    obtain rfl := h.ports.once htask hother rfl hheld
    obtain rfl := Option.some.inj (htask.symm.trans hother)
    rcases howner with hbusy | ⟨id, -, hlatest⟩
    · cases hbusy
    · rw [h.session_eq hlatest htask]
      exact hlatest
  · intro hkept port hused
    obtain ⟨handler, task, htask, hheld⟩ := (h.ports.held port).mp hused
    refine ⟨handler, task, htask, hheld, ?_⟩
    rcases heldPort_cases hheld with hbusy | ⟨sessionId, state, rfl⟩
    · exact .inl hbusy
    · have hlatest := hkept handler sessionId state port htask
      exact .inr ⟨sessionId, (h.latest sessionId handler hlatest).1, hlatest⟩

theorem latestTransfer_replaced {writes : List Write} {handler : Nat} {op : SessionOp}
    (hreplaces : op.replaces = true) {id : Str} {found : Nat} (hne : found ≠ handler) :
    latestTransfer (writes ++ [⟨handler, id, op⟩]) id ≠ some found := by
  rw [latestTransfer_append, if_pos rfl]
  cases op with
  | create => simp [SessionOp.latest]
  | setState state => cases hreplaces
  | transfer tx => simpa [SessionOp.latest] using hne.symm
  | connect => cases hreplaces

theorem latestTransfer_kept {writes : List Write} {handler : Nat} {w : Option (Str × SessionOp)}
    {id : Str} (h : ∀ op, w = some (id, op) → op.replaces = false) :
    latestTransfer (writes ++ (w.map fun w => (⟨handler, w.1, w.2⟩ : Write)).toList) id =
      latestTransfer writes id := by
  cases w with
  | none => simp
  | some w =>
    obtain ⟨sessionId, op⟩ := w
    simp only [Option.map_some, Option.toList_some, latestTransfer_append]
    by_cases hid : sessionId = id
    · subst hid
      have hop := h op rfl
      rw [if_pos rfl]
      cases op with
      | create => cases hop
      | setState state => rfl
      | transfer tx => cases hop
      | connect => rfl
    · rw [if_neg hid]

theorem kept_step {s t : System} {event : Event} (hs : Ledger s) (hkept : Kept s)
    (h : step s event = some t) : Kept t ↔ TransfersKept s event := by
  cases event with
  | arrives request =>
    obtain rfl := Option.some.inj h
    refine iff_of_true (fun handler sessionId state rtpPort htask => ?_) trivial
    rcases getElem?_append_start htask with htask | hstart
    · exact hkept handler sessionId state rtpPort htask
    · cases request <;> cases hstart
  | proceeds handler engineUp =>
    obtain ⟨task, app', task', htask, hproceeds, rfl⟩ := step_proceeds h
    constructor
    · intro hthen found hfound
      obtain rfl := Option.some.inj (htask.symm.trans hfound)
      refine ⟨?_, ?_⟩
      · rintro ⟨id, op⟩ hwrite hreplaces ⟨other, sessionId, state, rtpPort, hlatest, hother⟩
        have hne : other ≠ handler := by
          rintro rfl
          obtain rfl := Option.some.inj (htask.symm.trans hother)
          exact not_proceeds_answered hproceeds
        have hstill := hthen other sessionId state rtpPort
          (by rwa [List.getElem?_set_ne (Ne.symm hne)])
        rw [hs.session_eq hlatest hother] at hstill
        simp only [hwrite] at hstill
        exact latestTransfer_replaced hreplaces hne hstill
      · rintro payload rtpPort rfl rfl
        cases hproceeds with
        | send payload rtpPort hup =>
          have hstill := hthen handler payload.sessionId .warmTransferActive rtpPort
            (getElem?_set_of htask)
          simpa [Task.write] using hstill
        | sendFails payload rtpPort hdown => cases hdown
    · intro hok other sessionId state rtpPort hother
      obtain ⟨hreplaced, hsent⟩ := hok task htask
      rcases getElem?_set_cases hother with ⟨rfl, hstarted⟩ | ⟨hne, hother⟩
      · obtain ⟨hup, payload, rfl, rfl⟩ := proceeds_started hproceeds hstarted.symm
        simpa [Task.write] using hsent payload rtpPort rfl hup
      · have hlatest := hkept other sessionId state rtpPort hother
        refine (latestTransfer_kept fun op hwrite => ?_).trans hlatest
        by_contra hreplaces
        exact hreplaced _ hwrite (by simpa using hreplaces)
          ⟨other, sessionId, state, rtpPort, hlatest, hother⟩

/-- The ports in use are no more than the sessions and the transfers being handled. -/
def WithinSessions (s : System) : Prop :=
  s.app.rtpPorts.inUse.card ≤
    s.app.sessions.inner.keys.length + (s.handlers.filter Task.transferring).length

theorem Ledger.withinSessions {s : System} (h : Ledger s) (howned : PortsOwned s) :
    WithinSessions s := by
  refine h.ports.card_le Task.transferring s.app.sessions.inner.keys (latestTransfer s.writes) ?_
  intro handler task port htask hheld
  obtain ⟨other, found, hother, hheld', howner⟩ :=
    howned port ((h.ports.held port).mpr ⟨handler, task, htask, hheld⟩)
  obtain rfl := h.ports.once htask hother hheld hheld'
  obtain rfl := Option.some.inj (htask.symm.trans hother)
  refine howner.imp_right ?_
  rintro ⟨id, hregistered, hlatest⟩
  exact ⟨id, AList.lookup_isSome.mp hregistered, hlatest⟩

/-- In a run of the gateway every port in use belongs to the latest transfer of a session or to
a transfer being handled exactly when no session is replaced whose latest transfer succeeded,
and no transfer succeeds after it was replaced. Then the ports are no more than those. -/
theorem transfer_ports_owned_iff (host : Str) (trunkPort start stop : Nat) (events : List Event)
    (t : System)
    (h : exec step (System.fresh (.initial host trunkPort start stop)) events = some t) :
    (Always step PortsOwned (System.fresh (.initial host trunkPort start stop)) events ↔
      AllSteps step TransfersKept (System.fresh (.initial host trunkPort start stop)) events) ∧
    (AllSteps step TransfersKept (System.fresh (.initial host trunkPort start stop)) events →
      Always step WithinSessions (System.fresh (.initial host trunkPort start stop)) events) := by
  have hfirst := ledger_initial host trunkPort start stop
  have hgood : PortsOwned (System.fresh (.initial host trunkPort start stop)) := by
    intro port hport
    exact absurd hport (Finset.notMem_empty port)
  have hiff : Always step PortsOwned (System.fresh (.initial host trunkPort start stop)) events ↔
      AllSteps step TransfersKept (System.fresh (.initial host trunkPort start stop)) events := by
    refine always_iff h hfirst hgood (fun _ _ _ => Ledger.step) fun s event t hs hgood hstep => ?_
    rw [(hs.step hstep).portsOwned_iff]
    exact kept_step hs (hs.portsOwned_iff.mp hgood) hstep
  refine ⟨hiff, fun hall => ?_⟩
  exact (hiff.mpr hall).mono_of_invariant (fun _ _ _ => Ledger.step)
    (fun _ => Ledger.withinSessions) hfirst

section Examples

/-- Two transfers of one session, one after the other. -/
def repeatedTransfer : List Event :=
  [.arrives (.startTransfer (transferRequest none)),
    .arrives (.startTransfer (transferRequest none)),
    .proceeds 0 true, .proceeds 0 true, .proceeds 0 true, .proceeds 0 true,
    .proceeds 1 true, .proceeds 1 true, .proceeds 1 true, .proceeds 1 true]

/-- A transfer that fails at the engine, and another one of the same session. -/
def retriedTransfer : List Event :=
  [.arrives (.startTransfer (transferRequest none)),
    .arrives (.startTransfer (transferRequest none)),
    .proceeds 0 true, .proceeds 0 true, .proceeds 0 true, .proceeds 0 false,
    .proceeds 1 true, .proceeds 1 true, .proceeds 1 true, .proceeds 1 true]

theorem retried_transfer_ports : ∃ t, exec step (System.fresh quietApp) retriedTransfer = some t ∧
    (Always step PortsOwned (System.fresh quietApp) retriedTransfer ↔
      AllSteps step TransfersKept (System.fresh quietApp) retriedTransfer) ∧
    (AllSteps step TransfersKept (System.fresh quietApp) retriedTransfer →
      Always step WithinSessions (System.fresh quietApp) retriedTransfer) :=
  ⟨_, rfl, transfer_ports_owned_iff "203.0.113.5".toList 5060 10000 10001 retriedTransfer _ rfl⟩

/-- After the second transfer two ports are in use for one session, and the pool is exhausted. -/
theorem repeated_transfer_leaks_port :
    ∃ t, exec step (System.fresh quietApp) repeatedTransfer = some t ∧
      t.app.rtpPorts.inUse = {10000, 10001} ∧ t.app.rtpPorts.allocate = none ∧
      ¬ PortsOwned t ∧ ¬ WithinSessions t := by
  obtain ⟨t, hexec⟩ : ∃ t, exec step (System.fresh quietApp) repeatedTransfer = some t := ⟨_, rfl⟩
  have hledger : Ledger t := (run_of_exec hexec).invariant (ledger_initial _ _ _ _)
    fun _ _ _ hs _ hstep => hs.step hstep
  have hexcess : ¬ WithinSessions t := by
    obtain rfl := Option.some.inj hexec
    change ¬ (_ ≤ _)
    decide +kernel
  refine ⟨t, hexec, ?_, ?_, mt hledger.withinSessions hexcess, hexcess⟩
  · obtain rfl := Option.some.inj hexec
    decide +kernel
  · obtain rfl := Option.some.inj hexec
    decide +kernel

end Examples

end DemoService.ControlPlane
