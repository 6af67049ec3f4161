import DemoService.ControlPlane

/-! Session updates under interleaving. A handler that reads an entry in one critical section
and writes it back in another loses what was written in between, unless its copy still gives
what its operation would make of the present entry. -/

namespace DemoService.ControlPlane

open GuardedRuns RustText Sip

def completedOps (writes : List Write) (id : Str) : List SessionOp :=
  (writes.filter fun write => write.sessionId = id).map Write.op

def serially (id : Str) (ops : List SessionOp) (entry : Option CallSession) : Option CallSession :=
  ops.foldl (fun entry op => op.apply id entry) entry

/-- Every entry is that of its completed operations in some order. -/
def Serializable (app : AppState) (s : System) : Prop :=
  ∀ id, ∃ order, List.Perm order (completedOps s.writes id) ∧
    s.app.sessions.get id = serially id order (app.sessions.get id)

/-- Every entry is that of its completed operations in the order of their writes. -/
def InWriteOrder (app : AppState) (s : System) : Prop :=
  ∀ id, s.app.sessions.get id = serially id (completedOps s.writes id) (app.sessions.get id)

/-- The entry on which the next write of a handler is based: its copy, if it has one. -/
def Task.basis (app : AppState) : Task → Str → Option CallSession
  | .publishing _ _ session, _ => some session
  | .registering session, _ => some session
  | _, id => app.sessions.get id

/-- The next write of the handler is what its operation makes of the present entry. -/
def Task.Current (app : AppState) (task : Task) : Prop :=
  ∀ w, task.write app = some w → w.2.apply w.1 (task.basis app w.1) =
    w.2.apply w.1 (app.sessions.get w.1)

def CopiesCurrent (s : System) : Event → Prop
  | .arrives _ => True
  | .proceeds handler _ => ∀ task, s.handlers[handler]? = some task → task.Current s.app

theorem completedOps_append (writes more : List Write) (id : Str) :
    completedOps (writes ++ more) id = completedOps writes id ++ completedOps more id := by
  simp [completedOps]

theorem serially_append (id : Str) (ops more : List SessionOp) (entry : Option CallSession) :
    serially id (ops ++ more) entry = serially id more (serially id ops entry) := by
  simp [serially]

/-! ### One step -/

theorem SessionRegistry.get_updateState_apply (registry : SessionRegistry) (sessionId : Str)
    (state : CallState) (id : Str) : (registry.updateState sessionId state).2.get id =
      if id = sessionId then (SessionOp.setState state).apply sessionId (registry.get sessionId)
      else registry.get id := by
  rw [SessionRegistry.get_updateState]
  by_cases hid : id = sessionId
  · simp [hid, SessionOp.apply]
  · simp [hid]

theorem proceeds_get {engineUp : Bool} {app app' : AppState} {task task' : Task}
    (h : Proceeds engineUp app task app' task') (id : Str) :
    app'.sessions.get id = match task.write app with
      | none => app.sessions.get id
      | some w => if id = w.1 then w.2.apply w.1 (task.basis app w.1) else app.sessions.get id := by
  cases h with
  | create sessionId => exact SessionRegistry.get_upsert _ _ _
  | update sessionId state session => exact SessionRegistry.get_updateState_apply _ _ _ _
  | updateMissing sessionId state => exact SessionRegistry.get_updateState_apply _ _ _ _
  | refuse payload status text => rfl
  | allocate payload rtpPort pool hport => rfl
  | load payload rtpPort => rfl
  | badTarget payload rtpPort session htarget => simp [Task.write, htarget]
  | publish payload rtpPort session tx senders nextChannel hwrite =>
    simp only [hwrite]
    exact SessionRegistry.get_upsert _ _ _
  | send payload rtpPort hup => rfl
  | sendFails payload rtpPort hdown => rfl
  | connect sessionId => rfl
  | register session => exact SessionRegistry.get_upsert _ _ _

theorem inWriteOrder_step {app : AppState} {s t : System} {event : Event}
    (hs : InWriteOrder app s) (h : step s event = some t) :
    InWriteOrder app t ↔ CopiesCurrent s event := by
  cases event with
  | arrives request =>
    obtain rfl := Option.some.inj h
    exact iff_of_true hs trivial
  | proceeds handler engineUp =>
    obtain ⟨task, app', task', htask, hproceed, rfl⟩ := step_proceeds h
    have hget := proceeds_get hproceed
    have hcurrent : CopiesCurrent s (.proceeds handler engineUp) ↔ task.Current s.app := by
      constructor
      · exact fun hcopies => hcopies task htask
      · intro hthis other hother
        rwa [Option.some.inj (hother.symm.trans htask)]
    rw [hcurrent]
    cases hwrite : task.write s.app with
    | none =>
      simp only [hwrite] at hget
      have hvacuous : task.Current s.app := fun w hw => by simp [hwrite] at hw
      refine iff_of_true (fun id => ?_) hvacuous
      simpa [hget id] using hs id
    | some w =>
      have hthis : task.Current s.app ↔ w.2.apply w.1 (task.basis s.app w.1) =
          w.2.apply w.1 (s.app.sessions.get w.1) := by
        simp [Task.Current, hwrite]
      rw [hthis]
      simp only [hwrite] at hget
      constructor
      · intro ht
        have hid := ht w.1
        simp only [hget, if_pos, Option.map_some, Option.toList_some, completedOps_append,
          serially_append, ← hs w.1] at hid
        simpa [completedOps, serially] using hid
      · intro heq id
        simp only [Option.map_some, Option.toList_some, completedOps_append, serially_append,
          ← hs id, hget]
        by_cases hid : id = w.1
        · simpa [hid, completedOps, serially] using heq
        · have hne : w.1 ≠ id := fun he => hid he.symm
          simp [hid, hne, completedOps, serially]

/-! ### Runs -/

theorem InWriteOrder.serializable {app : AppState} {s : System} (h : InWriteOrder app s) :
    Serializable app s :=
  fun id => ⟨_, List.Perm.refl _, h id⟩

/-- A run keeps every session entry equal to its completed operations, executed in the order of
their writes, exactly when no handler writes back a copy that has gone stale. Then the entries
are serializable in every state of the run. -/
theorem session_updates_serializable (app : AppState) (events : List Event) (t : System)
    (h : exec step (System.fresh app) events = some t) :
    (Always step (InWriteOrder app) (System.fresh app) events ↔
      AllSteps step CopiesCurrent (System.fresh app) events) ∧
    (AllSteps step CopiesCurrent (System.fresh app) events →
      Always step (Serializable app) (System.fresh app) events) := by
  have hiff : Always step (InWriteOrder app) (System.fresh app) events ↔
      AllSteps step CopiesCurrent (System.fresh app) events :=
    always_iff (I := fun _ => True) h trivial (fun _ => rfl) (fun _ _ _ _ _ => trivial)
      fun _ _ _ _ hs hstep => inWriteOrder_step hs hstep
  exact ⟨hiff, fun hall => (hiff.mpr hall).mono fun _ => InWriteOrder.serializable⟩

section Examples

/-- A browser stream connects, reads that there is no session, and writes a new one after a
transfer of the same session has been published. -/
def staleConnect : List Event :=
  [.arrives (.wsStream "call-1".toList),
    .arrives (.startTransfer (transferRequest (some "198.51.100.7".toList))),
    .proceeds 0 true, .proceeds 1 true, .proceeds 1 true, .proceeds 1 true, .proceeds 1 true,
    .proceeds 0 true]

/-- The same two requests, the stream connected before the transfer begins. -/
def promptConnect : List Event :=
  [.arrives (.wsStream "call-1".toList),
    .arrives (.startTransfer (transferRequest (some "198.51.100.7".toList))),
    .proceeds 0 true, .proceeds 0 true, .proceeds 1 true, .proceeds 1 true, .proceeds 1 true]

theorem prompt_connect_serializable :
    ∃ t, exec step (System.fresh quietApp) promptConnect = some t ∧
      (Always step (InWriteOrder quietApp) (System.fresh quietApp) promptConnect ↔
        AllSteps step CopiesCurrent (System.fresh quietApp) promptConnect) ∧
      (AllSteps step CopiesCurrent (System.fresh quietApp) promptConnect →
        Always step (Serializable quietApp) (System.fresh quietApp) promptConnect) :=
  ⟨_, rfl, session_updates_serializable quietApp promptConnect _ rfl⟩

/-- The stream's stale copy takes the sender and the state of the transfer away. -/
theorem stale_connect_loses_transfer :
    ∃ t, exec step (System.fresh quietApp) staleConnect = some t ∧
      t.app.sessions.get "call-1".toList = some (CallSession.new "call-1".toList) ∧
      ¬ Serializable quietApp t := by
  refine ⟨_, rfl, rfl, fun hserial => ?_⟩
  obtain ⟨order, hperm, hentry⟩ := hserial "call-1".toList
  obtain ⟨first, second, rfl⟩ := List.length_eq_two.mp hperm.length_eq
  have hfirst : first ∈ [SessionOp.transfer (some 0), SessionOp.connect] :=
    hperm.mem_iff.mp List.mem_cons_self
  have hsecond : second ∈ [SessionOp.transfer (some 0), SessionOp.connect] :=
    hperm.mem_iff.mp (List.mem_cons_of_mem first List.mem_cons_self)
  have htransfer : SessionOp.transfer (some 0) ∈ [first, second] :=
    hperm.mem_iff.mpr List.mem_cons_self
  simp only [List.mem_cons, List.not_mem_nil, or_false] at hfirst hsecond htransfer
  rcases hfirst with rfl | rfl <;> rcases hsecond with rfl | rfl
  · exact absurd hentry (by decide)
  · exact absurd hentry (by decide)
  · exact absurd hentry (by decide)
  · exact absurd htransfer (by decide)

end Examples

end DemoService.ControlPlane
