import DemoService.ControlPlane

/-! What `start_transfer` leaves behind when it answers with an error. The exits before the
upsert undo their allocation; the exit after it keeps the session it has published. -/

namespace DemoService.ControlPlane

open RustText NetAddr Sip

/-- A handler run on its own, for a number of critical sections at most. -/
def Task.run (engineUp : Bool) : Nat → AppState → Task → AppState × Task
  | 0, app, task => (app, task)
  | n + 1, app, task =>
    match task.proceed engineUp app with
    | some (app', task') => Task.run engineUp n app' task'
    | none => (app, task)

/-- `start_transfer` without another handler in between; it has four critical sections. -/
def startTransfer (engineUp : Bool) (app : AppState) (payload : StartTransferRequest) :
    AppState × Task :=
  Task.run engineUp 4 app (.allocating payload)

example (app : AppState) (answer : Response) :
    Task.run true 4 app (.answered answer) = (app, .answered answer) := by
  simp [Task.run, Task.proceed]

/-- A session of the registry has a sender that is bound to the port. -/
def SenderReachable (app : AppState) (port : Nat) : Prop :=
  ∃ id session sender, app.sessions.get id = some session ∧ sender ∈ app.rtpSenders ∧
    session.outboundSipRtpTx = some sender.channel ∧ sender.localPort = port

def Allocates (app : AppState) (port : Nat) : Prop :=
  isViableAdvertiseHost app.localSipAdvertiseHost = true ∧
    ∃ pool, app.rtpPorts.allocate = some (port, pool)

/-- An answer with an error status leaves the registry and the pool as they were, and no
session with a sender on the port that was released. -/
def AtomicOnFailure (engineUp : Bool) (app : AppState) (payload : StartTransferRequest) : Prop :=
  ∀ status text, (startTransfer engineUp app payload).2 = .answered (.refused status text) →
    (∀ id, (startTransfer engineUp app payload).1.sessions.get id = app.sessions.get id) ∧
    (startTransfer engineUp app payload).1.rtpPorts = app.rtpPorts ∧
    ∀ port, Allocates app port → ¬ SenderReachable (startTransfer engineUp app payload).1 port

section Exits

variable {engineUp : Bool} {app : AppState} {payload : StartTransferRequest} {port : Nat}
  {pool : RtpPortPool}

theorem startTransfer_not_viable (h : isViableAdvertiseHost app.localSipAdvertiseHost = false) :
    startTransfer engineUp app payload = (app, .answered hostNotViable) := by
  have hfirst : allocatePort app payload = (app, .answered hostNotViable) := by
    rw [allocatePort, if_neg (by simp [h])]
  simp [startTransfer, Task.run, Task.proceed, hfirst]

theorem startTransfer_exhausted (hviable : isViableAdvertiseHost app.localSipAdvertiseHost = true)
    (h : app.rtpPorts.allocate = none) :
    startTransfer engineUp app payload = (app, .answered noPortsAvailable) := by
  have hfirst : allocatePort app payload = (app, .answered noPortsAvailable) := by
    rw [allocatePort, if_pos hviable, h]
  simp [startTransfer, Task.run, Task.proceed, hfirst]

theorem allocatePort_allocates (hviable : isViableAdvertiseHost app.localSipAdvertiseHost = true)
    (h : app.rtpPorts.allocate = some (port, pool)) :
    allocatePort app payload = ({ app with rtpPorts := pool }, .loading payload port) := by
  rw [allocatePort, if_pos hviable, h]

theorem startTransfer_allocated
    (hviable : isViableAdvertiseHost app.localSipAdvertiseHost = true)
    (h : app.rtpPorts.allocate = some (port, pool)) :
    startTransfer engineUp app payload =
      Task.run engineUp 1
        (publishTransfer { app with rtpPorts := pool } payload port
          (loadSession app payload.sessionId)).1
        (publishTransfer { app with rtpPorts := pool } payload port
          (loadSession app payload.sessionId)).2 := by
  simp only [startTransfer, Task.run, Task.proceed, allocatePort_allocates hviable h]
  rfl

theorem startTransfer_bad_target
    (hviable : isViableAdvertiseHost app.localSipAdvertiseHost = true)
    (h : app.rtpPorts.allocate = some (port, pool)) (htarget : payload.rtpTarget = some none) :
    startTransfer engineUp app payload = (app, .answered invalidRtpTarget) := by
  have hrelease : pool.release port = app.rtpPorts := BoundedRtpPortPool.release_allocated h
  rw [startTransfer_allocated hviable h]
  simp [publishTransfer, htarget, Task.run, Task.proceed, hrelease]

theorem startTransfer_engine_down
    (hviable : isViableAdvertiseHost app.localSipAdvertiseHost = true)
    (h : app.rtpPorts.allocate = some (port, pool)) (htarget : payload.rtpTarget ≠ some none) :
    ∃ app', startTransfer false app payload = (app', .answered sipEngineUnavailable) ∧
      app'.rtpPorts = app.rtpPorts ∧
      ((payload.rtpTarget = none ∧ app'.rtpSenders = app.rtpSenders ∧ app'.sessions =
          app.sessions.upsert ((loadSession app payload.sessionId).withTransfer none)) ∨
        ∃ remoteAddr, payload.rtpTarget = some (some remoteAddr) ∧
          app'.rtpSenders = app.rtpSenders ++ [⟨app.nextChannel, port, remoteAddr⟩] ∧
          app'.sessions = app.sessions.upsert
            ((loadSession app payload.sessionId).withTransfer (some app.nextChannel))) := by
  have hrelease : pool.release port = app.rtpPorts := BoundedRtpPortPool.release_allocated h
  rw [startTransfer_allocated hviable h]
  cases hcase : payload.rtpTarget with
  | none =>
    simp only [publishTransfer, hcase, Task.run, Task.proceed, sendInvite]
    exact ⟨_, rfl, hrelease, .inl ⟨trivial, rfl, rfl⟩⟩
  | some target =>
    cases target with
    | none => exact absurd hcase htarget
    | some remoteAddr =>
      simp only [publishTransfer, hcase, Task.run, Task.proceed, sendInvite]
      exact ⟨_, rfl, hrelease, .inr ⟨remoteAddr, rfl, rfl, rfl⟩⟩

theorem startTransfer_engine_up
    (hviable : isViableAdvertiseHost app.localSipAdvertiseHost = true)
    (h : app.rtpPorts.allocate = some (port, pool)) (htarget : payload.rtpTarget ≠ some none) :
    (startTransfer true app payload).2 =
      .answered (.transferStarted payload.sessionId .warmTransferActive port) := by
  rw [startTransfer_allocated hviable h]
  cases hcase : payload.rtpTarget with
  | none => simp [publishTransfer, hcase, Task.run, Task.proceed, sendInvite]
  | some target =>
    cases target with
    | none => exact absurd hcase htarget
    | some remoteAddr => simp [publishTransfer, hcase, Task.run, Task.proceed, sendInvite]

end Exits

/-- The request does not get as far as the pool, or it succeeds, or its port has no sender yet
and it ends at its bad target or finds a session without a target already in the transfer. -/
def LeavesNothing (engineUp : Bool) (app : AppState) (payload : StartTransferRequest) : Prop :=
  (∀ port, ¬ Allocates app port) ∨ (payload.rtpTarget ≠ some none ∧ engineUp = true) ∨
    ((∀ port, Allocates app port → ¬ SenderReachable app port) ∧
      (payload.rtpTarget = some none ∨ payload.rtpTarget = none ∧
        ∃ session, app.sessions.get payload.sessionId = some session ∧
          session.currentState = .warmTransferActive))

section Atomicity

variable {engineUp : Bool} {app : AppState} {payload : StartTransferRequest} {port : Nat}
  {pool : RtpPortPool}

theorem allocates_iff (hviable : isViableAdvertiseHost app.localSipAdvertiseHost = true)
    (h : app.rtpPorts.allocate = some (port, pool)) (other : Nat) :
    Allocates app other ↔ other = port := by
  constructor
  · rintro ⟨-, pool', h'⟩
    exact (Prod.mk.inj (Option.some.inj (h'.symm.trans h))).1
  · rintro rfl
    exact ⟨hviable, pool, h⟩

theorem atomicOnFailure_of_unchanged {response : Response}
    (h : startTransfer engineUp app payload = (app, .answered response))
    (hsender : ∀ port, Allocates app port → ¬ SenderReachable app port) :
    AtomicOnFailure engineUp app payload := by
  intro status text _
  rw [h]
  exact ⟨fun _ => rfl, rfl, hsender⟩

theorem withTransfer_none_eq_self {session : CallSession} :
    session.withTransfer none = session ↔ session.currentState = .warmTransferActive := by
  constructor
  · intro h
    rw [← h]
    rfl
  · intro h
    cases session
    simp_all [CallSession.withTransfer]

/-- Publishing a session without a target leaves the registry as it was exactly when the
session is already in the transfer. -/
theorem get_upsert_withTransfer_none_iff {id : Str} :
    (∀ other, (app.sessions.upsert ((loadSession app id).withTransfer none)).get other =
        app.sessions.get other) ↔
      ∃ session, app.sessions.get id = some session ∧
        session.currentState = .warmTransferActive := by
  have hkey : ((loadSession app id).withTransfer none).sessionId = id := loadSession_sessionId app id
  constructor
  · intro h
    have hid := h id
    rw [SessionRegistry.get_upsert, hkey, if_pos rfl] at hid
    exact ⟨_, hid.symm, rfl⟩
  · rintro ⟨session, hget, hwarm⟩ other
    have hload : loadSession app id = session := by rw [loadSession, hget, Option.getD_some]
    rw [SessionRegistry.get_upsert, hload, withTransfer_none_eq_self.mpr hwarm]
    have hsession : session.sessionId = id := app.sessions.keyed id session hget
    by_cases hother : other = id
    · simp [hother, hsession, hget]
    · simp [hother, hsession]

theorem senderReachable_congr {app' : AppState}
    (hsessions : ∀ id, app'.sessions.get id = app.sessions.get id)
    (hsenders : app'.rtpSenders = app.rtpSenders) (port : Nat) :
    SenderReachable app' port ↔ SenderReachable app port := by
  simp only [SenderReachable, hsessions, hsenders]

/-- At its bad target the request has given its port back, and only an older sender on that
port is left. -/
theorem bad_target_atomic_iff
    (hviable : isViableAdvertiseHost app.localSipAdvertiseHost = true)
    (hport : app.rtpPorts.allocate = some (port, pool)) (htarget : payload.rtpTarget = some none) :
    AtomicOnFailure engineUp app payload ↔ ¬ SenderReachable app port := by
  have hexit : startTransfer engineUp app payload = (app, .answered invalidRtpTarget) :=
    startTransfer_bad_target hviable hport htarget
  have hallocates := allocates_iff hviable hport
  constructor
  · intro h
    have hsender := (h 400 _ (congrArg Prod.snd hexit)).2.2 port ((hallocates port).mpr rfl)
    rwa [hexit] at hsender
  · intro h
    refine atomicOnFailure_of_unchanged hexit fun other hother => ?_
    rwa [(hallocates other).mp hother]

theorem atomicOnFailure_iff_of_refused {app' : AppState} {status : Nat} {text : Str}
    (hexit : startTransfer engineUp app payload = (app', .answered (.refused status text)))
    (hpool : app'.rtpPorts = app.rtpPorts) (hallocates : ∀ other, Allocates app other ↔ other = port) :
    AtomicOnFailure engineUp app payload ↔
      (∀ id, app'.sessions.get id = app.sessions.get id) ∧ ¬ SenderReachable app' port := by
  constructor
  · intro h
    obtain ⟨hsessions, -, hsender⟩ := h status text (congrArg Prod.snd hexit)
    rw [hexit] at hsessions hsender
    exact ⟨hsessions, hsender port ((hallocates port).mpr rfl)⟩
  · intro h _ _ _
    rw [hexit]
    refine ⟨h.1, hpool, fun other hother => ?_⟩
    rw [(hallocates other).mp hother]
    exact h.2

/-- With the engine gone the session stays published, so nothing is left behind only where the
publication changed nothing. -/
theorem engine_down_atomic_iff
    (hviable : isViableAdvertiseHost app.localSipAdvertiseHost = true)
    (hport : app.rtpPorts.allocate = some (port, pool)) (htarget : payload.rtpTarget ≠ some none) :
    AtomicOnFailure false app payload ↔ payload.rtpTarget = none ∧ ¬ SenderReachable app port ∧
      ∃ session, app.sessions.get payload.sessionId = some session ∧
        session.currentState = .warmTransferActive := by
  obtain ⟨app', hexit, hpool, hpublished⟩ := startTransfer_engine_down hviable hport htarget
  rw [atomicOnFailure_iff_of_refused hexit hpool (allocates_iff hviable hport)]
  rcases hpublished with ⟨hnone, hsenders, hsessions⟩ | ⟨remoteAddr, haddr, hsenders, hsessions⟩
  · rw [← get_upsert_withTransfer_none_iff, ← hsessions, and_iff_right hnone, and_comm]
    exact and_congr_left fun hsame => not_congr (senderReachable_congr hsame hsenders port)
  · have hreachable : SenderReachable app' port := by
      have hkey := loadSession_sessionId app payload.sessionId
      refine ⟨payload.sessionId,
        (loadSession app payload.sessionId).withTransfer (some app.nextChannel),
        ⟨app.nextChannel, port, remoteAddr⟩, ?_, ?_, rfl, rfl⟩
      · rw [hsessions, SessionRegistry.get_upsert]
        exact if_pos hkey.symm
      · rw [hsenders]
        exact List.mem_append_right _ List.mem_cons_self
    have hsome : payload.rtpTarget ≠ none := by simp [haddr]
    exact iff_of_false (fun h => h.2 hreachable) fun h => hsome h.1

/-- `start_transfer` is atomic on failure exactly where the request leaves nothing behind. -/
theorem startTransfer_atomic_iff (engineUp : Bool) (app : AppState)
    (payload : StartTransferRequest) :
    AtomicOnFailure engineUp app payload ↔ LeavesNothing engineUp app payload := by
  by_cases hviable : isViableAdvertiseHost app.localSipAdvertiseHost = true
  · cases hport : app.rtpPorts.allocate with
    | none =>
      have hnone : ∀ port, ¬ Allocates app port := by
        intro port hallocates
        obtain ⟨-, pool, hpool⟩ := hallocates
        simp [hport] at hpool
      refine iff_of_true ?_ (.inl hnone)
      exact atomicOnFailure_of_unchanged (startTransfer_exhausted hviable hport)
        fun port hallocates => absurd hallocates (hnone port)
    | some found =>
      obtain ⟨port, pool⟩ := found
      have hallocates := allocates_iff hviable hport
      by_cases htarget : payload.rtpTarget = some none
      · rw [bad_target_atomic_iff hviable hport htarget]
        simp [LeavesNothing, htarget, hallocates]
      · cases engineUp with
        | true =>
          refine iff_of_true ?_ (.inr (.inl ⟨htarget, rfl⟩))
          intro status text hrefused
          rw [startTransfer_engine_up hviable hport htarget] at hrefused
          cases hrefused
        | false =>
          rw [engine_down_atomic_iff hviable hport htarget]
          simp [LeavesNothing, htarget, hallocates, and_left_comm]
  · have hnone : ∀ port, ¬ Allocates app port := fun port hallocates => hviable hallocates.1
    refine iff_of_true ?_ (.inl hnone)
    exact atomicOnFailure_of_unchanged (startTransfer_not_viable (by simpa using hviable))
      fun port hallocates => absurd hallocates (hnone port)

end Atomicity

section Examples

/-- With the engine gone the request is refused, but its session is left in the transfer, with
a sender on the released port. -/
theorem engine_down_leaves_session :
    (startTransfer false quietApp (transferRequest (some "198.51.100.7".toList))).2 =
        .answered sipEngineUnavailable ∧
      (startTransfer false quietApp (transferRequest (some "198.51.100.7".toList))).1.sessions.get
        "call-1".toList = some ⟨"call-1".toList, .warmTransferActive, none, some 0, none⟩ ∧
      ¬ AtomicOnFailure false quietApp (transferRequest (some "198.51.100.7".toList)) := by
  refine ⟨by decide +kernel, by decide +kernel, fun h => ?_⟩
  have hsessions := (h 503 "SIP engine unavailable, try again".toList (by decide +kernel)).1
  exact absurd (hsessions "call-1".toList) (by decide +kernel)

end Examples

end DemoService.ControlPlane
