import DemoService.VoiceToolCalls

/-! A whole voice stream: the task that reads the caller's messages fills and empties the session
store, the one that reads the provider's events looks the tools of a call up in it. -/

namespace DemoService.Voice

open PyText GuardedRuns

structure VoiceStream where
  store : CallStore
  line : Line

inductive VoiceAction
  | stream (a : StreamAction)
  | line (a : LineAction)
  deriving DecidableEq

def VoiceStream.start (sessions : Option Text → Option VoiceSession) : VoiceStream :=
  ⟨.create sessions, .start⟩

/-- `call_sid_ref[0] or ""`. -/
def CallStore.currentId (store : CallStore) : Option Text := some (store.callSid.getD [])

/-- `get_session(call_sid_ref[0] or "")`. -/
def CallStore.currentSession (store : CallStore) : Option VoiceSession :=
  store.sessions store.currentId

/-- The session's registry, or the whole voice registry where no session is stored. -/
def CallStore.currentRegistry (store : CallStore) : ToolRegistry :=
  match store.currentSession with
  | some session => session.toolRegistry
  | none => voiceToolRegistry

/-- A lookup reads the registry that is current when it is made. -/
def LineAction.LooksUp (registry : ToolRegistry) : LineAction → Prop
  | .announced used => used = registry
  | .provider (.toolArgumentsDone used _ _ _) => used = registry
  | _ => True

instance (registry : ToolRegistry) : (a : LineAction) → Decidable (a.LooksUp registry)
  | .announced used => inferInstanceAs (Decidable (used = registry))
  | .provider (.toolArgumentsDone used _ _ _) => inferInstanceAs (Decidable (used = registry))
  | .provider .responseCreated | .provider (.toolArgumentsDelta _ _ _)
  | .provider .responseDone | .provider .other | .provider .disconnected
  | .opens | .toolReturns _ _ | .taskSends _ | .taskFails _ | .flushSends | .gathered | .raises =>
    inferInstanceAs (Decidable True)

def voiceStep (s : VoiceStream) : VoiceAction → Option VoiceStream
  | .stream .configured =>
    (storeStep s.store .configured).bind fun store =>
      (lineStep s.line .opens).map fun line => ⟨store, line⟩
  | .stream .cleanup =>
    -- the task that is still running is cancelled
    (storeStep s.store .cleanup).map fun store => ⟨store, (lineStep s.line .raises).getD s.line⟩
  | .stream a => (storeStep s.store a).map fun store => { s with store := store }
  | .line .opens => none
  | .line a =>
    if a.LooksUp s.store.currentRegistry then
      (lineStep s.line a).map fun line => { s with line := line }
    else none

/-- A step that starts the tool of a call. -/
def Executes (s t : VoiceStream) (call : Call) : Prop :=
  s.line.task call ≠ .running ∧ t.line.task call = .running

theorem update_running {task : Call → TaskPhase} {call c : Call} {phase : TaskPhase}
    (hphase : phase ≠ .running) (hnot : task c ≠ .running) :
    Function.update task call phase c ≠ .running := by
  by_cases hc : c = call
  · subst hc
    simpa using hphase
  · simpa [hc] using hnot

variable {l l' : Line} {a : LineAction} {call : Call}

theorem handleEvent_task (event : ProviderEvent) : (handleEvent l event).task = l.task := by
  cases event with
  | toolArgumentsDone registry callId name arguments =>
    simp only [handleEvent]
    split <;> rfl
  | _ => rfl

theorem handleAnnounced_running {registry : ToolRegistry} {callId toolName arguments : Text}
    (hnot : l.task call ≠ .running)
    (hrun : (handleAnnounced registry l callId toolName arguments).task call = .running) :
    call.toolName = toolName ∧ (registry.get toolName).isSome := by
  simp only [handleAnnounced] at hrun
  split at hrun
  · exact absurd hrun hnot
  · rename_i entry hentry
    split at hrun
    · exact absurd hrun hnot
    · by_cases hc : call = l.log registry callId toolName arguments
      · have hget : registry.get toolName = some entry := hentry
        exact ⟨hc ▸ rfl, by simp [hget]⟩
      · simp only [ne_eq, hc, not_false_eq_true, Function.update_of_ne] at hrun
        exact absurd hrun hnot

/-- Only the lookup starts a tool, one that it has found. -/
theorem lineStep_running (hs : lineStep l a = some l') (hnot : l.task call ≠ .running)
    (hrun : l'.task call = .running) :
    ∃ registry, a = .announced registry ∧ (registry.get call.toolName).isSome := by
  cases a with
  | announced registry =>
    simp only [lineStep] at hs
    split at hs
    · obtain rfl := Option.some.inj hs
      obtain ⟨hname, hfound⟩ := handleAnnounced_running hnot hrun
      exact ⟨registry, rfl, hname ▸ hfound⟩
    · cases hs
  | opens =>
    obtain rfl := Option.some.inj hs
    exact absurd hrun hnot
  | provider event =>
    simp only [lineStep] at hs
    split at hs
    · obtain rfl := Option.some.inj hs
      rw [handleEvent_task] at hrun
      exact absurd hrun hnot
    · cases hs
  | toolReturns c result =>
    simp only [lineStep] at hs
    split at hs
    · obtain rfl := Option.some.inj hs
      unfold Line.sendOrQueue at hrun
      split at hrun
      · exact absurd hrun (update_running (by simp) hnot)
      · exact absurd hrun (update_running (by simp) hnot)
    · cases hs
  | taskSends c | taskFails c =>
    simp only [lineStep] at hs
    split at hs
    · obtain rfl := Option.some.inj hs
      exact absurd hrun (update_running (by simp) hnot)
    · obtain rfl := Option.some.inj hs
      exact absurd hrun (update_running (by simp) hnot)
    · cases hs
  | flushSends =>
    simp only [lineStep] at hs
    split at hs
    · obtain rfl := Option.some.inj hs
      exact absurd hrun hnot
    · obtain rfl := Option.some.inj hs
      exact absurd hrun hnot
    · cases hs
  | gathered =>
    simp only [lineStep] at hs
    split at hs
    · split at hs
      · obtain rfl := Option.some.inj hs
        exact absurd hrun hnot
      · obtain rfl := Option.some.inj hs
        exact absurd hrun hnot
    · cases hs
  | raises =>
    simp only [lineStep] at hs
    split at hs
    · cases hs
    · obtain rfl := Option.some.inj hs
      simp only at hrun
      split at hrun
      · cases hrun
      · exact absurd hrun hnot

variable {s t : VoiceStream}

/-- What a message or the end of the stream does to the line: nothing, the opening turn, or the
cancellation of its loop. -/
theorem stream_step_eq {b : StreamAction} (h : voiceStep s (.stream b) = some t) :
    storeStep s.store b = some t.store ∧
      (t.line = s.line ∨ lineStep s.line .opens = some t.line ∨
        lineStep s.line .raises = some t.line) := by
  cases b with
  | configured =>
    simp only [voiceStep] at h
    obtain ⟨store, hstore, hl⟩ := Option.bind_eq_some_iff.mp h
    obtain ⟨line, hline, rfl⟩ := Option.map_eq_some_iff.mp hl
    exact ⟨hstore, .inr (.inl hline)⟩
  | cleanup =>
    simp only [voiceStep] at h
    obtain ⟨store, hstore, rfl⟩ := Option.map_eq_some_iff.mp h
    refine ⟨hstore, ?_⟩
    cases hr : lineStep s.line .raises with
    | none => exact .inl rfl
    | some line => exact .inr (.inr rfl)
  | _ =>
    simp only [voiceStep] at h
    obtain ⟨store, hstore, rfl⟩ := Option.map_eq_some_iff.mp h
    exact ⟨hstore, .inl rfl⟩

theorem line_step_eq {a : LineAction} (h : voiceStep s (.line a) = some t) :
    t.store = s.store ∧ a.LooksUp s.store.currentRegistry ∧ lineStep s.line a = some t.line := by
  cases a with
  | opens => cases h
  | _ =>
    simp only [voiceStep] at h
    split at h
    · rename_i hlook
      obtain ⟨line, hline, rfl⟩ := Option.map_eq_some_iff.mp h
      exact ⟨rfl, hlook, hline⟩
    · cases h

/-- What starts a tool is a lookup in the current registry. -/
theorem executes_current {b : VoiceAction} {call : Call} (h : voiceStep s b = some t)
    (hexec : Executes s t call) : (s.store.currentRegistry.get call.toolName).isSome := by
  obtain ⟨hnot, hrun⟩ := hexec
  cases b with
  | line a =>
    obtain ⟨-, hlook, hline⟩ := line_step_eq h
    obtain ⟨registry, rfl, hfound⟩ := lineStep_running hline hnot hrun
    have hreg : registry = s.store.currentRegistry := hlook
    exact hreg ▸ hfound
  | stream b =>
    rcases (stream_step_eq h).2 with he | hopens | hraises
    · exact absurd (he ▸ hrun) hnot
    · obtain ⟨_, ha, -⟩ := lineStep_running hopens hnot hrun
      cases ha
    · obtain ⟨_, ha, -⟩ := lineStep_running hraises hnot hrun
      cases ha

theorem startedSession_found {persona : PersonaLookup} {session : VoiceSession}
    (h : startedSession persona = some session) : persona = .found session.toolNames := by
  unfold startedSession at h
  split at h
  · split at h
    · obtain rfl := Option.some.inj h
      rfl
    · cases h
  · cases h
  · cases h

theorem removeCurrent_sessions {store : CallStore} {key : Option Text} {session : VoiceSession}
    (h : (removeCurrent store).sessions key = some session) : store.sessions key = some session := by
  unfold removeCurrent at h
  split at h
  · by_cases hk : key = store.callSid
    · simp [hk] at h
    · simpa [hk] using h
  · exact h

/-- A session of the stream's own has been stored there by a start message. -/
theorem storeStep_own {store store' : CallStore} {b : StreamAction} {key : Option Text}
    {session : VoiceSession} (h : storeStep store b = some store')
    (hs : store'.sessions key = some session) (hown : session.own = true) :
    store.sessions key = some session ∨ b = .start key (.found session.toolNames) := by
  cases b with
  | others key' stored =>
    obtain rfl := Option.some.inj h
    by_cases hk : key = key'
    · obtain ⟨x, -, rfl⟩ : ∃ x, stored = some x ∧ { x with own := false } = session := by
        simpa [hk, Option.map_eq_some_iff] using hs
      cases hown
    · exact .inl (by simpa [hk] using hs)
  | start callSid persona =>
    simp only [storeStep] at h
    split at h
    · obtain rfl := Option.some.inj h
      unfold handleStart at hs
      split at hs
      · rename_i x hx
        by_cases hk : key = callSid
        · obtain rfl : x = session := by simpa [createSession, hk] using hs
          exact .inr (by rw [hk, ← startedSession_found hx])
        · exact .inl (by simpa [createSession, hk] using hs)
      · exact .inl hs
    · cases h
  | stop =>
    simp only [storeStep] at h
    split at h
    · obtain rfl := Option.some.inj h
      exact .inl (removeCurrent_sessions hs)
    · cases h
  | cleanup =>
    obtain rfl := Option.some.inj h
    exact .inl (removeCurrent_sessions hs)
  | configured | media =>
    simp only [storeStep] at h
    split at h
    · obtain rfl := Option.some.inj h
      exact .inl hs
    · cases h
  | inputEnds =>
    obtain rfl := Option.some.inj h
    exact .inl hs

theorem voiceStep_own {b : VoiceAction} {key : Option Text} {session : VoiceSession}
    (h : voiceStep s b = some t) (hs : t.store.sessions key = some session)
    (hown : session.own = true) :
    s.store.sessions key = some session ∨ b = .stream (.start key (.found session.toolNames)) := by
  cases b with
  | stream b =>
    rcases storeStep_own (stream_step_eq h).1 hs hown with hs | rfl
    · exact .inl hs
    · exact .inr rfl
  | line a =>
    rw [(line_step_eq h).1] at hs
    exact .inl hs

theorem own_session_started {sessions : Option Text → Option VoiceSession}
    (hnew : ∀ key session, sessions key = some session → session.own = false)
    {actions : List VoiceAction} (h : exec voiceStep (.start sessions) actions = some s)
    {key : Option Text} {session : VoiceSession} (hs : s.store.sessions key = some session)
    (hown : session.own = true) :
    .stream (.start key (.found session.toolNames)) ∈ actions := by
  induction actions using List.reverseRecOn generalizing s with
  | nil =>
    obtain rfl : VoiceStream.start sessions = s := Option.some.inj h
    simp [hnew key session hs] at hown
  | append_singleton actions b ih =>
    obtain ⟨u, hu, hb⟩ := exec_concat.mp h
    rcases voiceStep_own hb hs hown with hs | rfl
    · exact List.mem_append_left _ (ih hu hs)
    · exact List.mem_append_right _ (List.mem_singleton_self _)

/-- A tool is executed only in the scope of the session stored under the stream's current call
id, which a start message of the stream has stored there if it is the stream's own. Where none
is stored, any voice tool is. -/
theorem executed_in_scope {sessions : Option Text → Option VoiceSession}
    (hnew : ∀ key session, sessions key = some session → session.own = false)
    {actions : List VoiceAction} (h : exec voiceStep (.start sessions) actions = some s)
    {b : VoiceAction} {call : Call} (hstep : voiceStep s b = some t) (hexec : Executes s t call) :
    (∀ session, s.store.currentSession = some session → call.toolName ∈ session.toolNames ∧
      (session.own = true →
        .stream (.start s.store.currentId (.found session.toolNames)) ∈ actions)) ∧
    (s.store.currentSession = none → call.toolName ∈ Personas.voiceToolNames) := by
  obtain ⟨entry, hentry⟩ := Option.isSome_iff_exists.mp (executes_current hstep hexec)
  constructor
  · intro session hs
    have hreg : s.store.currentRegistry = session.toolRegistry := by
      simp [CallStore.currentRegistry, hs]
    rw [hreg] at hentry
    exact ⟨ToolRegistry.mem_of_scoped session.selected hentry,
      fun hown => own_session_started hnew h hs hown⟩
  · intro hnone
    have hreg : s.store.currentRegistry = voiceToolRegistry := by
      simp [CallStore.currentRegistry, hnone]
    rw [hreg] at hentry
    exact voiceToolRegistry_names ▸ ToolRegistry.get_mem hentry

def recordAnswerScope : ToolRegistry := ⟨[⟨"record_answer".toList, false⟩]⟩

/-- A stream whose persona may only record answers is called on to record one. -/
def recordAnswerCalled : List VoiceAction :=
  [.stream (.start (some "CA1".toList) recordAnswerOnly), .stream .configured,
    .line (.provider
      (.toolArgumentsDone recordAnswerScope "call_1".toList "record_answer".toList none))]

theorem record_answer_in_scope :
    ∃ s session, exec voiceStep (.start noSessions) recordAnswerCalled = some s ∧
      s.store.currentSession = some session ∧ recordedAnswer.toolName ∈ session.toolNames := by
  obtain ⟨s, t, session, hs, ht, hsession, hnot, hrun⟩ : ∃ s t session,
      exec voiceStep (.start noSessions) recordAnswerCalled = some s ∧
      voiceStep s (.line (.announced recordAnswerScope)) = some t ∧
      s.store.currentSession = some session ∧ s.line.task recordedAnswer ≠ .running ∧
      t.line.task recordedAnswer = .running :=
    ⟨_, _, _, rfl, rfl, rfl, by decide +kernel, by decide +kernel⟩
  have hscope := executed_in_scope (by simp [noSessions]) hs ht ⟨hnot, hrun⟩
  exact ⟨s, session, hs, hsession, (hscope.1 session hsession).1⟩

def transferCall : Call :=
  ⟨0, "call_1".toList, "warm_transfer_call".toList, "\x7b\x7d".toList,
    some ⟨"warm_transfer_call".toList, false⟩⟩

/-- After the stop message the whole voice registry is open to the same stream. -/
theorem transfer_after_stop_executed :
    (exec voiceStep (.start noSessions)
      [.stream (.start (some "CA1".toList) recordAnswerOnly), .stream .configured, .stream .stop,
        .line (.provider
          (.toolArgumentsDone voiceToolRegistry "call_1".toList "warm_transfer_call".toList none)),
        .line (.announced voiceToolRegistry)]).map (fun s => s.line.task transferCall) =
      some .running ∧
    recordAnswerOnly = .found ["record_answer".toList] ∧
    transferCall.toolName ∉ ["record_answer".toList] := by
  decide +kernel

end DemoService.Voice
