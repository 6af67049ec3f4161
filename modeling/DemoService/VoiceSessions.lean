import DemoService.GuardedRuns
import DemoService.PersonaLifecycle

/-! The voice sessions a media stream stores, under the call ids its start messages name, and
what its handler removes of them. The store is shared with the other streams of the process. -/

namespace DemoService.Voice

open PyText GuardedRuns

structure ToolEntry where
  name : Text
  isTerminal : Bool
  deriving DecidableEq, Repr

structure ToolRegistry where
  entries : List ToolEntry
  deriving DecidableEq, Repr

def ToolRegistry.get (registry : ToolRegistry) (name : Text) : Option ToolEntry :=
  registry.entries.find? fun entry => entry.name = name

def ToolRegistry.resolve (registry : ToolRegistry) (names : List Text) : Option (List ToolEntry) :=
  names.mapM registry.get

/-- Unknown names raise, and so does a name listed twice. -/
def ToolRegistry.scoped (registry : ToolRegistry) (names : List Text) : Option ToolRegistry :=
  (registry.resolve names).bind fun entries =>
    if (entries.map ToolEntry.name).Nodup then some ⟨entries⟩ else none

def voiceToolRegistry : ToolRegistry where
  entries :=
    [⟨"assess_employer_readiness".toList, false⟩, ⟨"end_conversation".toList, true⟩,
      ⟨"prepare_meeting_context".toList, false⟩, ⟨"record_answer".toList, false⟩,
      ⟨"warm_transfer_call".toList, false⟩]

theorem voiceToolRegistry_names :
    voiceToolRegistry.entries.map ToolEntry.name = Personas.voiceToolNames := rfl

theorem ToolRegistry.get_name {registry : ToolRegistry} {name : Text} {entry : ToolEntry}
    (h : registry.get name = some entry) : entry.name = name := by
  simpa using List.find?_some h

theorem ToolRegistry.get_mem {registry : ToolRegistry} {name : Text} {entry : ToolEntry}
    (h : registry.get name = some entry) : name ∈ registry.entries.map ToolEntry.name :=
  List.mem_map.mpr ⟨entry, List.mem_of_find?_eq_some h, get_name h⟩

theorem ToolRegistry.resolve_names {registry : ToolRegistry} {names : List Text}
    {entries : List ToolEntry} (h : registry.resolve names = some entries) :
    entries.map ToolEntry.name = names := by
  unfold resolve at h
  induction names generalizing entries with
  | nil =>
    obtain rfl : [] = entries := by simpa using h
    rfl
  | cons name names ih =>
    simp only [List.mapM_cons, Option.bind_eq_bind, Option.bind_eq_some_iff, Option.pure_def,
      Option.some.injEq] at h
    obtain ⟨entry, hentry, rest, hrest, rfl⟩ := h
    simp [get_name hentry, ih hrest]

/-- A scoped registry knows the selected names and no others. -/
theorem ToolRegistry.mem_of_scoped {registry scope : ToolRegistry} {names : List Text}
    (h : registry.scoped names = some scope) {name : Text} {entry : ToolEntry}
    (hget : scope.get name = some entry) : name ∈ names := by
  obtain ⟨entries, hentries, hnodup⟩ := Option.bind_eq_some_iff.mp h
  split at hnodup
  · obtain rfl := Option.some.inj hnodup
    exact resolve_names hentries ▸ get_mem hget
  · cases hnodup

/-- A stored session, with its persona's tools. `own` marks those this stream has stored. -/
structure VoiceSession where
  own : Bool
  toolNames : List Text
  toolRegistry : ToolRegistry
  selected : voiceToolRegistry.scoped toolNames = some toolRegistry
  deriving DecidableEq

/-- What looking up the active persona comes to. -/
inductive PersonaLookup
  | found (toolNames : List Text)
  | refused
  | raises
  deriving DecidableEq, Repr

inductive InputPhase
  | receiving
  | configuring
  | ended
  deriving DecidableEq, Repr

/-- `_sessions`, `call_sid_ref` and the task that reads the caller's messages. A call id is a
string, empty where the message has none, or null. -/
structure CallStore where
  sessions : Option Text → Option VoiceSession
  callSid : Option Text
  input : InputPhase

inductive StreamAction
  | others (key : Option Text) (stored : Option VoiceSession)
  | start (callSid : Option Text) (persona : PersonaLookup)
  | configured
  | media
  | stop
  | inputEnds
  | cleanup
  deriving DecidableEq

def CallStore.create (sessions : Option Text → Option VoiceSession) : CallStore :=
  ⟨sessions, none, .receiving⟩

def createSession (s : CallStore) (callSid : Option Text) (session : VoiceSession) : CallStore :=
  { s with sessions := Function.update s.sessions callSid (some session) }

/-- `if call_sid_ref[0]: remove_session(call_sid_ref[0])`. -/
def removeCurrent (s : CallStore) : CallStore :=
  if (s.callSid.bind orNone).isSome then
    { s with sessions := Function.update s.sessions s.callSid none }
  else s

/-- The session a start message makes, unless it is turned away or raises on the way. -/
def startedSession : PersonaLookup → Option VoiceSession
  | .found toolNames =>
    match h : voiceToolRegistry.scoped toolNames with
    | some toolRegistry => some ⟨true, toolNames, toolRegistry, h⟩
    | none => none
  | .refused | .raises => none

def handleStart (s : CallStore) (callSid : Option Text) (persona : PersonaLookup) : CallStore :=
  match startedSession persona with
  | some session => createSession { s with callSid := callSid, input := .configuring } callSid session
  | none => { s with callSid := callSid, input := .ended }

def storeStep (s : CallStore) : StreamAction → Option CallStore
  | .others key stored =>
    some { s with
      sessions := Function.update s.sessions key (stored.map fun x => { x with own := false }) }
  | .start callSid persona =>
    if s.input = .receiving then some (handleStart s callSid persona) else none
  | .configured => if s.input = .configuring then some { s with input := .receiving } else none
  | .media => if s.input = .receiving then some s else none
  | .stop =>
    if s.input = .receiving then some { removeCurrent s with input := .ended } else none
  | .inputEnds => some { s with input := .ended }
  | .cleanup => some { removeCurrent s with input := .ended }

/-- What the messages of the stream and the doings of the others amount to, read off them
alone: the last call id named, the ids under which the stream was the last to store, and what
the others have left under an id. -/
structure History where
  callSid : Option Text
  named : Option Text → Bool
  lastStored : Option Text → Bool
  others : Option Text → Option VoiceSession

def History.create (sessions : Option Text → Option VoiceSession) : History :=
  ⟨none, fun _ => false, fun _ => false, sessions⟩

def History.note (history : History) : StreamAction → History
  | .others key stored =>
    { history with
      lastStored := Function.update history.lastStored key false
      others := Function.update history.others key (stored.map fun x => { x with own := false }) }
  | .start callSid persona =>
    { history with
      callSid := callSid
      named := Function.update history.named callSid true
      lastStored :=
        if (startedSession persona).isSome then Function.update history.lastStored callSid true
        else history.lastStored }
  | _ => history

def CallStore.Owns (s : CallStore) (key : Option Text) : Prop :=
  ∃ session, s.sessions key = some session ∧ session.own = true

def Truthy (key : Option Text) : Prop := (key.bind orNone).isSome = true

/-- What the store and the history of a stream have to do with one another. -/
structure Tracks (s : CallStore) (history : History) : Prop where
  callSid : s.callSid = history.callSid
  stored : ∀ key, s.Owns key → history.lastStored key = true
  kept : ∀ key, history.lastStored key = true →
    s.Owns key ∨ s.input = .ended ∧ key = s.callSid ∧ Truthy key
  unnamed : Truthy s.callSid → history.named s.callSid = true
  others : ∀ key, history.named key = false → s.sessions key = history.others key

theorem create_tracks {sessions : Option Text → Option VoiceSession}
    (hnew : ∀ key session, sessions key = some session → session.own = false) :
    Tracks (.create sessions) (.create sessions) where
  callSid := rfl
  stored := by
    intro key ⟨session, hs, hown⟩
    simp [hnew key session hs] at hown
  kept := by simp [History.create]
  unnamed := by simp [CallStore.create, Truthy]
  others := fun _ _ => rfl

theorem startedSession_own {persona : PersonaLookup} {session : VoiceSession}
    (h : startedSession persona = some session) : session.own = true := by
  unfold startedSession at h
  split at h
  · split at h
    · obtain rfl := Option.some.inj h
      rfl
    · cases h
  · cases h
  · cases h

variable {s t : CallStore} {history : History}

/-- A session under another key is not touched by an update. -/
theorem owns_update {key key' : Option Text} {stored : Option VoiceSession} :
    ({ s with sessions := Function.update s.sessions key stored } : CallStore).Owns key' ↔
      if key' = key then ∃ session, stored = some session ∧ session.own = true
      else s.Owns key' := by
  by_cases hk : key' = key
  · subst hk
    simp [CallStore.Owns]
  · simp [CallStore.Owns, hk]

theorem others_tracks (hs : Tracks s history) (key : Option Text) (stored : Option VoiceSession) :
    Tracks { s with
        sessions := Function.update s.sessions key (stored.map fun x => { x with own := false }) }
      (history.note (.others key stored)) where
  callSid := hs.callSid
  stored := by
    intro key' ho
    rw [owns_update] at ho
    split at ho
    · obtain ⟨session, hm, hown⟩ := ho
      obtain ⟨x, -, rfl⟩ := Option.map_eq_some_iff.mp hm
      cases hown
    · rename_i hk
      simpa [History.note, hk] using hs.stored key' ho
  kept := by
    intro key' hl
    by_cases hk : key' = key
    · simp [History.note, hk] at hl
    · have hl' : history.lastStored key' = true := by simpa [History.note, hk] using hl
      rw [owns_update, if_neg hk]
      exact hs.kept key' hl'
  unnamed := hs.unnamed
  others := by
    intro key' hn
    by_cases hk : key' = key
    · simp [History.note, hk]
    · simpa [History.note, hk] using hs.others key' hn

/-- A removal of the current session, after which the task reads no more messages. -/
theorem removeCurrent_tracks (hs : Tracks s history) :
    Tracks { removeCurrent s with input := .ended } history := by
  unfold removeCurrent
  split
  · rename_i htruthy
    refine ⟨hs.callSid, ?_, ?_, hs.unnamed, ?_⟩
    · intro key ho
      have ho' := owns_update.mp ho
      split at ho'
      · simp at ho'
      · exact hs.stored key ho'
    · intro key hl
      by_cases hk : key = s.callSid
      · exact .inr ⟨rfl, hk, hk ▸ htruthy⟩
      · rcases hs.kept key hl with ho | ⟨-, hk', -⟩
        · exact .inl (owns_update.mpr (by simpa [hk] using ho))
        · exact absurd hk' hk
    · intro key hn
      have hk : key ≠ s.callSid := by
        intro hk
        have hnamed := hs.unnamed htruthy
        rw [← hk, hn] at hnamed
        cases hnamed
      simpa [hk] using hs.others key hn
  · refine ⟨hs.callSid, hs.stored, fun key hl => ?_, hs.unnamed, hs.others⟩
    rcases hs.kept key hl with ho | ⟨-, hk, ht⟩
    · exact .inl ho
    · exact .inr ⟨rfl, hk, ht⟩

theorem handleStart_tracks (hs : Tracks s history) (hin : s.input = .receiving)
    (callSid : Option Text) (persona : PersonaLookup) :
    Tracks (handleStart s callSid persona) (history.note (.start callSid persona)) := by
  have hkept : ∀ key, history.lastStored key = true → s.Owns key := by
    intro key hl
    rcases hs.kept key hl with ho | ⟨he, -, -⟩
    · exact ho
    · simp [hin] at he
  unfold handleStart
  split
  · rename_i session hsession
    have hown := startedSession_own hsession
    refine ⟨rfl, ?_, ?_, by simp [createSession, History.note], ?_⟩
    · intro key ho
      have ho' := owns_update.mp ho
      split at ho'
      · rename_i hk
        simp [History.note, hsession, hk]
      · rename_i hk
        simpa [History.note, hsession, hk] using hs.stored key ho'
    · intro key hl
      left
      refine owns_update.mpr ?_
      by_cases hk : key = callSid
      · simp [hk, hown]
      · have hl' : history.lastStored key = true := by
          simpa [History.note, hsession, hk] using hl
        rw [if_neg hk]
        exact hkept key hl'
    · intro key hn
      by_cases hk : key = callSid
      · simp [History.note, hk] at hn
      · have hn' : history.named key = false := by simpa [History.note, hk] using hn
        simpa [createSession, History.note, hk] using hs.others key hn'
  · rename_i hsession
    refine ⟨rfl, ?_, ?_, by simp [History.note], ?_⟩
    · intro key ho
      simpa [History.note, hsession] using hs.stored key ho
    · intro key hl
      exact .inl (hkept key (by simpa [History.note, hsession] using hl))
    · intro key hn
      by_cases hk : key = callSid
      · simp [History.note, hk] at hn
      · exact hs.others key (by simpa [History.note, hk] using hn)

theorem storeStep_tracks {a : StreamAction} (hs : Tracks s history) (h : storeStep s a = some t) :
    Tracks t (history.note a) := by
  cases a with
  | others key stored =>
    obtain rfl := Option.some.inj h
    exact others_tracks hs key stored
  | start callSid persona =>
    simp only [storeStep] at h
    split at h
    · rename_i hin
      obtain rfl := Option.some.inj h
      exact handleStart_tracks hs hin callSid persona
    · cases h
  | configured =>
    simp only [storeStep] at h
    split at h
    · rename_i hin
      obtain rfl := Option.some.inj h
      refine ⟨hs.callSid, hs.stored, fun key hl => ?_, hs.unnamed, hs.others⟩
      rcases hs.kept key hl with ho | ⟨he, -, -⟩
      · exact .inl ho
      · simp [hin] at he
    · cases h
  | media =>
    simp only [storeStep] at h
    split at h
    · obtain rfl := Option.some.inj h
      exact hs
    · cases h
  | stop =>
    simp only [storeStep] at h
    split at h
    · obtain rfl := Option.some.inj h
      exact removeCurrent_tracks hs
    · cases h
  | inputEnds =>
    obtain rfl := Option.some.inj h
    refine ⟨hs.callSid, hs.stored, fun key hl => ?_, hs.unnamed, hs.others⟩
    rcases hs.kept key hl with ho | ⟨-, hk, ht⟩
    · exact .inl ho
    · exact .inr ⟨rfl, hk, ht⟩
  | cleanup =>
    obtain rfl := Option.some.inj h
    exact removeCurrent_tracks hs

theorem exec_tracks {actions : List StreamAction} (hs : Tracks s history)
    (h : exec storeStep s actions = some t) : Tracks t (actions.foldl History.note history) := by
  induction actions generalizing s history with
  | nil =>
    obtain rfl : s = t := Option.some.inj h
    exact hs
  | cons a as ih =>
    obtain ⟨u, hu, ht⟩ := Option.bind_eq_some_iff.mp h
    exact ih (storeStep_tracks hs hu) ht

/-- After the cleanup the stream owns what it stored last, but for its current id. -/
theorem cleanup_owns_iff (hs : Tracks s history) (h : storeStep s .cleanup = some t)
    (key : Option Text) :
    t.Owns key ↔ history.lastStored key = true ∧ ¬(key = history.callSid ∧ Truthy key) := by
  obtain rfl := Option.some.inj h
  have hstored := hs.stored key
  have hkept := hs.kept key
  rw [← hs.callSid]
  by_cases htruthy : Truthy s.callSid
  · have hrem : removeCurrent s =
        { s with sessions := Function.update s.sessions s.callSid none } := if_pos htruthy
    have howns : ({ removeCurrent s with input := .ended } : CallStore).Owns key ↔
        key ≠ s.callSid ∧ s.Owns key := by
      rw [hrem]
      refine owns_update.trans ?_
      by_cases hk : key = s.callSid <;> simp [hk]
    rw [howns]
    constructor
    · rintro ⟨hk, ho⟩
      exact ⟨hstored ho, fun hc => hk hc.1⟩
    · rintro ⟨hl, hn⟩
      rcases hkept hl with ho | ⟨-, hk, ht⟩
      · exact ⟨fun hk => hn ⟨hk, hk ▸ htruthy⟩, ho⟩
      · exact absurd ⟨hk, ht⟩ hn
  · have hrem : removeCurrent s = s := if_neg htruthy
    rw [hrem]
    constructor
    · intro ho
      exact ⟨hstored ho, fun hc => htruthy (hc.1 ▸ hc.2)⟩
    · rintro ⟨hl, hn⟩
      rcases hkept hl with ho | ⟨-, hk, ht⟩
      · exact ho
      · exact absurd ⟨hk, ht⟩ hn

/-- When the handler ends, the sessions the stream has stored are gone exactly where each id
under which it stored last is its current one and not empty. Ids it never named hold what the
other streams left there. -/
theorem own_sessions_removed_iff {sessions : Option Text → Option VoiceSession}
    {actions : List StreamAction}
    (hnew : ∀ key session, sessions key = some session → session.own = false)
    (h : exec storeStep (.create sessions) (actions ++ [.cleanup]) = some t) :
    ((∀ key, ¬t.Owns key) ↔
      ∀ key, (actions.foldl History.note (.create sessions)).lastStored key = true →
        key = (actions.foldl History.note (.create sessions)).callSid ∧ Truthy key) ∧
    ∀ key, (actions.foldl History.note (.create sessions)).named key = false →
      t.sessions key = (actions.foldl History.note (.create sessions)).others key := by
  obtain ⟨s, hs, ht⟩ := exec_concat.mp h
  have htracks := exec_tracks (create_tracks hnew) hs
  have howns := cleanup_owns_iff htracks ht
  refine ⟨forall_congr' fun key => ?_, (storeStep_tracks htracks ht).others⟩
  rw [howns key]
  exact not_and.trans (imp_congr_right fun _ => not_not)

/-- Nobody has stored a session yet. -/
def noSessions : Option Text → Option VoiceSession := fun _ => none

def recordAnswerOnly : PersonaLookup := .found ["record_answer".toList]

/-- A call with one start, a stop and the cleanup leaves nothing behind. -/
theorem one_start_removed :
    ∃ t, exec storeStep (.create noSessions)
        ([.start (some "CA1".toList) recordAnswerOnly, .configured, .media, .stop] ++ [.cleanup]) =
          some t ∧ ∀ key, ¬t.Owns key := by
  obtain ⟨t, ht⟩ := Option.isSome_iff_exists.mp (show (exec storeStep (.create noSessions)
    ([.start (some "CA1".toList) recordAnswerOnly, .configured, .media, .stop] ++
      [.cleanup])).isSome from by decide +kernel)
  refine ⟨t, ht, (own_sessions_removed_iff (by simp [noSessions]) ht).1.mpr ?_⟩
  intro key hl
  have hl' : Function.update (fun _ => false) (some "CA1".toList) true key = true := hl
  by_cases hk : key = some "CA1".toList
  · subst hk
    exact ⟨rfl, rfl⟩
  · rw [Function.update_of_ne hk] at hl'
    cases hl'

/-- A start message without a call id, and a second start under another: both sessions stay. -/
theorem empty_and_replaced_ids_stay :
    (exec storeStep (.create noSessions) [.start (some []) recordAnswerOnly, .cleanup]).map
      (fun t => (t.sessions (some [])).map VoiceSession.own) = some (some true) ∧
    (exec storeStep (.create noSessions)
        [.start (some "CA1".toList) recordAnswerOnly, .configured,
          .start (some "CA2".toList) recordAnswerOnly, .configured, .stop, .cleanup]).map
      (fun t => (t.sessions (some "CA1".toList)).map VoiceSession.own) = some (some true) := by
  decide +kernel

end DemoService.Voice
