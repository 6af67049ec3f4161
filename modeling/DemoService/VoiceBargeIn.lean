import DemoService.VoiceRelay
import Mathlib.Data.List.Infix

/-! Interrupting a response. What the relay remembers is read off the history of events,
and compared with the responses that were really interrupted. -/

namespace DemoService.Voice

open PyText

/-! ### What the relay remembers -/

/-- The response named by the last `response.created` or audio delta. -/
def mentioned : List Event → Option Text
  | [] => none
  | .responseCreated responseId :: past => (responseId.bind orNone).or (mentioned past)
  | .audioDelta responseId _ :: past => responseId.or (mentioned past)
  | _ :: past => mentioned past

/-- A response was created since the last `response.done`. -/
def answering : List Event → Bool
  | [] => false
  | .responseCreated _ :: _ => true
  | .responseDone _ :: _ => false
  | _ :: past => answering past

/-- The response that was named last when the caller last spoke over an answer. -/
def silenced : List Event → Option Text
  | [] => none
  | .speechStarted :: past => if answering past then mentioned past else silenced past
  | _ :: past => silenced past

def Open (registry : Registry) (past : List Event) : Prop := (after registry past).closed = false

theorem closed_handle (registry : Registry) {relay : Relay} (h : relay.closed = true)
    (event : Event) : (handle registry relay event).1.closed = true := by
  cases event with
  | toolFinished callId output => by_cases ha : relay.responseActive = true <;>
      simp [handle, sendOrQueueToolResult, ha, h]
  | toolsGathered => by_cases ha : relay.responseActive = true <;>
      simp [handle, flushReadyToolResults, ha, h]
  | streamStarted => exact h
  | _ => simp [handle, h]

theorem Open.tail {registry : Registry} {event : Event} {past : List Event}
    (h : Open registry (event :: past)) : Open registry past := by
  by_cases hclosed : (after registry past).closed = true
  · have hstill := closed_handle registry hclosed event
    rw [Open, after, hstill] at h
    cases h
  · simpa [Open] using hclosed

structure Remembers (relay : Relay) (past : List Event) : Prop where
  current : relay.currentResponseId = mentioned past
  active : relay.responseActive = answering past
  cancelled : relay.cancelledResponseId = silenced past

theorem remembers_handle {registry : Registry} {relay : Relay} {past : List Event}
    (h : Remembers relay past) (hopen : relay.closed = false) (event : Event) :
    Remembers (handle registry relay event).1 (event :: past) := by
  cases event with
  | streamStarted | error | disconnected | transcriptDelta | inputTranscript =>
    simp only [handle, hopen]
    exact ⟨h.current, h.active, h.cancelled⟩
  | toolFinished callId output =>
    show Remembers (sendOrQueueToolResult relay callId output).1 _
    unfold sendOrQueueToolResult
    split <;> exact ⟨h.current, h.active, h.cancelled⟩
  | toolsGathered =>
    simp only [handle, hopen]
    exact ⟨h.current, h.active, h.cancelled⟩
  | toolArgumentsDelta callId name delta =>
    have hhandle : handle registry relay (.toolArgumentsDelta callId name delta) =
        handleToolArgumentsDelta relay callId name delta := by simp [handle, hopen]
    rw [hhandle]
    exact ⟨h.current, h.active, h.cancelled⟩
  | toolArgumentsDone callId name arguments =>
    have hhandle : handle registry relay (.toolArgumentsDone callId name arguments) =
        handleToolArgumentsDone registry relay callId name arguments := by simp [handle, hopen]
    rw [hhandle]
    unfold handleToolArgumentsDone
    split <;> exact ⟨h.current, h.active, h.cancelled⟩
  | responseCreated responseId =>
    simp only [handle, hopen]
    exact ⟨by simp [mentioned, h.current], rfl, h.cancelled⟩
  | speechStarted =>
    have hhandle : handle registry relay .speechStarted = handleSpeechStarted relay := by
      simp [handle, hopen]
    rw [hhandle]
    unfold handleSpeechStarted
    by_cases ha : relay.responseActive = true
    · have hanswering : answering past = true := h.active ▸ ha
      rw [if_pos ha]
      exact ⟨h.current, h.active, by simp [silenced, hanswering, h.current]⟩
    · have hanswering : ¬ answering past = true := h.active ▸ ha
      rw [if_neg ha]
      exact ⟨h.current, h.active, by simp [silenced, hanswering, h.cancelled]⟩
  | audioDelta responseId delta =>
    have hseen : (handle registry relay (.audioDelta responseId delta)).1 =
        { relay with currentResponseId := responseId.or relay.currentResponseId } := by
      simp only [handle, hopen, handleAudioDelta]
      split
      · simp at *
      · split
        · rfl
        · split <;> rfl
    rw [hseen]
    exact ⟨by simp [mentioned, h.current], h.active, h.cancelled⟩
  | responseDone responseId =>
    have hhandle : handle registry relay (.responseDone responseId) = handleResponseDone relay := by
      simp [handle, hopen]
    rw [hhandle]
    unfold handleResponseDone
    split <;> exact ⟨h.current, rfl, h.cancelled⟩

theorem remembers_after {registry : Registry} {past : List Event} (h : Open registry past) :
    Remembers (after registry past) past := by
  induction past with
  | nil => exact ⟨rfl, rfl, rfl⟩
  | cons event past ih => exact remembers_handle (ih h.tail) h.tail event

/-! ### What was interrupted -/

/-- The response opened last, until its own `response.done`. -/
def inProgress : List Event → Option Text
  | [] => none
  | .responseCreated responseId :: _ => responseId.bind orNone
  | .responseDone responseId :: past =>
    if responseId = none ∨ responseId = inProgress past then none else inProgress past
  | _ :: past => inProgress past

/-- The caller began to speak while the response was in progress. -/
def Interrupted (responseId : Text) : List Event → Prop
  | [] => False
  | .speechStarted :: past => inProgress past = some responseId ∨ Interrupted responseId past
  | _ :: past => Interrupted responseId past

/-- A delta has audio, and the stream is there to take it. -/
def Audible (relay : Relay) (delta : Text) : Prop :=
  relay.closed = false ∧ delta ≠ [] ∧ (relay.streamSid.bind orNone).isSome = true

def Forwarded (registry : Registry) (relay : Relay) (responseId delta : Text) : Prop :=
  ∃ streamSid, Output.media streamSid delta ∈
    (handle registry relay (.audioDelta (some responseId) delta)).2

theorem forwarded_iff {registry : Registry} {relay : Relay} {responseId delta : Text} :
    Forwarded registry relay responseId delta ↔
      Audible relay delta ∧ relay.cancelledResponseId ≠ some responseId := by
  by_cases hclosed : relay.closed = true
  · simp [Forwarded, Audible, handle, hclosed]
  · by_cases hcancelled : relay.cancelledResponseId = some responseId
    · simp [Forwarded, handle, handleAudioDelta, hclosed, hcancelled]
    · have hother : ¬ some responseId = relay.cancelledResponseId := fun h => hcancelled h.symm
      cases hstream : relay.streamSid.bind orNone with
      | none => simp [Forwarded, Audible, handle, handleAudioDelta, hclosed, hother, hstream]
      | some streamSid =>
        by_cases hdelta : delta = []
        · simp [Forwarded, Audible, handle, handleAudioDelta, hclosed, hother, hstream, hdelta]
        · simp [Forwarded, Audible, handle, handleAudioDelta, hclosed, hother, hstream, hdelta,
            hcancelled]

/-- An interrupted response is not heard any more, and one that is never interrupted is
heard in full. -/
def BargeInSilences (registry : Registry) (events : List Event) : Prop :=
  ∀ later responseId delta past, events = later ++ .audioDelta (some responseId) delta :: past →
    (Interrupted responseId past → ¬ Forwarded registry (after registry past) responseId delta) ∧
    (¬ Interrupted responseId events → Audible (after registry past) delta →
      Forwarded registry (after registry past) responseId delta)

/-! ### Interruptions in order -/

/-- The response over which the caller began to speak last. -/
def lastInterrupted : List Event → Option Text
  | [] => none
  | .speechStarted :: past => (inProgress past).or (lastInterrupted past)
  | _ :: past => lastInterrupted past

/-- Over an answer, the caller speaks while no `response.done` has come since it was created and no
other response was named since; or else over the response that was interrupted last already. In a
pause, no answer is awaited, or the one that was named last is the one interrupted last. -/
def SpeaksOverNamed (past : List Event) : Prop :=
  match inProgress past with
  | some responseId =>
    if answering past then mentioned past = some responseId
    else lastInterrupted past = some responseId
  | none => answering past = true → mentioned past = lastInterrupted past

/-- An event comes in order: no delta of an interrupted response after another one was interrupted,
and the caller speaks over the response that was named last. -/
def InTurn : Event → List Event → Prop
  | .speechStarted, past => SpeaksOverNamed past
  | .audioDelta (some responseId) _, past =>
    Interrupted responseId past → lastInterrupted past = some responseId
  | _, _ => True

def InOrder : List Event → Prop
  | [] => True
  | event :: past => InTurn event past ∧ InOrder past

theorem InOrder.of_append (later : List Event) {past : List Event} (h : InOrder (later ++ past)) :
    InOrder past := by
  induction later with
  | nil => exact h
  | cons event later ih => exact ih h.2

theorem silenced_eq_lastInterrupted {events : List Event} (h : InOrder events) :
    silenced events = lastInterrupted events := by
  induction events with
  | nil => rfl
  | cons event past ih =>
    have hpast := ih h.2
    cases event with
    | speechStarted =>
      have hspeaks : SpeaksOverNamed past := h.1
      rw [SpeaksOverNamed] at hspeaks
      rw [silenced, lastInterrupted, hpast]
      cases hprogress : inProgress past with
      | some responseId =>
        rw [hprogress] at hspeaks
        by_cases hanswering : answering past = true
        · simpa [hanswering] using hspeaks
        · simpa [hanswering] using hspeaks
      | none =>
        rw [hprogress] at hspeaks
        by_cases hanswering : answering past = true
        · simpa [hanswering] using hspeaks hanswering
        · simp [hanswering]
    | _ => exact hpast

theorem interrupted_of_last {events : List Event} {responseId : Text}
    (h : lastInterrupted events = some responseId) : Interrupted responseId events := by
  induction events with
  | nil => simp [lastInterrupted] at h
  | cons event past ih =>
    cases event with
    | speechStarted =>
      rcases Option.or_eq_some_iff.mp h with hprogress | ⟨-, hlast⟩
      · exact .inl hprogress
      · exact .inr (ih hlast)
    | _ => exact ih h

theorem Interrupted.last {events : List Event} {responseId : Text}
    (h : Interrupted responseId events) : lastInterrupted events ≠ none := by
  induction events with
  | nil => exact absurd h id
  | cons event past ih =>
    cases event with
    | speechStarted =>
      intro hnone
      obtain ⟨hprogress, hlast⟩ := Option.or_eq_none_iff.mp hnone
      rcases h with h | h
      · cases hprogress.symm.trans h
      · exact ih h hlast
    | _ => exact ih h

theorem Interrupted.append {past : List Event} {responseId : Text}
    (h : Interrupted responseId past) (later : List Event) :
    Interrupted responseId (later ++ past) := by
  induction later with
  | nil => exact h
  | cons event later ih =>
    cases event with
    | speechStarted => exact .inr ih
    | _ => exact ih

theorem forwarded_iff_not_silenced {registry : Registry} {past : List Event}
    {responseId delta : Text} (h : Audible (after registry past) delta) :
    Forwarded registry (after registry past) responseId delta ↔ silenced past ≠ some responseId := by
  rw [forwarded_iff, (remembers_after h.1).cancelled]
  exact and_iff_right h

theorem InOrder.bargeInSilences (registry : Registry) {events : List Event} (h : InOrder events) :
    BargeInSilences registry events := by
  intro later responseId delta past hevents
  obtain ⟨hturn, hpast⟩ : InOrder (.audioDelta (some responseId) delta :: past) :=
    InOrder.of_append later (hevents ▸ h)
  have hsilenced := silenced_eq_lastInterrupted hpast
  constructor
  · intro hinterrupted hsent
    have haudible := (forwarded_iff.mp hsent).1
    exact (forwarded_iff_not_silenced haudible).mp hsent (hsilenced.trans (hturn hinterrupted))
  · intro hnever haudible
    rw [forwarded_iff_not_silenced haudible, hsilenced]
    intro hlast
    have hinterrupted := (interrupted_of_last hlast).append
      (later ++ [.audioDelta (some responseId) delta])
    rw [List.append_assoc, List.singleton_append, ← hevents] at hinterrupted
    exact hnever hinterrupted

/-- A delta of an interrupted response that the relay does not silence breaks the law. -/
theorem breaks_of_not_silenced {registry : Registry} {past : List Event} {responseId delta : Text}
    (haudible : Audible (after registry past) delta) (hinterrupted : Interrupted responseId past)
    (h : silenced past ≠ some responseId) :
    ¬ BargeInSilences registry (.audioDelta (some responseId) delta :: past) := fun hlaw =>
  (hlaw [] responseId delta past rfl).1 hinterrupted ((forwarded_iff_not_silenced haudible).mpr h)

/-- After the caller spoke out of order, the next delta can break the law. -/
theorem speech_breaks {registry : Registry} {past : List Event} {delta : Text}
    (haudible : Audible (after registry (.speechStarted :: past)) delta) (hpast : InOrder past)
    (h : ¬ SpeaksOverNamed past) : ∃ responseId, ¬ BargeInSilences registry
      (.audioDelta (some responseId) delta :: .speechStarted :: past) := by
  have hsilenced := silenced_eq_lastInterrupted hpast
  rw [SpeaksOverNamed] at h
  cases hprogress : inProgress past with
  | some responseId =>
    rw [hprogress] at h
    refine ⟨responseId, breaks_of_not_silenced haudible (.inl hprogress) ?_⟩
    rw [silenced, hsilenced]
    split
    · rename_i hanswering
      simpa [hanswering] using h
    · rename_i hanswering
      simpa [hanswering] using h
  | none =>
    rw [hprogress] at h
    obtain ⟨hanswering, hother⟩ := Classical.not_imp.mp h
    have hnamed : silenced (.speechStarted :: past) = mentioned past := by
      rw [silenced, if_pos hanswering]
    cases hlast : lastInterrupted past with
    | some responseId =>
      refine ⟨responseId, breaks_of_not_silenced haudible (.inr (interrupted_of_last hlast)) ?_⟩
      rw [hnamed, ← hlast]
      exact hother
    | none =>
      rw [hlast] at hother
      obtain ⟨responseId, hmentioned⟩ := Option.ne_none_iff_exists'.mp hother
      refine ⟨responseId, fun hlaw => ?_⟩
      have hnever : ¬ Interrupted responseId
          (.audioDelta (some responseId) delta :: .speechStarted :: past) := by
        rintro (hover | hbefore)
        · cases hprogress.symm.trans hover
        · exact hbefore.last hlast
      have hsent := (hlaw [] responseId delta _ rfl).2 hnever haudible
      exact (forwarded_iff_not_silenced haudible).mp hsent (hnamed.trans hmentioned)

/-- From the first event on, the stream is known and the relay takes events. -/
def Sounding (registry : Registry) (events : List Event) (delta : Text) : Prop :=
  ∀ past ∈ events.tails, past ≠ [] → Audible (after registry past) delta

/-- As long as every event comes in order, an interrupted response is not heard any more and all
others are heard in full; and where audio can be sent throughout, the first event out of order
leaves a history after which one more delta is heard that must not be, or is not heard that must
be. -/
theorem barge_in_silences_in_order (registry : Registry) (events : List Event) :
    (InOrder events → BargeInSilences registry events) ∧
      ∀ delta, Sounding registry events delta → ¬ InOrder events →
        ∃ past responseId, past <:+ events ∧
          ¬ BargeInSilences registry (.audioDelta (some responseId) delta :: past) := by
  refine ⟨InOrder.bargeInSilences registry, fun delta hsounding hdisorder => ?_⟩
  induction events with
  | nil => exact absurd trivial hdisorder
  | cons event past ih =>
    rw [Sounding, List.tails_cons, List.forall_mem_cons] at hsounding
    obtain ⟨hlast, hsounding⟩ := hsounding
    by_cases hpast : InOrder past
    · have hturn : ¬ InTurn event past := fun hturn => hdisorder ⟨hturn, hpast⟩
      cases event with
      | speechStarted =>
        obtain ⟨responseId, hbreaks⟩ := speech_breaks (hlast (List.cons_ne_nil _ _)) hpast hturn
        exact ⟨_, responseId, List.suffix_refl _, hbreaks⟩
      | audioDelta responseId audio =>
        cases responseId with
        | none => exact absurd trivial hturn
        | some responseId =>
          obtain ⟨hinterrupted, hother⟩ := Classical.not_imp.mp hturn
          rw [← silenced_eq_lastInterrupted hpast] at hother
          have hne : past ≠ [] := by
            rintro rfl
            exact hinterrupted
          have haudible := hsounding past ((List.mem_tails _ _).mpr (List.suffix_refl _)) hne
          exact ⟨past, responseId, List.suffix_cons _ _,
            breaks_of_not_silenced haudible hinterrupted hother⟩
      | _ => exact absurd trivial hturn
    · obtain ⟨earlier, responseId, hsuffix, hbreaks⟩ := ih hsounding hpast
      exact ⟨earlier, responseId, hsuffix.trans (List.suffix_cons _ _), hbreaks⟩

def twoInterruptions : List Event :=
  [.speechStarted, .responseCreated (some ['2']), .responseDone (some ['1']), .speechStarted,
    .audioDelta (some ['1']) ['a'], .responseCreated (some ['1']), .streamStarted ['s']]

/-- The stream is known from its first event on. -/
example : Sounding (fun _ => none) twoInterruptions ['b'] := by
  unfold Sounding Audible
  decide

theorem late_audio_is_forwarded :
    ¬ ∀ registry events, BargeInSilences registry events := by
  intro hall
  have hlaw := hall (fun _ => none) (.audioDelta (some ['1']) ['b'] :: twoInterruptions) [] ['1']
    ['b'] twoInterruptions rfl
  have hinterrupted : Interrupted ['1'] twoInterruptions := by
    simp [twoInterruptions, Interrupted, inProgress, PyText.orNone]
  have haudible : Audible (after (fun _ => none) twoInterruptions) ['b'] := by
    unfold Audible
    decide
  have hother : (after (fun _ => none) twoInterruptions).cancelledResponseId ≠ some ['1'] := by
    decide
  exact hlaw.1 hinterrupted (forwarded_iff.mpr ⟨haudible, hother⟩)

end DemoService.Voice
