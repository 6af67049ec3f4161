import DemoService.GuardedRuns
import DemoService.VoiceRelay

/-! The history of a voice call: what the accumulator of a stream keeps of the frames that the relay
sends while the caller's task may open it anew, and what of it is stored when the stream ends. -/

namespace DemoService.Voice

open PyText GuardedRuns

section Transcript

inductive TranscriptEntry
  | advisor (text : Text)
  | user (text : Text)
  | toolCall (toolName args : Text)
  deriving DecidableEq, Repr

/-- Something that is noted once its frame has been sent. -/
inductive Piece
  | delta (text : Text)
  | user (text : Text)
  | toolCall (toolName args : Text)
  | audio (payload : Text)
  deriving DecidableEq, Repr

structure ConversationAccumulator where
  provider : Text
  voice : Text
  transcript : List TranscriptEntry
  inputAudioBytes : Nat
  outputAudioBytes : Nat
  deriving DecidableEq, Repr

/-- `_acc_transcript` with the role of the advisor. -/
def accTranscript (transcript : List TranscriptEntry) (delta : Text) : List TranscriptEntry :=
  match transcript.getLast? with
  | some (.advisor text) => transcript.dropLast ++ [.advisor (text ++ delta)]
  | _ => transcript ++ [.advisor delta]

/-- What a piece adds; `decoded` is `len(base64.b64decode(..))`, where that does not raise. -/
def ConversationAccumulator.note (decoded : Text → Option Nat) (acc : ConversationAccumulator) :
    Piece → ConversationAccumulator
  | .delta text => { acc with transcript := accTranscript acc.transcript text }
  | .user text => { acc with transcript := acc.transcript ++ [.user text] }
  | .toolCall toolName args =>
    { acc with transcript := acc.transcript ++ [.toolCall toolName args] }
  | .audio payload =>
    { acc with outputAudioBytes := acc.outputAudioBytes + (decoded payload).getD 0 }

def prependDelta (text : Text) : List TranscriptEntry → List TranscriptEntry
  | .advisor more :: entries => .advisor (text ++ more) :: entries
  | entries => .advisor text :: entries

/-- The transcript of a sequence of pieces: each run of the advisor's deltas is one entry. -/
def regroup : List Piece → List TranscriptEntry
  | [] => []
  | .delta text :: pieces => prependDelta text (regroup pieces)
  | .user text :: pieces => .user text :: regroup pieces
  | .toolCall toolName args :: pieces => .toolCall toolName args :: regroup pieces
  | .audio _ :: pieces => regroup pieces

def audioBytes (decoded : Text → Option Nat) (pieces : List Piece) : Nat :=
  (pieces.map fun piece =>
    match piece with
    | .audio payload => (decoded payload).getD 0
    | _ => 0).sum

theorem accTranscript_cons_cons (entry next : TranscriptEntry) (entries : List TranscriptEntry)
    (delta : Text) : accTranscript (entry :: next :: entries) delta =
      entry :: accTranscript (next :: entries) delta := by
  unfold accTranscript
  rw [List.getLast?_cons_cons]
  cases (next :: entries).getLast? with
  | none => rfl
  | some last => cases last <;> simp

theorem accTranscript_prependDelta (text delta : Text) (entries : List TranscriptEntry) :
    accTranscript (prependDelta text entries) delta =
      prependDelta text (accTranscript entries delta) := by
  cases entries with
  | nil => rfl
  | cons entry entries =>
    cases entries with
    | nil => cases entry <;> simp [accTranscript, prependDelta]
    | cons next entries => cases entry <;> simp [prependDelta, accTranscript_cons_cons]

theorem regroup_concat_delta (pieces : List Piece) (delta : Text) :
    regroup (pieces ++ [.delta delta]) = accTranscript (regroup pieces) delta := by
  have hcons (entry : TranscriptEntry) (hentry : ∀ text, entry ≠ .advisor text)
      (entries : List TranscriptEntry) :
      accTranscript (entry :: entries) delta = entry :: accTranscript entries delta := by
    cases entries with
    | nil => cases entry <;> simp_all [accTranscript]
    | cons next entries => exact accTranscript_cons_cons entry next entries delta
  induction pieces with
  | nil => rfl
  | cons piece pieces ih =>
    cases piece with
    | delta text => simp [regroup, ih, accTranscript_prependDelta]
    | user text => simp [regroup, ih, hcons]
    | toolCall toolName args => simp [regroup, ih, hcons]
    | audio payload => simpa [regroup] using ih

/-- What is no delta of the advisor is put behind the transcript as it stands. -/
theorem regroup_concat_other (pieces : List Piece) {piece : Piece}
    (hpiece : ∀ text, piece ≠ .delta text) :
    regroup (pieces ++ [piece]) = regroup pieces ++ regroup [piece] := by
  have hother (text : Text) (entries : List TranscriptEntry) :
      prependDelta text (entries ++ regroup [piece]) =
        prependDelta text entries ++ regroup [piece] := by
    cases entries with
    | nil => cases piece <;> simp_all [prependDelta, regroup]
    | cons entry entries => cases entry <;> rfl
  induction pieces with
  | nil => rfl
  | cons first pieces ih => cases first <;> simp [regroup, ih, hother]

theorem note_transcript (decoded : Text → Option Nat) {acc : ConversationAccumulator}
    {pieces : List Piece} (h : acc.transcript = regroup pieces) (piece : Piece) :
    (acc.note decoded piece).transcript = regroup (pieces ++ [piece]) := by
  cases piece with
  | delta text =>
    rw [regroup_concat_delta, ← h]
    rfl
  | user text | toolCall toolName args =>
    rw [regroup_concat_other pieces (by simp), ← h]
    rfl
  | audio payload =>
    rw [regroup_concat_other pieces (by simp), ← h]
    simp [ConversationAccumulator.note, regroup]

theorem note_outputAudioBytes (decoded : Text → Option Nat) {acc : ConversationAccumulator}
    {pieces : List Piece} (h : acc.outputAudioBytes = audioBytes decoded pieces) (piece : Piece) :
    (acc.note decoded piece).outputAudioBytes = audioBytes decoded (pieces ++ [piece]) := by
  have happend : audioBytes decoded (pieces ++ [piece]) =
      audioBytes decoded pieces + audioBytes decoded [piece] := by
    simp [audioBytes]
  rw [happend, ← h]
  cases piece <;> simp [ConversationAccumulator.note, audioBytes]

end Transcript

section Stream

/-- The piece a frame shows. An empty delta is sent, and shows nothing. -/
def pieceOf : Output → Option Piece
  | .transcript text => if text = [] then none else some (.delta text)
  | .userTranscript text => some (.user text)
  | .toolCall toolName args => some (.toolCall toolName args)
  | .media _ payload => some (.audio payload)
  | .clear _ | .cancelResponse | .toolResult _ _ | .endCall => none

/-- What the output task notes of an event once it has sent its frame. -/
def noteOf (relay : Relay) (event : Event) : Option Piece :=
  if relay.closed then none
  else
    match event with
    | .transcriptDelta delta => if delta = [] then none else some (.delta delta)
    | .inputTranscript transcript => if transcript = [] then none else some (.user transcript)
    | .toolArgumentsDone callId name arguments =>
      if callId = [] then none
      else
        let tool := relay.pendingToolCalls.get? callId
        some (.toolCall (orText (tool.map Prod.fst) name)
          (orText arguments (orText (tool.map Prod.snd) "\x7b\x7d".toList)))
    | .audioDelta responseId delta =>
      if responseId.isSome && responseId = relay.cancelledResponseId then none
      else if delta = [] then none
      else some (.audio delta)
    | _ => none

/-- Where the output task stands: it waits for an event, it has frames to send and then something
to note, or it has ended. -/
inductive TellPhase
  | idle
  | sending (outputs : List Output) (note : Option Piece)
  | ended
  deriving DecidableEq, Repr

structure VoiceConversationRecord where
  callSid : Text
  provider : Text
  voice : Text
  inputAudioBytes : Nat
  outputAudioBytes : Nat
  transcript : List TranscriptEntry
  deriving DecidableEq, Repr

/-- A stream. `sent` (everything the output task has sent), `opened` (how many pieces it had shown
when the accumulator was made) and `named` (every start frame named a stream) are histories that
nothing reads. -/
structure LiveCall where
  callSid : Option Text
  relay : Relay
  conversation : Option ConversationAccumulator
  phase : TellPhase
  stored : Option VoiceConversationRecord
  finished : Bool
  sent : List Output
  opened : Nat
  named : Bool
  deriving DecidableEq, Repr

def LiveCall.start : LiveCall := ⟨none, .start, none, .idle, none, false, [], 0, true⟩

inductive CallAction
  /-- A start frame, with the provider and the voice unless it ends the task. -/
  | starts (callSid streamSid : Text) (opens : Option (Text × Text))
  | hears (bytes : Nat)
  | receives (registry : Registry) (event : Event)
  | writes
  | notes
  | outputEnds
  | finishes (commits : Bool)

variable (decoded : Text → Option Nat)

def LiveCall.noted (s : LiveCall) (note : Option Piece) : LiveCall :=
  match note with
  | none => s
  | some piece => { s with conversation := s.conversation.map (·.note decoded piece) }

/-- The record of the stream, if a conversation was opened and the call has a name. -/
def LiveCall.record (s : LiveCall) : Option VoiceConversationRecord := do
  let acc ← s.conversation
  let callSid ← s.callSid.bind orNone
  pure ⟨callSid, acc.provider, acc.voice, acc.inputAudioBytes, acc.outputAudioBytes,
    acc.transcript⟩

/-- One event of the output task; without a frame to send it does not wait before it notes. -/
def LiveCall.receive (s : LiveCall) (registry : Registry) (event : Event) : LiveCall :=
  let handled := handle registry s.relay event
  let s' := { s with relay := handled.1 }
  if handled.2 = [] then s'.noted decoded (noteOf s.relay event)
  else { s' with phase := .sending handled.2 (noteOf s.relay event) }

def callStep (s : LiveCall) (a : CallAction) : Option LiveCall :=
  if s.finished then none
  else
    match a with
    | .starts callSid streamSid opens =>
      let s' := { s with
        callSid := some callSid
        relay := { s.relay with streamSid := some streamSid }
        named := s.named && streamSid ≠ [] }
      match opens with
      | none => some s'
      | some (provider, voice) => some { s' with
          conversation := some ⟨provider, voice, [], 0, 0⟩
          opened := (s.sent.filterMap pieceOf).length }
    | .hears bytes => some { s with
        conversation := s.conversation.map fun acc =>
          { acc with inputAudioBytes := acc.inputAudioBytes + bytes } }
    | .receives _ (.streamStarted _) => none
    | .receives registry (.toolFinished callId output) =>
      some { s with relay := (handle registry s.relay (.toolFinished callId output)).1 }
    | .receives registry event =>
      match s.phase with
      | .idle => some (s.receive decoded registry event)
      | _ => none
    | .writes =>
      match s.phase with
      | .sending (output :: outputs) note =>
        some { s with phase := .sending outputs note, sent := s.sent ++ [output] }
      | _ => none
    | .notes =>
      match s.phase with
      | .sending [] note => some ({ s with phase := .idle }.noted decoded note)
      | _ => none
    | .outputEnds => some { s with phase := .ended }
    | .finishes commits => some { s with
        phase := .ended
        finished := true
        stored := if commits then s.record else none }

/-- A relay keeps its stream unless it hears of a new one. -/
theorem handle_streamSid (registry : Registry) (relay : Relay) {event : Event}
    (hevent : ∀ streamSid, event ≠ .streamStarted streamSid) :
    (handle registry relay event).1.streamSid = relay.streamSid := by
  cases event with
  | streamStarted streamSid => exact absurd rfl (hevent streamSid)
  | toolFinished callId output =>
    simp only [handle, sendOrQueueToolResult]
    split <;> rfl
  | toolsGathered =>
    simp only [handle]
    split <;> rfl
  | responseDone responseId =>
    simp only [handle, handleResponseDone, flushReadyToolResults]
    split <;> [rfl; split] <;> rfl
  | speechStarted =>
    simp only [handle, handleSpeechStarted]
    split <;> [rfl; split] <;> rfl
  | audioDelta responseId delta =>
    simp only [handle, handleAudioDelta]
    split <;> [rfl; split] <;> [rfl; split] <;> rfl
  | toolArgumentsDelta callId name delta =>
    simp only [handle, handleToolArgumentsDelta]
    split <;> rfl
  | toolArgumentsDone callId name arguments =>
    simp only [handle, handleToolArgumentsDone]
    split <;> [rfl; split] <;> rfl
  | responseCreated _ | transcriptDelta _ | inputTranscript _ | error | disconnected =>
    simp only [handle]
    split <;> rfl

theorem flushed_shows_nothing (relay : Relay) :
    (flushReadyToolResults relay).2.filterMap pieceOf = [] := by
  simp [flushReadyToolResults, pieceOf]

/-- The frames of an event show just what is noted of it, except that the audio of a call whose
stream has no name is noted and not sent. -/
theorem handle_pieces (registry : Registry) (relay : Relay) (event : Event) :
    (handle registry relay event).2.filterMap pieceOf = (noteOf relay event).toList ∨
      ((handle registry relay event).2 = [] ∧ relay.streamSid.bind orNone = none ∧
        ∃ payload, noteOf relay event = some (.audio payload)) := by
  cases event with
  | streamStarted streamSid =>
    left
    simp [handle, noteOf]
  | toolFinished callId output =>
    left
    simp only [handle, sendOrQueueToolResult, noteOf]
    split <;> simp [pieceOf]
  | toolsGathered =>
    left
    simp only [handle, noteOf]
    split <;> simp [flushed_shows_nothing]
  | audioDelta responseId delta =>
    by_cases hclosed : relay.closed
    · simp [handle, noteOf, hclosed]
    · by_cases hcancelled : responseId.isSome && responseId = relay.cancelledResponseId
      · simp [handle, handleAudioDelta, noteOf, hclosed, hcancelled]
      · cases hstream : relay.streamSid.bind orNone with
        | none =>
          by_cases hdelta : delta = [] <;>
            simp [handle, hclosed, handleAudioDelta, hcancelled, noteOf, hdelta, hstream]
        | some streamSid =>
          left
          by_cases hdelta : delta = [] <;>
            simp [handle, hclosed, handleAudioDelta, hcancelled, noteOf, hdelta, hstream, pieceOf]
  | speechStarted =>
    left
    simp only [handle, handleSpeechStarted, noteOf]
    cases relay.streamSid.bind orNone <;> split <;> [simp; split; simp; split] <;> simp [pieceOf]
  | responseDone responseId =>
    left
    simp only [handle, handleResponseDone, noteOf]
    split <;> [simp; split] <;> simp [flushed_shows_nothing, pieceOf]
  | transcriptDelta delta =>
    left
    by_cases hdelta : delta = [] <;> by_cases hclosed : relay.closed <;>
      simp [handle, noteOf, pieceOf, hdelta, hclosed]
  | inputTranscript transcript =>
    left
    by_cases htranscript : transcript = [] <;> by_cases hclosed : relay.closed <;>
      simp [handle, noteOf, pieceOf, htranscript, hclosed]
  | toolArgumentsDelta callId name delta =>
    left
    simp only [handle, handleToolArgumentsDelta, noteOf]
    split <;> simp
  | toolArgumentsDone callId name arguments =>
    left
    by_cases hcall : callId = [] <;> by_cases hclosed : relay.closed <;>
      simp [handle, handleToolArgumentsDone, doneCall, noteOf, pieceOf, hcall, hclosed]
  | responseCreated _ | error | disconnected =>
    left
    simp only [handle, noteOf]
    split <;> simp

def LiveCall.shown (s : LiveCall) : List Piece := s.sent.filterMap pieceOf

/-- The piece that the output task has sent and has still to note. -/
def LiveCall.pending (s : LiveCall) : List Piece :=
  match s.phase with
  | .sending outputs note => if outputs.filterMap pieceOf = [] then note.toList else []
  | _ => []

/-- What an accumulator has of the pieces `shown`: those `told` since it was made, when `opened` of
them had been sent and the last of these may have been unnoted still. -/
structure Covers (shown : List Piece) (opened : Nat) (named : Bool)
    (transcript : List TranscriptEntry) (outputAudioBytes : Nat)
    (earlier told later : List Piece) : Prop where
  split : shown = earlier ++ told ++ later
  opened_ge : earlier.length ≤ opened
  opened_le : opened ≤ earlier.length + 1
  short : later.length ≤ 1
  transcript : transcript = regroup told
  bytes : named → outputAudioBytes = audioBytes decoded told

structure Kept (s : LiveCall) : Prop where
  suffix : ∃ front, s.shown = front ++ s.pending
  covers : ∀ acc, s.conversation = some acc → ∃ earlier told later,
    (s.phase ≠ .ended → later = s.pending) ∧
      Covers decoded s.shown s.opened s.named acc.transcript acc.outputAudioBytes earlier told later
  frames : ∀ outputs note, s.phase = .sending outputs note →
    outputs.filterMap pieceOf = note.toList ∨ outputs.filterMap pieceOf = []
  stream : s.named → s.conversation.isSome → s.relay.streamSid.bind orNone ≠ none

variable {decoded} {s t : LiveCall} {acc : ConversationAccumulator}
  {shown earlier told later : List Piece} {opened : Nat} {named : Bool}

theorem Covers.note {piece : Piece}
    (h : Covers decoded shown opened named acc.transcript acc.outputAudioBytes
      earlier told [piece]) :
    Covers decoded shown opened named (acc.note decoded piece).transcript
      (acc.note decoded piece).outputAudioBytes earlier (told ++ [piece]) [] where
  split := by simp [h.split]
  opened_ge := h.opened_ge
  opened_le := h.opened_le
  short := by simp
  transcript := note_transcript decoded h.transcript piece
  bytes hnamed := note_outputAudioBytes decoded (h.bytes hnamed) piece

/-- The audio of a call without a named stream is counted though nothing of it is sent. -/
theorem Covers.note_unsent {payload : Text} (hnamed : named = false)
    (h : Covers decoded shown opened named acc.transcript acc.outputAudioBytes
      earlier told later) :
    Covers decoded shown opened named (acc.note decoded (.audio payload)).transcript
      (acc.note decoded (.audio payload)).outputAudioBytes earlier told later where
  split := h.split
  opened_ge := h.opened_ge
  opened_le := h.opened_le
  short := h.short
  transcript := h.transcript
  bytes hstill := absurd hstill (by simp [hnamed])

theorem Covers.show {piece : Piece} {transcript : List TranscriptEntry} {outputAudioBytes : Nat}
    (h : Covers decoded shown opened named transcript outputAudioBytes earlier told []) :
    Covers decoded (shown ++ [piece]) opened named transcript outputAudioBytes
      earlier told [piece] where
  split := by simp [h.split]
  opened_ge := h.opened_ge
  opened_le := h.opened_le
  short := by simp
  transcript := h.transcript
  bytes := h.bytes

theorem Covers.of_named {named' : Bool} {transcript : List TranscriptEntry}
    {outputAudioBytes : Nat} (hnamed : named' → named)
    (h : Covers decoded shown opened named transcript outputAudioBytes earlier told later) :
    Covers decoded shown opened named' transcript outputAudioBytes earlier told later where
  split := h.split
  opened_ge := h.opened_ge
  opened_le := h.opened_le
  short := h.short
  transcript := h.transcript
  bytes hstill := h.bytes (hnamed hstill)

theorem pending_short (s : LiveCall) : s.pending.length ≤ 1 := by
  unfold LiveCall.pending
  split
  · rename_i note hphase
    cases note <;> (split <;> simp)
  · simp

theorem Kept.start : Kept decoded LiveCall.start where
  suffix := ⟨[], rfl⟩
  covers acc hacc := by cases hacc
  frames outputs note hphase := by cases hphase
  stream _ hopen := by cases hopen

theorem Kept.starts {callSid streamSid : Text} {opens : Option (Text × Text)}
    (hs : Kept decoded s) (h : callStep decoded s (.starts callSid streamSid opens) = some t) :
    Kept decoded t := by
  have hnamed (hstill : (s.named && decide (streamSid ≠ [])) = true) :
      s.named ∧ (some streamSid).bind orNone ≠ none := by
    simpa [orNone] using hstill
  unfold callStep at h
  split at h
  · cases h
  · cases opens with
    | none =>
      obtain rfl := Option.some.inj h
      refine ⟨hs.suffix, fun acc hacc => ?_, hs.frames, fun hstill _ => (hnamed hstill).2⟩
      obtain ⟨earlier, told, later, hlater, hcovers⟩ := hs.covers acc hacc
      exact ⟨earlier, told, later, hlater, hcovers.of_named fun hstill => (hnamed hstill).1⟩
    | some opening =>
      obtain ⟨provider, voice⟩ := opening
      obtain rfl := Option.some.inj h
      refine ⟨hs.suffix, fun acc hacc => ?_, hs.frames, fun hstill _ => (hnamed hstill).2⟩
      obtain rfl := Option.some.inj hacc
      obtain ⟨front, hfront⟩ := hs.suffix
      have hshort := pending_short s
      refine ⟨front, [], s.pending, fun _ => rfl, ?_, ?_, ?_, hshort, rfl, fun _ => rfl⟩
      · rw [List.append_nil]
        exact hfront
      · show front.length ≤ s.shown.length
        simp [hfront]
      · show s.shown.length ≤ front.length + 1
        simp [hfront, hshort]

theorem writes_step (h : callStep decoded s .writes = some t) :
    ∃ output outputs note, s.phase = .sending (output :: outputs) note ∧
      t = { s with phase := .sending outputs note, sent := s.sent ++ [output] } := by
  unfold callStep at h
  split at h
  · cases h
  dsimp only at h
  split at h
  · exact ⟨_, _, _, ‹_›, (Option.some.inj h).symm⟩
  · cases h

theorem notes_step (h : callStep decoded s .notes = some t) :
    ∃ note, s.phase = .sending [] note ∧ t = { s with phase := .idle }.noted decoded note := by
  unfold callStep at h
  split at h
  · cases h
  dsimp only at h
  split at h
  · exact ⟨_, ‹_›, (Option.some.inj h).symm⟩
  · cases h

/-- A frame that shows something is the last of its event to do so, and is noted next. -/
theorem Kept.frame_shows (hs : Kept decoded s) {output : Output} {outputs : List Output}
    {note : Option Piece} (hphase : s.phase = .sending (output :: outputs) note) {piece : Piece}
    (hpiece : pieceOf output = some piece) :
    note = some piece ∧ outputs.filterMap pieceOf = [] := by
  have hframes := hs.frames _ _ hphase
  rw [List.filterMap_cons_some hpiece] at hframes
  cases note with
  | none => simp at hframes
  | some noted => simp_all

theorem Kept.writes (hs : Kept decoded s) (h : callStep decoded s .writes = some t) :
    Kept decoded t := by
  obtain ⟨output, outputs, note, hphase, rfl⟩ := writes_step h
  have hpending : s.pending = if (output :: outputs).filterMap pieceOf = [] then note.toList
      else [] := by
    simp [LiveCall.pending, hphase]
  cases hpiece : pieceOf output with
  | none =>
    have hshown : LiveCall.shown { s with
        phase := .sending outputs note, sent := s.sent ++ [output] } = s.shown := by
      simp [LiveCall.shown, hpiece]
    have hstill : LiveCall.pending { s with
        phase := .sending outputs note, sent := s.sent ++ [output] } = s.pending := by
      rw [hpending, List.filterMap_cons_none hpiece]
      rfl
    constructor
    case suffix => rw [hshown, hstill]; exact hs.suffix
    case covers =>
      intro acc hacc
      obtain ⟨earlier, told, later, hlater, hcovers⟩ := hs.covers acc hacc
      refine ⟨earlier, told, later, fun _ => ?_, ?_⟩
      · rw [hstill]
        exact hlater (by simp [hphase])
      · rw [hshown]
        exact hcovers
    case frames =>
      intro outputs' note' hphase'
      obtain ⟨rfl, rfl⟩ := TellPhase.sending.inj hphase'
      have hframes := hs.frames _ _ hphase
      rwa [List.filterMap_cons_none hpiece] at hframes
    case stream => exact hs.stream
  | some piece =>
    obtain ⟨hnote, hrest⟩ := hs.frame_shows hphase hpiece
    have hempty : s.pending = [] := by
      rw [hpending, List.filterMap_cons_some hpiece]
      rfl
    have hshown : LiveCall.shown { s with
        phase := .sending outputs note, sent := s.sent ++ [output] } = s.shown ++ [piece] := by
      simp [LiveCall.shown, hpiece]
    have hnext : LiveCall.pending { s with
        phase := .sending outputs note, sent := s.sent ++ [output] } = [piece] := by
      simp [LiveCall.pending, hrest, hnote]
    constructor
    case suffix =>
      rw [hshown, hnext]
      exact ⟨s.shown, rfl⟩
    case covers =>
      intro acc hacc
      obtain ⟨earlier, told, later, hlater, hcovers⟩ := hs.covers acc hacc
      obtain rfl : later = [] := (hlater (by simp [hphase])).trans hempty
      refine ⟨earlier, told, [piece], fun _ => hnext.symm, ?_⟩
      rw [hshown]
      exact hcovers.show
    case frames =>
      intro outputs' note' hphase'
      obtain ⟨rfl, rfl⟩ := TellPhase.sending.inj hphase'
      exact .inr hrest
    case stream => exact hs.stream

theorem Kept.notes (hs : Kept decoded s) (h : callStep decoded s .notes = some t) :
    Kept decoded t := by
  obtain ⟨note, hphase, rfl⟩ := notes_step h
  have hpending : s.pending = note.toList := by simp [LiveCall.pending, hphase]
  cases note with
  | none =>
    have hempty : s.pending = [] := hpending
    constructor
    case suffix => exact ⟨s.shown, (List.append_nil _).symm⟩
    case covers =>
      intro acc hacc
      obtain ⟨earlier, told, later, hlater, hcovers⟩ := hs.covers acc hacc
      exact ⟨earlier, told, later, fun _ => (hlater (by simp [hphase])).trans hempty, hcovers⟩
    case frames =>
      intro outputs' note' hphase'
      cases hphase'
    case stream => exact hs.stream
  | some piece =>
    constructor
    case suffix => exact ⟨s.shown, (List.append_nil _).symm⟩
    case covers =>
      intro acc' hacc'
      obtain ⟨acc, hacc, rfl⟩ := Option.map_eq_some_iff.mp hacc'
      obtain ⟨earlier, told, later, hlater, hcovers⟩ := hs.covers acc hacc
      obtain rfl : later = [piece] := (hlater (by simp [hphase])).trans hpending
      exact ⟨earlier, told ++ [piece], [], fun _ => rfl, hcovers.note⟩
    case frames =>
      intro outputs' note' hphase'
      cases hphase'
    case stream =>
      intro hnamed hopen
      exact hs.stream hnamed (by simpa [LiveCall.noted] using hopen)

theorem Kept.of_relay {relay : Relay} (hs : Kept decoded s)
    (hrelay : relay.streamSid = s.relay.streamSid) : Kept decoded { s with relay := relay } where
  suffix := hs.suffix
  covers := hs.covers
  frames := hs.frames
  stream hnamed hopen := by
    rw [hrelay]
    exact hs.stream hnamed hopen

theorem Kept.receive (hs : Kept decoded s) (hphase : s.phase = .idle) (registry : Registry)
    {event : Event} (hevent : ∀ streamSid, event ≠ .streamStarted streamSid) :
    Kept decoded (s.receive decoded registry event) := by
  have hrelay := hs.of_relay (handle_streamSid registry s.relay hevent)
  have hempty : s.pending = [] := by simp [LiveCall.pending, hphase]
  have hpieces := handle_pieces registry s.relay event
  unfold LiveCall.receive
  dsimp only
  split
  · rename_i hnothing
    cases hnote : noteOf s.relay event with
    | none => exact hrelay
    | some piece =>
      -- Only the audio of a stream without a name is noted with nothing sent.
      rw [hnothing, hnote] at hpieces
      obtain hshow | ⟨-, hunnamed, payload, hpayload⟩ := hpieces
      · cases hshow
      obtain rfl := Option.some.inj hpayload
      constructor
      case suffix => exact hrelay.suffix
      case covers =>
        intro acc' hacc'
        obtain ⟨acc, hacc, rfl⟩ := Option.map_eq_some_iff.mp hacc'
        obtain ⟨earlier, told, later, hlater, hcovers⟩ := hrelay.covers acc hacc
        have hnamed : s.named = false := by
          cases hnamed : s.named with
          | false => rfl
          | true =>
            have hopen : s.conversation.isSome := Option.isSome_of_eq_some hacc
            exact absurd hunnamed (hs.stream hnamed hopen)
        exact ⟨earlier, told, later, hlater, hcovers.note_unsent hnamed⟩
      case frames => exact hrelay.frames
      case stream =>
        intro hnamed hopen
        exact hrelay.stream hnamed (by simpa [LiveCall.noted] using hopen)
  · rename_i hsome
    have hshow : (handle registry s.relay event).2.filterMap pieceOf =
        (noteOf s.relay event).toList := by
      obtain hshow | ⟨hnothing, -⟩ := hpieces
      · exact hshow
      · exact absurd hnothing hsome
    have hnext : LiveCall.pending { s with
        relay := (handle registry s.relay event).1
        phase := .sending (handle registry s.relay event).2 (noteOf s.relay event) } = [] := by
      simp only [LiveCall.pending, hshow]
      split <;> [assumption; rfl]
    constructor
    case suffix =>
      rw [hnext]
      exact ⟨s.shown, (List.append_nil _).symm⟩
    case covers =>
      intro acc hacc
      obtain ⟨earlier, told, later, hlater, hcovers⟩ := hs.covers acc hacc
      refine ⟨earlier, told, later, fun _ => ?_, hcovers⟩
      rw [hnext]
      exact (hlater (by simp [hphase])).trans hempty
    case frames =>
      intro outputs note hphase'
      obtain ⟨rfl, rfl⟩ := TellPhase.sending.inj hphase'
      exact .inl hshow
    case stream => exact hrelay.stream

/-- What the arrival of an event can do: the result of a tool is queued or sent at once whatever the
output task does, and any other event waits until that task is idle. -/
theorem receives_step {registry : Registry} {event : Event}
    (h : callStep decoded s (.receives registry event) = some t) :
    (∃ callId output, event = .toolFinished callId output ∧
        t = { s with relay := (handle registry s.relay event).1 }) ∨
      ((∀ streamSid, event ≠ .streamStarted streamSid) ∧ s.phase = .idle ∧
        t = s.receive decoded registry event) := by
  unfold callStep at h
  split at h
  · cases h
  cases event with
  | streamStarted streamSid => cases h
  | toolFinished callId output =>
    exact .inl ⟨callId, output, rfl, (Option.some.inj h).symm⟩
  | _ =>
    dsimp only at h
    split at h
    · exact .inr ⟨by simp, ‹_›, (Option.some.inj h).symm⟩
    · cases h

theorem Kept.step {action : CallAction} (hs : Kept decoded s)
    (h : callStep decoded s action = some t) : Kept decoded t := by
  have hended : Kept decoded { s with phase := .ended } := by
    refine ⟨⟨s.shown, (List.append_nil _).symm⟩, fun acc hacc => ?_,
      fun outputs note hphase => (by cases hphase), hs.stream⟩
    obtain ⟨earlier, told, later, -, hcovers⟩ := hs.covers acc hacc
    exact ⟨earlier, told, later, fun hphase => absurd rfl hphase, hcovers⟩
  cases action with
  | starts callSid streamSid opens => exact hs.starts h
  | writes => exact hs.writes h
  | notes => exact hs.notes h
  | receives registry event =>
    obtain ⟨callId, output, rfl, rfl⟩ | ⟨hevent, hphase, rfl⟩ := receives_step h
    · exact hs.of_relay (handle_streamSid registry s.relay (by simp))
    · exact hs.receive hphase registry hevent
  | hears bytes =>
    unfold callStep at h
    split at h
    · cases h
    obtain rfl := Option.some.inj h
    refine ⟨hs.suffix, fun acc' hacc' => ?_, hs.frames, fun hnamed hopen => ?_⟩
    · obtain ⟨acc, hacc, rfl⟩ := Option.map_eq_some_iff.mp hacc'
      exact hs.covers acc hacc
    · exact hs.stream hnamed (by simpa using hopen)
  | outputEnds =>
    unfold callStep at h
    split at h
    · cases h
    obtain rfl := Option.some.inj h
    exact hended
  | finishes commits =>
    unfold callStep at h
    split at h
    · cases h
    obtain rfl := Option.some.inj h
    exact ⟨hended.suffix, hended.covers, hended.frames, hended.stream⟩

/-- What a stored record says of the stream. -/
def Reports (decoded : Text → Option Nat) (s : LiveCall) (record : VoiceConversationRecord) :
    Prop :=
  s.callSid = some record.callSid ∧ record.callSid ≠ [] ∧ ∃ earlier told later,
    Covers decoded s.shown s.opened s.named record.transcript record.outputAudioBytes
      earlier told later

/-- Nothing is stored of a stream that goes on, and the record of one that is over is true. -/
structure Recorded (decoded : Text → Option Nat) (s : LiveCall) : Prop where
  kept : Kept decoded s
  unstored : s.finished = false → s.stored = none
  reports : ∀ record, s.stored = some record → Reports decoded s record

theorem Kept.record_reports (hs : Kept decoded s) {record : VoiceConversationRecord}
    (h : s.record = some record) : Reports decoded s record := by
  obtain ⟨acc, hacc, h⟩ := Option.bind_eq_some_iff.mp h
  obtain ⟨callSid, hcall, h⟩ := Option.bind_eq_some_iff.mp h
  obtain rfl := Option.some.inj h
  obtain ⟨callSid', hcallSid, hname⟩ := Option.bind_eq_some_iff.mp hcall
  obtain ⟨earlier, told, later, -, hcovers⟩ := hs.covers acc hacc
  unfold orNone at hname
  split at hname
  · cases hname
  · rename_i hnonempty
    obtain rfl := Option.some.inj hname
    exact ⟨hcallSid, hnonempty, earlier, told, later, hcovers⟩

theorem noted_stored (s : LiveCall) (note : Option Piece) :
    (s.noted decoded note).finished = s.finished ∧ (s.noted decoded note).stored = s.stored := by
  cases note <;> exact ⟨rfl, rfl⟩

/-- Only the end of the stream stores anything. -/
theorem callStep_stored {action : CallAction} (h : callStep decoded s action = some t) :
    s.finished = false ∧ ((t.finished = s.finished ∧ t.stored = s.stored) ∨
      ∃ commits : Bool, t = { s with
        phase := .ended, finished := true, stored := if commits then s.record else none }) := by
  have hstep := h
  unfold callStep at h
  split at h
  · cases h
  rename_i hover
  refine ⟨Bool.eq_false_iff.mpr hover, ?_⟩
  cases action with
  | receives registry event =>
    left
    obtain ⟨callId, output, -, rfl⟩ | ⟨-, -, rfl⟩ := receives_step hstep
    · exact ⟨rfl, rfl⟩
    · unfold LiveCall.receive
      dsimp only
      split
      · exact noted_stored _ _
      · exact ⟨rfl, rfl⟩
  | finishes commits => exact .inr ⟨commits, (Option.some.inj h).symm⟩
  | starts callSid streamSid opens =>
    left
    cases opens <;> (obtain rfl := Option.some.inj h; exact ⟨rfl, rfl⟩)
  | writes =>
    left
    obtain ⟨_, _, _, -, rfl⟩ := writes_step hstep
    exact ⟨rfl, rfl⟩
  | notes =>
    left
    obtain ⟨note, -, rfl⟩ := notes_step hstep
    exact noted_stored _ _
  | hears bytes | outputEnds =>
    left
    obtain rfl := Option.some.inj h
    exact ⟨rfl, rfl⟩

theorem Recorded.step {action : CallAction} (hs : Recorded decoded s)
    (h : callStep decoded s action = some t) : Recorded decoded t := by
  have hkept := hs.kept.step h
  obtain ⟨hover, ⟨hstill, hstored⟩ | ⟨commits, rfl⟩⟩ := callStep_stored h
  · have hnone : t.stored = none := hstored.trans (hs.unstored hover)
    exact ⟨hkept, fun _ => hnone, fun record hrecord => (by simp [hnone] at hrecord)⟩
  · refine ⟨hkept, fun hover => (by cases hover), fun record hrecord => ?_⟩
    have hrecord : (if commits then s.record else none) = some record := hrecord
    split at hrecord
    · exact hs.kept.record_reports hrecord
    · cases hrecord

/-- The history stored of a stream tells what its caller was shown since the accumulator was made,
in order and with the advisor's deltas joined: it leaves out at most the piece in flight at its end,
and the start of it is off by at most the piece in flight then. -/
theorem stored_history_tells_stream (decoded : Text → Option Nat) {t : LiveCall}
    (hrun : Run (callStep decoded) .start t) {record : VoiceConversationRecord}
    (hrecord : t.stored = some record) : Reports decoded t record := by
  have hstart : Recorded decoded LiveCall.start :=
    ⟨.start, fun _ => rfl, fun record hrecord => (by cases hrecord)⟩
  have hrecorded : Recorded decoded t :=
    GuardedRun.invariant hrun hstart fun s action t hs _ h => hs.step h
  exact hrecorded.reports record hrecord

section Examples

def noTools : Registry := fun _ => none

/-- The size of unpadded base64. -/
def unpadded (payload : Text) : Option Nat :=
  if payload.length % 4 = 0 then some (payload.length / 4 * 3) else none

/-- A call whose audio is under way when the caller hangs up. -/
def hungUp : List CallAction :=
  [.starts "CA1".toList "MZ1".toList (some ("xai".toList, "Eve".toList)), .hears 160,
    .receives noTools (.inputTranscript "Hi".toList), .writes, .notes,
    .receives noTools (.transcriptDelta "Hel".toList), .writes, .notes,
    .receives noTools (.audioDelta none "AAAA".toList), .writes, .notes,
    .receives noTools (.transcriptDelta "lo".toList), .writes, .notes,
    .receives noTools (.audioDelta none "BBBB".toList), .writes, .finishes true]

theorem hung_up_history_stored : ∃ t, exec (callStep unpadded) .start hungUp = some t ∧
    t.stored = some ⟨"CA1".toList, "xai".toList, "Eve".toList, 160, 3,
      [.user "Hi".toList, .advisor "Hello".toList]⟩ ∧
    ∃ record, t.stored = some record ∧ Reports unpadded t record := by
  have hsome : (exec (callStep unpadded) .start hungUp).any (fun t =>
      decide (t.stored = some ⟨"CA1".toList, "xai".toList, "Eve".toList, 160, 3,
        [.user "Hi".toList, .advisor "Hello".toList]⟩)) = true := by
    decide +kernel
  obtain ⟨t, ht, hfound⟩ := (Option.any_eq_true _ _).mp hsome
  have hstored := of_decide_eq_true hfound
  exact ⟨t, ht, hstored, _, hstored,
    stored_history_tells_stream unpadded (run_of_exec ht) hstored⟩

end Examples

end Stream

end DemoService.Voice
