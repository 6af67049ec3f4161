import DemoService.Base64
import DemoService.FilteredFolds
import DemoService.PyJsonFuel
import DemoService.VoiceSessions

/-! The text frames of a voice stream, which the media gateway sends and anybody else may send,
and what the task that reads them makes of each: sessions, audio for the provider, its count of
bytes, and the end of the stream. -/

namespace DemoService.Voice

open CodePoints FilteredFolds GuardedRuns PyJson
open PyText (Text orNone)

section Messages

def isText : Json → Bool
  | .str _ => true
  | _ => false

/-- `value == text`. -/
def equalsText (text : String) : Json → Bool
  | .str value => value = ofString text
  | _ => false

/-- Whether a lexeme reads as a float that is zero, which half of the least one still does. -/
def zeroFloat (lexeme : Str) : Bool :=
  let unsigned := (splitSign [0x2D] lexeme).2
  let whole := unsigned.takeWhile isDigit
  let frac := fraction (unsigned.dropWhile isDigit)
  let exp := splitSign [0x2B, 0x2D] ((exponent frac.2).1.drop 1)
  let mantissa := digitsValue (whole ++ frac.1.drop 1)
  let exp10 : Int := if exp.1 = [0x2D] then -digitsValue exp.2 else digitsValue exp.2
  let scale : Int := exp10 - (frac.1.drop 1).length
  whole ≠ [] && (mantissa = 0 || (scale < 0 && mantissa * 2 ^ 1075 ≤ 10 ^ scale.natAbs))

/-- `bool(value)`. -/
def truthy : Json → Bool
  | .null => false
  | .bool value => value
  | .int value => value ≠ 0
  | .float lexeme => !zeroFloat lexeme
  | .str value => value ≠ []
  | .arr items => !items.isEmpty
  | .obj members => !members.isEmpty

/-- Whether a value can be the key of a dictionary. -/
def hashable : Json → Bool
  | .arr _ | .obj _ => false
  | _ => true

/-- What a frame asks for. A `broken` one raises while it is read. -/
inductive Message
  | skipped
  | broken
  | start (callSid streamSid : Json)
  | media (payload : Json)
  | stop

def readStart (msg : Json) : Option Message := do
  let start ← getOr "start" (.obj []) msg
  let callSid ← getOr "callSid" (.str []) start
  let streamSid ← getOr "streamSid" (.str []) start
  some (.start callSid streamSid)

def readMedia (msg : Json) : Option Message := do
  let media ← getOr "media" (.obj []) msg
  let payload ← getOr "payload" (.str []) media
  some (.media payload)

def readMessage (nesting : Nat) (raw : Str) : Message :=
  match loads nesting raw with
  | .error .decode => .skipped
  | .error .recursion => .broken
  | .ok msg =>
    match getOr "event" .null msg with
    | none => .broken
    | some event =>
      if equalsText "start" event then (readStart msg).getD .broken
      else if equalsText "media" event then (readMedia msg).getD .broken
      else if equalsText "stop" event then .stop
      else .skipped

end Messages

section Frames

/-- What the world answers to a frame: the persona it finds, whether the session is configured
and a response started, and whether the audio is sent. -/
structure Answers where
  persona : PersonaLookup
  configures : Bool
  responds : Bool
  sends : Bool
  deriving DecidableEq, Repr

structure TextFrame where
  raw : Str
  answers : Answers
  deriving DecidableEq, Repr

inductive StreamEffect
  | sessionCreated (callSid : Json) (session : VoiceSession)
  | sessionRemoved (callSid : Json)
  | closed (code : Nat)
  | sessionConfigured
  | responseStarted
  | audioSent (payload : Json)

inductive StreamEnd
  | stopped
  | refused
  | raised
  | disconnected
  deriving DecidableEq, Repr

/-- `call_sid_ref`, `stream_sid_ref` and the byte count of `conv_ref`, with what the task has
done so far and how it ended. -/
structure InputTask where
  callSid : Json
  streamSid : Json
  inputAudioBytes : Option Nat
  effects : List StreamEffect
  ended : Option StreamEnd

def InputTask.create : InputTask := ⟨.null, .null, none, [], none⟩

def InputTask.emit (s : InputTask) (effect : StreamEffect) : InputTask :=
  { s with effects := s.effects ++ [effect] }

def InputTask.endWith (s : InputTask) (ended : StreamEnd) : InputTask :=
  { s with ended := some ended }

/-- `if call_sid_ref[0]: remove_session(call_sid_ref[0])`; `none` where that raises. -/
def InputTask.removeCurrent (s : InputTask) : Option InputTask :=
  if truthy s.callSid then
    if hashable s.callSid then some (s.emit (.sessionRemoved s.callSid)) else none
  else some s

/-- The status of the exception when no persona is found. -/
def refusalStatus (personaId : Option Int) : Nat := if personaId.isSome then 404 else 503

def closeCode (statusCode : Nat) : Nat := if statusCode = 404 then 4004 else 1011

/-- `create_session`, and a new accumulator. -/
def InputTask.openSession (s : InputTask) (session : VoiceSession) : InputTask :=
  { s.emit (.sessionCreated s.callSid session) with inputAudioBytes := some 0 }

/-- `len(base64.b64decode(payload))`, where that does not raise. -/
def decodedLength : Json → Option Nat
  | .str payload => (Base64.b64decode payload).map List.length
  | _ => none

def InputTask.forward (s : InputTask) (payload : Json) : InputTask :=
  { s.emit (.audioSent payload) with
    inputAudioBytes := s.inputAudioBytes.map (· + (decodedLength payload).getD 0) }

variable (nesting : Nat) (personaId : Option Int)

def startSession (s : InputTask) (answers : Answers) : InputTask :=
  match answers.persona with
  | .refused => (s.emit (.closed (closeCode (refusalStatus personaId)))).endWith .refused
  | persona =>
    match startedSession persona with
    | none => s.endWith .raised
    | some session =>
      if hashable s.callSid then
        let s := s.openSession session
        if answers.configures then
          let s := s.emit .sessionConfigured
          if answers.responds then s.emit .responseStarted else s.endWith .raised
        else s.endWith .raised
      else s.endWith .raised

def sendAudio (s : InputTask) (payload : Json) (answers : Answers) : InputTask :=
  if truthy payload then
    if answers.sends then s.forward payload else s.endWith .raised
  else s

def perform (s : InputTask) (answers : Answers) : Message → InputTask
  | .skipped => s
  | .broken => s.endWith .raised
  | .start callSid streamSid =>
    startSession personaId { s with callSid := callSid, streamSid := streamSid } answers
  | .media payload => sendAudio s payload answers
  | .stop =>
    match s.removeCurrent with
    | some s => s.endWith .stopped
    | none => s.endWith .raised

/-- The body of the loop in `_handle_twilio_messages`. -/
def handleFrame (s : InputTask) (frame : TextFrame) : InputTask :=
  match s.ended with
  | some _ => s
  | none => perform personaId s frame.answers (readMessage nesting frame.raw)

def handleTwilioMessages (frames : List TextFrame) : InputTask :=
  frames.foldl (handleFrame nesting personaId) .create

/-- The end of the stream: the frames are over, and `finally` removes the session. -/
def InputTask.finish (s : InputTask) : InputTask :=
  let s := if s.ended = none then s.endWith .disconnected else s
  s.removeCurrent.getD s

structure StreamOutcome where
  effects : List StreamEffect
  inputAudioBytes : Option Nat
  ended : Option StreamEnd

def voiceStream (frames : List TextFrame) : StreamOutcome :=
  let s := (handleTwilioMessages nesting personaId frames).finish
  ⟨s.effects, s.inputAudioBytes, s.ended⟩

end Frames

section Shapes

/-- An object whose member meets a condition, or that misses it where `missing` allows that. -/
def memberIs (missing : Bool) (key : String) (ok : Json → Bool) : Json → Bool
  | .obj members => (member? key members).elim missing ok
  | _ => false

def startShaped (missing : Bool) (start : Json) : Bool :=
  memberIs missing "callSid" isText start && memberIs missing "streamSid" isText start

/-- A JSON object of a known event with the expected nested shape. Whether a shape may miss a
member for which the task has a default is left open. -/
def wellShaped (missing : Bool) (nesting : Nat) (raw : Str) : Bool :=
  match loads nesting raw with
  | .error _ => false
  | .ok msg =>
    (memberIs false "event" (equalsText "start") msg &&
        memberIs missing "start" (startShaped missing) msg) ||
      (memberIs false "event" (equalsText "media") msg &&
        memberIs missing "media" (memberIs missing "payload" isText) msg) ||
      memberIs false "event" (equalsText "stop") msg

/-- No JSON at all, or an object of no known event, or of a `media` object without audio. -/
def harmless (nesting : Nat) (raw : Str) : Bool :=
  match loads nesting raw with
  | .error .decode => true
  | .error .recursion => false
  | .ok msg =>
    memberIs true "event" (fun event =>
        !equalsText "start" event && !equalsText "media" event && !equalsText "stop" event) msg ||
      (memberIs false "event" (equalsText "media") msg &&
        memberIs true "media" (memberIs true "payload" fun payload => !truthy payload) msg)

variable (missing : Bool) (nesting : Nat) (personaId : Option Int)

/-- The frames that are not well shaped change nothing of what comes of the stream, and none of
them ends the task. -/
def MalformedIgnored (frames : List TextFrame) : Prop :=
  voiceStream nesting personaId (frames.filter fun frame => wellShaped missing nesting frame.raw) =
      voiceStream nesting personaId frames ∧
    Along (handleFrame nesting personaId) (fun s frame =>
      s.ended = none → ¬wellShaped missing nesting frame.raw →
        (handleFrame nesting personaId s frame).ended = none) .create frames

/-- Every frame that is not well shaped and arrives while the task reads is harmless. -/
def Undisturbed (frames : List TextFrame) : Prop :=
  Along (handleFrame nesting personaId) (fun s frame =>
    s.ended = none → ¬wellShaped missing nesting frame.raw → harmless nesting frame.raw)
    .create frames

end Shapes

section Counting

def Message.isHarmless : Message → Bool
  | .skipped => true
  | .media payload => !truthy payload
  | _ => false

theorem equalsText_unique {a b : String} {value : Json} (ha : equalsText a value = true)
    (hb : equalsText b value = true) : ofString a = ofString b := by
  cases value with
  | str value =>
    have ha : value = ofString a := by simpa [equalsText] using ha
    have hb : value = ofString b := by simpa [equalsText] using hb
    exact ha.symm.trans hb
  | _ => cases ha

/-- What holds of a value that is looked up with a default that meets it or not. -/
theorem elim_getOr (key : String) (default value : Json) (ok : Json → Bool) :
    (getOr key default value).elim false ok = memberIs (ok default) key ok value := by
  cases value with
  | obj members =>
    simp only [getOr, memberIs, Option.elim_some]
    cases member? key members <;> rfl
  | _ => rfl

theorem readStart_isHarmless (msg : Json) :
    ((readStart msg).getD .broken).isHarmless = false := by
  unfold readStart
  cases getOr "start" (.obj []) msg with
  | none => rfl
  | some start => cases start <;> rfl

theorem readMedia_isHarmless (msg : Json) :
    ((readMedia msg).getD .broken).isHarmless =
      memberIs true "media" (memberIs true "payload" fun payload => !truthy payload) msg := by
  have hmedia := elim_getOr "media" (.obj []) msg
    (memberIs true "payload" fun payload => !truthy payload)
  have hempty : memberIs true "payload" (fun payload => !truthy payload) (.obj []) = true := rfl
  rw [hempty] at hmedia
  rw [← hmedia, readMedia]
  cases getOr "media" (.obj []) msg with
  | none => rfl
  | some media =>
    have hpayload := elim_getOr "payload" (.str []) media fun payload => !truthy payload
    rw [show (!truthy (.str [])) = true from rfl] at hpayload
    simp only [Option.bind_eq_bind, Option.bind_some, Option.elim_some]
    rw [← hpayload]
    cases getOr "payload" (.str []) media <;> rfl

theorem readMessage_isHarmless (nesting : Nat) (raw : Str) :
    (readMessage nesting raw).isHarmless = harmless nesting raw := by
  unfold readMessage harmless
  cases loads nesting raw with
  | error e => cases e <;> rfl
  | ok msg =>
    simp only [← readMedia_isHarmless]
    cases msg with
    | obj members =>
      simp only [getOr, memberIs]
      cases member? "event" members with
      | none => rfl
      | some event =>
        simp only [Option.getD_some, Option.elim_some]
        by_cases hstart : equalsText "start" event = true
        · have hmedia : ¬equalsText "media" event = true := fun hmedia =>
            absurd (equalsText_unique hstart hmedia) (by decide)
          simp [hstart, hmedia, readStart_isHarmless]
        · by_cases hmedia : equalsText "media" event = true
          · simp [hstart, hmedia]
          · by_cases hstop : equalsText "stop" event = true
            · simp [hstart, hmedia, hstop, Message.isHarmless]
            · simp [hstart, hmedia, hstop, Message.isHarmless]
    | _ => rfl

def StreamEffect.marked : StreamEffect → Bool
  | .sessionCreated _ _ | .audioSent _ => true
  | _ => false

/-- The sessions created and the audio sent so far. -/
def InputTask.marks (s : InputTask) : Nat := s.effects.countP StreamEffect.marked

@[simp] theorem InputTask.marks_emit (s : InputTask) (effect : StreamEffect) :
    (s.emit effect).marks = s.marks + if effect.marked then 1 else 0 := by
  simp [emit, marks, List.countP_append, List.countP_singleton]

@[simp] theorem InputTask.ended_emit (s : InputTask) (effect : StreamEffect) :
    (s.emit effect).ended = s.ended := rfl

@[simp] theorem InputTask.marks_endWith (s : InputTask) (ended : StreamEnd) :
    (s.endWith ended).marks = s.marks := rfl

@[simp] theorem InputTask.ended_endWith (s : InputTask) (ended : StreamEnd) :
    (s.endWith ended).ended = some ended := rfl

@[simp] theorem InputTask.marks_openSession (s : InputTask) (session : VoiceSession) :
    (s.openSession session).marks = s.marks + 1 := s.marks_emit _

@[simp] theorem InputTask.ended_openSession (s : InputTask) (session : VoiceSession) :
    (s.openSession session).ended = s.ended := rfl

@[simp] theorem InputTask.marks_forward (s : InputTask) (payload : Json) :
    (s.forward payload).marks = s.marks + 1 := s.marks_emit _

@[simp] theorem InputTask.ended_forward (s : InputTask) (payload : Json) :
    (s.forward payload).ended = s.ended := rfl

/-- What a message adds to the marks, and whether the task reads on after it. -/
structure MessageEffect where
  adds : Nat
  lasts : Bool

def Answers.effect (answers : Answers) : Message → MessageEffect
  | .skipped => ⟨0, true⟩
  | .broken | .stop => ⟨0, false⟩
  | .start callSid _ =>
    if (startedSession answers.persona).isSome ∧ hashable callSid then
      ⟨1, answers.configures && answers.responds⟩
    else ⟨0, false⟩
  | .media payload =>
    if truthy payload then if answers.sends then ⟨1, true⟩ else ⟨0, false⟩ else ⟨0, true⟩

theorem startSession_effect (personaId : Option Int) {s : InputTask} (answers : Answers)
    (hs : s.ended = none) (streamSid : Json) :
    (startSession personaId s answers).marks =
        s.marks + (answers.effect (.start s.callSid streamSid)).adds ∧
      ((startSession personaId s answers).ended = none ↔
        (answers.effect (.start s.callSid streamSid)).lasts = true) := by
  unfold startSession Answers.effect
  cases hpersona : answers.persona with
  | refused => simp [startedSession, StreamEffect.marked]
  | raises => simp [startedSession]
  | found toolNames =>
    dsimp only
    cases startedSession (.found toolNames) with
    | none => simp
    | some session =>
      by_cases hhash : hashable s.callSid = true
      · cases answers.configures <;> cases answers.responds <;>
          simp [hhash, hs, StreamEffect.marked]
      · simp [hhash]

theorem InputTask.removeCurrent_spec {s t : InputTask} (h : s.removeCurrent = some t) :
    t.marks = s.marks ∧ t.inputAudioBytes = s.inputAudioBytes ∧ t.ended = s.ended := by
  unfold removeCurrent at h
  split at h
  · split at h
    · obtain rfl := Option.some.inj h
      exact ⟨s.marks_emit _, rfl, rfl⟩
    · cases h
  · obtain rfl := Option.some.inj h
    exact ⟨rfl, rfl, rfl⟩

theorem perform_effect (personaId : Option Int) {s : InputTask} (answers : Answers)
    (hs : s.ended = none) (message : Message) :
    (perform personaId s answers message).marks = s.marks + (answers.effect message).adds ∧
      ((perform personaId s answers message).ended = none ↔
        (answers.effect message).lasts = true) := by
  cases message with
  | skipped => exact ⟨rfl, iff_of_true hs rfl⟩
  | broken => exact ⟨rfl, by simp [perform, Answers.effect]⟩
  | start callSid streamSid =>
    let named := { s with callSid := callSid, streamSid := streamSid }
    have hnamed : named.ended = none := hs
    exact startSession_effect personaId answers hnamed streamSid
  | media payload =>
    simp only [perform, sendAudio, Answers.effect]
    by_cases htruthy : truthy payload = true
    · cases answers.sends <;> simp [htruthy, hs]
    · simp [htruthy, hs]
  | stop =>
    unfold perform Answers.effect
    cases hremove : s.removeCurrent with
    | none => simp
    | some t => simp [(InputTask.removeCurrent_spec hremove).1]

theorem handleFrame_of_none (nesting : Nat) (personaId : Option Int) {s : InputTask}
    (hs : s.ended = none) (frame : TextFrame) :
    handleFrame nesting personaId s frame =
      perform personaId s frame.answers (readMessage nesting frame.raw) := by
  unfold handleFrame
  rw [hs]

theorem handleFrame_of_ended (nesting : Nat) (personaId : Option Int) {s : InputTask}
    (hs : ¬s.ended = none) (frame : TextFrame) : handleFrame nesting personaId s frame = s := by
  obtain ⟨ended, hended⟩ := Option.ne_none_iff_exists'.mp hs
  unfold handleFrame
  rw [hended]

theorem handleFrame_of_harmless {nesting : Nat} {personaId : Option Int} {frame : TextFrame}
    (h : harmless nesting frame.raw = true) (s : InputTask) :
    handleFrame nesting personaId s frame = s := by
  by_cases hs : s.ended = none
  · rw [← readMessage_isHarmless] at h
    rw [handleFrame_of_none nesting personaId hs]
    cases hmessage : readMessage nesting frame.raw with
    | skipped => rfl
    | media payload =>
      have hfalsy : truthy payload = false := by simpa [hmessage, Message.isHarmless] using h
      simp [perform, sendAudio, hfalsy]
    | _ => simp [hmessage, Message.isHarmless] at h
  · exact handleFrame_of_ended nesting personaId hs frame

/-- A message that changes something adds to the marks or is the last that is read. -/
theorem effect_of_not_harmless {message : Message} (answers : Answers)
    (h : message.isHarmless = false) (hlasts : (answers.effect message).lasts = true) :
    (answers.effect message).adds = 1 := by
  cases message with
  | skipped => cases h
  | broken => cases hlasts
  | stop => cases hlasts
  | start callSid streamSid =>
    simp only [Answers.effect] at hlasts ⊢
    split at hlasts
    · rename_i hopens
      rw [if_pos hopens]
    · cases hlasts
  | media payload =>
    have htruthy : truthy payload = true := by simpa [Message.isHarmless] using h
    simp only [Answers.effect, if_pos htruthy] at hlasts ⊢
    split at hlasts
    · rename_i hsends
      rw [if_pos hsends]
    · cases hlasts

theorem counted (nesting : Nat) (personaId : Option Int) :
    Counted (handleFrame nesting personaId) (fun s => s.ended = none) InputTask.marks where
  dead := fun s frame hs => handleFrame_of_ended nesting personaId hs frame
  alike := by
    intro s t frame hs ht
    rw [handleFrame_of_none nesting personaId hs, handleFrame_of_none nesting personaId ht]
    obtain ⟨hmarks, hlasts⟩ :=
      perform_effect personaId frame.answers hs (readMessage nesting frame.raw)
    obtain ⟨hmarks', hlasts'⟩ :=
      perform_effect personaId frame.answers ht (readMessage nesting frame.raw)
    exact ⟨hlasts.trans hlasts'.symm, by omega⟩
  mono := by
    intro s frame
    by_cases hs : s.ended = none
    · rw [handleFrame_of_none nesting personaId hs,
        (perform_effect personaId frame.answers hs _).1]
      exact Nat.le_add_right _ _
    · rw [handleFrame_of_ended nesting personaId hs]

theorem InputTask.marks_finish (s : InputTask) : s.finish.marks = s.marks := by
  unfold finish
  generalize hclosed : (if s.ended = none then s.endWith .disconnected else s) = closed
  have hmarks : closed.marks = s.marks := by
    subst hclosed
    split <;> rfl
  dsimp only
  cases hremove : closed.removeCurrent with
  | none => exact hmarks
  | some t => exact (removeCurrent_spec hremove).1.trans hmarks

end Counting

section Results

variable {missing : Bool} {nesting : Nat} {personaId : Option Int} {frames : List TextFrame}

theorem Undisturbed.filter_eq (h : Undisturbed missing nesting personaId frames) :
    handleTwilioMessages nesting personaId
        (frames.filter fun frame => wellShaped missing nesting frame.raw) =
      handleTwilioMessages nesting personaId frames := by
  apply foldl_filter_of_along
  apply h.mono
  intro s frame hframe hshape
  by_cases hs : s.ended = none
  · exact handleFrame_of_harmless (hframe hs hshape) s
  · exact handleFrame_of_ended nesting personaId hs frame

theorem MalformedIgnored.undisturbed (h : MalformedIgnored missing nesting personaId frames) :
    Undisturbed missing nesting personaId frames := by
  have hmarks : ∀ frames, (voiceStream nesting personaId frames).effects.countP
      StreamEffect.marked = (handleTwilioMessages nesting personaId frames).marks :=
    fun frames => InputTask.marks_finish _
  have hsame : (handleTwilioMessages nesting personaId
      (frames.filter fun frame => wellShaped missing nesting frame.raw)).marks =
      (handleTwilioMessages nesting personaId frames).marks := by
    rw [← hmarks, ← hmarks, h.1]
  -- no frame that is left out ends the task, so leaving them out loses the marks they add
  have hstill := ((counted nesting personaId).filter_le h.2 rfl rfl).2
    (congrArg (· + InputTask.create.marks) hsame)
  refine (h.2.and hstill).mono fun s frame ⟨hlasts, hcount⟩ hs hshape => ?_
  rw [← readMessage_isHarmless]
  by_contra hharm
  have hharm := Bool.eq_false_of_not_eq_true hharm
  have hframe := handleFrame_of_none nesting personaId hs frame
  obtain ⟨hadds, hended⟩ :=
    perform_effect personaId frame.answers hs (readMessage nesting frame.raw)
  have hone := effect_of_not_harmless frame.answers hharm
    (hended.mp (hframe ▸ hlasts hs hshape))
  have hadded := hcount hs hshape
  rw [hframe] at hadded
  omega

/-- Frames that are not well shaped are ignored in exactly the streams where each of them that
arrives while the task reads is no JSON, or an object of no known event or without audio. -/
theorem malformed_ignored_iff (missing : Bool) (nesting : Nat) (personaId : Option Int)
    (frames : List TextFrame) :
    MalformedIgnored missing nesting personaId frames ↔
      Undisturbed missing nesting personaId frames := by
  constructor
  · exact MalformedIgnored.undisturbed
  · intro h
    constructor
    · unfold voiceStream
      rw [h.filter_eq]
    · apply h.mono
      intro s frame hframe hs hshape
      rw [handleFrame_of_harmless (hframe hs hshape)]
      exact hs

/-- A frame that opens more arrays than the parser nests is no JSON, which the parser never comes to
say: it ends the task. -/
theorem deep_frame_not_ignored (missing : Bool) {nesting depth : Nat} (h : nesting < depth)
    (personaId : Option Int) (rest : Str) (answers : Answers) :
    ¬MalformedIgnored missing nesting personaId
      [⟨List.replicate depth 0x5B ++ rest, answers⟩] := by
  intro hignored
  have hloads := loads_opens rest h
  have hshape : ¬wellShaped missing nesting (List.replicate depth 0x5B ++ rest) = true := by
    rw [wellShaped, hloads]
    exact Bool.false_ne_true
  have hlasts := hignored.2.1 rfl hshape
  rw [handleFrame_of_none nesting personaId rfl, readMessage, hloads] at hlasts
  cases hlasts

def silentAnswers : Answers := ⟨.refused, true, true, true⟩

/-- The text `null` is JSON and no object, and 1500 opening brackets are no JSON; either ends the
task, however the shapes are read. -/
theorem null_frame_ends_stream :
    (¬MalformedIgnored true 1000 none [⟨ofString "null", silentAnswers⟩] ∧
      ¬MalformedIgnored false 1000 none [⟨ofString "null", silentAnswers⟩]) ∧
    ¬MalformedIgnored true 1000 none [⟨List.replicate 1500 0x5B, silentAnswers⟩] ∧
      ¬MalformedIgnored false 1000 none [⟨List.replicate 1500 0x5B, silentAnswers⟩] := by
  have hdeep : ∀ missing,
      ¬MalformedIgnored missing 1000 none [⟨List.replicate 1500 0x5B, silentAnswers⟩] := by
    intro missing
    have hnot := deep_frame_not_ignored missing (show 1000 < 1500 by omega) none [] silentAnswers
    rwa [List.append_nil] at hnot
  refine ⟨⟨fun h => ?_, fun h => ?_⟩, hdeep true, hdeep false⟩
  · have hlasts := h.2.1 rfl
    exact absurd (hlasts (by decide)) (by decide)
  · have hlasts := h.2.1 rfl
    exact absurd (hlasts (by decide)) (by decide)

end Results

section Sessions

/-- A call id as the session store knows it: null, or a string without halves of pairs. -/
def sidOf : Json → Option (Option Text)
  | .null => some none
  | .str value => (toString? value).map fun text => some text.toList
  | _ => none

def StreamEffect.apply (sessions : Option Text → Option VoiceSession) :
    StreamEffect → Option Text → Option VoiceSession
  | .sessionCreated callSid session =>
    (sidOf callSid).elim sessions fun key => Function.update sessions key (some session)
  | .sessionRemoved callSid =>
    (sidOf callSid).elim sessions fun key => Function.update sessions key none
  | _ => sessions

/-- What a message comes to for the session store. -/
def Answers.actions (answers : Answers) : Message → List StreamAction
  | .skipped => []
  | .broken => [.inputEnds]
  | .start callSid _ =>
    .start ((sidOf callSid).getD none) answers.persona ::
      if (startedSession answers.persona).isSome then
        if answers.configures && answers.responds then [.configured] else [.inputEnds]
      else []
  | .media payload => if truthy payload && !answers.sends then [.media, .inputEnds] else [.media]
  | .stop => [.stop]

def Message.Named : Message → Prop
  | .start callSid _ => ∃ key, sidOf callSid = some key
  | _ => True

/-- The store between two messages, after the effects of the task on what it held before. -/
structure Follows (sessions : Option Text → Option VoiceSession) (s : InputTask)
    (store : CallStore) : Prop where
  callSid : sidOf s.callSid = some store.callSid
  sessions : store.sessions = s.effects.foldl StreamEffect.apply sessions
  input : store.input = if s.ended = none then .receiving else .ended

theorem hashable_of_sidOf {callSid : Json} {key : Option Text}
    (h : sidOf callSid = some key) : hashable callSid = true := by
  cases callSid with
  | arr items => cases h
  | obj members => cases h
  | _ => rfl

theorem truthy_of_sidOf {callSid : Json} {key : Option Text}
    (h : sidOf callSid = some key) : truthy callSid = (key.bind orNone).isSome := by
  cases callSid with
  | null =>
    obtain rfl := Option.some.inj h
    rfl
  | str value =>
    obtain ⟨text, htext, rfl⟩ := Option.map_eq_some_iff.mp h
    unfold toString? at htext
    split at htext
    · cases htext
    · obtain rfl := Option.some.inj htext
      cases value <;> simp [truthy, orNone]
  | _ => cases h

variable {sessions : Option Text → Option VoiceSession} {s : InputTask} {store : CallStore}

theorem Follows.removeCurrent (h : Follows sessions s store) :
    ∃ t, s.removeCurrent = some t ∧ Follows sessions t (removeCurrent store) := by
  have htruthy := truthy_of_sidOf h.callSid
  unfold InputTask.removeCurrent Voice.removeCurrent
  rw [htruthy, if_pos (hashable_of_sidOf h.callSid)]
  split
  · refine ⟨_, rfl, h.callSid, ?_, h.input⟩
    simp [InputTask.emit, StreamEffect.apply, h.callSid, h.sessions]
  · exact ⟨s, rfl, h⟩

theorem Follows.ends (h : Follows sessions s store) (ended : StreamEnd) :
    Follows sessions (s.endWith ended) { store with input := .ended } :=
  ⟨h.callSid, h.sessions, rfl⟩

theorem Follows.emit (h : Follows sessions s store) (effect : StreamEffect)
    (heffect : ∀ sessions, effect.apply sessions = sessions) :
    Follows sessions (s.emit effect) store where
  callSid := h.callSid
  sessions := by simp [InputTask.emit, heffect, h.sessions]
  input := h.input

theorem Follows.openSession (h : Follows sessions s store) (session : VoiceSession) :
    Follows sessions (s.openSession session) (createSession store store.callSid session) where
  callSid := h.callSid
  sessions := by
    simp [InputTask.openSession, InputTask.emit, createSession, StreamEffect.apply, h.callSid,
      h.sessions]
  input := h.input

theorem Follows.startSession (h : Follows sessions s store) (hs : s.ended = none)
    (personaId : Option Int) (answers : Answers) {callSid : Json} {key : Option Text}
    (hkey : sidOf callSid = some key) (streamSid : Json) :
    ∃ t, exec storeStep store (answers.actions (.start callSid streamSid)) = some t ∧
      Follows sessions (startSession personaId
        { s with callSid := callSid, streamSid := streamSid } answers) t := by
  have hin : store.input = .receiving := h.input.trans (if_pos hs)
  have hnamed : Follows sessions { s with callSid := callSid, streamSid := streamSid }
      { store with callSid := key } := ⟨hkey, h.sessions, h.input⟩
  have hfirst : storeStep store (.start key answers.persona) =
      some (handleStart store key answers.persona) := if_pos hin
  simp only [Answers.actions, hkey, Option.getD_some, exec, hfirst, Option.bind_some]
  unfold Voice.startSession handleStart
  cases answers.persona with
  | refused => exact ⟨_, rfl, (hnamed.emit (.closed _) fun _ => rfl).ends .refused⟩
  | raises => exact ⟨_, rfl, hnamed.ends .raised⟩
  | found toolNames =>
    dsimp only
    cases startedSession (.found toolNames) with
    | none => exact ⟨_, rfl, hnamed.ends .raised⟩
    | some session =>
      have hopened := hnamed.openSession session
      have hconfigured := hopened.emit .sessionConfigured fun _ => rfl
      simp only [if_pos (hashable_of_sidOf hkey)]
      cases answers.configures with
      | false => exact ⟨_, rfl, hopened.ends .raised⟩
      | true =>
        cases answers.responds with
        | false => exact ⟨_, rfl, hconfigured.ends .raised⟩
        | true =>
          have hstarted := hconfigured.emit .responseStarted fun _ => rfl
          exact ⟨_, rfl, hstarted.callSid, hstarted.sessions, (if_pos hs).symm⟩

theorem Follows.perform (h : Follows sessions s store) (hs : s.ended = none)
    (personaId : Option Int) (answers : Answers) (message : Message) (hnamed : message.Named) :
    ∃ t, exec storeStep store (answers.actions message) = some t ∧
      Follows sessions (perform personaId s answers message) t := by
  have hin : store.input = .receiving := h.input.trans (if_pos hs)
  have hmedia : storeStep store .media = some store := if_pos hin
  cases message with
  | skipped => exact ⟨store, rfl, h⟩
  | broken => exact ⟨_, rfl, h.ends .raised⟩
  | start callSid streamSid =>
    obtain ⟨key, hkey⟩ := hnamed
    exact h.startSession hs personaId answers hkey streamSid
  | media payload =>
    unfold Voice.perform sendAudio Answers.actions
    by_cases htruthy : truthy payload = true
    · cases answers.sends with
      | false =>
        refine ⟨_, ?_, by simpa [htruthy] using h.ends .raised⟩
        simp [htruthy, exec, hin, storeStep]
      | true =>
        have hsent := h.emit (.audioSent payload) fun _ => rfl
        refine ⟨store, by simp [htruthy, exec, hmedia], ?_⟩
        simpa [htruthy] using (⟨hsent.callSid, hsent.sessions, hsent.input⟩ :
          Follows sessions (s.forward payload) store)
    · exact ⟨store, by simp [htruthy, exec, hmedia], by simpa [htruthy] using h⟩
  | stop =>
    obtain ⟨t, ht, hfollows⟩ := h.removeCurrent
    refine ⟨{ Voice.removeCurrent store with input := .ended }, ?_, ?_⟩
    · simp [Answers.actions, exec, storeStep, hin]
    · simp only [Voice.perform, ht]
      exact hfollows.ends .stopped

/-- A stream whose start messages name calls by texts is a run of the session store. -/
theorem handleTwilioMessages_follows (nesting : Nat) (personaId : Option Int)
    (sessions : Option Text → Option VoiceSession) (frames : List TextFrame)
    (hnamed : ∀ frame ∈ frames, (readMessage nesting frame.raw).Named) :
    ∃ store, Run storeStep (.create sessions) store ∧
      Follows sessions (handleTwilioMessages nesting personaId frames) store := by
  unfold handleTwilioMessages
  induction frames using List.reverseRecOn with
  | nil => exact ⟨_, .refl, rfl, rfl, rfl⟩
  | append_singleton frames frame ih =>
    obtain ⟨store, hrun, hfollows⟩ := ih fun f hf => hnamed f (List.mem_append_left _ hf)
    rw [List.foldl_append, List.foldl_cons, List.foldl_nil]
    generalize frames.foldl (handleFrame nesting personaId) .create = s at hfollows
    by_cases hs : s.ended = none
    · have hframe := hnamed frame (List.mem_append_right _ (List.mem_singleton_self frame))
      obtain ⟨t, hexec, ht⟩ := hfollows.perform hs personaId frame.answers _ hframe
      rw [handleFrame_of_none nesting personaId hs]
      exact ⟨t, hrun.trans (run_of_exec hexec), ht⟩
    · rw [handleFrame_of_ended nesting personaId hs]
      exact ⟨store, hrun, hfollows⟩

/-- What the whole stream leaves in the session store is what its effects amount to. -/
theorem voiceStream_follows (nesting : Nat) (personaId : Option Int)
    (sessions : Option Text → Option VoiceSession) (frames : List TextFrame)
    (hnamed : ∀ frame ∈ frames, (readMessage nesting frame.raw).Named) :
    ∃ store, Run storeStep (.create sessions) store ∧ store.input = .ended ∧
      store.sessions =
        (voiceStream nesting personaId frames).effects.foldl StreamEffect.apply sessions := by
  obtain ⟨store, hrun, hfollows⟩ :=
    handleTwilioMessages_follows nesting personaId sessions frames hnamed
  unfold voiceStream InputTask.finish
  generalize handleTwilioMessages nesting personaId frames = s at hfollows
  have hclosed : Follows sessions (if s.ended = none then s.endWith .disconnected else s)
      { store with input := .ended } := by
    split
    · exact hfollows.ends .disconnected
    · rename_i hs
      exact ⟨hfollows.callSid, hfollows.sessions, (if_neg hs).symm⟩
  obtain ⟨t, ht, hremoved⟩ := hclosed.removeCurrent
  refine ⟨{ removeCurrent { store with input := .ended } with input := .ended }, ?_, rfl, ?_⟩
  · have hexec : exec storeStep store [.inputEnds, .cleanup] = some _ := rfl
    exact hrun.trans (run_of_exec hexec)
  · dsimp only
    rw [ht]
    exact hremoved.sessions

end Sessions

end DemoService.Voice
