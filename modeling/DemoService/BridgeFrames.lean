import DemoService.AudioBridge
import DemoService.VoiceFrames

/-! The two ends of a bridged call: the backend's task that reads text frames, fed with what the
gateway's bridge writes. -/

namespace DemoService.Voice

open CodePoints GuardedRuns PyJson Rtp SerdeJson
open PyText (Text)

section Reading

theorem object_one (a : String) (v : Value) : object [(a, v)] = .obj [(a.toList, v)] := rfl

theorem object_two {a b : String} (h : a.toList < b.toList) (v w : Value) :
    object [(a, v), (b, w)] = .obj [(a.toList, v), (b.toList, w)] := by
  rw [object, List.foldl_cons, List.foldl_cons, List.foldl_nil, insertMember,
    insertMember_after h, insertMember]

/-- The members of a media event are written in the order of their keys. -/
theorem object_media (event streamSid media : Value) :
    object [("event", event), ("streamSid", streamSid), ("media", media)] =
      .obj [("event".toList, event), ("media".toList, media), ("streamSid".toList, streamSid)] := by
  rw [object, List.foldl_cons, List.foldl_cons, List.foldl_cons, List.foldl_nil, insertMember,
    insertMember_after (show "event".toList < "streamSid".toList by decide), insertMember,
    insertMember_after (show "event".toList < "media".toList by decide),
    insertMember_before (show "media".toList < "streamSid".toList by decide)]

variable {nesting : Nat} (hnesting : 2 ≤ nesting)

include hnesting

theorem readMessage_startText (callSid streamSid : List Char) :
    readMessage nesting (startText callSid streamSid) =
      .start (.str (callSid.map chr)) (.str (streamSid.map chr)) := by
  rw [readMessage, startText, jsonText,
    object_two (show "callSid".toList < "streamSid".toList by decide),
    object_two (show "event".toList < "start".toList by decide), loads_render _ hnesting]
  rfl

theorem readMessage_media (message : MediaMessage) :
    readMessage nesting message.text = .media (.str ((ofAscii message.payload).map chr)) := by
  rw [readMessage, MediaMessage.text, jsonText, object_one, object_media,
    loads_render _ hnesting]
  rfl

theorem readMessage_stopText (streamSid : List Char) :
    readMessage nesting (stopText streamSid) = .stop := by
  rw [readMessage, stopText, jsonText,
    object_two (show "event".toList < "streamSid".toList by decide),
    loads_render _ (Nat.le_of_succ_le hnesting)]
  rfl

end Reading

/-- The payload's text is what Python calls the encoding of the audio. -/
theorem map_chr_ofAscii (params : BridgeParams) (audio : Bytes) :
    (ofAscii (mediaOf params audio).payload).map chr = Base64.b64encode audio := by
  rw [Base64.b64encode, decodeAscii, ofAscii, List.map_map]
  apply List.map_congr_left
  intro b hb
  have hascii := Base64.b2aBase64_ascii audio b hb
  have hvalid : (b.toNat).isValidChar := .inl (by omega)
  rw [Function.comp_apply, chr, Char.ofNat, dif_pos hvalid]
  rfl

section Serving

/-- The world answers a frame well: it finds the persona with a session's tools, and the provider
takes what it is sent. -/
structure Answers.Serve (answers : Answers) (session : VoiceSession) : Prop where
  persona : startedSession answers.persona = some session
  configures : answers.configures = true
  responds : answers.responds = true
  sends : answers.sends = true

variable (params : BridgeParams) (session : VoiceSession)

def callKey : Json := .str (params.callSid.map chr)

def streamKey : Json := .str (params.streamSid.map chr)

/-- What the start of a served call does. -/
def opening : List StreamEffect :=
  [.sessionCreated (callKey params) session, .sessionConfigured, .responseStarted]

/-- The audio that the provider gets: a packet without any is passed over. -/
def forwarded (audio : List Bytes) : List StreamEffect :=
  (audio.filter (· ≠ [])).map fun bytes => .audioSent (.str (Base64.b64encode bytes))

/-- The task of a call that is being served, after some audio. -/
def servedTask (audio : List Bytes) : InputTask where
  callSid := callKey params
  streamSid := streamKey params
  inputAudioBytes := some (audio.map List.length).sum
  effects := opening params session ++ forwarded audio
  ended := none

/-- The task after the stop event of the call. -/
def stoppedTask (audio : List Bytes) : InputTask :=
  ((servedTask params session audio).emit (.sessionRemoved (callKey params))).endWith .stopped

variable {params session} {nesting : Nat} (hnesting : 2 ≤ nesting) (personaId : Option Int)
  {frame : TextFrame} {audio : List Bytes}

include hnesting

theorem handleFrame_start (hserve : frame.answers.Serve session)
    (hraw : frame.raw = startText params.callSid params.streamSid) :
    handleFrame nesting personaId .create frame = servedTask params session [] := by
  have hstarted := hserve.persona
  have hperform : perform personaId .create frame.answers
      (.start (callKey params) (streamKey params)) = servedTask params session [] := by
    rw [perform, startSession]
    cases hpersona : frame.answers.persona with
    | found toolNames =>
      rw [hpersona] at hstarted
      simp only [hstarted, hserve.configures, hserve.responds, if_true]
      rfl
    | refused =>
      rw [hpersona] at hstarted
      cases hstarted
    | raises =>
      rw [hpersona] at hstarted
      cases hstarted
  rw [handleFrame, hraw, readMessage_startText hnesting]
  exact hperform

theorem handleFrame_media (hserve : frame.answers.Serve session) {bytes : Bytes}
    (hraw : frame.raw = (mediaOf params bytes).text) :
    handleFrame nesting personaId (servedTask params session audio) frame =
      servedTask params session (audio ++ [bytes]) := by
  have hperform : perform personaId (servedTask params session audio) frame.answers
      (.media (.str (Base64.b64encode bytes))) = servedTask params session (audio ++ [bytes]) := by
    rw [perform, sendAudio]
    by_cases hempty : bytes = []
    · subst hempty
      have hfalsy : truthy (.str (Base64.b64encode [])) = false := rfl
      rw [hfalsy]
      simp [servedTask, forwarded]
    · have htruthy : truthy (.str (Base64.b64encode bytes)) = true := by
        simpa [truthy] using fun h => hempty (Base64.b64encode_eq_nil.mp h)
      rw [htruthy, if_pos rfl, if_pos hserve.sends]
      simp [servedTask, forwarded, InputTask.forward, InputTask.emit, decodedLength, hempty]
  rw [handleFrame, hraw, readMessage_media hnesting, map_chr_ofAscii]
  exact hperform

theorem handleFrame_stop
    (hraw : frame.raw = stopText params.streamSid) :
    handleFrame nesting personaId (servedTask params session audio) frame =
      stoppedTask params session audio := by
  rw [handleFrame, hraw, readMessage_stopText hnesting]
  rfl

/-- Media frames alone: the audio of each is appended, in order. -/
theorem foldl_media {frames : List TextFrame} {more : List Bytes}
    (hserves : ∀ frame ∈ frames, frame.answers.Serve session)
    (hraw : frames.map TextFrame.raw = more.map fun bytes => (mediaOf params bytes).text) :
    frames.foldl (handleFrame nesting personaId) (servedTask params session audio) =
      servedTask params session (audio ++ more) := by
  induction frames generalizing audio more with
  | nil =>
    obtain rfl : more = [] := by simpa using hraw
    simp
  | cons frame frames ih =>
    cases more with
    | nil => simp at hraw
    | cons bytes more =>
      rw [List.map_cons, List.map_cons] at hraw
      obtain ⟨hhead, htail⟩ := List.cons.inj hraw
      rw [List.forall_mem_cons] at hserves
      rw [List.foldl_cons, handleFrame_media hnesting personaId hserves.1 hhead,
        ih hserves.2 htail, List.append_assoc]
      rfl

end Serving

section Call

variable {params : BridgeParams} {session : VoiceSession} {nesting : Nat} {audio : List Bytes}
  {frames : List TextFrame}

/-- A list of texts that starts as the script does consists of its start event and the media events
of the first packets. -/
theorem take_script (params : BridgeParams) (audio : List Bytes) (k : Nat) :
    (script params audio).take (k + 1) = script params (audio.take k) := by
  rw [script, List.take_succ_cons, ← List.map_take]
  rfl

/-- The frames of a script, however far it goes, make the task of a served call. -/
theorem handleTwilioMessages_script (hnesting : 2 ≤ nesting) (personaId : Option Int)
    (hserves : ∀ frame ∈ frames, frame.answers.Serve session)
    (hraw : frames.map TextFrame.raw = script params audio) :
    handleTwilioMessages nesting personaId frames = servedTask params session audio := by
  cases frames with
  | nil => cases hraw
  | cons frame frames =>
    rw [script, List.map_cons] at hraw
    obtain ⟨hhead, htail⟩ := List.cons.inj hraw
    rw [List.forall_mem_cons] at hserves
    rw [handleTwilioMessages, List.foldl_cons, handleFrame_start hnesting personaId hserves.1 hhead,
      foldl_media hnesting personaId hserves.2 htail, List.nil_append]

/-- The stop event behind a script ends the task. -/
theorem handleTwilioMessages_stopped (hnesting : 2 ≤ nesting) (personaId : Option Int)
    (hserves : ∀ frame ∈ frames, frame.answers.Serve session)
    (hraw : frames.map TextFrame.raw = script params audio ++ [stopText params.streamSid]) :
    handleTwilioMessages nesting personaId frames = stoppedTask params session audio := by
  obtain ⟨front, last, rfl, hfront, hlast⟩ := List.map_eq_append_iff.mp hraw
  obtain ⟨frame, rfl, hframe⟩ := List.map_eq_singleton_iff.mp hlast
  have hscript := handleTwilioMessages_script hnesting personaId
    (fun frame hmem => hserves frame (List.mem_append_left _ hmem)) hfront
  rw [handleTwilioMessages] at hscript ⊢
  rw [List.foldl_append, hscript]
  exact handleFrame_stop hnesting personaId hframe

/-- The end of a served call's stream removes its session, once more where a stop event did. -/
theorem finish_servedTask (params : BridgeParams) (session : VoiceSession) (audio : List Bytes) :
    (servedTask params session audio).finish =
      ((servedTask params session audio).endWith .disconnected).emit
        (.sessionRemoved (callKey params)) := rfl

theorem finish_stoppedTask (params : BridgeParams) (session : VoiceSession) (audio : List Bytes) :
    (stoppedTask params session audio).finish =
      (stoppedTask params session audio).emit (.sessionRemoved (callKey params)) := rfl

theorem sidOf_callKey (params : BridgeParams) :
    sidOf (callKey params) = some (some params.callSid) := by
  have htext := toString?_ofString (String.ofList params.callSid)
  rw [ofString, String.toList_ofList] at htext
  simp [callKey, sidOf, htext]

/-- The effects of a served call come to the removal of what is stored under its id. -/
theorem foldl_served (params : BridgeParams) (session : VoiceSession) (audio : List Bytes)
    (stops : Bool) (sessions : Option Text → Option VoiceSession) :
    (opening params session ++ forwarded audio ++
        List.replicate (1 + stops.toNat) (StreamEffect.sessionRemoved (callKey params))).foldl
      StreamEffect.apply sessions = Function.update sessions (some params.callSid) none := by
  have hopening : (opening params session).foldl StreamEffect.apply sessions =
      Function.update sessions (some params.callSid) (some session) := by
    simp [opening, StreamEffect.apply, sidOf_callKey]
  have hforwarded : ∀ stored, (forwarded audio).foldl StreamEffect.apply stored = stored := by
    intro stored
    rw [forwarded, List.foldl_map]
    exact List.foldl_fixed' (fun _ => rfl) _
  rw [List.foldl_append, List.foldl_append, hopening, hforwarded]
  cases stops <;> simp [StreamEffect.apply, sidOf_callKey, List.replicate]

theorem named_of_script {params : BridgeParams} {audio : List Bytes} {raw : Str}
    (hnesting : 2 ≤ nesting)
    (h : raw ∈ script params audio ++ [stopText params.streamSid]) :
    (readMessage nesting raw).Named := by
  rcases List.mem_append.mp h with h | h
  · rcases List.mem_cons.mp h with rfl | h
    · rw [readMessage_startText hnesting]
      exact ⟨_, sidOf_callKey params⟩
    · obtain ⟨bytes, -, rfl⟩ := List.mem_map.mp h
      rw [readMessage_media hnesting]
      trivial
  · rw [List.mem_singleton.mp h, readMessage_stopText hnesting]
    trivial

/-- The backend has served a call that brought some audio, and a stop event or none: the session
opens under the call's id, the provider gets the audio in order and without gaps, its bytes are
counted, the session is removed, and of the session store nothing else is changed. -/
structure ServedCall (params : BridgeParams) (session : VoiceSession) (nesting : Nat)
    (personaId : Option Int) (frames : List TextFrame) (audio : List Bytes) (stops : Bool) :
    Prop where
  length : frames.length = audio.length + 1 + stops.toNat
  effects : (voiceStream nesting personaId frames).effects =
    opening params session ++ forwarded audio ++
      List.replicate (1 + stops.toNat) (.sessionRemoved (callKey params))
  inputAudioBytes : (voiceStream nesting personaId frames).inputAudioBytes =
    some (audio.map List.length).sum
  sessions : ∀ sessions, ∃ store, GuardedRuns.Run storeStep (.create sessions) store ∧
    store.input = .ended ∧ store.sessions = Function.update sessions (some params.callSid) none

/-- A served call is a run of the session store, and leaves it without a session under its id. -/
theorem served_store (hnesting : 2 ≤ nesting) (personaId : Option Int)
    (hraw : ∀ frame ∈ frames,
      frame.raw ∈ script params audio ++ [stopText params.streamSid]) {stops : Bool}
    (heffects : (voiceStream nesting personaId frames).effects =
      opening params session ++ forwarded audio ++
        List.replicate (1 + stops.toNat) (.sessionRemoved (callKey params)))
    (sessions : Option Text → Option VoiceSession) :
    ∃ store, GuardedRuns.Run storeStep (.create sessions) store ∧ store.input = .ended ∧
      store.sessions = Function.update sessions (some params.callSid) none := by
  obtain ⟨store, hrun, hended, hsessions⟩ := voiceStream_follows nesting personaId sessions frames
    fun frame hframe => named_of_script hnesting (hraw frame hframe)
  rw [heffects, foldl_served] at hsessions
  exact ⟨store, hrun, hended, hsessions⟩

theorem servedCall_script (hnesting : 2 ≤ nesting) (personaId : Option Int)
    (hserves : ∀ frame ∈ frames, frame.answers.Serve session)
    (hraw : frames.map TextFrame.raw = script params audio) :
    ServedCall params session nesting personaId frames audio false := by
  have htask := handleTwilioMessages_script hnesting personaId hserves hraw
  have hlength := congrArg List.length hraw
  have heffects : (voiceStream nesting personaId frames).effects =
      opening params session ++ forwarded audio ++
        List.replicate (1 + false.toNat) (.sessionRemoved (callKey params)) := by
    rw [voiceStream, htask, finish_servedTask]
    rfl
  have hwritten : ∀ frame ∈ frames,
      frame.raw ∈ script params audio ++ [stopText params.streamSid] := by
    intro frame hframe
    exact List.mem_append_left _ (hraw ▸ List.mem_map_of_mem hframe)
  refine ⟨?_, heffects, ?_, served_store hnesting personaId hwritten heffects⟩
  · simpa [script] using hlength
  · rw [voiceStream, htask, finish_servedTask]
    rfl

theorem servedCall_stopped (hnesting : 2 ≤ nesting) (personaId : Option Int)
    (hserves : ∀ frame ∈ frames, frame.answers.Serve session)
    (hraw : frames.map TextFrame.raw = script params audio ++ [stopText params.streamSid]) :
    ServedCall params session nesting personaId frames audio true := by
  have htask := handleTwilioMessages_stopped hnesting personaId hserves hraw
  have hlength := congrArg List.length hraw
  have heffects : (voiceStream nesting personaId frames).effects =
      opening params session ++ forwarded audio ++
        List.replicate (1 + true.toNat) (.sessionRemoved (callKey params)) := by
    rw [voiceStream, htask, finish_stoppedTask]
    simp [InputTask.emit, stoppedTask, servedTask, InputTask.endWith, List.replicate]
  have hwritten : ∀ frame ∈ frames,
      frame.raw ∈ script params audio ++ [stopText params.streamSid] := by
    intro frame hframe
    exact hraw ▸ List.mem_map_of_mem hframe
  refine ⟨?_, heffects, ?_, served_store hnesting personaId hwritten heffects⟩
  · simpa [script] using hlength
  · rw [voiceStream, htask, finish_stoppedTask]
    rfl

/-- A bridge that was not asked to stop has written no stop event. -/
theorem stopped_of_stopText {Addr : Type} [DecidableEq Addr] {peer : Addr}
    {actions : List (BridgeAction Addr)} {s : InboundBridge} (hnesting : 2 ≤ nesting)
    (hexec : exec (InboundBridge.step params peer) (startInboundBridge params) actions = some s)
    (h : stopText params.streamSid ∈ s.written) : s.stopped = true := by
  by_contra hnot
  have hdelivers := (delivers_start params).exec hexec
  rw [List.nil_append] at hdelivers
  obtain ⟨-, hfront, -⟩ := hdelivers.unasked (Bool.eq_false_iff.mpr hnot)
  have hread := readMessage_stopText hnesting params.streamSid
  rcases List.mem_cons.mp (hfront.subset h) with heq | hmem
  · rw [heq, readMessage_startText hnesting] at hread
    cases hread
  · obtain ⟨bytes, -, heq⟩ := List.mem_map.mp hmem
    rw [← heq, readMessage_media hnesting] at hread
    cases hread

/-- What the backend makes of a call, whatever the bridge had written when it ended: it serves a call
with the audio of the first packets of the peer, and with a stop event only if the bridge was
stopped. -/
theorem bridged_call_served {Addr : Type} [DecidableEq Addr] {peer : Addr}
    {actions : List (BridgeAction Addr)} {s : InboundBridge} (hnesting : 2 ≤ nesting)
    (personaId : Option Int)
    (hexec : exec (InboundBridge.step params peer) (startInboundBridge params) actions = some s)
    (hserves : ∀ frame ∈ frames, frame.answers.Serve session)
    (hraw : frames.map TextFrame.raw = s.written) :
    frames = [] ∨ ∃ audio, audio <+: peerAudio peer actions ∧ ∃ stops : Bool,
      (stops → s.stopped) ∧ ServedCall params session nesting personaId frames audio stops := by
  have hdelivers := (delivers_start params).exec hexec
  rw [List.nil_append] at hdelivers
  obtain ⟨k, hcut⟩ := hdelivers.cut
  rcases hcut with hcut | hcut
  · cases k with
    | zero =>
      left
      rw [hcut] at hraw
      simpa using hraw
    | succ k =>
      right
      rw [take_script] at hcut
      exact ⟨_, List.take_prefix k _, false, nofun,
        servedCall_script hnesting personaId hserves (hraw.trans hcut)⟩
  · right
    rw [take_script] at hcut
    have hstop : stopText params.streamSid ∈ s.written :=
      hcut ▸ List.mem_append_right _ (List.mem_singleton_self _)
    exact ⟨_, List.take_prefix k _, true, fun _ => stopped_of_stopText hnesting hexec hstop,
      servedCall_stopped hnesting personaId hserves (hraw.trans hcut)⟩

end Call

/-- A persona with one tool is found, and the provider takes everything. -/
def helpful : Answers := ⟨recordAnswerOnly, true, true, true⟩

theorem stopped_call_served : ∃ s session,
    exec (InboundBridge.step shortCall 7) (startInboundBridge shortCall) stoppedCall = some s ∧
      ∃ frames : List TextFrame, frames.map TextFrame.raw = s.written ∧ frames ≠ [] ∧
        (frames = [] ∨ ∃ audio, audio <+: peerAudio 7 stoppedCall ∧ ∃ stops : Bool,
          (stops → s.stopped) ∧ ServedCall shortCall session 2 none frames audio stops) := by
  obtain ⟨s, hs⟩ := Option.isSome_iff_exists.mp (show (exec (InboundBridge.step shortCall 7)
    (startInboundBridge shortCall) stoppedCall).isSome from by decide +kernel)
  obtain ⟨session, hsession⟩ := Option.isSome_iff_exists.mp
    (show (startedSession recordAnswerOnly).isSome from by decide +kernel)
  have hwritten : s.written ≠ [] := by
    have hsome : ((exec (InboundBridge.step shortCall 7) (startInboundBridge shortCall)
      stoppedCall).map fun s => s.written.length) = some 3 := by decide +kernel
    rw [hs] at hsome
    intro hnil
    rw [Option.map_some, hnil] at hsome
    cases hsome
  have hraw : (s.written.map fun raw => (⟨raw, helpful⟩ : TextFrame)).map TextFrame.raw =
      s.written := by
    rw [List.map_map]
    exact List.map_id _
  refine ⟨s, session, hs, s.written.map fun raw => ⟨raw, helpful⟩, hraw, ?_,
    bridged_call_served (le_refl 2) none hs ?_ hraw⟩
  · simpa using hwritten
  · intro frame hframe
    obtain ⟨raw, -, rfl⟩ := List.mem_map.mp hframe
    exact ⟨hsession, rfl, rfl, rfl⟩

end DemoService.Voice
