import DemoService.RtpBridge
import DemoService.SerdeJson

/-! What the bridge of an inbound call writes to the backend's WebSocket: the task that turns RTP
packets into media messages and the task that writes messages share a channel, and whoever stops
the bridge puts the last message into it and then aborts both tasks. -/

namespace DemoService.Rtp

open CodePoints GuardedRuns SerdeJson

/-- The text of a message that `json!` builds, with its members in any order. -/
def jsonText (members : List (String × Value)) : Str := (object members).render

def ofAscii (bytes : Bytes) : List Char := bytes.map fun b => Char.ofNat b.toNat

def startText (callSid streamSid : List Char) : Str :=
  jsonText [("event", .str "start".toList),
    ("start", object [("callSid", .str callSid), ("streamSid", .str streamSid)])]

def MediaMessage.text (message : MediaMessage) : Str :=
  jsonText [("event", .str "media".toList), ("streamSid", .str message.streamSid),
    ("media", object [("payload", .str (ofAscii message.payload))])]

def stopText (streamSid : List Char) : Str :=
  jsonText [("event", .str "stop".toList), ("streamSid", .str streamSid)]

inductive WsOutboundMessage
  | text (text : Str)
  | stopAndClose
  deriving DecidableEq

def WsOutboundMessage.text? : WsOutboundMessage → Option Str
  | .text t => some t
  | .stopAndClose => none

/-- The room of the channel `ws_out_tx`. -/
def wsOutCapacity : Nat := 1024

/-- The channel, which is open while its reader `ws_writer` lives, and what that task has written;
the message `rtp_to_ws` waits to send, and whether `stop` has been called. -/
structure InboundBridge where
  wsOut : List WsOutboundMessage
  wsOutOpen : Bool
  written : List Str
  outgoing : Option MediaMessage
  rtpRunning : Bool
  rtpPacketsReceivedTotal : Nat
  stopped : Bool

/-- A datagram that `rtp_to_ws` receives, or an error of its socket; the channel takes the message
it waits to send; `ws_writer` takes a message and writes it or fails to. `stop` offers its message
to the channel and then aborts the tasks. -/
inductive BridgeAction (Addr : Type)
  | datagram (bytes : Bytes) (source : Addr)
  | recvFailed
  | send
  | write (sent : Bool)
  | stop (taken : Bool)
  | abortWriter
  | abortRtp

/-- The names a call is known under: `CA`, the configured prefix and a UUID, and `MZ` and a UUID. -/
structure BridgeParams where
  callsidPrefix : List Char
  callUuid : List Char
  streamUuid : List Char

def BridgeParams.callSid (params : BridgeParams) : List Char :=
  'C' :: 'A' :: (params.callsidPrefix ++ params.callUuid)

def BridgeParams.streamSid (params : BridgeParams) : List Char := 'M' :: 'Z' :: params.streamUuid

/-- `start_inbound_bridge` has connected, bound its socket, and queued the start event. -/
def startInboundBridge (params : BridgeParams) : InboundBridge where
  wsOut := [.text (startText params.callSid params.streamSid)]
  wsOutOpen := true
  written := []
  outgoing := none
  rtpRunning := true
  rtpPacketsReceivedTotal := 0
  stopped := false

def InboundBridge.closeChannel (s : InboundBridge) : InboundBridge :=
  { s with wsOut := [], wsOutOpen := false }

def InboundBridge.endRtp (s : InboundBridge) : InboundBridge :=
  { s with outgoing := none, rtpRunning := false }

/-- `ws_out_tx.send(..).await`, which waits for room and fails on a closed channel. -/
def InboundBridge.sendMedia (s : InboundBridge) (message : MediaMessage) : Option InboundBridge :=
  if s.wsOutOpen then
    if s.wsOut.length < wsOutCapacity then
      some { s with wsOut := s.wsOut ++ [.text message.text], outgoing := none }
    else none
  else some s.endRtp

/-- One turn of the loop of `ws_writer`. -/
def InboundBridge.writeNext (s : InboundBridge) (streamSid : List Char) (sent : Bool) :
    Option InboundBridge :=
  match s.wsOut with
  | [] => none
  | .text text :: rest =>
    if sent then some { s with wsOut := rest, written := s.written ++ [text] }
    else some s.closeChannel
  | .stopAndClose :: _ =>
    some { s.closeChannel with
      written := if sent then s.written ++ [stopText streamSid] else s.written }

/-- `ws_out_tx.try_send(StopAndClose)`. It finds no room also where the last room is promised to the
message that waits. -/
def InboundBridge.tryStop (s : InboundBridge) (taken : Bool) : Option InboundBridge :=
  if taken then
    if s.wsOutOpen ∧ s.wsOut.length < wsOutCapacity then
      some { s with wsOut := s.wsOut ++ [.stopAndClose], stopped := true }
    else none
  else if s.wsOutOpen → wsOutCapacity ≤ s.wsOut.length + s.outgoing.toList.length then
    some { s with stopped := true }
  else none

section Step

variable {Addr : Type} [DecidableEq Addr] (params : BridgeParams) (remoteMediaAddr : Addr)

def InboundBridge.receive (s : InboundBridge) (bytes : Bytes) (source : Addr) : InboundBridge :=
  match rtpToWs params.streamSid remoteMediaAddr bytes source with
  | none => s
  | some message =>
    { s with outgoing := some message, rtpPacketsReceivedTotal := s.rtpPacketsReceivedTotal + 1 }

def InboundBridge.step (s : InboundBridge) : BridgeAction Addr → Option InboundBridge
  | .datagram bytes source =>
    if s.rtpRunning ∧ s.outgoing = none then some (s.receive params remoteMediaAddr bytes source)
    else none
  | .recvFailed => if s.rtpRunning ∧ s.outgoing = none then some s.endRtp else none
  | .send => s.outgoing.bind s.sendMedia
  | .write sent => if s.wsOutOpen then s.writeNext params.streamSid sent else none
  | .stop taken => if s.stopped then none else s.tryStop taken
  | .abortWriter => if s.stopped then some s.closeChannel else none
  | .abortRtp => if s.stopped then some s.endRtp else none

/-- The bytes that a datagram of the peer carries behind the fixed header of its packet. -/
def rtpPayload (bytes : Bytes) (source : Addr) : Option Bytes :=
  if source ≠ remoteMediaAddr ∨ (bytes.take bufferSize).length < 12 then none
  else some ((bytes.take bufferSize).drop 12)

def BridgeAction.payload : BridgeAction Addr → Option Bytes
  | .datagram bytes source => rtpPayload remoteMediaAddr bytes source
  | _ => none

/-- What a run of the bridge receives from the peer, packet for packet. -/
def peerAudio (actions : List (BridgeAction Addr)) : List Bytes :=
  actions.filterMap (BridgeAction.payload remoteMediaAddr)

end Step

def mediaOf (params : BridgeParams) (audio : Bytes) : MediaMessage :=
  ⟨params.streamSid, Base64.b2aBase64 audio⟩

/-- Everything there is to write for some audio, in its order. -/
def script (params : BridgeParams) (audio : List Bytes) : List Str :=
  startText params.callSid params.streamSid :: audio.map fun bytes => (mediaOf params bytes).text

def InboundBridge.queuedTexts (s : InboundBridge) : List Str :=
  s.wsOut.filterMap WsOutboundMessage.text?

/-- What is written, queued or about to be queued. -/
def InboundBridge.texts (s : InboundBridge) : List Str :=
  s.written ++ s.queuedTexts ++ s.outgoing.toList.map MediaMessage.text

/-- What may stand on the WebSocket: a part of the script from its start on, and once the start
event is there the stop event behind it, at most once. -/
def Cut (params : BridgeParams) (audio : List Bytes) (written : List Str) : Prop :=
  ∃ k, written = (script params audio).take k ∨
    written = (script params audio).take (k + 1) ++ [stopText params.streamSid]

/-- The invariant of the bridge, for the audio it has received so far. -/
structure Delivers (params : BridgeParams) (audio : List Bytes) (s : InboundBridge) : Prop where
  ordered : s.wsOutOpen → s.texts <+: script params audio
  complete : s.wsOutOpen → s.rtpRunning → s.texts = script params audio
  cut : Cut params audio s.written
  begun : s.wsOutOpen → s.written = [] → s.wsOut.head? =
    some (.text (startText params.callSid params.streamSid))
  unasked : s.stopped = false →
    .stopAndClose ∉ s.wsOut ∧ s.written <+: script params audio ∧
      (s.wsOutOpen = false → s.wsOut = [])
  counted : s.rtpPacketsReceivedTotal = audio.length
  waiting : s.outgoing.isSome → s.rtpRunning

section Invariant

variable {params : BridgeParams} {audio : List Bytes} {s t : InboundBridge}

theorem script_concat (params : BridgeParams) (audio : List Bytes) (bytes : Bytes) :
    script params (audio ++ [bytes]) = script params audio ++ [(mediaOf params bytes).text] := by
  simp [script]

theorem script_append (params : BridgeParams) (audio more : List Bytes) :
    script params audio <+: script params (audio ++ more) :=
  ⟨more.map fun bytes => (mediaOf params bytes).text, by simp [script]⟩

theorem Cut.of_front {written : List Str} (h : written <+: script params audio) :
    Cut params audio written := ⟨written.length, .inl (List.prefix_iff_eq_take.mp h)⟩

theorem Cut.stop {written : List Str} (h : written <+: script params audio) (hne : written ≠ []) :
    Cut params audio (written ++ [stopText params.streamSid]) := by
  have hlen : written.length - 1 + 1 = written.length :=
    Nat.succ_pred_eq_of_pos (List.length_pos_of_ne_nil hne)
  refine ⟨written.length - 1, .inr ?_⟩
  rw [hlen, ← List.prefix_iff_eq_take.mp h]

theorem Cut.mono {written : List Str} (h : Cut params audio written) (more : List Bytes) :
    Cut params (audio ++ more) written := by
  obtain ⟨k, hk⟩ := h
  have htake : ∀ n, (script params audio).take n <+: script params (audio ++ more) :=
    fun n => (List.take_prefix _ _).trans (script_append params audio more)
  rcases hk with rfl | rfl
  · exact .of_front (htake k)
  · exact .stop (htake (k + 1)) (by simp [script])

theorem InboundBridge.written_prefix (s : InboundBridge) : s.written <+: s.texts :=
  ⟨s.queuedTexts ++ s.outgoing.toList.map MediaMessage.text, by rw [texts, List.append_assoc]⟩

theorem delivers_start (params : BridgeParams) : Delivers params [] (startInboundBridge params) where
  ordered := fun _ => List.prefix_rfl
  complete := fun _ _ => rfl
  cut := .of_front List.nil_prefix
  begun := fun _ _ => rfl
  unasked := fun _ => ⟨by simp [startInboundBridge], List.nil_prefix, nofun⟩
  counted := rfl
  waiting := nofun

theorem rtpToWs_eq {Addr : Type} [DecidableEq Addr] (params : BridgeParams) (peer : Addr)
    (bytes : Bytes) (source : Addr) : rtpToWs params.streamSid peer bytes source =
      (rtpPayload peer bytes source).map (mediaOf params) := by
  rw [rtpToWs, rtpPayload]
  split
  · rfl
  · rfl

theorem Delivers.receive {Addr : Type} [DecidableEq Addr] {peer : Addr} {bytes : Bytes}
    {source : Addr} (h : Delivers params audio s) (hrtp : s.rtpRunning) (hidle : s.outgoing = none) :
    Delivers params (audio ++ (rtpPayload peer bytes source).toList)
      (s.receive params peer bytes source) := by
  rw [InboundBridge.receive, rtpToWs_eq]
  cases rtpPayload peer bytes source with
  | none => simpa using h
  | some payload =>
    have hcomplete : s.wsOutOpen → s.texts ++ [(mediaOf params payload).text] =
        script params (audio ++ [payload]) := by
      intro hopen
      rw [script_concat, h.complete hopen hrtp]
    have htexts : ({ s with outgoing := some (mediaOf params payload)
                            rtpPacketsReceivedTotal := s.rtpPacketsReceivedTotal + 1 } :
        InboundBridge).texts = s.texts ++ [(mediaOf params payload).text] := by
      simp [InboundBridge.texts, InboundBridge.queuedTexts, hidle]
    refine ⟨fun hopen => ?_, fun hopen _ => htexts.trans (hcomplete hopen), h.cut.mono _,
      h.begun, fun hasked => ?_, ?_, fun _ => hrtp⟩
    · rw [Option.map_some, htexts, hcomplete hopen]
      exact List.prefix_rfl
    · obtain ⟨hstop, hwritten, hclosed⟩ := h.unasked hasked
      exact ⟨hstop, hwritten.trans (script_append _ _ _), hclosed⟩
    · have hcounted := h.counted
      simp only [Option.map_some, Option.toList_some, List.length_append, List.length_singleton]
      omega

theorem Delivers.endRtp (h : Delivers params audio s) : Delivers params audio s.endRtp where
  ordered := fun hopen => by
    have hprefix : s.endRtp.texts <+: s.texts :=
      ⟨s.outgoing.toList.map MediaMessage.text, by
        simp [InboundBridge.texts, InboundBridge.queuedTexts, InboundBridge.endRtp]⟩
    exact hprefix.trans (h.ordered hopen)
  complete := fun _ hrtp => by cases hrtp
  cut := h.cut
  begun := h.begun
  unasked := h.unasked
  counted := h.counted
  waiting := nofun

theorem Delivers.closeChannel (h : Delivers params audio s) :
    Delivers params audio s.closeChannel where
  ordered := nofun
  complete := nofun
  cut := h.cut
  begun := nofun
  unasked := fun hasked => ⟨List.not_mem_nil, (h.unasked hasked).2.1, fun _ => rfl⟩
  counted := h.counted
  waiting := h.waiting

theorem Delivers.sendMedia {message : MediaMessage} (h : Delivers params audio s)
    (hout : s.outgoing = some message) (hsend : s.sendMedia message = some t) :
    Delivers params audio t := by
  have hrtp : s.rtpRunning := h.waiting (by rw [hout]; rfl)
  unfold InboundBridge.sendMedia at hsend
  split at hsend
  · rename_i hopen
    split at hsend
    · obtain rfl := Option.some.inj hsend
      have htexts : ({ s with wsOut := s.wsOut ++ [.text message.text], outgoing := none } :
          InboundBridge).texts = s.texts := by
        simp [InboundBridge.texts, InboundBridge.queuedTexts, hout, WsOutboundMessage.text?]
      refine ⟨fun hopen => ?_, fun hopen hrtp => ?_, h.cut, fun hopen hnil => ?_, fun hasked => ?_,
        h.counted, nofun⟩
      · rw [htexts]
        exact h.ordered hopen
      · rw [htexts]
        exact h.complete hopen hrtp
      · rw [List.head?_append, h.begun hopen hnil]
        rfl
      · obtain ⟨hstop, hwritten, -⟩ := h.unasked hasked
        refine ⟨?_, hwritten, fun hclosed => ?_⟩
        · simpa using hstop
        · rw [hopen] at hclosed
          cases hclosed
    · cases hsend
  · obtain rfl := Option.some.inj hsend
    exact h.endRtp

theorem Delivers.writeNext {sent : Bool} (h : Delivers params audio s) (hopen : s.wsOutOpen)
    (hwrite : s.writeNext params.streamSid sent = some t) : Delivers params audio t := by
  have hwritten := s.written_prefix.trans (h.ordered hopen)
  unfold InboundBridge.writeNext at hwrite
  split at hwrite
  · cases hwrite
  · rename_i text rest hqueue
    split at hwrite
    · obtain rfl := Option.some.inj hwrite
      have htexts : ({ s with wsOut := rest, written := s.written ++ [text] } :
          InboundBridge).texts = s.texts := by
        simp [InboundBridge.texts, InboundBridge.queuedTexts, hqueue, WsOutboundMessage.text?]
      have hgrown : s.written ++ [text] <+: script params audio := by
        have hprefix := h.ordered hopen
        rw [← htexts] at hprefix
        exact (InboundBridge.written_prefix _).trans hprefix
      refine ⟨fun hopen => ?_, fun hopen hrtp => ?_, .of_front hgrown, fun _ hnil => ?_,
        fun hasked => ?_, h.counted, h.waiting⟩
      · rw [htexts]
        exact h.ordered hopen
      · rw [htexts]
        exact h.complete hopen hrtp
      · simp at hnil
      · obtain ⟨hstop, -, -⟩ := h.unasked hasked
        refine ⟨fun hmem => hstop ?_, hgrown, fun hclosed => ?_⟩
        · rw [hqueue]
          exact List.mem_cons_of_mem _ hmem
        · rw [hopen] at hclosed
          cases hclosed
    · obtain rfl := Option.some.inj hwrite
      exact h.closeChannel
  · rename_i rest hqueue
    obtain rfl := Option.some.inj hwrite
    have hasked : s.stopped = true := by
      by_contra hnot
      exact (h.unasked (Bool.eq_false_iff.mpr hnot)).1 (by rw [hqueue]; exact List.mem_cons_self)
    have hne : s.written ≠ [] := by
      intro hnil
      have hbegun := h.begun hopen hnil
      rw [hqueue] at hbegun
      cases hbegun
    refine ⟨nofun, nofun, ?_, nofun, fun hnot => ?_, h.counted, h.waiting⟩
    · cases sent with
      | false => exact .of_front hwritten
      | true => exact .stop hwritten hne
    · rw [show s.stopped = false from hnot] at hasked
      cases hasked

theorem Delivers.tryStop {taken : Bool} (h : Delivers params audio s)
    (hstop : s.tryStop taken = some t) : Delivers params audio t := by
  unfold InboundBridge.tryStop at hstop
  split at hstop
  · split at hstop
    · obtain rfl := Option.some.inj hstop
      have htexts : ({ s with wsOut := s.wsOut ++ [.stopAndClose], stopped := true } :
          InboundBridge).texts = s.texts := by
        simp [InboundBridge.texts, InboundBridge.queuedTexts, WsOutboundMessage.text?]
      refine ⟨fun hopen => ?_, fun hopen hrtp => ?_, h.cut, fun hopen hnil => ?_, nofun, h.counted,
        h.waiting⟩
      · rw [htexts]
        exact h.ordered hopen
      · rw [htexts]
        exact h.complete hopen hrtp
      · rw [List.head?_append, h.begun hopen hnil]
        rfl
    · cases hstop
  · split at hstop
    · obtain rfl := Option.some.inj hstop
      exact ⟨h.ordered, h.complete, h.cut, h.begun, nofun, h.counted, h.waiting⟩
    · cases hstop

/-- A step keeps the invariant, for the audio with what it receives. -/
theorem Delivers.step {Addr : Type} [DecidableEq Addr] {peer : Addr} {a : BridgeAction Addr}
    (h : Delivers params audio s) (hstep : s.step params peer a = some t) :
    Delivers params (audio ++ (a.payload peer).toList) t := by
  cases a with
  | datagram bytes source =>
    simp only [InboundBridge.step] at hstep
    split at hstep
    · rename_i hrun
      obtain rfl := Option.some.inj hstep
      exact h.receive hrun.1 hrun.2
    · cases hstep
  | recvFailed =>
    simp only [InboundBridge.step] at hstep
    split at hstep
    · obtain rfl := Option.some.inj hstep
      simpa [BridgeAction.payload] using h.endRtp
    · cases hstep
  | send =>
    obtain ⟨message, hout, hsend⟩ := Option.bind_eq_some_iff.mp hstep
    simpa [BridgeAction.payload] using h.sendMedia hout hsend
  | write sent =>
    simp only [InboundBridge.step] at hstep
    split at hstep
    · rename_i hopen
      simpa [BridgeAction.payload] using h.writeNext hopen hstep
    · cases hstep
  | stop taken =>
    simp only [InboundBridge.step] at hstep
    split at hstep
    · cases hstep
    · simpa [BridgeAction.payload] using h.tryStop hstep
  | abortWriter =>
    simp only [InboundBridge.step] at hstep
    split at hstep
    · obtain rfl := Option.some.inj hstep
      simpa [BridgeAction.payload] using h.closeChannel
    · cases hstep
  | abortRtp =>
    simp only [InboundBridge.step] at hstep
    split at hstep
    · obtain rfl := Option.some.inj hstep
      simpa [BridgeAction.payload] using h.endRtp
    · cases hstep

theorem Delivers.exec {Addr : Type} [DecidableEq Addr] {peer : Addr}
    {actions : List (BridgeAction Addr)} (h : Delivers params audio s)
    (hexec : exec (InboundBridge.step params peer) s actions = some t) :
    Delivers params (audio ++ peerAudio peer actions) t := by
  induction actions generalizing s audio with
  | nil =>
    obtain rfl : s = t := Option.some.inj hexec
    simpa [peerAudio] using h
  | cons a actions ih =>
    obtain ⟨u, hu, hexec⟩ := Option.bind_eq_some_iff.mp hexec
    have hlater := ih (h.step hu) hexec
    have hsplit : peerAudio peer (a :: actions) =
        (a.payload peer).toList ++ peerAudio peer actions := by
      rw [peerAudio, List.filterMap_cons]
      cases a.payload peer <;> rfl
    rw [hsplit, ← List.append_assoc]
    exact hlater

end Invariant

/-- However the tasks of a bridge interleave with each other and with its stop: what it has written
is the script up to some message, with the stop event behind it at most once and only after a stop
was asked for. While both tasks run, all it has received is written or on its way, in order, once. -/
theorem bridge_writes_script {Addr : Type} [DecidableEq Addr] {params : BridgeParams} {peer : Addr}
    {actions : List (BridgeAction Addr)} {s : InboundBridge}
    (hexec : exec (InboundBridge.step params peer) (startInboundBridge params) actions = some s) :
    Cut params (peerAudio peer actions) s.written ∧
      (s.stopped = false → s.written <+: script params (peerAudio peer actions)) ∧
      (s.wsOutOpen → s.rtpRunning → s.texts = script params (peerAudio peer actions)) ∧
      s.rtpPacketsReceivedTotal = (peerAudio peer actions).length := by
  have hdelivers := (delivers_start params).exec hexec
  rw [List.nil_append] at hdelivers
  exact ⟨hdelivers.cut, fun hasked => (hdelivers.unasked hasked).2.1, hdelivers.complete,
    hdelivers.counted⟩

def shortCall : BridgeParams := ⟨"rust".toList, "1".toList, "2".toList⟩

def onePacket : Bytes := (List.range 14).map UInt8.ofNat

/-- One packet arrives, is written, and the bridge is stopped while a second one waits. -/
def stoppedCall : List (BridgeAction Nat) :=
  [.write true, .datagram onePacket 7, .send, .datagram onePacket 8, .datagram onePacket 7,
    .stop true, .send, .write true, .write true, .abortWriter, .abortRtp]

theorem stopped_call_cut : ∃ s,
    exec (InboundBridge.step shortCall 7) (startInboundBridge shortCall) stoppedCall = some s ∧
      Cut shortCall (peerAudio 7 stoppedCall) s.written ∧
      (s.stopped = false → s.written <+: script shortCall (peerAudio 7 stoppedCall)) ∧
      (s.wsOutOpen → s.rtpRunning → s.texts = script shortCall (peerAudio 7 stoppedCall)) ∧
      s.rtpPacketsReceivedTotal = (peerAudio 7 stoppedCall).length := by
  obtain ⟨s, hs⟩ := Option.isSome_iff_exists.mp (show (exec (InboundBridge.step shortCall 7)
    (startInboundBridge shortCall) stoppedCall).isSome from by decide +kernel)
  exact ⟨s, hs, bridge_writes_script hs⟩

end DemoService.Rtp
