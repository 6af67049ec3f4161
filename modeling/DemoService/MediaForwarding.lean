import DemoService.ControlPlane
import DemoService.RtpPlayout
import Mathlib.Data.Nat.ModEq

/-! Media of the WebSocket towards the outbound call: where a session's payloads are routed, and
the task that sends those of its RTP channel. -/

namespace DemoService.Rtp

open BigEndian GuardedRuns
open ControlPlane (CallSession Channel)

inductive RoutingDecision
  | sentToAi
  | droppedDuringWarmTransfer
  | sentToOutboundSip
  | noRoute
  deriving DecidableEq, Repr

/-- `send_payload` fails where the receiver of the channel is gone. -/
def sendPayload (isOpen : Channel → Bool) (sent : RoutingDecision) (tx : Option Channel) :
    RoutingDecision × Option Channel :=
  match tx with
  | some tx => if isOpen tx then (sent, some tx) else (.noRoute, none)
  | none => (.noRoute, none)

/-- The decision on a payload, with the channel that takes it. -/
def routeMediaPayload (isOpen : Channel → Bool) (session : CallSession) :
    RoutingDecision × Option Channel :=
  match session.currentState with
  | .normalCall => sendPayload isOpen .sentToAi session.aiEngineTx
  | .warmTransferActive => (.droppedDuringWarmTransfer, none)
  | .transferComplete => sendPayload isOpen .sentToOutboundSip session.outboundSipRtpTx

def channelCapacity : Nat := 256

/-- The sender of a channel: `waiting` is what the channel holds, `forwarded` all that was put into
it, and `packets` what was handed to the socket. -/
structure Sender where
  builder : RtpPacketBuilder
  waiting : List (List UInt8)
  forwarded : List (List UInt8)
  packets : List (List UInt8)
  rtpPacketsSentTotal : Nat
  udpSendErrorsTotal : Nat
  deriving DecidableEq

def spawnRtpSender : Sender := ⟨⟨0, 0, 0x10203040⟩, [], [], [], 0, 0⟩

/-- A media frame with the session as the registry has it then, or the next payload of the channel
with the result of `send_to`. -/
inductive SenderAction
  | media (session : CallSession) (isOpen : Channel → Bool) (audioPayload : List UInt8)
  | recv (sent : Bool)

def Sender.enqueue (s : Sender) (audioPayload : List UInt8) : Sender :=
  { s with
    waiting := s.waiting ++ [audioPayload]
    forwarded := s.forwarded ++ [audioPayload] }

/-- The body of the sender's loop. -/
def Sender.send (s : Sender) (audioPayload : List UInt8) (rest : List (List UInt8)) (sent : Bool) :
    Sender :=
  let (packet, builder) := s.builder.buildPacket audioPayload
  { s with
    builder
    waiting := rest
    packets := s.packets ++ [packet]
    rtpPacketsSentTotal := s.rtpPacketsSentTotal + if sent then 1 else 0
    udpSendErrorsTotal := s.udpSendErrorsTotal + if sent then 0 else 1 }

/-- A full channel makes the frame wait. -/
def Sender.step (channel : Channel) (s : Sender) : SenderAction → Option Sender
  | .media session isOpen audioPayload =>
    if (routeMediaPayload isOpen session).2 = some channel then
      if s.waiting.length < channelCapacity then some (s.enqueue audioPayload) else none
    else some s
  | .recv sent =>
    match s.waiting with
    | [] => none
    | audioPayload :: rest => some (s.send audioPayload rest sent)

def sequenceOf (packet : List UInt8) : Nat := fromBeBytes ((packet.drop 2).take 2)

def timestampOf (packet : List UInt8) : Nat := fromBeBytes ((packet.drop 4).take 4)

/-! ### What the sender sends -/

/-- The builder after `k` packets. -/
def builderAt (k : Nat) : RtpPacketBuilder := ⟨UInt16.ofNat k, UInt32.ofNat (160 * k), 0x10203040⟩

def packetAt (audioPayload : List UInt8) (k : Nat) : List UInt8 :=
  ((builderAt k).buildPacket audioPayload).1

theorem buildPacket_builderAt (audioPayload : List UInt8) (k : Nat) :
    (builderAt k).buildPacket audioPayload = (packetAt audioPayload k, builderAt (k + 1)) := by
  have hsequence : UInt16.ofNat k + 1 = UInt16.ofNat (k + 1) := (UInt16.ofNat_add k 1).symm
  have htimestamp : UInt32.ofNat (160 * k) + 160 = UInt32.ofNat (160 * (k + 1)) := by
    rw [Nat.mul_add]
    exact (UInt32.ofNat_add (160 * k) 160).symm
  rw [packetAt, builderAt, builderAt, ← hsequence, ← htimestamp]
  rfl

theorem sequenceOf_packetAt (audioPayload : List UInt8) (k : Nat) :
    sequenceOf (packetAt audioPayload k) = k % 2 ^ 16 :=
  (buildPacket_sequence (builderAt k) audioPayload).trans (UInt16.toNat_ofNat' ..)

theorem timestampOf_packetAt (audioPayload : List UInt8) (k : Nat) :
    timestampOf (packetAt audioPayload k) = 160 * k % 2 ^ 32 :=
  (buildPacket_timestamp (builderAt k) audioPayload).trans (UInt32.toNat_ofNat' ..)

/-- The packets so far are those of the first payloads, and the others still wait. -/
structure InStep (s : Sender) : Prop where
  builder : s.builder = builderAt s.packets.length
  waiting : s.forwarded = s.forwarded.take s.packets.length ++ s.waiting
  packets : s.packets = ((s.forwarded.take s.packets.length).zipIdx).map fun payload =>
    packetAt payload.1 payload.2

theorem inStep_spawned : InStep spawnRtpSender := ⟨rfl, rfl, rfl⟩

theorem InStep.length {s : Sender} (h : InStep s) :
    (s.forwarded.take s.packets.length).length = s.packets.length := by
  have hlen := congrArg List.length h.packets
  rw [List.length_map, List.length_zipIdx] at hlen
  exact hlen.symm

theorem InStep.enqueue {s : Sender} (h : InStep s) (audioPayload : List UInt8) :
    InStep (s.enqueue audioPayload) := by
  have hlen := h.length
  rw [List.length_take] at hlen
  have htake : (s.forwarded ++ [audioPayload]).take s.packets.length =
      s.forwarded.take s.packets.length := List.take_append_of_le_length (by omega)
  constructor
  case builder => exact h.builder
  case waiting =>
    change s.forwarded ++ [audioPayload] =
      (s.forwarded ++ [audioPayload]).take s.packets.length ++ (s.waiting ++ [audioPayload])
    rw [htake, ← List.append_assoc, ← h.waiting]
  case packets =>
    change s.packets = (((s.forwarded ++ [audioPayload]).take s.packets.length).zipIdx).map _
    rw [htake]
    exact h.packets

theorem InStep.send {s : Sender} {audioPayload : List UInt8} {rest : List (List UInt8)}
    (h : InStep s) (hwaiting : s.waiting = audioPayload :: rest) (sent : Bool) :
    InStep (s.send audioPayload rest sent) := by
  have hlen := h.length
  have hforwarded := h.waiting
  rw [hwaiting] at hforwarded
  have hbuilt : s.send audioPayload rest sent = { s with
      builder := builderAt (s.packets.length + 1)
      waiting := rest
      packets := s.packets ++ [packetAt audioPayload s.packets.length]
      rtpPacketsSentTotal := s.rtpPacketsSentTotal + if sent then 1 else 0
      udpSendErrorsTotal := s.udpSendErrorsTotal + if sent then 0 else 1 } := by
    rw [Sender.send, h.builder, buildPacket_builderAt]
  have hcount : (s.packets ++ [packetAt audioPayload s.packets.length]).length =
      s.packets.length + 1 := List.length_append
  have htake : s.forwarded.take (s.packets.length + 1) =
      s.forwarded.take s.packets.length ++ [audioPayload] := by
    rw [hforwarded, List.take_append, hlen, List.take_left' hlen]
    simp [hlen]
  rw [hbuilt]
  constructor
  case builder => rw [hcount]
  case waiting =>
    rw [hcount, htake, List.append_assoc]
    exact hforwarded
  case packets =>
    rw [hcount, htake, List.zipIdx_append, List.map_append, ← h.packets, hlen]
    simp

theorem InStep.step {channel : Channel} {s t : Sender} {a : SenderAction} (h : InStep s)
    (hstep : s.step channel a = some t) : InStep t := by
  cases a with
  | media session isOpen audioPayload =>
    simp only [Sender.step] at hstep
    split at hstep
    · split at hstep
      · obtain rfl := Option.some.inj hstep
        exact h.enqueue audioPayload
      · cases hstep
    · obtain rfl := Option.some.inj hstep
      exact h
  | recv sent =>
    simp only [Sender.step] at hstep
    split at hstep
    · cases hstep
    · rename_i audioPayload rest hwaiting
      obtain rfl := Option.some.inj hstep
      exact h.send hwaiting sent

/-- The timestamps count the samples of the earlier payloads, and the sequence numbers the
packets. -/
def TimestampsFollow (s : Sender) : Prop :=
  ∀ k packet, s.packets[k]? = some packet →
    timestampOf packet = ((s.forwarded.take k).map List.length).sum % 2 ^ 32 ∧
      sequenceOf packet = k % 2 ^ 16

theorem InStep.packet {s : Sender} (h : InStep s) {k : Nat} {packet : List UInt8}
    (hpacket : s.packets[k]? = some packet) :
    ∃ audioPayload, s.forwarded[k]? = some audioPayload ∧ packet = packetAt audioPayload k := by
  have hk : k < s.packets.length := (List.getElem?_eq_some_iff.mp hpacket).1
  rw [h.packets, List.getElem?_map, List.getElem?_zipIdx, List.getElem?_take_of_lt hk,
    Nat.zero_add] at hpacket
  obtain ⟨⟨audioPayload, j⟩, hfound, rfl⟩ := Option.map_eq_some_iff.mp hpacket
  obtain ⟨found, hforwarded, hpair⟩ := Option.map_eq_some_iff.mp hfound
  obtain ⟨rfl, rfl⟩ := Prod.mk.inj hpair
  exact ⟨found, hforwarded, rfl⟩

/-- Steps of 160 keep up with the lengths of payloads for as long as each is 160. -/
theorem steps_follow_iff (payloads : List (List UInt8)) (n modulus : Nat) (hn : n ≤ payloads.length) :
    (∀ k < n, 160 * k ≡ ((payloads.take k).map List.length).sum [MOD modulus]) ↔
      ∀ k audioPayload, k + 1 < n → payloads[k]? = some audioPayload →
        audioPayload.length ≡ 160 [MOD modulus] := by
  have hsum : ∀ {k : Nat} {audioPayload : List UInt8}, payloads[k]? = some audioPayload →
      ((payloads.take (k + 1)).map List.length).sum =
        ((payloads.take k).map List.length).sum + audioPayload.length := by
    intro k audioPayload hget
    rw [List.take_add_one, hget, List.map_append, List.sum_append]
    simp
  constructor
  · intro h k audioPayload hk hget
    have hnow := h k (by omega)
    have hnext := h (k + 1) hk
    rw [hsum hget, Nat.mul_add, Nat.mul_one] at hnext
    exact (Nat.ModEq.add_left_cancel hnow hnext).symm
  · intro h k hk
    induction k with
    | zero => exact Nat.ModEq.refl 0
    | succ k ih =>
      have hget : payloads[k]? = some payloads[k] := List.getElem?_eq_getElem (by omega)
      rw [hsum hget, Nat.mul_add, Nat.mul_one]
      exact (ih (by omega)).add (h k _ hk hget).symm

/-- In every run the packets carry the forwarded payloads in order, and their numbers follow the
samples exactly where every payload before the last one sent has 160 of them. -/
theorem timestamps_follow_samples_iff (channel : Channel) {s : Sender} {actions : List SenderAction}
    (h : exec (Sender.step channel) spawnRtpSender actions = some s) :
    (∀ (k : Nat) (packet : List UInt8), s.packets[k]? = some packet →
      s.forwarded[k]? = some (packet.drop 12)) ∧
      (TimestampsFollow s ↔ ∀ k audioPayload, k + 1 < s.packets.length →
        s.forwarded[k]? = some audioPayload → audioPayload.length % 2 ^ 32 = 160) := by
  have hstep : InStep s :=
    GuardedRun.invariant (run_of_exec h) inStep_spawned fun _ _ _ hs _ hnext => hs.step hnext
  have hbound : s.packets.length ≤ s.forwarded.length := by
    have hlen := hstep.length
    rw [List.length_take] at hlen
    omega
  refine ⟨fun k packet hpacket => ?_, ?_⟩
  · obtain ⟨audioPayload, hforwarded, rfl⟩ := hstep.packet hpacket
    rw [packetAt, buildPacket_drop]
    exact hforwarded
  · rw [TimestampsFollow]
    refine Iff.trans ⟨fun hfollow k hk => ?_, fun hfollow k packet hpacket => ?_⟩
      (steps_follow_iff s.forwarded s.packets.length (2 ^ 32) hbound)
    · have hget : s.packets[k]? = some s.packets[k] := List.getElem?_eq_getElem hk
      obtain ⟨audioPayload, -, hpacket⟩ := hstep.packet hget
      have htimestamp := (hfollow k _ hget).1
      rw [hpacket, timestampOf_packetAt] at htimestamp
      exact htimestamp
    · have hk : k < s.packets.length := (List.getElem?_eq_some_iff.mp hpacket).1
      obtain ⟨audioPayload, -, rfl⟩ := hstep.packet hpacket
      rw [timestampOf_packetAt, sequenceOf_packetAt]
      exact ⟨hfollow k hk, rfl⟩

/-- A session after its transfer, with channel 3 towards the trunk. -/
def transferred : CallSession := ⟨"s".toList, .transferComplete, none, some 3, none⟩

/-- A payload of twenty milliseconds before one of ten. -/
def fullFrameFirst : List SenderAction :=
  [.media transferred (fun _ => true) (List.replicate 160 0xFF), .recv true,
    .media transferred (fun _ => true) (List.replicate 80 0xFF), .recv true]

theorem full_frames_follow : ∃ s, exec (Sender.step 3) spawnRtpSender fullFrameFirst = some s ∧
    s.packets.length = 2 ∧ TimestampsFollow s := by
  obtain ⟨s, hs⟩ : ∃ s, exec (Sender.step 3) spawnRtpSender fullFrameFirst = some s := ⟨_, rfl⟩
  have hfollow := (timestamps_follow_samples_iff 3 hs).2
  obtain rfl := Option.some.inj hs
  refine ⟨_, rfl, rfl, hfollow.mpr ?_⟩
  intro k audioPayload hk hget
  obtain rfl : k = 0 := by
    change k + 1 < 2 at hk
    omega
  obtain rfl := Option.some.inj hget
  have hlen : (List.replicate 160 (0xFF : UInt8)).length = 160 := List.length_replicate
  exact (congrArg (· % 2 ^ 32) hlen).trans rfl

/-- Two payloads of ten milliseconds. -/
def shortFrames : List SenderAction :=
  [.media transferred (fun _ => true) (List.replicate 80 0xFF), .recv true,
    .media transferred (fun _ => true) (List.replicate 80 0xFF), .recv true]

theorem short_frames_run_ahead : ∃ s, exec (Sender.step 3) spawnRtpSender shortFrames = some s ∧
    s.packets.map timestampOf = [0, 160] ∧ s.forwarded.map List.length = [80, 80] ∧
      ¬ TimestampsFollow s := by
  obtain ⟨s, hs⟩ : ∃ s, exec (Sender.step 3) spawnRtpSender shortFrames = some s := ⟨_, rfl⟩
  obtain rfl := Option.some.inj hs
  refine ⟨_, rfl, by decide, by decide, fun h => ?_⟩
  have hsecond := (h 1 _ rfl).1
  revert hsecond
  decide

end DemoService.Rtp
