import DemoService.Base64
import DemoService.BigEndian
import DemoService.GuardedRuns
import Mathlib.Data.List.Infix

/-! RTP packets, and the bridge that forwards the caller's packets to the backend. -/

namespace DemoService.Rtp

open CodePoints BigEndian GuardedRuns

/-! ### The format of RTP version 2 -/

structure RtpExtension where
  profile : UInt16
  words : List UInt32
  length_words : words.length < 65536

/-- `padding` is what precedes the count of the padding, if there is any. -/
structure RtpPacket where
  marker : Bool
  payloadType : Nat
  sequence : UInt16
  timestamp : UInt32
  ssrc : UInt32
  csrcs : List UInt32
  extension : Option RtpExtension
  payload : Bytes
  padding : Option Bytes
  payloadType_lt : payloadType < 128
  length_csrcs : csrcs.length ≤ 15
  length_padding : ∀ fill ∈ padding, fill.length < 255

def wordBytes (words : List UInt32) : Bytes := words.flatMap fun word => toBeBytes 4 word.toNat

def RtpExtension.bytes (extension : RtpExtension) : Bytes :=
  toBeBytes 2 extension.profile.toNat ++ toBeBytes 2 extension.words.length ++
    wordBytes extension.words

/-- The bytes between the twelve that every packet has and the payload. -/
def RtpPacket.front (packet : RtpPacket) : Bytes :=
  wordBytes packet.csrcs ++ (packet.extension.elim [] RtpExtension.bytes)

def RtpPacket.paddingBytes (packet : RtpPacket) : Bytes :=
  packet.padding.elim [] fun fill => fill ++ [UInt8.ofNat (fill.length + 1)]

def RtpPacket.fixedHeader (packet : RtpPacket) : Bytes :=
  UInt8.ofNat (0x80 + (if packet.padding.isSome then 0x20 else 0) +
      (if packet.extension.isSome then 0x10 else 0) + packet.csrcs.length) ::
    UInt8.ofNat ((if packet.marker then 0x80 else 0) + packet.payloadType) ::
      (toBeBytes 2 packet.sequence.toNat ++ toBeBytes 4 packet.timestamp.toNat ++
        toBeBytes 4 packet.ssrc.toNat)

def RtpPacket.bytes (packet : RtpPacket) : Bytes :=
  packet.fixedHeader ++ (packet.front ++ packet.payload ++ packet.paddingBytes)

theorem length_fixedHeader (packet : RtpPacket) : packet.fixedHeader.length = 12 := by
  simp [RtpPacket.fixedHeader, length_toBeBytes]

theorem length_wordBytes (words : List UInt32) : (wordBytes words).length = 4 * words.length := by
  induction words with
  | nil => rfl
  | cons word words ih =>
    have hword := length_toBeBytes 4 word.toNat
    rw [wordBytes, List.flatMap_cons, List.length_append, hword]
    change 4 + (wordBytes words).length = 4 * (words.length + 1)
    omega

theorem length_extension (extension : RtpExtension) : 4 ≤ extension.bytes.length := by
  have hprofile := length_toBeBytes 2 extension.profile.toNat
  have hcount := length_toBeBytes 2 extension.words.length
  rw [RtpExtension.bytes, List.length_append, List.length_append, hprofile, hcount]
  omega

/-- Nothing stands before the payload but the fixed header. -/
theorem front_eq_nil_iff (packet : RtpPacket) :
    packet.front = [] ↔ packet.csrcs = [] ∧ packet.extension = none := by
  rw [RtpPacket.front, List.append_eq_nil_iff]
  refine and_congr ?_ ?_
  · rw [← List.length_eq_zero_iff, length_wordBytes, ← List.length_eq_zero_iff]
    omega
  · cases packet.extension with
    | none => simp
    | some extension =>
      have hlen := length_extension extension
      refine iff_of_false (fun hnil => ?_) nofun
      change extension.bytes = [] at hnil
      rw [hnil] at hlen
      simp at hlen

theorem paddingBytes_eq_nil_iff (packet : RtpPacket) :
    packet.paddingBytes = [] ↔ packet.padding = none := by
  rw [RtpPacket.paddingBytes]
  cases packet.padding with
  | none => simp
  | some fill => simp

/-! ### From RTP to the WebSocket -/

/-- The media event of a datagram; the payload is the text of `STANDARD.encode`. -/
structure MediaMessage where
  streamSid : List Char
  payload : Bytes
  deriving DecidableEq

/-- The audio that the backend takes from a media event. -/
def MediaMessage.audio (message : MediaMessage) : Option Bytes :=
  Base64.a2bBase64 0 0 0 message.payload

def bufferSize : Nat := 4096

/-- One turn of the loop; `recv_from` drops what does not fit the buffer. -/
def rtpToWs {Addr : Type} [DecidableEq Addr] (streamSid : List Char) (remoteMediaAddr : Addr)
    (datagram : Bytes) (source : Addr) : Option MediaMessage :=
  let received := datagram.take bufferSize
  if source ≠ remoteMediaAddr ∨ received.length < 12 then none
  else some ⟨streamSid, Base64.b2aBase64 (received.drop 12)⟩

/-- The state of the task: what it has queued for the WebSocket, and whether the loop runs. -/
structure RtpToWs where
  queued : List MediaMessage
  rtpPacketsReceivedTotal : Nat
  running : Bool
  deriving DecidableEq

/-- A datagram with its source and whether the channel takes the event, or an error of the
socket. -/
inductive Receipt (Addr : Type)
  | datagram (bytes : Bytes) (source : Addr) (accepted : Bool)
  | failed

def RtpToWs.step {Addr : Type} [DecidableEq Addr] (streamSid : List Char) (remoteMediaAddr : Addr)
    (s : RtpToWs) : Receipt Addr → Option RtpToWs
  | .failed => if s.running then some { s with running := false } else none
  | .datagram bytes source accepted =>
    if s.running then
      match rtpToWs streamSid remoteMediaAddr bytes source with
      | none => some s
      | some message =>
        some {
          queued := if accepted then s.queued ++ [message] else s.queued
          rtpPacketsReceivedTotal := s.rtpPacketsReceivedTotal + 1
          running := accepted }
    else none

/-- A middle part is what remains of the whole within a limit. -/
theorem take_append_eq_middle_iff {α : Type} (n : Nat) (a b c : List α) :
    (a ++ b ++ c).take n = b ↔
      (a = [] ∧ c = [] ∧ b.length ≤ n) ∨ (b.length = n ∧ b <+: a ++ b) := by
  constructor
  · intro h
    have hlen := congrArg List.length h
    rw [List.length_take, List.length_append, List.length_append] at hlen
    by_cases hfits : a.length + b.length + c.length ≤ n
    · have ha : a.length = 0 := by omega
      have hc : c.length = 0 := by omega
      exact .inl ⟨List.length_eq_zero_iff.mp ha, List.length_eq_zero_iff.mp hc, by omega⟩
    · have hb : b.length = n := by omega
      have hroom : n ≤ (a ++ b).length := by
        rw [List.length_append]
        omega
      rw [List.take_append_of_le_length hroom] at h
      exact .inr ⟨hb, List.prefix_iff_eq_take.mpr (by rw [hb, h])⟩
  · rintro (⟨rfl, rfl, hlen⟩ | ⟨hlen, hprefix⟩)
    · rw [List.nil_append, List.append_nil, List.take_of_length_le hlen]
    · have hroom : n ≤ (a ++ b).length := by
        rw [List.length_append]
        omega
      rw [List.take_append_of_le_length hroom, ← hlen]
      exact (List.prefix_iff_eq_take.mp hprefix).symm

/-- What is taken for the payload is all that follows the fixed header, as far as the buffer holds
it. -/
theorem rtpToWs_packet {Addr : Type} [DecidableEq Addr] (streamSid : List Char) (peer : Addr)
    (packet : RtpPacket) : ∃ message, rtpToWs streamSid peer packet.bytes peer = some message ∧
      message.audio = some
        ((packet.front ++ packet.payload ++ packet.paddingBytes).take (bufferSize - 12)) := by
  have hheader := length_fixedHeader packet
  have htake : packet.bytes.take bufferSize = packet.fixedHeader ++
      (packet.front ++ packet.payload ++ packet.paddingBytes).take (bufferSize - 12) := by
    rw [RtpPacket.bytes, List.take_append, hheader, List.take_of_length_le (by rw [hheader]; decide)]
  have hlong : ¬ (peer ≠ peer ∨ (packet.bytes.take bufferSize).length < 12) := by
    rw [htake, List.length_append, hheader, not_or]
    exact ⟨not_not.mpr rfl, by omega⟩
  refine ⟨_, if_neg hlong, ?_⟩
  rw [htake, List.drop_left' hheader]
  exact Base64.a2bBase64_b2aBase64 _

/-- The bytes that a step forwards as mu-law audio are the payload of a PCMU packet, and none of
another one. -/
def Faithful (packet : RtpPacket) (before after : RtpToWs) : Prop :=
  if packet.payloadType = 0 then
    ∃ message, after.queued = before.queued ++ [message] ∧ message.audio = some packet.payload
  else after.queued = before.queued

/-- The payload comes right after the fixed header and up to the end, or it fills the buffer: then
padding is cut off, and what stands in front goes unnoticed where the payload repeats it. -/
def RtpPacket.Bare (packet : RtpPacket) : Prop :=
  (packet.csrcs = [] ∧ packet.extension = none ∧ packet.padding = none ∧
      packet.payload.length ≤ bufferSize - 12) ∨
    (packet.payload.length = bufferSize - 12 ∧ packet.payload <+: packet.front ++ packet.payload)

theorem bare_iff (packet : RtpPacket) : packet.Bare ↔
    (packet.front ++ packet.payload ++ packet.paddingBytes).take (bufferSize - 12) =
      packet.payload := by
  rw [take_append_eq_middle_iff, front_eq_nil_iff, paddingBytes_eq_nil_iff, RtpPacket.Bare, and_assoc]

/-- A running bridge forwards the audio of its peer's packets, and nothing else, exactly where they
are PCMU packets without CSRCs, extension and padding that fit the buffer. -/
theorem payload_forwarded_iff {Addr : Type} [DecidableEq Addr] (streamSid : List Char) (peer : Addr)
    (packet : RtpPacket) (queued : List MediaMessage) (total : Nat) :
    ∃ after, RtpToWs.step streamSid peer ⟨queued, total, true⟩
        (.datagram packet.bytes peer true) = some after ∧
      (Faithful packet ⟨queued, total, true⟩ after ↔ packet.payloadType = 0 ∧ packet.Bare) := by
  obtain ⟨message, hmessage, haudio⟩ := rtpToWs_packet streamSid peer packet
  refine ⟨⟨queued ++ [message], total + 1, true⟩, ?_, ?_⟩
  · simp only [RtpToWs.step, hmessage, if_true]
  · rw [Faithful, bare_iff]
    by_cases hpcmu : packet.payloadType = 0
    · rw [if_pos hpcmu]
      simp only [hpcmu, true_and, List.append_cancel_left_eq, List.cons.injEq, and_true,
        exists_eq_left', haudio, Option.some.injEq]
    · simp [hpcmu]

/-- A packet of four samples whose sender names a contributing source. -/
def mixedPacket : RtpPacket where
  marker := false
  payloadType := 0
  sequence := 1
  timestamp := 160
  ssrc := 7
  csrcs := [0x01020304]
  extension := none
  payload := [0xFF, 0xFE, 0xFD, 0xFC]
  padding := none
  payloadType_lt := by omega
  length_csrcs := by decide
  length_padding := nofun

theorem mixed_packet_forwards_csrc : ∃ after,
    RtpToWs.step ['s'] 0 ⟨[], 0, true⟩ (.datagram mixedPacket.bytes 0 true) = some after ∧
      after.queued.map MediaMessage.audio = [some [1, 2, 3, 4, 0xFF, 0xFE, 0xFD, 0xFC]] ∧
        ¬ Faithful mixedPacket ⟨[], 0, true⟩ after := by
  refine ⟨_, rfl, by decide, ?_⟩
  have hpcmu : mixedPacket.payloadType = 0 := rfl
  rw [Faithful, if_pos hpcmu]
  rintro ⟨message, hqueued, haudio⟩
  obtain rfl := (List.cons.inj hqueued).1
  revert haudio
  decide

end DemoService.Rtp
