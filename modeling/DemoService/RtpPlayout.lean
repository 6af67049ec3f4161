import Mathlib.Data.List.Chain
import Mathlib.Data.List.DropRight
import DemoService.BigEndian
import DemoService.GuardedRuns

/-! The playout of the model's audio to a caller: commands fill and empty a buffer, and every
tick of the timer cuts a frame from it and sends it as one RTP packet. -/

namespace DemoService.Rtp

open BigEndian GuardedRuns

structure RtpPacketBuilder where
  sequence : UInt16
  timestamp : UInt32
  ssrc : UInt32
  deriving DecidableEq, Repr

def RtpPacketBuilder.buildPacket (builder : RtpPacketBuilder) (payload : List UInt8) :
    List UInt8 × RtpPacketBuilder :=
  (0x80 :: 0x00 :: (toBeBytes 2 builder.sequence.toNat ++ toBeBytes 4 builder.timestamp.toNat ++
      toBeBytes 4 builder.ssrc.toNat ++ payload),
    { builder with sequence := builder.sequence + 1, timestamp := builder.timestamp + 160 })

inductive RtpPlayoutCommand
  | append (bytes : List UInt8)
  | clear
  | stop
  deriving DecidableEq, Repr

/-- The samples of a frame, how many of them are audio, and what the buffer still holds. -/
structure Frame where
  samples : List UInt8
  consumed : Nat
  left : List UInt8
  deriving DecidableEq, Repr

/-- The loop that moves samples from the front of the buffer into a frame. -/
def fillFrame (samples : List UInt8) (consumed : Nat) : List UInt8 → Frame
  | [] => ⟨samples, consumed, []⟩
  | sample :: buffer =>
    if consumed < 160 then fillFrame (samples.set consumed sample) (consumed + 1) buffer
    else ⟨samples, consumed, sample :: buffer⟩

/-- A packet that was handed to the socket, with the frame it was built from. -/
structure Packet where
  bytes : List UInt8
  frame : Frame
  deriving DecidableEq, Repr

/-- The state of the playout task; `packets` is what it has handed to the socket. -/
structure Playout where
  builder : RtpPacketBuilder
  buffer : List UInt8
  running : Bool
  packets : List Packet
  rtpPacketsSentTotal : Nat
  udpSendErrorsTotal : Nat
  deriving DecidableEq, Repr

def init : Playout := ⟨⟨0, 0, 0x51627363⟩, [], true, [], 0, 0⟩

/-- What `select!` takes next: a message of the channel, which is `none` when all senders are
gone, or a tick, with the result of `send_to`. -/
inductive Action
  | recv (command : Option RtpPlayoutCommand)
  | tick (sent : Bool)
  deriving DecidableEq, Repr

def Playout.handle (s : Playout) : Option RtpPlayoutCommand → Playout
  | some (.append bytes) => { s with buffer := s.buffer ++ bytes }
  | some .clear => { s with buffer := [] }
  | some .stop => { s with running := false }
  | none => { s with running := false }

def Playout.playFrame (s : Playout) (sent : Bool) : Playout :=
  if s.buffer = [] then s
  else
    let frame := fillFrame (List.replicate 160 0xFF) 0 s.buffer
    let (packet, builder) := s.builder.buildPacket frame.samples
    { s with
      builder
      buffer := frame.left
      packets := s.packets ++ [⟨packet, frame⟩]
      rtpPacketsSentTotal := s.rtpPacketsSentTotal + if sent then 1 else 0
      udpSendErrorsTotal := s.udpSendErrorsTotal + if sent then 0 else 1 }

def Playout.step (s : Playout) (a : Action) : Option Playout :=
  if s.running then
    match a with
    | .recv command => some (s.handle command)
    | .tick sent => some (s.playFrame sent)
  else none

/-! ### Frames -/

theorem fillFrame_eq (audio buffer : List UInt8) (h : audio.length ≤ 160) :
    fillFrame (audio ++ List.replicate (160 - audio.length) 0xFF) audio.length buffer =
      ⟨audio ++ buffer.take (160 - audio.length) ++
          List.replicate (160 - (audio.length + buffer.length)) 0xFF,
        min 160 (audio.length + buffer.length), buffer.drop (160 - audio.length)⟩ := by
  induction buffer generalizing audio with
  | nil => simp [fillFrame, h]
  | cons sample buffer ih =>
    by_cases hroom : audio.length < 160
    · have hset : (audio ++ List.replicate (160 - audio.length) 0xFF).set audio.length sample =
          (audio ++ [sample]) ++ List.replicate (160 - (audio ++ [sample]).length) 0xFF := by
        obtain ⟨n, hn⟩ : ∃ n, 160 - audio.length = n + 1 := ⟨159 - audio.length, by omega⟩
        have hnext : 160 - (audio ++ [sample]).length = n := by
          rw [List.length_append, List.length_singleton]
          omega
        rw [hnext, hn, List.replicate_succ, List.set_append_right _ _ (Nat.le_refl _), Nat.sub_self]
        simp
      have hlen : (audio ++ [sample]).length = audio.length + 1 := by simp
      have hrest := ih (audio ++ [sample]) (by omega)
      obtain ⟨n, hn⟩ : ∃ n, 160 - audio.length = n + 1 := ⟨159 - audio.length, by omega⟩
      have hn' : 160 - (audio.length + 1) = n := by omega
      have hsum : audio.length + (buffer.length + 1) = audio.length + 1 + buffer.length := by omega
      rw [fillFrame, if_pos hroom, hset, ← hlen, hrest]
      simp only [hlen, hn', hn, List.length_cons, List.take_succ_cons, List.drop_succ_cons, hsum]
      simp
    · have hfull : audio.length = 160 := by omega
      simp [fillFrame, hfull]

/-- A frame starts with the front of the buffer, and only the end of the buffer is padded. -/
structure Frame.Cuts (frame : Frame) (buffer : List UInt8) : Prop where
  length : frame.samples.length = 160
  audio : frame.samples.take frame.consumed ++ frame.left = buffer
  padding : frame.samples.drop frame.consumed = List.replicate (160 - frame.consumed) 0xFF
  exhausted : frame.consumed < 160 → frame.left = []

theorem fillFrame_cuts (buffer : List UInt8) :
    (fillFrame (List.replicate 160 0xFF) 0 buffer).Cuts buffer := by
  have hframe := fillFrame_eq [] buffer (by simp)
  simp only [List.nil_append, List.length_nil, Nat.sub_zero, Nat.zero_add] at hframe
  have htake : (buffer.take 160).length = min 160 buffer.length := List.length_take
  rw [hframe]
  constructor
  case length =>
    rw [List.length_append, htake, List.length_replicate]
    omega
  case audio =>
    show (buffer.take 160 ++ _).take (min 160 buffer.length) ++ buffer.drop 160 = buffer
    rw [← htake, List.take_left, List.take_append_drop]
  case padding =>
    show (buffer.take 160 ++ _).drop (min 160 buffer.length) = _
    have hcount : 160 - buffer.length = 160 - min 160 buffer.length := by omega
    rw [← htake, List.drop_left, htake, hcount]
  case exhausted =>
    intro hshort
    have hlen : buffer.length ≤ 160 := by
      have hmin : min 160 buffer.length < 160 := hshort
      omega
    exact List.drop_eq_nil_iff.mpr hlen

/-! ### Conservation -/

/-- The payload of a packet without its padding. -/
def Packet.audio (p : Packet) : List UInt8 := (p.bytes.drop 12).take p.frame.consumed

def Packet.sequence (p : Packet) : Nat := fromBeBytes ((p.bytes.drop 2).take 2)

def Packet.timestamp (p : Packet) : Nat := fromBeBytes ((p.bytes.drop 4).take 4)

def Playout.audio (s : Playout) : List UInt8 := s.packets.flatMap Packet.audio

/-- The appended bytes that count after an action: a Clear takes the buffered ones off their end. -/
def account (s : Playout) (kept : List UInt8) : Action → List UInt8
  | .recv (some (.append bytes)) => kept ++ bytes
  | .recv (some .clear) => kept.rdrop s.buffer.length
  | .recv (some .stop) => kept
  | .recv none => kept
  | .tick _ => kept

/-- The appended bytes in order, less those that were buffered at each Clear of the run. -/
def keptBytes (s : Playout) (kept : List UInt8) : List Action → List UInt8
  | [] => kept
  | a :: actions =>
    match s.step a with
    | some t => keptBytes t (account s kept a) actions
    | none => kept

/-- A packet of 172 bytes, padded only after the end of the buffer. -/
structure Packet.WellFormed (p : Packet) : Prop where
  length : p.bytes.length = 172
  padding : p.bytes.drop (12 + p.frame.consumed) = List.replicate (160 - p.frame.consumed) 0xFF
  exhausted : p.frame.consumed < 160 → p.frame.left = []

/-- The next packet has the next sequence number and the next timestamp. -/
def Follows (p q : Packet) : Prop :=
  q.sequence = (p.sequence + 1) % 2 ^ 16 ∧ q.timestamp = (p.timestamp + 160) % 2 ^ 32

section Packets

variable (builder : RtpPacketBuilder) (payload : List UInt8)

theorem buildPacket_drop : (builder.buildPacket payload).1.drop 12 = payload := by
  have hsequence := length_toBeBytes 2 builder.sequence.toNat
  have htimestamp := length_toBeBytes 4 builder.timestamp.toNat
  have hssrc := length_toBeBytes 4 builder.ssrc.toNat
  have hheader : (toBeBytes 2 builder.sequence.toNat ++ toBeBytes 4 builder.timestamp.toNat ++
      toBeBytes 4 builder.ssrc.toNat).length = 10 := by
    simp [hsequence, htimestamp, hssrc]
  exact List.drop_left' hheader

theorem buildPacket_sequence :
    fromBeBytes (((builder.buildPacket payload).1.drop 2).take 2) = builder.sequence.toNat := by
  have hbytes : ((builder.buildPacket payload).1.drop 2).take 2 =
      toBeBytes 2 builder.sequence.toNat := by
    have hlen := length_toBeBytes 2 builder.sequence.toNat
    show (toBeBytes 2 builder.sequence.toNat ++ toBeBytes 4 builder.timestamp.toNat ++
      toBeBytes 4 builder.ssrc.toNat ++ payload).take 2 = _
    rw [List.append_assoc, List.append_assoc]
    exact List.take_left' hlen
  have hlt := builder.sequence.toNat_lt
  rw [hbytes]
  exact fromBeBytes_toBeBytes hlt

theorem buildPacket_timestamp :
    fromBeBytes (((builder.buildPacket payload).1.drop 4).take 4) = builder.timestamp.toNat := by
  have hbytes : ((builder.buildPacket payload).1.drop 4).take 4 =
      toBeBytes 4 builder.timestamp.toNat := by
    have hlen := length_toBeBytes 4 builder.timestamp.toNat
    show (toBeBytes 4 builder.timestamp.toNat ++ toBeBytes 4 builder.ssrc.toNat ++ payload).take 4 = _
    rw [List.append_assoc]
    exact List.take_left' hlen
  have hlt := builder.timestamp.toNat_lt
  rw [hbytes]
  exact fromBeBytes_toBeBytes hlt

end Packets

/-- What a tick with audio in the buffer hands to the socket. -/
theorem playFrame_eq {s : Playout} (h : s.buffer ≠ []) (sent : Bool) :
    ∃ p, (s.playFrame sent).packets = s.packets ++ [p] ∧ p.frame.Cuts s.buffer ∧
      p.bytes.drop 12 = p.frame.samples ∧ (s.playFrame sent).buffer = p.frame.left ∧
        p.sequence = s.builder.sequence.toNat ∧ p.timestamp = s.builder.timestamp.toNat ∧
          (s.playFrame sent).builder.sequence = s.builder.sequence + 1 ∧
            (s.playFrame sent).builder.timestamp = s.builder.timestamp + 160 := by
  refine ⟨⟨(s.builder.buildPacket (fillFrame (List.replicate 160 0xFF) 0 s.buffer).samples).1,
    fillFrame (List.replicate 160 0xFF) 0 s.buffer⟩, ?_, fillFrame_cuts s.buffer,
    buildPacket_drop _ _, ?_, buildPacket_sequence _ _, buildPacket_timestamp _ _, ?_, ?_⟩
  all_goals simp [Playout.playFrame, h, RtpPacketBuilder.buildPacket]

theorem Frame.Cuts.wellFormed {p : Packet} {buffer : List UInt8} (h : p.frame.Cuts buffer)
    (hbytes : p.bytes.drop 12 = p.frame.samples) : p.WellFormed := by
  have hlen := congrArg List.length hbytes
  rw [List.length_drop, h.length] at hlen
  refine ⟨by omega, ?_, h.exhausted⟩
  rw [← List.drop_drop, hbytes, h.padding]

theorem Frame.Cuts.conserves {p : Packet} {buffer : List UInt8} (h : p.frame.Cuts buffer)
    (hbytes : p.bytes.drop 12 = p.frame.samples) : p.audio ++ p.frame.left = buffer := by
  rw [Packet.audio, hbytes, h.audio]

/-- The packets so far are well formed and numbered in order, and the builder has the
numbers of the next one. -/
structure Sound (s : Playout) : Prop where
  wellFormed : ∀ p ∈ s.packets, p.WellFormed
  chain : s.packets.IsChain Follows
  next : ∀ p ∈ s.packets.getLast?, s.builder.sequence.toNat = (p.sequence + 1) % 2 ^ 16 ∧
    s.builder.timestamp.toNat = (p.timestamp + 160) % 2 ^ 32

theorem sound_init : Sound init := ⟨by simp [init], by simp [init], by simp [init]⟩

theorem Sound.playFrame {s : Playout} (h : Sound s) (sent : Bool) : Sound (s.playFrame sent) := by
  by_cases hempty : s.buffer = []
  · have hsame : s.playFrame sent = s := by simp [Playout.playFrame, hempty]
    rw [hsame]
    exact h
  · obtain ⟨p, hpackets, hcuts, hbytes, -, hsequence, htimestamp, hnextSequence, hnextTimestamp⟩ :=
      playFrame_eq hempty sent
    constructor
    case wellFormed =>
      rw [hpackets, List.forall_mem_append]
      exact ⟨h.wellFormed, by simpa using hcuts.wellFormed hbytes⟩
    case chain =>
      rw [hpackets, List.isChain_append]
      refine ⟨h.chain, List.isChain_singleton p, ?_⟩
      intro last hlast next hnext
      obtain rfl := Option.some.inj hnext
      have hbuilder := h.next last hlast
      rw [Follows, hsequence, htimestamp]
      exact hbuilder
    case next =>
      intro last hlast
      rw [hpackets, List.getLast?_concat] at hlast
      obtain rfl := Option.some.inj hlast
      rw [hnextSequence, hnextTimestamp, hsequence, htimestamp, UInt16.toNat_add, UInt32.toNat_add]
      exact ⟨rfl, rfl⟩

theorem Sound.step {s t : Playout} {a : Action} (h : Sound s) (hstep : s.step a = some t) :
    Sound t := by
  unfold Playout.step at hstep
  split at hstep
  · cases a with
    | recv command =>
      obtain rfl := Option.some.inj hstep
      cases command with
      | none => exact ⟨h.wellFormed, h.chain, h.next⟩
      | some command => cases command <;> exact ⟨h.wellFormed, h.chain, h.next⟩
    | tick sent =>
      obtain rfl := Option.some.inj hstep
      exact h.playFrame sent
  · cases hstep

theorem account_step {s t : Playout} {kept : List UInt8} {a : Action}
    (h : s.audio ++ s.buffer = kept) (hstep : s.step a = some t) :
    t.audio ++ t.buffer = account s kept a := by
  unfold Playout.step at hstep
  split at hstep
  · cases a with
    | recv command =>
      obtain rfl := Option.some.inj hstep
      rw [← h]
      cases command with
      | none => rfl
      | some command =>
        cases command with
        | append bytes => exact (List.append_assoc _ _ _).symm
        | clear =>
          show s.audio ++ [] = (s.audio ++ s.buffer).rdrop s.buffer.length
          rw [List.rdrop_append_length, List.append_nil]
        | stop => rfl
    | tick sent =>
      obtain rfl := Option.some.inj hstep
      by_cases hempty : s.buffer = []
      · have hsame : s.playFrame sent = s := by simp [Playout.playFrame, hempty]
        rw [hsame, h]
        rfl
      · obtain ⟨p, hpackets, hcuts, hbytes, hbuffer, -⟩ := playFrame_eq hempty sent
        have haudio : (s.playFrame sent).audio = s.audio ++ p.audio := by
          simp [Playout.audio, hpackets]
        rw [haudio, hbuffer, List.append_assoc, hcuts.conserves hbytes, h]
        rfl
  · cases hstep

theorem account_exec {s t : Playout} {kept : List UInt8} {actions : List Action}
    (h : s.audio ++ s.buffer = kept) (hexec : exec Playout.step s actions = some t) :
    t.audio ++ t.buffer = keptBytes s kept actions := by
  induction actions generalizing s kept with
  | nil =>
    obtain rfl := Option.some.inj hexec
    exact h
  | cons a actions ih =>
    obtain ⟨u, hstep, hrest⟩ := Option.bind_eq_some_iff.mp hexec
    rw [keptBytes, hstep]
    exact ih (account_step h hstep) hrest

/-- Playout conserves audio: what was sent and what is still buffered are the appended bytes
that no Clear took away, and the packets are of one size and numbered without a gap. -/
theorem playout_conserves_audio {s : Playout} {actions : List Action}
    (h : exec Playout.step init actions = some s) :
    s.audio ++ s.buffer = keptBytes init [] actions ∧ (∀ p ∈ s.packets, p.WellFormed) ∧
      s.packets.IsChain Follows := by
  have hsound : Sound s :=
    GuardedRun.invariant (run_of_exec h) sound_init fun _ _ _ hs _ hstep => hs.step hstep
  exact ⟨account_exec rfl h, hsound.wellFormed, hsound.chain⟩

def interruptedPlayout : List Action :=
  [.recv (some (.append [1, 2, 3])), .tick true, .recv (some (.append [4])), .recv (some .clear),
    .tick true, .recv (some (.append [5, 6])), .recv none]

theorem interrupted_playout_conserves : ∃ s, exec Playout.step init interruptedPlayout = some s ∧
    s.audio ++ s.buffer = [1, 2, 3, 5, 6] ∧ s.packets.IsChain Follows := by
  obtain ⟨s, hs⟩ : ∃ s, exec Playout.step init interruptedPlayout = some s := ⟨_, rfl⟩
  obtain ⟨haudio, -, hchain⟩ := playout_conserves_audio hs
  exact ⟨s, hs, haudio, hchain⟩

end DemoService.Rtp
