import DemoService.Base64
import DemoService.RtpPlayout
import DemoService.SerdeJson
import DemoService.VoiceRelay

/-! The way back of a bridged call: the frames of the voice relay, the gateway's task that reads
them, its channel to the playout, and the packets that reach the caller. -/

namespace DemoService.Rtp

open CodePoints GuardedRuns PyJson SerdeJson
open PyText (Text)
open Voice (Event Output Registry Relay handle)

/-! ### Frames -/

section Frames

variable (args : Text → Json)

def strOf (s : Text) : Json := .str (s.map chr)

/-- What the relay writes to the caller's socket; `args` are the arguments of a tool call as the
relay has parsed them. -/
def frame : Output → Option Json
  | .media streamSid payload =>
    some (.obj [(ofString "event", .str (ofString "media")), (ofString "streamSid", strOf streamSid),
      (ofString "media", .obj [(ofString "payload", strOf payload)])])
  | .clear streamSid =>
    some (.obj [(ofString "event", .str (ofString "clear")), (ofString "streamSid", strOf streamSid)])
  | .transcript text =>
    some (.obj [(ofString "event", .str (ofString "transcript")), (ofString "text", strOf text)])
  | .userTranscript text =>
    some (.obj [(ofString "event", .str (ofString "user_transcript")), (ofString "text", strOf text)])
  | .toolCall toolName arguments =>
    some (.obj [(ofString "event", .str (ofString "tool_call")),
      (ofString "tool_name", strOf toolName), (ofString "args", args arguments)])
  | .endCall => some (.obj [(ofString "event", .str (ofString "end"))])
  | .cancelResponse => none
  | .toolResult _ _ => none

end Frames

structure BackendMedia where
  payload : Str

structure BackendEvent where
  event : Str
  media : Option BackendMedia

/-- A `String` of the gateway, in which no two code points are the halves of one. -/
def readText : Json → Option Str
  | .str s => some (joinSurrogates s)
  | _ => none

def backendMedia : Json → Option BackendMedia
  | .obj members =>
    match members.filter (·.1 = ofString "payload") with
    | [(_, payload)] => (readText payload).map BackendMedia.mk
    | _ => none
  | .arr [payload] => (readText payload).map BackendMedia.mk
  | _ => none

def optionalMedia : Json → Option (Option BackendMedia)
  | .null => some none
  | value => (backendMedia value).map some

/-- The event that a value is: an object may have other members, a list has the two in order. -/
def backendEvent : Json → Option BackendEvent
  | .obj members =>
    match members.filter (·.1 = ofString "event"), members.filter (·.1 = ofString "media") with
    | [(_, event)], [] => (readText event).map (⟨·, none⟩)
    | [(_, event)], [(_, media)] =>
      (readText event).bind fun event => (optionalMedia media).map (⟨event, ·⟩)
    | _, _ => none
  | .arr [event] => (readText event).map (⟨·, none⟩)
  | .arr [event, media] =>
    (readText event).bind fun event => (optionalMedia media).map (⟨event, ·⟩)
  | _ => none

/-- `serde_json::from_str` of the text that `json.dumps` makes of a value. It refuses some texts,
those with a number that is none among them, but no object of texts that nests below its limit. -/
structure ReadsFrames (read : Json → Option BackendEvent) : Prop where
  sound : ∀ {value event}, read value = some event → backendEvent value = some event
  complete : ∀ value : Value, value.depth < 128 → read value.read = backendEvent value.read

/-! ### The tasks -/

/-- Where the task `ws_to_rtp` stands: between two messages, about to send a command, about to
report the end of the call, at the command behind its loop, or done. -/
inductive WsToRtp
  | reading
  | appending (bytes : Bytes)
  | clearing
  | ending
  | reporting
  | closing
  | finished
  deriving DecidableEq

def WsToRtp.command : WsToRtp → Option RtpPlayoutCommand
  | .appending bytes => some (.append bytes)
  | .clearing => some .clear
  | .ending => some .stop
  | .closing => some .stop
  | _ => none

def WsToRtp.delivered : WsToRtp → WsToRtp
  | .ending => .reporting
  | .closing => .finished
  | _ => .reading

/-- A command that finds no receiver ends the loop if it has audio, and is passed over otherwise. -/
def WsToRtp.refused : WsToRtp → WsToRtp
  | .appending _ => .closing
  | .ending => .reporting
  | .closing => .finished
  | _ => .reading

/-- The task is in its loop and has not yet got to the end of the call. -/
def WsToRtp.InLoop : WsToRtp → Prop
  | .reading | .appending _ | .clearing | .ending => True
  | _ => False

def playoutCapacity : Nat := 1024

/-- The relay, the frames it has written and the gateway has not read, the two tasks with the
channel between them, and how often the end of the call was reported. -/
structure CallerAudio where
  relay : Relay
  wire : List Json
  wsToRtp : WsToRtp
  commands : List RtpPlayoutCommand
  playoutAborted : Bool
  playout : Playout
  endRequests : Nat

def callerAudio : CallerAudio := ⟨.start, [], .reading, [], false, init, 0⟩

inductive CallerAction
  | provider (event : Event)
  | read
  | readFailed
  | send
  | report
  | recv
  | tick (sent : Bool)
  | abortPlayout
  | abortReader

def CallerAudio.listening (s : CallerAudio) : Prop := s.playout.running ∧ s.playoutAborted = false

instance (s : CallerAudio) : Decidable s.listening := inferInstanceAs (Decidable (_ ∧ _))

section Step

variable (registry : Registry) (args : Text → Json) (read : Json → Option BackendEvent)
  (decode : Str → Option Bytes)

/-- The branches of the loop of `ws_to_rtp`. -/
def onEvent : Option BackendEvent → WsToRtp
  | none => .reading
  | some event =>
    if event.event = ofString "media" then
      let payload := event.media.elim [] BackendMedia.payload
      if payload = [] then .reading
      else
        match decode payload with
        | none => .reading
        | some bytes => .appending bytes
    else if event.event = ofString "clear" then .clearing
    else if event.event = ofString "end" then .ending
    else .reading

def CallerAudio.hear (s : CallerAudio) (event : Event) : CallerAudio :=
  let handled := handle registry s.relay event
  { s with relay := handled.1, wire := s.wire ++ handled.2.filterMap (frame args) }

def CallerAudio.sendCommand (s : CallerAudio) (command : RtpPlayoutCommand) : Option CallerAudio :=
  if s.listening then
    if s.commands.length < playoutCapacity then
      some { s with commands := s.commands ++ [command], wsToRtp := s.wsToRtp.delivered }
    else none
  else some { s with wsToRtp := s.wsToRtp.refused }

/-- The playout takes the next command; the channel is closed when its sender is done. -/
def CallerAudio.takeCommand (s : CallerAudio) : Option CallerAudio :=
  match s.commands with
  | [] => if s.wsToRtp = .finished then some { s with playout := s.playout.handle none } else none
  | command :: commands => some { s with commands, playout := s.playout.handle (some command) }

def CallerAudio.step (s : CallerAudio) : CallerAction → Option CallerAudio
  | .provider event => some (s.hear registry args event)
  | .read =>
    match s.wsToRtp, s.wire with
    | .reading, value :: wire => some { s with wire, wsToRtp := onEvent decode (read value) }
    | _, _ => none
  | .readFailed => if s.wsToRtp = .reading then some { s with wsToRtp := .closing } else none
  | .send => s.wsToRtp.command.bind s.sendCommand
  | .report =>
    if s.wsToRtp = .reporting then
      some { s with wsToRtp := .closing, endRequests := s.endRequests + 1 }
    else none
  | .recv => if s.listening then s.takeCommand else none
  | .tick sent => if s.listening then some { s with playout := s.playout.playFrame sent } else none
  | .abortPlayout => some { s with playoutAborted := true }
  | .abortReader => some { s with wsToRtp := .finished }

/-- What the relay makes of the provider's events in a run. -/
def outputs (relay : Relay) : List CallerAction → List Output
  | [] => []
  | .provider event :: actions =>
    (handle registry relay event).2 ++ outputs (handle registry relay event).1 actions
  | _ :: actions => outputs relay actions

/-- The command that an output is for the playout. -/
def playoutCommand : Output → Option RtpPlayoutCommand
  | .media _ payload =>
    if payload = [] then none else (decode (payload.map chr)).map RtpPlayoutCommand.append
  | .clear _ => some .clear
  | .endCall => some .stop
  | _ => none

end Step

def RtpPlayoutCommand.audio : RtpPlayoutCommand → Bytes
  | .append bytes => bytes
  | _ => []

def Action.command? : Action → Option RtpPlayoutCommand
  | .recv command => command
  | .tick _ => none

/-- A playout that has taken these commands, with ticks of its timer anywhere between them. -/
def Took (taken : List RtpPlayoutCommand) (playout : Playout) : Prop :=
  ∃ actions, exec Playout.step init actions = some playout ∧
    actions.filterMap Action.command? = taken

/-- A part of the commands from the first on, with the one behind the loop at most. -/
def CommandCut (all taken : List RtpPlayoutCommand) : Prop :=
  taken <+: all ∨ ∃ front, front <+: all ∧ taken = front ++ [.stop]

/-! ### Reading the relay's frames -/

section Reading

variable {args : Text → Json} {read : Json → Option BackendEvent} {decode : Str → Option Bytes}

theorem not_isHigh_chr (c : Char) : ¬ isHigh (chr c) = true := by
  have hvalid : c.toNat < 0xD800 ∨ 0xDFFF < c.toNat ∧ c.toNat < 0x110000 := c.valid
  have hval : (chr c).val = c.toNat := val_ofNat (by omega)
  simp only [isHigh, hval, Bool.and_eq_true, decide_eq_true_eq]
  omega

theorem joinSurrogates_chr (s : Text) : joinSurrogates (s.map chr) = s.map chr := by
  rw [joinSurrogates_eq_self_iff]
  rintro ⟨front, high, low, back, heq, hhigh, -⟩
  have hmem : high ∈ s.map chr := by
    rw [heq]
    exact List.mem_append_right _ List.mem_cons_self
  obtain ⟨c, -, rfl⟩ := List.mem_map.mp hmem
  exact not_isHigh_chr c hhigh

/-- What the task turns to for a command. -/
def WsToRtp.toSend : Option RtpPlayoutCommand → WsToRtp
  | none => .reading
  | some (.append bytes) => .appending bytes
  | some .clear => .clearing
  | some .stop => .ending

theorem toSend_command (command : Option RtpPlayoutCommand) :
    (WsToRtp.toSend command).command = command := by
  cases command with
  | none => rfl
  | some command => cases command <;> rfl

theorem toSend_inLoop (command : Option RtpPlayoutCommand) : (WsToRtp.toSend command).InLoop := by
  cases command with
  | none => trivial
  | some command => cases command <;> trivial

/-- An event of another name is passed over. -/
theorem onEvent_other {event : BackendEvent} (hmedia : event.event ≠ ofString "media")
    (hclear : event.event ≠ ofString "clear") (hend : event.event ≠ ofString "end") :
    onEvent decode (some event) = .reading := by
  rw [onEvent, if_neg hmedia, if_neg hclear, if_neg hend]

theorem read_media (hread : ReadsFrames read) (streamSid payload : Text) :
    read (.obj [(ofString "event", .str (ofString "media")), (ofString "streamSid", strOf streamSid),
      (ofString "media", .obj [(ofString "payload", strOf payload)])]) =
      some ⟨ofString "media", some ⟨payload.map chr⟩⟩ := by
  have hjoin : readText (strOf payload) = some (payload.map chr) :=
    congrArg some (joinSurrogates_chr payload)
  have hcomplete := hread.complete (.obj [("event".toList, .str "media".toList),
    ("streamSid".toList, .str streamSid),
    ("media".toList, .obj [("payload".toList, .str payload)])])
    (by simp [Value.depth, depthMembers])
  refine hcomplete.trans ?_
  show (((readText (strOf payload)).map BackendMedia.mk).map some).map
    (BackendEvent.mk (ofString "media")) = _
  rw [hjoin]
  rfl

theorem read_clear (hread : ReadsFrames read) (streamSid : Text) :
    read (.obj [(ofString "event", .str (ofString "clear")),
      (ofString "streamSid", strOf streamSid)]) = some ⟨ofString "clear", none⟩ :=
  hread.complete (.obj [("event".toList, .str "clear".toList),
    ("streamSid".toList, .str streamSid)]) (by simp [Value.depth, depthMembers])

theorem read_end (hread : ReadsFrames read) :
    read (.obj [(ofString "event", .str (ofString "end"))]) = some ⟨ofString "end", none⟩ :=
  hread.complete (.obj [("event".toList, .str "end".toList)])
    (by simp [Value.depth, depthMembers])

theorem onEvent_media (streamSid payload : Text) :
    onEvent decode (some ⟨ofString "media", some ⟨payload.map chr⟩⟩) =
      .toSend (playoutCommand decode (.media streamSid payload)) := by
  rw [onEvent, if_pos rfl, playoutCommand]
  by_cases hempty : payload = []
  · rw [if_pos hempty, hempty]
    rfl
  · cases hdecode : decode (payload.map chr) with
    | none => simp [hempty, hdecode, WsToRtp.toSend]
    | some bytes => simp [hempty, hdecode, WsToRtp.toSend]

/-- A frame of the relay makes the task send the command of its output, if it has one. -/
theorem onEvent_frame (hread : ReadsFrames read) {output : Output} {value : Json}
    (hframe : frame args output = some value) :
    onEvent decode (read value) = .toSend (playoutCommand decode output) := by
  cases output with
  | media streamSid payload =>
    obtain rfl := Option.some.inj hframe
    rw [read_media hread, onEvent_media streamSid]
  | clear streamSid =>
    obtain rfl := Option.some.inj hframe
    rw [read_clear hread]
    rfl
  | endCall =>
    obtain rfl := Option.some.inj hframe
    rw [read_end hread]
    rfl
  | transcript text =>
    obtain rfl := Option.some.inj hframe
    cases hevent : read _ with
    | none => rfl
    | some event =>
      obtain rfl : ⟨ofString "transcript", none⟩ = event := Option.some.inj (hread.sound hevent)
      exact onEvent_other (by decide) (by decide) (by decide)
  | userTranscript text =>
    obtain rfl := Option.some.inj hframe
    cases hevent : read _ with
    | none => rfl
    | some event =>
      obtain rfl : ⟨ofString "user_transcript", none⟩ = event := Option.some.inj (hread.sound hevent)
      exact onEvent_other (by decide) (by decide) (by decide)
  | toolCall toolName arguments =>
    obtain rfl := Option.some.inj hframe
    cases hevent : read _ with
    | none => rfl
    | some event =>
      obtain rfl : ⟨ofString "tool_call", none⟩ = event := Option.some.inj (hread.sound hevent)
      exact onEvent_other (by decide) (by decide) (by decide)
  | cancelResponse => cases hframe
  | toolResult callId output => cases hframe

/-- The commands that the frames on the wire will be read as. -/
def wireCommands (read : Json → Option BackendEvent) (decode : Str → Option Bytes)
    (wire : List Json) : List RtpPlayoutCommand :=
  wire.filterMap fun value => (onEvent decode (read value)).command

theorem wireCommands_append (front back : List Json) : wireCommands read decode (front ++ back) =
    wireCommands read decode front ++ wireCommands read decode back :=
  List.filterMap_append

theorem wireCommands_cons (value : Json) (wire : List Json) :
    wireCommands read decode (value :: wire) =
      (onEvent decode (read value)).command.toList ++ wireCommands read decode wire := by
  rw [wireCommands, List.filterMap_cons]
  cases (onEvent decode (read value)).command <;> rfl

theorem wireCommands_frames (hread : ReadsFrames read) (outs : List Output) :
    wireCommands read decode (outs.filterMap (frame args)) =
      outs.filterMap (playoutCommand decode) := by
  rw [wireCommands, List.filterMap_filterMap]
  apply List.filterMap_congr
  intro output _
  cases hframe : frame args output with
  | some value => rw [Option.bind_some, onEvent_frame hread hframe, toSend_command]
  | none =>
    cases output with
    | cancelResponse => rfl
    | toolResult callId result => rfl
    | _ => cases hframe

theorem endCall_of_ending {output : Output}
    (h : WsToRtp.toSend (playoutCommand decode output) = .ending) : output = .endCall := by
  have hcommand := toSend_command (playoutCommand decode output)
  rw [h] at hcommand
  cases output with
  | media streamSid payload =>
    rw [playoutCommand] at hcommand
    split at hcommand
    · cases hcommand
    · cases hdecode : decode (payload.map chr) with
      | none =>
        rw [hdecode] at hcommand
        cases hcommand
      | some bytes =>
        rw [hdecode] at hcommand
        cases hcommand
  | endCall => rfl
  | _ => cases hcommand

end Reading

/-! ### The playout -/

section Playout

variable {playout : Playout} {taken all : List RtpPlayoutCommand}

theorem took_start : Took [] init := ⟨[], rfl, rfl⟩

theorem Took.append (h : Took taken playout) (a : Action) {next : Playout}
    (hstep : playout.step a = some next) :
    Took (taken ++ a.command?.toList) next := by
  obtain ⟨actions, hexec, htaken⟩ := h
  refine ⟨actions ++ [a], ?_, ?_⟩
  · rw [exec_append hexec, exec, hstep]
    rfl
  · rw [List.filterMap_append, htaken]
    cases hcommand : a.command? <;> simp [hcommand]

theorem keptBytes_cons (s : Playout) (kept : List UInt8) {t : Playout} {a : Action}
    (hstep : s.step a = some t) (actions : List Action) :
    keptBytes s kept (a :: actions) = keptBytes t (account s kept a) actions := by
  rw [keptBytes, hstep]

theorem audio_cons (a : Action) (actions : List Action) :
    ((a :: actions).filterMap Action.command?).flatMap RtpPlayoutCommand.audio =
      a.command?.toList.flatMap RtpPlayoutCommand.audio ++
        (actions.filterMap Action.command?).flatMap RtpPlayoutCommand.audio := by
  cases hcommand : a.command? <;> simp [hcommand]

/-- An action appends its audio to what counts, unless it is a Clear, which takes some away. -/
theorem account_extends (s : Playout) (kept : List UInt8) (a : Action) :
    account s kept a <+: kept ++ a.command?.toList.flatMap RtpPlayoutCommand.audio ∧
      (a.command? ≠ some .clear →
        account s kept a = kept ++ a.command?.toList.flatMap RtpPlayoutCommand.audio) := by
  cases a with
  | tick sent => simp [account, Action.command?]
  | recv command =>
    cases command with
    | none => simp [account, Action.command?]
    | some command =>
      cases command with
      | append bytes => simp [account, Action.command?, RtpPlayoutCommand.audio]
      | stop => simp [account, Action.command?, RtpPlayoutCommand.audio]
      | clear =>
        have hdrop : kept.rdrop s.buffer.length <+: kept := List.take_prefix _ _
        simpa [account, Action.command?, RtpPlayoutCommand.audio] using hdrop

/-- What counts of the audio keeps its order, and nothing counts twice. -/
theorem keptBytes_sublist (s : Playout) (kept : List UInt8) (actions : List Action) :
    (keptBytes s kept actions).Sublist
      (kept ++ (actions.filterMap Action.command?).flatMap RtpPlayoutCommand.audio) := by
  induction actions generalizing s kept with
  | nil => simp [keptBytes]
  | cons a actions ih =>
    cases hstep : s.step a with
    | none =>
      rw [keptBytes, hstep]
      exact List.sublist_append_left _ _
    | some t =>
      have haccount := (account_extends s kept a).1.sublist
      rw [keptBytes_cons s kept hstep, audio_cons, ← List.append_assoc]
      exact (ih t _).trans (haccount.append (List.Sublist.refl _))

/-- Without a Clear all of the audio counts. -/
theorem keptBytes_eq {s t : Playout} (kept : List UInt8) {actions : List Action}
    (hexec : exec Playout.step s actions = some t)
    (hclear : .clear ∉ actions.filterMap Action.command?) :
    keptBytes s kept actions =
      kept ++ (actions.filterMap Action.command?).flatMap RtpPlayoutCommand.audio := by
  induction actions generalizing s kept with
  | nil => simp [keptBytes]
  | cons a actions ih =>
    obtain ⟨u, hstep, hrest⟩ := Option.bind_eq_some_iff.mp hexec
    have hne : a.command? ≠ some .clear := fun heq => hclear (by simp [heq])
    have hlater : .clear ∉ actions.filterMap Action.command? := by
      intro hmem
      obtain ⟨b, hb, hcommand⟩ := List.mem_filterMap.mp hmem
      exact hclear (List.mem_filterMap.mpr ⟨b, List.mem_cons_of_mem _ hb, hcommand⟩)
    rw [keptBytes_cons s kept hstep, ih _ hrest hlater, (account_extends s kept a).2 hne,
      audio_cons, List.append_assoc]

/-- What a playout has sent and buffered of the audio of the commands it took. -/
theorem Took.audio (h : Took taken playout) :
    (playout.audio ++ playout.buffer).Sublist (taken.flatMap RtpPlayoutCommand.audio) ∧
      (.clear ∉ taken →
        playout.audio ++ playout.buffer = taken.flatMap RtpPlayoutCommand.audio) := by
  obtain ⟨actions, hexec, rfl⟩ := h
  rw [account_exec (show init.audio ++ init.buffer = [] from rfl) hexec]
  refine ⟨keptBytes_sublist init [] actions, fun hclear => ?_⟩
  simpa using keptBytes_eq [] hexec hclear

end Playout

/-! ### Whole runs -/

section Invariant

variable {registry : Registry} {args : Text → Json} {read : Json → Option BackendEvent}
  {decode : Str → Option Bytes}

/-- The commands for the playout among some outputs of the relay. -/
def heardCommands (decode : Str → Option Bytes) (outs : List Output) : List RtpPlayoutCommand :=
  outs.filterMap (playoutCommand decode)

/-- The invariant, for what the relay has made so far and what the playout has taken. -/
structure Hears (args : Text → Json) (read : Json → Option BackendEvent)
    (decode : Str → Option Bytes) (outs : List Output) (taken : List RtpPlayoutCommand)
    (s : CallerAudio) : Prop where
  took : Took taken s.playout
  frames : s.wire <:+ outs.filterMap (frame args)
  ordered : s.listening → s.wsToRtp.InLoop →
    taken ++ s.commands ++ s.wsToRtp.command.toList ++ wireCommands read decode s.wire =
      heardCommands decode outs
  unfinished : s.wsToRtp ≠ .finished → taken ++ s.commands <+: heardCommands decode outs
  queued : CommandCut (heardCommands decode outs) (taken ++ s.commands)
  ended : s.wsToRtp = .ending ∨ s.wsToRtp = .reporting ∨ 0 < s.endRequests → .endCall ∈ outs
  unreported : s.wsToRtp.InLoop ∨ s.wsToRtp = .reporting → s.endRequests = 0
  once : s.endRequests ≤ 1

variable {outs : List Output} {taken : List RtpPlayoutCommand} {s t : CallerAudio}

theorem hears_start : Hears args read decode [] [] callerAudio where
  took := took_start
  frames := List.suffix_rfl
  ordered := fun _ _ => rfl
  unfinished := fun _ => List.prefix_rfl
  queued := .inl List.prefix_rfl
  ended := fun h => by simp [callerAudio] at h
  unreported := fun _ => rfl
  once := Nat.zero_le _

theorem CommandCut.mono {all : List RtpPlayoutCommand} (h : CommandCut all taken)
    (more : List RtpPlayoutCommand) : CommandCut (all ++ more) taken := by
  rcases h with h | ⟨front, hfront, rfl⟩
  · exact .inl (h.trans (List.prefix_append _ _))
  · exact .inr ⟨front, hfront.trans (List.prefix_append _ _), rfl⟩

theorem CommandCut.of_front {all more : List RtpPlayoutCommand} (h : CommandCut all (taken ++ more)) :
    CommandCut all taken := by
  rcases h with h | ⟨front, hfront, heq⟩
  · exact .inl ((List.prefix_append _ _).trans h)
  · rcases List.append_eq_append_iff.mp heq with ⟨a, rfl, -⟩ | ⟨a, rfl, hstop⟩
    · exact .inl ((List.prefix_append _ _).trans hfront)
    · cases a with
      | nil => exact .inl (by rwa [List.append_nil])
      | cons command a =>
        obtain ⟨rfl, hnil⟩ := List.cons.inj hstop
        obtain ⟨rfl, rfl⟩ := List.append_eq_nil_iff.mp hnil.symm
        exact .inr ⟨front, hfront, rfl⟩

theorem Hears.hear (hread : ReadsFrames read) (h : Hears args read decode outs taken s)
    (event : Event) : Hears args read decode (outs ++ (handle registry s.relay event).2) taken
      (s.hear registry args event) := by
  have hgrown : heardCommands decode (outs ++ (handle registry s.relay event).2) =
      heardCommands decode outs ++ heardCommands decode (handle registry s.relay event).2 :=
    List.filterMap_append
  refine ⟨h.took, ?_, fun hlistening hloop => ?_, fun hunfinished => ?_, ?_, fun hended => ?_,
    h.unreported, h.once⟩
  · obtain ⟨front, hfront⟩ := h.frames
    refine ⟨front, ?_⟩
    rw [List.filterMap_append, ← hfront, List.append_assoc]
    rfl
  · have hordered := h.ordered hlistening hloop
    have hnew : wireCommands read decode ((handle registry s.relay event).2.filterMap (frame args)) =
        heardCommands decode (handle registry s.relay event).2 := wireCommands_frames hread _
    rw [hgrown, ← hordered, ← hnew]
    simp [CallerAudio.hear, wireCommands_append]
  · rw [hgrown]
    exact (h.unfinished hunfinished).trans (List.prefix_append _ _)
  · rw [hgrown]
    exact h.queued.mono _
  · exact List.mem_append_left _ (h.ended hended)

theorem Hears.readFrame (hread : ReadsFrames read) (h : Hears args read decode outs taken s)
    (hreading : s.wsToRtp = .reading) {value : Json} {wire : List Json}
    (hwire : s.wire = value :: wire) : Hears args read decode outs taken
      { s with wire, wsToRtp := onEvent decode (read value) } := by
  have hframes := h.frames
  rw [hwire] at hframes
  obtain ⟨output, houtput, hframe⟩ :=
    List.mem_filterMap.mp (hframes.subset List.mem_cons_self)
  have hnext := @onEvent_frame _ _ decode hread _ _ hframe
  have hloop : s.wsToRtp.InLoop := by
    rw [hreading]
    trivial
  have hzero := h.unreported (.inl hloop)
  refine ⟨h.took, (List.suffix_cons _ _).trans hframes, fun hlistening _ => ?_, fun _ => ?_,
    h.queued, fun hended => ?_, fun _ => hzero, h.once⟩
  · have hordered := h.ordered hlistening hloop
    rw [hreading, hwire] at hordered
    rw [← hordered, wireCommands_cons, show WsToRtp.reading.command = none from rfl,
      Option.toList_none, List.append_nil, List.append_assoc]
  · exact h.unfinished (by rw [hreading]; exact nofun)
  · rcases hended with hending | hreporting | hpos
    · rw [hnext] at hending
      rw [← endCall_of_ending hending]
      exact houtput
    · have hin := toSend_inLoop (playoutCommand decode output)
      rw [← hnext, show onEvent decode (read value) = .reporting from hreporting] at hin
      cases hin
    · rw [show s.endRequests = 0 from hzero] at hpos
      cases hpos

/-- A command of the loop is delivered. -/
theorem Hears.deliverInLoop {command : RtpPlayoutCommand} (h : Hears args read decode outs taken s)
    (hcommand : s.wsToRtp.command = some command) (hlistening : s.listening)
    (hloop : s.wsToRtp.InLoop) {next : WsToRtp} (hnext : next = .reading ∨
      next = .reporting ∧ s.wsToRtp = .ending) :
    Hears args read decode outs taken
      { s with commands := s.commands ++ [command], wsToRtp := next } := by
  have hordered := h.ordered hlistening hloop
  rw [hcommand, Option.toList_some, List.append_assoc taken] at hordered
  have hgrown : taken ++ (s.commands ++ [command]) <+: heardCommands decode outs := ⟨_, hordered⟩
  refine ⟨h.took, h.frames, fun _ hloop => ?_, fun _ => hgrown, .inl hgrown, fun hended => ?_,
    fun _ => h.unreported (.inl hloop), h.once⟩
  · rcases hnext with rfl | ⟨rfl, -⟩
    · rw [show WsToRtp.reading.command = none from rfl, Option.toList_none, List.append_nil]
      exact hordered
    · cases hloop
  · rcases hnext with rfl | ⟨-, hending⟩
    · exact h.ended (.inr (.inr (by simpa using hended)))
    · exact h.ended (.inl hending)

theorem Hears.deliver {command : RtpPlayoutCommand} (h : Hears args read decode outs taken s)
    (hcommand : s.wsToRtp.command = some command) (hlistening : s.listening) :
    Hears args read decode outs taken
      { s with commands := s.commands ++ [command], wsToRtp := s.wsToRtp.delivered } := by
  cases hstate : s.wsToRtp with
  | appending bytes =>
    exact h.deliverInLoop hcommand hlistening (by rw [hstate]; trivial) (.inl rfl)
  | clearing => exact h.deliverInLoop hcommand hlistening (by rw [hstate]; trivial) (.inl rfl)
  | ending =>
    exact h.deliverInLoop hcommand hlistening (by rw [hstate]; trivial) (.inr ⟨rfl, hstate⟩)
  | closing =>
    rw [hstate] at hcommand
    obtain rfl := Option.some.inj hcommand
    have hfront := h.unfinished (by rw [hstate]; exact nofun)
    refine ⟨h.took, h.frames, fun _ hloop => ?_, fun hne => absurd rfl hne,
      .inr ⟨_, hfront, (List.append_assoc _ _ _).symm⟩, fun hended => ?_, fun hloop => ?_, h.once⟩
    · cases hloop
    · rcases hended with hended | hended | hpos
      · cases hended
      · cases hended
      · exact h.ended (.inr (.inr hpos))
    · rcases hloop with hloop | hloop
      · cases hloop
      · cases hloop
  | _ =>
    rw [hstate] at hcommand
    cases hcommand

theorem Hears.refuse {command : RtpPlayoutCommand} (h : Hears args read decode outs taken s)
    (hcommand : s.wsToRtp.command = some command) (hdeaf : ¬ s.listening) :
    Hears args read decode outs taken { s with wsToRtp := s.wsToRtp.refused } := by
  have hfront := h.unfinished (by
    intro hfinished
    rw [hfinished] at hcommand
    cases hcommand)
  refine ⟨h.took, h.frames, fun hlistening => absurd hlistening hdeaf, fun _ => hfront, h.queued,
    fun hended => h.ended ?_, fun hloop => h.unreported ?_, h.once⟩
  · cases hstate : s.wsToRtp with
    | ending => exact .inl rfl
    | _ =>
      have hpos : 0 < s.endRequests := by simpa [hstate, WsToRtp.refused] using hended
      exact .inr (.inr hpos)
  · cases hstate : s.wsToRtp with
    | appending bytes => exact .inl trivial
    | clearing => exact .inl trivial
    | ending => exact .inl trivial
    | closing => simp [hstate, WsToRtp.refused, WsToRtp.InLoop] at hloop
    | _ =>
      rw [hstate] at hcommand
      cases hcommand

/-- The loop is left: by the end of the call once it is reported, by a failed read, or by force. -/
theorem Hears.leave (h : Hears args read decode outs taken s) {next : WsToRtp} {reports : Nat}
    (hnext : next = .closing ∧ s.wsToRtp ≠ .finished ∨ next = .finished)
    (hended : 0 < reports → .endCall ∈ outs) (honce : reports ≤ 1) :
    Hears args read decode outs taken { s with wsToRtp := next, endRequests := reports } := by
  refine ⟨h.took, h.frames, fun _ hloop => ?_, fun hne => ?_, h.queued, fun hreport => ?_,
    fun hloop => ?_, honce⟩
  · rcases hnext with ⟨rfl, -⟩ | rfl <;> cases hloop
  · rcases hnext with ⟨-, hnot⟩ | rfl
    · exact h.unfinished hnot
    · exact absurd rfl hne
  · rcases hnext with ⟨rfl, -⟩ | rfl
    · exact hended (by simpa using hreport)
    · exact hended (by simpa using hreport)
  · rcases hnext with ⟨rfl, -⟩ | rfl
    · rcases hloop with hloop | hloop <;> cases hloop
    · rcases hloop with hloop | hloop <;> cases hloop

theorem Hears.take {command : RtpPlayoutCommand} {commands : List RtpPlayoutCommand}
    (h : Hears args read decode outs taken s) (hlistening : s.listening)
    (hcommands : s.commands = command :: commands) :
    Hears args read decode outs (taken ++ [command])
      { s with commands, playout := s.playout.handle (some command) } := by
  have hmove : taken ++ [command] ++ commands = taken ++ s.commands := by
    rw [hcommands, List.append_assoc, List.singleton_append]
  have hstep : s.playout.step (.recv (some command)) = some (s.playout.handle (some command)) :=
    if_pos hlistening.1
  refine ⟨h.took.append _ hstep, h.frames, fun _ hloop => ?_, fun hne => ?_, ?_, h.ended,
    h.unreported, h.once⟩
  · rw [show taken ++ [command] ++ commands = _ from hmove]
    exact h.ordered hlistening hloop
  · rw [show taken ++ [command] ++ commands = _ from hmove]
    exact h.unfinished hne
  · rw [show taken ++ [command] ++ commands = _ from hmove]
    exact h.queued

/-- The playout goes on without a command. -/
theorem Hears.play (h : Hears args read decode outs taken s) (hlistening : s.listening) {a : Action}
    (ha : a.command? = none) {playout : Playout} (hstep : s.playout.step a = some playout) :
    Hears args read decode outs taken { s with playout } := by
  have htook := h.took.append _ hstep
  rw [ha, Option.toList_none, List.append_nil] at htook
  exact ⟨htook, h.frames, fun _ hloop => h.ordered hlistening hloop, h.unfinished, h.queued,
    h.ended, h.unreported, h.once⟩

/-- A step keeps the invariant: the relay may make more, and the playout may take a command. -/
theorem Hears.step (hread : ReadsFrames read) (h : Hears args read decode outs taken s)
    {a : CallerAction} (hstep : s.step registry args read decode a = some t) :
    ∃ taken, Hears args read decode (outs ++ outputs registry s.relay [a]) taken t ∧
      ∀ actions, outputs registry s.relay (a :: actions) =
        outputs registry s.relay [a] ++ outputs registry t.relay actions := by
  cases a with
  | provider event =>
    obtain rfl := Option.some.inj hstep
    refine ⟨taken, ?_, fun actions => by simp [outputs, CallerAudio.hear]⟩
    simpa [outputs] using h.hear hread event
  | read =>
    rw [CallerAudio.step] at hstep
    split at hstep
    · rename_i value wire hreading hwire
      obtain rfl := Option.some.inj hstep
      refine ⟨taken, ?_, fun _ => rfl⟩
      simpa [outputs] using h.readFrame hread hreading hwire
    · cases hstep
  | readFailed =>
    rw [CallerAudio.step] at hstep
    split at hstep
    · rename_i hreading
      obtain rfl := Option.some.inj hstep
      refine ⟨taken, ?_, fun _ => rfl⟩
      have hleft := h.leave (.inl ⟨rfl, by rw [hreading]; exact nofun⟩)
        (fun hpos => h.ended (.inr (.inr hpos))) h.once
      simpa [outputs] using hleft
    · cases hstep
  | send =>
    obtain ⟨command, hcommand, hsend⟩ := Option.bind_eq_some_iff.mp hstep
    rw [CallerAudio.sendCommand] at hsend
    split at hsend
    · rename_i hlistening
      split at hsend
      · obtain rfl := Option.some.inj hsend
        refine ⟨taken, ?_, fun _ => rfl⟩
        simpa [outputs] using h.deliver hcommand hlistening
      · cases hsend
    · rename_i hdeaf
      obtain rfl := Option.some.inj hsend
      refine ⟨taken, ?_, fun _ => rfl⟩
      simpa [outputs] using h.refuse hcommand hdeaf
  | report =>
    rw [CallerAudio.step] at hstep
    split at hstep
    · rename_i hreporting
      obtain rfl := Option.some.inj hstep
      refine ⟨taken, ?_, fun _ => rfl⟩
      have hzero := h.unreported (.inr hreporting)
      have hleft := h.leave (.inl ⟨rfl, by rw [hreporting]; exact nofun⟩)
        (fun _ => h.ended (.inr (.inl hreporting))) (show s.endRequests + 1 ≤ 1 by omega)
      simpa [outputs] using hleft
    · cases hstep
  | recv =>
    rw [CallerAudio.step] at hstep
    split at hstep
    · rename_i hlistening
      rw [CallerAudio.takeCommand] at hstep
      split at hstep
      · split at hstep
        · obtain rfl := Option.some.inj hstep
          refine ⟨taken, ?_, fun _ => rfl⟩
          have hplayed := h.play hlistening (show (Action.recv none).command? = none from rfl)
            (if_pos hlistening.1)
          simpa [outputs] using hplayed
        · cases hstep
      · rename_i command commands hcommands
        obtain rfl := Option.some.inj hstep
        refine ⟨taken ++ [command], ?_, fun _ => rfl⟩
        simpa [outputs] using h.take hlistening hcommands
    · cases hstep
  | tick sent =>
    rw [CallerAudio.step] at hstep
    split at hstep
    · rename_i hlistening
      obtain rfl := Option.some.inj hstep
      refine ⟨taken, ?_, fun _ => rfl⟩
      have hplayed := h.play hlistening (show (Action.tick sent).command? = none from rfl)
        (if_pos hlistening.1)
      simpa [outputs] using hplayed
    · cases hstep
  | abortPlayout =>
    obtain rfl := Option.some.inj hstep
    refine ⟨taken, ?_, fun _ => rfl⟩
    have hdeaf : ¬ ({ s with playoutAborted := true } : CallerAudio).listening :=
      fun hlistening => by cases hlistening.2
    simpa [outputs] using (⟨h.took, h.frames, fun hlistening => absurd hlistening hdeaf,
      h.unfinished, h.queued, h.ended, h.unreported, h.once⟩ :
      Hears args read decode outs taken { s with playoutAborted := true })
  | abortReader =>
    obtain rfl := Option.some.inj hstep
    refine ⟨taken, ?_, fun _ => rfl⟩
    have hleft := h.leave (.inr rfl) (fun hpos => h.ended (.inr (.inr hpos))) h.once
    simpa [outputs] using hleft

theorem Hears.exec (hread : ReadsFrames read) (h : Hears args read decode outs taken s)
    {actions : List CallerAction}
    (hexec : exec (CallerAudio.step registry args read decode) s actions = some t) :
    ∃ taken, Hears args read decode (outs ++ outputs registry s.relay actions) taken t := by
  induction actions generalizing s outs taken with
  | nil =>
    obtain rfl := Option.some.inj hexec
    exact ⟨taken, by simpa [outputs] using h⟩
  | cons a actions ih =>
    obtain ⟨u, hstep, hrest⟩ := Option.bind_eq_some_iff.mp hexec
    obtain ⟨later, hnext, houtputs⟩ := h.step hread hstep
    obtain ⟨last, hlast⟩ := ih hnext hrest
    refine ⟨last, ?_⟩
    rw [houtputs actions, ← List.append_assoc]
    exact hlast

end Invariant

/-- The audio among some outputs of the relay. -/
def heardAudio (decode : Str → Option Bytes) (outs : List Output) : Bytes :=
  (heardCommands decode outs).flatMap RtpPlayoutCommand.audio

theorem CommandCut.audio {all taken : List RtpPlayoutCommand} (h : CommandCut all taken) :
    taken.flatMap RtpPlayoutCommand.audio <+: all.flatMap RtpPlayoutCommand.audio := by
  have hprefix : ∀ {front}, front <+: all →
      front.flatMap RtpPlayoutCommand.audio <+: all.flatMap RtpPlayoutCommand.audio := by
    rintro front ⟨back, rfl⟩
    exact ⟨_, List.flatMap_append.symm⟩
  rcases h with h | ⟨front, hfront, rfl⟩
  · exact hprefix h
  · rw [List.flatMap_append, show [RtpPlayoutCommand.stop].flatMap RtpPlayoutCommand.audio = []
      from rfl, List.append_nil]
    exact hprefix hfront

theorem CommandCut.clear {all taken : List RtpPlayoutCommand} (h : CommandCut all taken)
    (hclear : .clear ∉ all) : .clear ∉ taken := by
  rcases h with h | ⟨front, hfront, rfl⟩
  · exact fun hmem => hclear (h.subset hmem)
  · intro hmem
    rcases List.mem_append.mp hmem with hmem | hmem
    · exact hclear (hfront.subset hmem)
    · simp at hmem

theorem clear_heardCommands {decode : Str → Option Bytes} {outs : List Output}
    (h : ∀ streamSid, .clear streamSid ∉ outs) : .clear ∉ heardCommands decode outs := by
  intro hmem
  obtain ⟨output, houtput, hcommand⟩ := List.mem_filterMap.mp hmem
  cases output with
  | clear streamSid => exact h streamSid houtput
  | media streamSid payload =>
    rw [playoutCommand] at hcommand
    split at hcommand
    · cases hcommand
    · obtain ⟨bytes, -, heq⟩ := Option.map_eq_some_iff.mp hcommand
      cases heq
  | endCall => cases hcommand
  | _ => cases hcommand

/-- However the relay, the gateway's reader and its playout interleave, and whenever the bridge is
taken down: the playout has taken the relay's commands in their order up to some point, all of them
once nothing is under way. What the caller hears is audio of the relay in its order, without a gap
if the caller was never spoken over; the end of the call is reported once, and only if there is one. -/
theorem caller_hears_relay {registry : Registry} {args : Text → Json}
    {read : Json → Option BackendEvent} {decode : Str → Option Bytes} (hread : ReadsFrames read)
    {actions : List CallerAction} {s : CallerAudio}
    (hexec : exec (CallerAudio.step registry args read decode) callerAudio actions = some s) :
    (∃ taken, Took taken s.playout ∧
      CommandCut (heardCommands decode (outputs registry .start actions)) taken ∧
      (s.listening → s.wsToRtp = .reading → s.wire = [] → s.commands = [] →
        taken = heardCommands decode (outputs registry .start actions))) ∧
      (s.playout.audio ++ s.playout.buffer).Sublist
        (heardAudio decode (outputs registry .start actions)) ∧
      ((∀ streamSid, .clear streamSid ∉ outputs registry .start actions) →
        s.playout.audio ++ s.playout.buffer <+:
          heardAudio decode (outputs registry .start actions)) ∧
      s.endRequests ≤ 1 ∧ (0 < s.endRequests → .endCall ∈ outputs registry .start actions) := by
  obtain ⟨taken, hhears⟩ := hears_start.exec hread hexec
  rw [List.nil_append, show callerAudio.relay = Relay.start from rfl] at hhears
  have hcut := hhears.queued.of_front
  obtain ⟨hsublist, hall⟩ := hhears.took.audio
  refine ⟨⟨taken, hhears.took, hcut, fun hlistening hreading hwire hcommands => ?_⟩,
    hsublist.trans hcut.audio.sublist, fun hclear => ?_, hhears.once,
    fun hpos => hhears.ended (.inr (.inr hpos))⟩
  · have hordered := hhears.ordered hlistening (by rw [hreading]; trivial)
    rw [hreading, hwire, hcommands] at hordered
    simpa [WsToRtp.command, wireCommands] using hordered
  · rw [hall (hcut.clear (clear_heardCommands hclear))]
    exact hcut.audio

theorem backendEvent_readsFrames : ReadsFrames backendEvent := ⟨id, fun _ _ => rfl⟩

/-- Two bytes are spoken, a tool ends the call, and one packet is sent before the end is taken. -/
def goodbye : List CallerAction :=
  [.provider (.streamStarted "MZ".toList), .provider (.responseCreated none),
    .provider (.audioDelta none "AQI=".toList), .read, .send,
    .provider (.toolArgumentsDone "1".toList "hang_up".toList none), .recv, .tick true, .read,
    .provider (.responseDone none), .read, .send, .recv, .report, .send]

theorem goodbye_heard : ∃ s,
    exec (CallerAudio.step (fun _ => some true) (fun _ => .obj []) backendEvent Base64.b64decode)
      callerAudio goodbye = some s ∧ s.endRequests = 1 ∧
      (s.playout.audio ++ s.playout.buffer).Sublist
        (heardAudio Base64.b64decode (outputs (fun _ => some true) .start goodbye)) ∧
      .endCall ∈ outputs (fun _ => some true) .start goodbye := by
  have hreports : ((exec (CallerAudio.step (fun _ => some true) (fun _ => .obj []) backendEvent
      Base64.b64decode) callerAudio goodbye).map CallerAudio.endRequests) = some 1 := by
    decide +kernel
  obtain ⟨s, hs, hone⟩ := Option.map_eq_some_iff.mp hreports
  obtain ⟨-, haudio, -, -, hended⟩ := caller_hears_relay backendEvent_readsFrames hs
  exact ⟨s, hs, hone, haudio, hended (by omega)⟩

end DemoService.Rtp
