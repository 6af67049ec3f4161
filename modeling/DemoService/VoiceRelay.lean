import DemoService.PyDict
import DemoService.PyText

/-! The voice relay: what it sends to the caller and to the voice provider for each
provider event, and what the other tasks of the call change under it. -/

namespace DemoService.Voice

open PyText

inductive Event
  | streamStarted (streamSid : Text)
  | responseCreated (responseId : Option Text)
  | speechStarted
  | audioDelta (responseId : Option Text) (delta : Text)
  | transcriptDelta (delta : Text)
  | inputTranscript (transcript : Text)
  | toolArgumentsDelta (callId name delta : Text)
  | toolArgumentsDone (callId name : Text) (arguments : Option Text)
  | responseDone (responseId : Option Text)
  | error
  | disconnected
  | toolFinished (callId output : Text)
  | toolsGathered
  deriving DecidableEq, Repr

inductive Output
  | media (streamSid payload : Text)
  | clear (streamSid : Text)
  | transcript (text : Text)
  | userTranscript (text : Text)
  | toolCall (toolName args : Text)
  | cancelResponse
  | toolResult (callId output : Text)
  | endCall
  deriving DecidableEq, Repr

structure Relay where
  streamSid : Option Text
  closeAfterResponse : Bool
  currentResponseId : Option Text
  cancelledResponseId : Option Text
  responseActive : Bool
  pendingToolCalls : Dict Text (Text × Text)
  readyToolResults : List (Text × Text)
  closed : Bool
  deriving DecidableEq, Repr

def Relay.start : Relay := ⟨none, false, none, none, false, [], [], false⟩

/-- Whether a tool ends the call; `none` for a tool that is not registered. -/
abbrev Registry := Text → Option Bool

def sendOrQueueToolResult (relay : Relay) (callId result : Text) : Relay × List Output :=
  if relay.responseActive then
    ({ relay with readyToolResults := relay.readyToolResults ++ [(callId, result)] }, [])
  else (relay, [.toolResult callId result])

def flushReadyToolResults (relay : Relay) : Relay × List Output :=
  ({ relay with readyToolResults := [] },
    relay.readyToolResults.map fun ready => .toolResult ready.1 ready.2)

def handleSpeechStarted (relay : Relay) : Relay × List Output :=
  let clear := (relay.streamSid.bind orNone).toList.map Output.clear
  if relay.responseActive then
    ({ relay with cancelledResponseId := relay.currentResponseId }, .cancelResponse :: clear)
  else (relay, clear)

def handleAudioDelta (relay : Relay) (responseId : Option Text) (delta : Text) :
    Relay × List Output :=
  let seen := { relay with currentResponseId := responseId.or relay.currentResponseId }
  if responseId.isSome && responseId = relay.cancelledResponseId then (seen, [])
  else
    match relay.streamSid.bind orNone with
    | some streamSid => (seen, if delta = [] then [] else [.media streamSid delta])
    | none => (seen, [])

def addDelta (pending : Dict Text (Text × Text)) (callId name delta : Text) :
    Dict Text (Text × Text) :=
  if callId = [] then pending
  else
    let call := (pending.get? callId).getD (name, [])
    pending.set callId (call.1, call.2 ++ delta)

def handleToolArgumentsDelta (relay : Relay) (callId name delta : Text) : Relay × List Output :=
  ({ relay with pendingToolCalls := addDelta relay.pendingToolCalls callId name delta }, [])

/-- The tool name and the arguments of a call, from its deltas where it had any. -/
def doneCall (pending : Dict Text (Text × Text)) (callId name : Text) (arguments : Option Text) :
    Text × Text :=
  let tool := pending.get? callId
  (orText (tool.map Prod.fst) name,
    orText arguments (orText (tool.map Prod.snd) "\x7b\x7d".toList))

def handleToolArgumentsDone (registry : Registry) (relay : Relay) (callId name : Text)
    (arguments : Option Text) : Relay × List Output :=
  if callId = [] then (relay, [])
  else
    let done := doneCall relay.pendingToolCalls callId name arguments
    ({ relay with
      pendingToolCalls := relay.pendingToolCalls.filter (·.1 ≠ callId)
      closeAfterResponse := relay.closeAfterResponse || registry done.1 = some true },
      [.toolCall done.1 done.2])

def handleResponseDone (relay : Relay) : Relay × List Output :=
  let flushed := flushReadyToolResults { relay with responseActive := false }
  if relay.closeAfterResponse then ({ flushed.1 with closed := true }, flushed.2 ++ [.endCall])
  else flushed

/-- One event of the provider or of another task of the call. -/
def handle (registry : Registry) (relay : Relay) (event : Event) : Relay × List Output :=
  match event with
  | .streamStarted streamSid => ({ relay with streamSid := some streamSid }, [])
  | .toolFinished callId output => sendOrQueueToolResult relay callId output
  | .toolsGathered =>
    if relay.closed && !relay.responseActive then flushReadyToolResults relay else (relay, [])
  | _ =>
    if relay.closed then (relay, [])
    else
      match event with
      | .responseCreated responseId =>
        ({ relay with
          currentResponseId := (responseId.bind orNone).or relay.currentResponseId
          responseActive := true }, [])
      | .speechStarted => handleSpeechStarted relay
      | .audioDelta responseId delta => handleAudioDelta relay responseId delta
      | .transcriptDelta delta => (relay, [.transcript delta])
      | .inputTranscript transcript =>
        (relay, if transcript = [] then [] else [.userTranscript transcript])
      | .toolArgumentsDelta callId name delta => handleToolArgumentsDelta relay callId name delta
      | .toolArgumentsDone callId name arguments =>
        handleToolArgumentsDone registry relay callId name arguments
      | .responseDone _ => handleResponseDone relay
      | .disconnected => ({ relay with closed := true }, [])
      | _ => (relay, [])

/-- The relay after a history, the latest event first. -/
def after (registry : Registry) : List Event → Relay
  | [] => .start
  | event :: past => (handle registry (after registry past) event).1

end DemoService.Voice
