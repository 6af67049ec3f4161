import DemoService.ControlPlane
import DemoService.PyDict
import DemoService.PyText
import Mathlib.Data.List.ReduceOption

/-! A warm transfer asked for in a voice call: the tool reads its configuration, posts to the
control plane of the gateway and reports what came back, while the gateway serves other requests.
What the tool reports is compared with what the gateway has handed to its SIP engine. -/

namespace DemoService.WarmTransfer

open PyText Sip ControlPlane GuardedRuns

section Tool

/-- A JSON value of a persona's tool configuration. -/
inductive ConfigValue
  | null
  | bool (b : Bool)
  | int (i : Int)
  | float (lexeme : Text)
  | str (s : Text)
  | list (items : List ConfigValue)
  | dict (members : List (Text × ConfigValue))

abbrev ToolConfig := Dict Text ConfigValue

/-- How a conversion of Python ends; `refused` is a `TypeError` or a `ValueError`. -/
inductive Conversion (α : Type)
  | value (a : α)
  | refused
  | overflow

/-- What Python makes of configuration values that are no texts. -/
structure Conversions where
  str : ConfigValue → Text
  int : ConfigValue → Conversion Int
  float : ConfigValue → Conversion Unit
  isZero : Text → Bool

structure WarmTransferConfig where
  gatewayBaseUrl : Text
  trunkHost : Text
  twilioNumber : Text
  trunkPort : Int
  rtpTargetHost : Text
  rtpTargetPort : ConfigValue
  sessionId : Text

variable (py : Conversions)

def truthy : ConfigValue → Bool
  | .null => false
  | .bool b => b
  | .int i => i ≠ 0
  | .float lexeme => !py.isZero lexeme
  | .str s => s ≠ []
  | .list items => !items.isEmpty
  | .dict members => !members.isEmpty

/-- `str(value).strip()`. -/
def textOf (value : ConfigValue) : Text :=
  strip (match value with
    | .str s => s
    | _ => py.str value)

/-- A dictionary, or an empty one where the value is none. -/
def asDict : Option ConfigValue → ToolConfig
  | some (.dict members) => members
  | _ => []

/-- `warm_transfer_cfg.get(key, tool_config.get(key, default))`. -/
def setting (warmTransferCfg toolConfig : ToolConfig) (key : String) (default : ConfigValue) :
    ConfigValue :=
  (Dict.get? warmTransferCfg key.toList).getD ((Dict.get? toolConfig key.toList).getD default)

/-- `_coerce_int` and `_coerce_float`, which let an overflow pass. -/
def coerce {α : Type} (fallback : α) : Conversion α → Option α
  | .value a => some a
  | .refused => some fallback
  | .overflow => none

/-- `a or b or c`. -/
def firstTruthy (a b : Option ConfigValue) (c : ConfigValue) : ConfigValue :=
  if truthy py (a.getD .null) then a.getD .null
  else if truthy py (b.getD .null) then b.getD .null
  else c

/-- `none` where a number of the configuration overflows. -/
def loadWarmTransferConfig (toolConfig : ToolConfig) : Option WarmTransferConfig := do
  let warm := asDict (Dict.get? toolConfig "warm_transfer".toList)
  let runtime := asDict (Dict.get? toolConfig "_runtime".toList)
  let trunkPort ← coerce 5060 (py.int (setting warm toolConfig "trunk_port" (.int 5060)))
  coerce () (py.float (setting warm toolConfig "timeout_seconds" (.float "5.0".toList)))
  pure {
    gatewayBaseUrl := textOf py (setting warm toolConfig "gateway_base_url" (.str []))
    trunkHost := textOf py (setting warm toolConfig "trunk_host" (.str []))
    twilioNumber := textOf py (setting warm toolConfig "twilio_number" (.str []))
    trunkPort := trunkPort
    rtpTargetHost := textOf py (setting warm toolConfig "rtp_target_host" (.str []))
    rtpTargetPort := setting warm toolConfig "rtp_target_port" .null
    sessionId := textOf py (firstTruthy py (Dict.get? runtime "session_id".toList)
      (Dict.get? warm "session_id".toList)
      ((Dict.get? toolConfig "session_id".toList).getD (.str []))) }

/-- The configuration a voice stream runs its tools with: `_runtime` names the call. -/
def withRuntime (personaToolConfig : ToolConfig) (callSid : Text) : ToolConfig :=
  Dict.set personaToolConfig "_runtime".toList (.dict (Dict.set
    (asDict (Dict.get? personaToolConfig "_runtime".toList)) "session_id".toList (.str callSid)))

/-- `^\+[1-9]\d{1,14}$`. -/
def isE164 : Text → Bool
  | '+' :: c :: digits =>
    ('1' ≤ c && c ≤ '9') && (1 ≤ digits.length && digits.length ≤ 14) && digits.all isDecimal
  | _ => false

inductive TransferStatus
  | started
  | failed
  deriving DecidableEq, Repr

structure WarmTransferCallOutput where
  status : TransferStatus
  sessionId : Option Text
  transferToPhoneNumber : Text
  message : Text
  deriving DecidableEq, Repr

def noSession (phone : Text) : WarmTransferCallOutput :=
  ⟨.failed, none, phone, ("Warm transfer is not available because no active call session id " ++
    "was found in runtime context.").toList⟩

def missingKeys (cfg : WarmTransferConfig) : List Text :=
  ([("gateway_base_url", cfg.gatewayBaseUrl), ("trunk_host", cfg.trunkHost),
    ("twilio_number", cfg.twilioNumber)].filter fun item => item.2 = []).map (·.1.toList)

def missingSettings (cfg : WarmTransferConfig) (phone : Text) : WarmTransferCallOutput :=
  ⟨.failed, some cfg.sessionId, phone,
    "Warm transfer tool is missing required configuration keys: ".toList ++
      join ", ".toList (missingKeys cfg)⟩

def requestFailed (cfg : WarmTransferConfig) (phone exc : Text) : WarmTransferCallOutput :=
  ⟨.failed, some cfg.sessionId, phone, "Warm transfer request failed: ".toList ++ exc⟩

def requestAccepted (cfg : WarmTransferConfig) (phone : Text) : WarmTransferCallOutput :=
  ⟨.started, some cfg.sessionId, phone,
    ("Warm transfer request accepted by SBC gateway; outbound dialing has " ++
      "started.").toList⟩

def payloadOf (cfg : WarmTransferConfig) (phone : Text) : Dict Text ConfigValue :=
  [("session_id".toList, .str cfg.sessionId), ("target_phone".toList, .str phone),
    ("twilio_number".toList, .str cfg.twilioNumber), ("trunk_host".toList, .str cfg.trunkHost),
    ("trunk_port".toList, .int cfg.trunkPort)] ++
  if cfg.rtpTargetHost ≠ [] ∧ truthy py cfg.rtpTargetPort then
    [("rtp_target_host".toList, .str cfg.rtpTargetHost),
      ("rtp_target_port".toList, cfg.rtpTargetPort)]
  else []

end Tool

section Wire

/-- A `String` member; `none` where the gateway's reader rejects the body. -/
def readText (body : Dict Text ConfigValue) (key : String) : Option Text :=
  match Dict.get? body key.toList with
  | some (.str s) => some s
  | _ => none

/-- An `Option<String>` member. -/
def readOptionalText (body : Dict Text ConfigValue) (key : String) : Option (Option Text) :=
  match Dict.get? body key.toList with
  | none | some .null => some none
  | some (.str s) => some (some s)
  | _ => none

/-- An `Option<u16>` member. -/
def readOptionalPort (body : Dict Text ConfigValue) (key : String) : Option (Option Nat) :=
  match Dict.get? body key.toList with
  | none | some .null => some none
  | some (.int i) => if 0 ≤ i ∧ i < 65536 then some (some i.toNat) else none
  | _ => none

/-- What `Json<StartTransferRequest>` makes of a body. -/
def readStartTransfer (body : Dict Text ConfigValue) : Option StartTransferRequest := do
  let sessionId ← readText body "session_id"
  let targetPhone ← readText body "target_phone"
  let twilioNumber ← readText body "twilio_number"
  let trunkHost ← readText body "trunk_host"
  let trunkPort ← readOptionalPort body "trunk_port"
  let rtpTargetHost ← readOptionalText body "rtp_target_host"
  let rtpTargetPort ← readOptionalPort body "rtp_target_port"
  pure ⟨sessionId, targetPhone, twilioNumber, trunkHost, trunkPort, rtpTargetHost, rtpTargetPort⟩

def statusOf : Response → Nat
  | .session _ _ => 200
  | .transferStarted _ _ _ => 200
  | .refused status _ => status

/-- `raise_for_status` does not raise. -/
def isSuccess (response : Response) : Bool := 200 ≤ statusOf response && statusOf response < 300

end Wire

section System

/-- An INVITE handed to the SIP engine: by which handler, and for which request. -/
structure Dial where
  handler : Nat
  payload : StartTransferRequest
  rtpPort : Nat
  deriving DecidableEq, Repr

/-- What the tool has done: a request that is with the gateway, a result with the handler its
request went to (if one) and whether that handler's answer is what the result is about, or an
exception. -/
inductive CallPhase
  | posted (handler : Nat)
  | returned (handler : Option Nat) (heard : Bool) (output : WarmTransferCallOutput)
  | raised
  deriving DecidableEq, Repr

def CallPhase.handler : CallPhase → Option Nat
  | .posted handler => some handler
  | .returned handler _ _ => handler
  | .raised => none

def CallPhase.output : CallPhase → Option WarmTransferCallOutput
  | .returned _ _ output => some output
  | _ => none

/-- The result is about the gateway's answer. -/
def CallPhase.heard : CallPhase → Bool
  | .returned _ heard _ => heard
  | _ => false

structure TransferCall where
  personaToolConfig : ToolConfig
  callSid : Text
  phone : Text
  phase : CallPhase

def TransferCall.toolConfig (call : TransferCall) : ToolConfig :=
  withRuntime call.personaToolConfig call.callSid

/-- The gateway and the tool calls. `dialed` is a history that nothing reads. -/
structure Transfers where
  gateway : ControlPlane.System
  calls : List TransferCall
  dialed : List Dial

def Transfers.start (app : AppState) : Transfers := ⟨.fresh app, [], []⟩

inductive TransferAction
  /-- Another request, or the next step of some handler. -/
  | gateway (event : Event)
  /-- A call of the tool; `exc` is what keeps its request from the gateway, if anything. -/
  | asks (personaToolConfig : ToolConfig) (callSid phone : Text) (exc : Option Text)
  /-- The handler's answer reaches the tool; `exc` is the text of `raise_for_status`. -/
  | hears (call : Nat) (exc : Text)
  /-- The exchange of a tool fails, wherever its handler is. -/
  | givesUp (call : Nat) (exc : Text)

def dialOf (gateway : ControlPlane.System) : Event → List Dial
  | .arrives _ => []
  | .proceeds handler engineUp =>
    match gateway.handlers[handler]? with
    | some (.sending payload rtpPort) => if engineUp then [⟨handler, payload, rtpPort⟩] else []
    | _ => []

variable (py : Conversions)

/-- `warm_transfer_call` up to the answer: what it returns at once, or the request it posts. -/
def beginCall (toolConfig : ToolConfig) (phone : Text) (exc : Option Text) :
    CallPhase ⊕ StartTransferRequest :=
  match loadWarmTransferConfig py toolConfig with
  | none => .inl .raised
  | some cfg =>
    if cfg.sessionId = [] then .inl (.returned none false (noSession phone))
    else if missingKeys cfg ≠ [] then .inl (.returned none false (missingSettings cfg phone))
    else
      match exc with
      | some exc => .inl (.returned none false (requestFailed cfg phone exc))
      | none =>
        match readStartTransfer (payloadOf py cfg phone) with
        | none => .inl (.returned none false (requestFailed cfg phone
            "Client error '422 Unprocessable Entity'".toList))
        | some request => .inr request

/-- The end of `warm_transfer_call`, once the request has been made. -/
def endCall (toolConfig : ToolConfig) (phone exc : Text) (accepted : Bool) :
    Option WarmTransferCallOutput :=
  (loadWarmTransferConfig py toolConfig).map fun cfg =>
    if accepted then requestAccepted cfg phone else requestFailed cfg phone exc

def transferStep (s : Transfers) : TransferAction → Option Transfers
  | .gateway event =>
    (step s.gateway event).map fun gateway =>
      { s with gateway := gateway, dialed := s.dialed ++ dialOf s.gateway event }
  | .asks personaToolConfig callSid phone exc =>
    if isE164 phone then
      match beginCall py (withRuntime personaToolConfig callSid) phone exc with
      | .inl phase =>
        some { s with calls := s.calls ++ [⟨personaToolConfig, callSid, phone, phase⟩] }
      | .inr request =>
        (step s.gateway (.arrives (.startTransfer request))).map fun gateway =>
          { s with
            gateway := gateway
            calls := s.calls ++
              [⟨personaToolConfig, callSid, phone, .posted s.gateway.handlers.length⟩] }
    else none
  | .hears call exc => do
    let waiting ← s.calls[call]?
    match waiting.phase with
    | .posted handler =>
      match s.gateway.handlers[handler]? with
      | some (.answered response) => do
        let output ← endCall py waiting.toolConfig waiting.phone exc (isSuccess response)
        pure { s with
          calls := s.calls.set call { waiting with phase := .returned (some handler) true output } }
      | _ => none
    | _ => none
  | .givesUp call exc => do
    let waiting ← s.calls[call]?
    match waiting.phase with
    | .posted handler => do
      let output ← endCall py waiting.toolConfig waiting.phone exc false
      pure { s with
        calls := s.calls.set call { waiting with phase := .returned (some handler) false output } }
    | _ => none

end System

section Requests

variable {py : Conversions}

/-- The member under a key that is the head's, or not. -/
theorem payload_members (cfg : WarmTransferConfig) (phone : Text) :
    Dict.get? (payloadOf py cfg phone) "session_id".toList = some (.str cfg.sessionId) ∧
    Dict.get? (payloadOf py cfg phone) "target_phone".toList = some (.str phone) ∧
    Dict.get? (payloadOf py cfg phone) "twilio_number".toList = some (.str cfg.twilioNumber) ∧
    Dict.get? (payloadOf py cfg phone) "trunk_host".toList = some (.str cfg.trunkHost) ∧
    Dict.get? (payloadOf py cfg phone) "trunk_port".toList = some (.int cfg.trunkPort) :=
  ⟨rfl, rfl, rfl, rfl, rfl⟩

/-- What the gateway reads is what the tool wrote. -/
structure Asks (cfg : WarmTransferConfig) (phone : Text) (request : StartTransferRequest) :
    Prop where
  session : request.sessionId = cfg.sessionId
  phone : request.targetPhone = phone
  number : request.twilioNumber = cfg.twilioNumber
  host : request.trunkHost = cfg.trunkHost
  port : ∃ trunkPort, request.trunkPort = some trunkPort ∧ (trunkPort : Int) = cfg.trunkPort

theorem asks_of_read {cfg : WarmTransferConfig} {phone : Text} {request : StartTransferRequest}
    (h : readStartTransfer (payloadOf py cfg phone) = some request) : Asks cfg phone request := by
  obtain ⟨hsession, hphone, hnumber, hhost, hport⟩ := @payload_members py cfg phone
  rw [readStartTransfer] at h
  simp only [readText, hsession, hphone, hnumber, hhost, readOptionalPort, hport,
    Option.bind_eq_bind, Option.bind_some] at h
  by_cases hrange : 0 ≤ cfg.trunkPort ∧ cfg.trunkPort < 65536
  · rw [if_pos hrange, Option.bind_some] at h
    obtain ⟨rtpHost, -, h⟩ := Option.bind_eq_some_iff.mp h
    obtain ⟨rtpPort, -, h⟩ := Option.bind_eq_some_iff.mp h
    obtain rfl := Option.some.inj h
    exact ⟨rfl, rfl, rfl, rfl, _, rfl, Int.toNat_of_nonneg hrange.1⟩
  · rw [if_neg hrange] at h
    cases h

/-- The session of a transfer is that of the call in which it is asked for. -/
theorem session_of_call {personaToolConfig : ToolConfig} {callSid : Text}
    {cfg : WarmTransferConfig} (hsid : callSid ≠ [])
    (h : loadWarmTransferConfig py (withRuntime personaToolConfig callSid) = some cfg) :
    cfg.sessionId = strip callSid := by
  rw [loadWarmTransferConfig, withRuntime] at h
  simp only [Dict.get?_set_self, asDict, Option.bind_eq_bind] at h
  obtain ⟨trunkPort, -, h⟩ := Option.bind_eq_some_iff.mp h
  obtain ⟨_, -, h⟩ := Option.bind_eq_some_iff.mp h
  obtain rfl := Option.some.inj h
  simp [firstTruthy, truthy, hsid, textOf]

theorem beginCall_posts {toolConfig : ToolConfig} {phone : Text} {exc : Option Text}
    {request : StartTransferRequest} (h : beginCall py toolConfig phone exc = .inr request) :
    ∃ cfg, loadWarmTransferConfig py toolConfig = some cfg ∧ Asks cfg phone request := by
  rw [beginCall] at h
  cases hload : loadWarmTransferConfig py toolConfig with
  | none =>
    rw [hload] at h
    cases h
  | some cfg =>
    rw [hload] at h
    refine ⟨cfg, rfl, ?_⟩
    by_cases hsession : cfg.sessionId = []
    · simp [hsession] at h
    · by_cases hmissing : missingKeys cfg = []
      · cases exc with
        | some exc => simp [hsession, hmissing] at h
        | none =>
          cases hread : readStartTransfer (payloadOf py cfg phone) with
          | none => simp [hsession, hmissing, hread] at h
          | some found =>
            simp only [hsession, hmissing, hread, ne_eq, not_true, if_false, Sum.inr.injEq] at h
            exact h ▸ asks_of_read hread
      · simp [hsession, hmissing] at h

/-- What a call returns without an answer of the gateway is a failure, of its own number. -/
theorem beginCall_returns {toolConfig : ToolConfig} {phone : Text} {exc : Option Text}
    {phase : CallPhase} (h : beginCall py toolConfig phone exc = .inl phase) :
    phase.handler = none ∧ phase.heard = false ∧ ∀ output, phase.output = some output →
      output.status = .failed ∧ output.transferToPhoneNumber = phone := by
  rw [beginCall] at h
  have hfailed : ∀ output : WarmTransferCallOutput, output.status = .failed →
      output.transferToPhoneNumber = phone → .returned none false output = phase →
      phase.handler = none ∧ phase.heard = false ∧ ∀ output, phase.output = some output →
        output.status = .failed ∧ output.transferToPhoneNumber = phone := by
    rintro output hstatus hphone rfl
    refine ⟨rfl, rfl, fun found hfound => ?_⟩
    obtain rfl := Option.some.inj hfound
    exact ⟨hstatus, hphone⟩
  split at h
  · obtain rfl := Sum.inl.inj h
    exact ⟨rfl, rfl, fun output houtput => nomatch houtput⟩
  · split at h
    · exact hfailed _ rfl rfl (Sum.inl.inj h)
    · split at h
      · exact hfailed _ rfl rfl (Sum.inl.inj h)
      · split at h
        · exact hfailed _ rfl rfl (Sum.inl.inj h)
        · split at h
          · exact hfailed _ rfl rfl (Sum.inl.inj h)
          · cases h

theorem endCall_output {toolConfig : ToolConfig} {phone exc : Text} {accepted : Bool}
    {output : WarmTransferCallOutput} (h : endCall py toolConfig phone exc accepted = some output) :
    (output.status = .started ↔ accepted = true) ∧ output.transferToPhoneNumber = phone := by
  obtain ⟨cfg, -, rfl⟩ := Option.map_eq_some_iff.mp h
  cases accepted <;> simp [requestAccepted, requestFailed]

end Requests

section Handlers

/-- The request that a handler of `start_transfer` still works on. -/
def requestOf : Task → Option StartTransferRequest
  | .allocating payload | .loading payload _ | .publishing payload _ _ | .sending payload _ =>
    some payload
  | _ => none

/-- The handler is about to hand its INVITE to an engine that takes it. -/
def Dialing (engineUp : Bool) (task : Task) : Prop :=
  engineUp = true ∧ ∃ payload rtpPort, task = .sending payload rtpPort

/-- Only a handler that dials sends an INVITE, and only then it answers a request with success. -/
theorem proceed_dials {engineUp : Bool} {app app' : AppState} {task task' : Task}
    (h : task.proceed engineUp app = some (app', task')) :
    (app'.localSipAdvertiseHost = app.localSipAdvertiseHost ∧
      app'.defaultTrunkPort = app.defaultTrunkPort) ∧
    (¬Dialing engineUp task → app'.sentInvites = app.sentInvites ∧
      ∀ request, requestOf task = some request → requestOf task' = some request ∨
        ∃ response, task' = .answered response ∧ isSuccess response = false) ∧
    ∀ payload rtpPort, task = .sending payload rtpPort → engineUp = true →
      app'.sentInvites = app.sentInvites ++ [inviteRequest app payload rtpPort] ∧
        ∃ response, task' = .answered response ∧ isSuccess response = true := by
  cases task with
  | creating sessionId | updating sessionId state | connecting sessionId | registering session =>
    obtain ⟨rfl, rfl⟩ := Prod.mk.inj (Option.some.inj h)
    exact ⟨⟨rfl, rfl⟩, fun _ => ⟨rfl, fun _ hrequest => (by cases hrequest)⟩,
      fun _ _ ht => (by cases ht)⟩
  | loading payload rtpPort =>
    obtain ⟨rfl, rfl⟩ := Prod.mk.inj (Option.some.inj h)
    exact ⟨⟨rfl, rfl⟩, fun _ => ⟨rfl, fun _ hrequest => .inl hrequest⟩, fun _ _ ht => (by cases ht)⟩
  | allocating payload =>
    rw [Task.proceed, Option.some.injEq, allocatePort] at h
    split at h
    · split at h
      · obtain ⟨rfl, rfl⟩ := Prod.mk.inj h
        exact ⟨⟨rfl, rfl⟩, fun _ => ⟨rfl, fun _ hrequest => .inl hrequest⟩,
          fun _ _ ht => (by cases ht)⟩
      · obtain ⟨rfl, rfl⟩ := Prod.mk.inj h
        exact ⟨⟨rfl, rfl⟩, fun _ => ⟨rfl, fun _ _ => .inr ⟨_, rfl, rfl⟩⟩,
          fun _ _ ht => (by cases ht)⟩
    · obtain ⟨rfl, rfl⟩ := Prod.mk.inj h
      exact ⟨⟨rfl, rfl⟩, fun _ => ⟨rfl, fun _ _ => .inr ⟨_, rfl, rfl⟩⟩, fun _ _ ht => (by cases ht)⟩
  | publishing payload rtpPort session =>
    rw [Task.proceed, Option.some.injEq, publishTransfer] at h
    split at h
    · obtain ⟨rfl, rfl⟩ := Prod.mk.inj h
      exact ⟨⟨rfl, rfl⟩, fun _ => ⟨rfl, fun _ _ => .inr ⟨_, rfl, rfl⟩⟩, fun _ _ ht => (by cases ht)⟩
    · obtain ⟨rfl, rfl⟩ := Prod.mk.inj h
      exact ⟨⟨rfl, rfl⟩, fun _ => ⟨rfl, fun _ hrequest => .inl hrequest⟩,
        fun _ _ ht => (by cases ht)⟩
    · obtain ⟨rfl, rfl⟩ := Prod.mk.inj h
      exact ⟨⟨rfl, rfl⟩, fun _ => ⟨rfl, fun _ hrequest => .inl hrequest⟩,
        fun _ _ ht => (by cases ht)⟩
  | sending payload rtpPort =>
    rw [Task.proceed, Option.some.injEq, sendInvite] at h
    cases engineUp with
    | true =>
      obtain ⟨rfl, rfl⟩ := Prod.mk.inj h
      refine ⟨⟨rfl, rfl⟩, fun hnot => absurd ⟨rfl, _, _, rfl⟩ hnot, fun _ _ ht _ => ?_⟩
      obtain ⟨rfl, rfl⟩ := Task.sending.inj ht
      exact ⟨rfl, _, rfl, rfl⟩
    | false =>
      obtain ⟨rfl, rfl⟩ := Prod.mk.inj h
      exact ⟨⟨rfl, rfl⟩, fun _ => ⟨rfl, fun _ _ => .inr ⟨_, rfl, rfl⟩⟩,
        fun _ _ _ hup => (by cases hup)⟩
  | streaming sessionId => cases h
  | answered response => cases h

end Handlers

section Truth

variable {py : Conversions} {app : AppState}

/-- How far a handler has come with the request of a tool: while it works on it, it has not
dialed; once it has answered, it has dialed exactly if it answered with success. -/
def Serves (dialed : List Dial) (handler : Nat) (request : StartTransferRequest) (task : Task) :
    Prop :=
  requestOf task = some request ∨ ∃ response, task = .answered response ∧
    (isSuccess response = true → ∃ dial ∈ dialed, dial.handler = handler ∧ dial.payload = request) ∧
    (isSuccess response = false → ∀ dial ∈ dialed, dial.handler ≠ handler)

/-- What the result of a call says of the answer of its handler. -/
def Reported (gateway : ControlPlane.System) (call : TransferCall) : Prop :=
  ∀ output, call.phase.output = some output → output.transferToPhoneNumber = call.phone ∧
    (call.phase.heard = false → output.status = .failed) ∧
    (call.phase.heard = true → ∃ handler response, call.phase.handler = some handler ∧
      gateway.handlers[handler]? = some (.answered response) ∧
      (output.status = .started ↔ isSuccess response = true))

variable (py app) in
structure Truthful (s : Transfers) : Prop where
  host : s.gateway.app.localSipAdvertiseHost = app.localSipAdvertiseHost
  trunkPort : s.gateway.app.defaultTrunkPort = app.defaultTrunkPort
  sent : s.gateway.app.sentInvites =
    app.sentInvites ++ s.dialed.map fun dial => inviteRequest app dial.payload dial.rtpPort
  once : (s.dialed.map Dial.handler).Nodup
  answered : ∀ dial ∈ s.dialed, ∃ response,
    s.gateway.handlers[dial.handler]? = some (.answered response)
  serving : ∀ call ∈ s.calls, ∀ handler, call.phase.handler = some handler →
    ∃ cfg request task, loadWarmTransferConfig py call.toolConfig = some cfg ∧
      Asks cfg call.phone request ∧ s.gateway.handlers[handler]? = some task ∧
      Serves s.dialed handler request task
  apart : ((s.calls.map fun call => call.phase.handler).reduceOption).Nodup
  reported : ∀ call ∈ s.calls, isE164 call.phone = true ∧ Reported s.gateway call

theorem start_truthful : Truthful py app (.start app) where
  host := rfl
  trunkPort := rfl
  sent := by simp [Transfers.start, ControlPlane.System.fresh]
  once := List.nodup_nil
  answered _ h := nomatch h
  serving _ h := nomatch h
  apart := List.nodup_nil
  reported _ h := nomatch h

theorem getElem?_append_old {handlers : List Task} {handler : Nat} {task new : Task}
    (h : handlers[handler]? = some task) : (handlers ++ [new])[handler]? = some task := by
  rw [List.getElem?_append_left (List.getElem?_eq_some_iff.mp h).1]
  exact h

theorem Reported.mono {gateway gateway' : ControlPlane.System} {call : TransferCall}
    (h : Reported gateway call)
    (hstay : ∀ (other : Nat) response, gateway.handlers[other]? = some (Task.answered response) →
      gateway'.handlers[other]? = some (Task.answered response)) : Reported gateway' call := by
  intro output houtput
  obtain ⟨hnumber, hunheard, hheard⟩ := h output houtput
  refine ⟨hnumber, hunheard, fun hearing => ?_⟩
  obtain ⟨handler, response, hhandler, hresponse, hstatus⟩ := hheard hearing
  exact ⟨handler, response, hhandler, hstay handler response hresponse, hstatus⟩

/-- An arrival changes no handler there is. -/
theorem Truthful.arrives {s : Transfers} (hs : Truthful py app s) (request : Request) :
    Truthful py app { s with
      gateway := { s.gateway with handlers := s.gateway.handlers ++ [Task.start request] } } where
  host := hs.host
  trunkPort := hs.trunkPort
  sent := hs.sent
  once := hs.once
  answered dial hdial := by
    obtain ⟨response, hresponse⟩ := hs.answered dial hdial
    exact ⟨response, getElem?_append_old hresponse⟩
  serving call hcall handler hhandler := by
    obtain ⟨cfg, asked, task, hload, hasks, htask, hserves⟩ :=
      hs.serving call hcall handler hhandler
    exact ⟨cfg, asked, task, hload, hasks, getElem?_append_old htask, hserves⟩
  apart := hs.apart
  reported call hcall :=
    ⟨(hs.reported call hcall).1, (hs.reported call hcall).2.mono fun _ _ => getElem?_append_old⟩

/-- A handler that proceeds is none that has answered. -/
theorem proceeding_ne {gateway : ControlPlane.System} {handler other : Nat} {engineUp : Bool}
    {app' : AppState} {task task' : Task} {response : Response}
    (htask : gateway.handlers[handler]? = some task)
    (hproceed : task.proceed engineUp gateway.app = some (app', task'))
    (hother : gateway.handlers[other]? = some (.answered response)) : handler ≠ other := by
  rintro rfl
  rw [htask] at hother
  obtain rfl := Option.some.inj hother
  cases hproceed

/-- A handler that has answered stays as it is. -/
theorem answered_stays {gateway : ControlPlane.System} {handler other : Nat} {engineUp : Bool}
    {app' : AppState} {task task' : Task} {response : Response}
    (htask : gateway.handlers[handler]? = some task)
    (hproceed : task.proceed engineUp gateway.app = some (app', task'))
    (hother : gateway.handlers[other]? = some (.answered response)) :
    (gateway.handlers.set handler task')[other]? = some (Task.answered response) := by
  rw [List.getElem?_set_ne (proceeding_ne htask hproceed hother)]
  exact hother

/-- A dial of another handler. -/
theorem Serves.append {dialed : List Dial} {handler : Nat} {request : StartTransferRequest}
    {task : Task} (h : Serves dialed handler request task) {dial : Dial}
    (hne : dial.handler ≠ handler) : Serves (dialed ++ [dial]) handler request task := by
  rcases h with h | ⟨response, rfl, hyes, hno⟩
  · exact .inl h
  · refine .inr ⟨response, rfl, fun hok => ?_, fun hfail other hmem => ?_⟩
    · obtain ⟨found, hmem, hfound⟩ := hyes hok
      exact ⟨found, List.mem_append_left _ hmem, hfound⟩
    · rcases List.mem_append.mp hmem with hmem | hmem
      · exact hno hfail other hmem
      · rw [List.mem_singleton.mp hmem]
        exact hne

section Proceed

variable {s : Transfers} {handler : Nat} {engineUp : Bool} {app' : AppState} {task task' : Task}
  {writes : List Write}

/-- A handler that has not answered has not dialed. -/
theorem Truthful.free (hs : Truthful py app s) (htask : s.gateway.handlers[handler]? = some task)
    (hproceed : task.proceed engineUp s.gateway.app = some (app', task')) :
    ∀ dial ∈ s.dialed, dial.handler ≠ handler := by
  intro dial hdial
  obtain ⟨response, hresponse⟩ := hs.answered dial hdial
  exact (proceeding_ne htask hproceed hresponse).symm

/-- The calls whose handler is another one, and that one's own, after it has proceeded. -/
theorem Truthful.serving_set {dialed : List Dial} (hs : Truthful py app s)
    (htask : s.gateway.handlers[handler]? = some task)
    (hothers : ∀ other request served, handler ≠ other → Serves s.dialed other request served →
      Serves dialed other request served)
    (hown : ∀ request, Serves s.dialed handler request task → Serves dialed handler request task') :
    ∀ call ∈ s.calls, ∀ other, call.phase.handler = some other →
      ∃ cfg request served, loadWarmTransferConfig py call.toolConfig = some cfg ∧
        Asks cfg call.phone request ∧
        (s.gateway.handlers.set handler task')[other]? = some served ∧
        Serves dialed other request served := by
  intro call hcall other hother
  have hlt : handler < s.gateway.handlers.length := (List.getElem?_eq_some_iff.mp htask).1
  obtain ⟨cfg, request, served, hload, hasks, hserved, hserves⟩ :=
    hs.serving call hcall other hother
  by_cases hsame : handler = other
  · subst hsame
    rw [htask] at hserved
    obtain rfl := Option.some.inj hserved
    exact ⟨cfg, request, task', hload, hasks, List.getElem?_set_self hlt, hown request hserves⟩
  · refine ⟨cfg, request, served, hload, hasks, ?_, hothers other request served hsame hserves⟩
    rw [List.getElem?_set_ne hsame]
    exact hserved

/-- The step of a handler that dials. -/
theorem Truthful.dials (hs : Truthful py app s) {payload : StartTransferRequest} {rtpPort : Nat}
    (htask : s.gateway.handlers[handler]? = some (.sending payload rtpPort))
    (hproceed : (Task.sending payload rtpPort).proceed true s.gateway.app = some (app', task')) :
    Truthful py app { s with
      gateway := ⟨app', s.gateway.handlers.set handler task', writes⟩
      dialed := s.dialed ++ [⟨handler, payload, rtpPort⟩] } := by
  obtain ⟨⟨hhost, htrunk⟩, -, hdials⟩ := proceed_dials hproceed
  obtain ⟨hsent, response, rfl, hsuccess⟩ := hdials payload rtpPort rfl rfl
  have hlt : handler < s.gateway.handlers.length := (List.getElem?_eq_some_iff.mp htask).1
  have hinvite : inviteRequest s.gateway.app payload rtpPort =
      inviteRequest app payload rtpPort := by
    simp only [inviteRequest, hs.host, hs.trunkPort]
  refine ⟨hhost.trans hs.host, htrunk.trans hs.trunkPort, ?_, ?_, ?_, ?_, hs.apart,
    fun call hcall => ⟨(hs.reported call hcall).1, (hs.reported call hcall).2.mono
      fun _ _ => answered_stays htask hproceed⟩⟩
  · rw [hsent, hs.sent, hinvite, List.map_append, List.append_assoc]
    rfl
  · rw [List.map_append, List.map_singleton, List.nodup_append]
    refine ⟨hs.once, List.nodup_singleton _, fun other hother found hfound => ?_⟩
    obtain ⟨dial, hmem, rfl⟩ := List.mem_map.mp hother
    rw [List.mem_singleton.mp hfound]
    exact hs.free htask hproceed dial hmem
  · intro dial hmem
    rcases List.mem_append.mp hmem with hmem | hmem
    · obtain ⟨found, hfound⟩ := hs.answered dial hmem
      exact ⟨found, answered_stays htask hproceed hfound⟩
    · rw [List.mem_singleton.mp hmem]
      exact ⟨response, List.getElem?_set_self hlt⟩
  · refine hs.serving_set htask (fun other request served hne h => h.append hne) ?_
    intro request hserves
    have hrequest : payload = request := by
      rcases hserves with hserves | ⟨answer, hanswer, -⟩
      · exact Option.some.inj hserves
      · cases hanswer
    refine .inr ⟨response, rfl, fun _ => ?_, fun hno => ?_⟩
    · exact ⟨_, List.mem_append_right _ List.mem_cons_self, rfl, hrequest⟩
    · rw [hsuccess] at hno
      cases hno

/-- The step of a handler that does not. -/
theorem Truthful.quiet (hs : Truthful py app s)
    (htask : s.gateway.handlers[handler]? = some task)
    (hproceed : task.proceed engineUp s.gateway.app = some (app', task'))
    (hquiet : ¬Dialing engineUp task) :
    Truthful py app { s with
      gateway := ⟨app', s.gateway.handlers.set handler task', writes⟩ } := by
  obtain ⟨⟨hhost, htrunk⟩, hkeeps, -⟩ := proceed_dials hproceed
  obtain ⟨hsent, hrequests⟩ := hkeeps hquiet
  refine ⟨hhost.trans hs.host, htrunk.trans hs.trunkPort, hsent.trans hs.sent, hs.once, ?_, ?_,
    hs.apart, fun call hcall => ⟨(hs.reported call hcall).1, (hs.reported call hcall).2.mono
      fun _ _ => answered_stays htask hproceed⟩⟩
  · intro dial hmem
    obtain ⟨found, hfound⟩ := hs.answered dial hmem
    exact ⟨found, answered_stays htask hproceed hfound⟩
  · refine hs.serving_set htask (fun other request served _ h => h) ?_
    intro request hserves
    rcases hserves with hserves | ⟨answer, rfl, -⟩
    · rcases hrequests request hserves with hrequest | ⟨response, rfl, hrefused⟩
      · exact .inl hrequest
      · refine .inr ⟨response, rfl, fun hok => ?_, fun _ => hs.free htask hproceed⟩
        rw [hrefused] at hok
        cases hok
    · cases hproceed

theorem Truthful.proceeds (hs : Truthful py app s) {gateway : ControlPlane.System}
    (h : ControlPlane.step s.gateway (.proceeds handler engineUp) = some gateway) :
    Truthful py app { s with
      gateway := gateway
      dialed := s.dialed ++ dialOf s.gateway (.proceeds handler engineUp) } := by
  obtain ⟨task, htask, h⟩ := Option.bind_eq_some_iff.mp h
  obtain ⟨⟨app', task'⟩, hproceed, h⟩ := Option.bind_eq_some_iff.mp h
  obtain rfl := Option.some.inj h
  by_cases hdialing : Dialing engineUp task
  · obtain ⟨rfl, payload, rtpPort, rfl⟩ := hdialing
    have hdial : dialOf s.gateway (.proceeds handler true) = [⟨handler, payload, rtpPort⟩] := by
      simp only [dialOf, htask, if_true]
    rw [hdial]
    exact hs.dials htask hproceed
  · have hdial : dialOf s.gateway (.proceeds handler engineUp) = [] := by
      simp only [dialOf, htask]
      split
      · rename_i payload rtpPort hsending
        obtain rfl := Option.some.inj hsending
        rw [if_neg fun hup => hdialing ⟨hup, payload, rtpPort, rfl⟩]
      · rfl
    rw [hdial, List.append_nil]
    exact hs.quiet htask hproceed hdialing

end Proceed

section Calls

variable {s : Transfers}

theorem Truthful.handler_lt (hs : Truthful py app s) {handler : Nat}
    (h : handler ∈ (s.calls.map fun call => call.phase.handler).reduceOption) :
    handler < s.gateway.handlers.length := by
  obtain ⟨call, hcall, hhandler⟩ := List.mem_map.mp (List.reduceOption_mem_iff.mp h)
  obtain ⟨-, -, task, -, -, htask, -⟩ := hs.serving call hcall handler hhandler
  exact (List.getElem?_eq_some_iff.mp htask).1

/-- A call that never reaches the gateway. -/
theorem Truthful.returns (hs : Truthful py app s) {call : TransferCall}
    (hphone : isE164 call.phone = true) {exc : Option Text}
    (h : beginCall py call.toolConfig call.phone exc = .inl call.phase) :
    Truthful py app { s with calls := s.calls ++ [call] } := by
  obtain ⟨hhandler, hheard, houtput⟩ := beginCall_returns h
  refine { hs with serving := ?_, apart := ?_, reported := ?_ }
  · intro other hother handler hfound
    rcases List.mem_append.mp hother with hother | hother
    · exact hs.serving other hother handler hfound
    · rw [List.mem_singleton.mp hother, hhandler] at hfound
      cases hfound
  · have hnone : [call.phase.handler].reduceOption = [] := by
      rw [hhandler]
      rfl
    rw [List.map_append, List.map_singleton, List.reduceOption_append, hnone, List.append_nil]
    exact hs.apart
  · intro other hother
    rcases List.mem_append.mp hother with hother | hother
    · exact hs.reported other hother
    · rw [List.mem_singleton.mp hother]
      refine ⟨hphone, fun output hout => ?_⟩
      obtain ⟨hstatus, hnumber⟩ := houtput output hout
      refine ⟨hnumber, fun _ => hstatus, fun hyes => ?_⟩
      rw [hheard] at hyes
      cases hyes

/-- A call whose request has just arrived. -/
theorem Truthful.posts (hs : Truthful py app s) {personaToolConfig : ToolConfig}
    {callSid phone : Text} (hphone : isE164 phone = true) {exc : Option Text}
    {request : StartTransferRequest}
    (h : beginCall py (withRuntime personaToolConfig callSid) phone exc = .inr request) :
    Truthful py app { s with
      gateway := { s.gateway with
        handlers := s.gateway.handlers ++ [Task.start (.startTransfer request)] }
      calls := s.calls ++
        [⟨personaToolConfig, callSid, phone, .posted s.gateway.handlers.length⟩] } := by
  obtain ⟨cfg, hload, hasks⟩ := beginCall_posts h
  have harrived := hs.arrives (.startTransfer request)
  refine { harrived with serving := ?_, apart := ?_, reported := ?_ }
  · intro other hother handler hfound
    rcases List.mem_append.mp hother with hother | hother
    · exact harrived.serving other hother handler hfound
    · obtain rfl := List.mem_singleton.mp hother
      obtain rfl := Option.some.inj hfound
      exact ⟨cfg, request, _, hload, hasks, List.getElem?_concat_length, .inl rfl⟩
  · rw [List.map_append, List.map_singleton, List.reduceOption_append]
    change (_ ++ [s.gateway.handlers.length]).Nodup
    refine List.nodup_append.mpr ⟨hs.apart, List.nodup_singleton _, fun old hold new hnew => ?_⟩
    rw [List.mem_singleton.mp hnew]
    exact (hs.handler_lt hold).ne
  · intro other hother
    rcases List.mem_append.mp hother with hother | hother
    · exact harrived.reported other hother
    · rw [List.mem_singleton.mp hother]
      exact ⟨hphone, fun output houtput => nomatch houtput⟩

/-- A call that has waited for its handler, and ends. -/
theorem Truthful.ends (hs : Truthful py app s) {i : Nat} {waiting : TransferCall}
    (hwaiting : s.calls[i]? = some waiting) {phase : CallPhase}
    (hhandler : phase.handler = waiting.phase.handler)
    (hreported : Reported s.gateway { waiting with phase := phase }) :
    Truthful py app { s with calls := s.calls.set i { waiting with phase := phase } } := by
  have hmem : waiting ∈ s.calls := List.mem_of_getElem? hwaiting
  refine { hs with serving := ?_, apart := ?_, reported := ?_ }
  · intro other hother handler hfound
    rcases List.mem_or_eq_of_mem_set hother with hother | rfl
    · exact hs.serving other hother handler hfound
    · exact hs.serving waiting hmem handler (hhandler ▸ hfound)
  · obtain ⟨hlt, hget⟩ := List.getElem?_eq_some_iff.mp hwaiting
    have hmap : (s.calls.map fun call => call.phase.handler).set i phase.handler =
        s.calls.map fun call => call.phase.handler := by
      rw [hhandler, ← hget, ← List.map_set, List.set_getElem_self]
    rw [List.map_set, hmap]
    exact hs.apart
  · intro other hother
    rcases List.mem_or_eq_of_mem_set hother with hother | rfl
    · exact hs.reported other hother
    · exact ⟨(hs.reported waiting hmem).1, hreported⟩

end Calls

theorem transferStep_truthful {s t : Transfers} {a : TransferAction} (hs : Truthful py app s)
    (h : transferStep py s a = some t) : Truthful py app t := by
  cases a with
  | gateway event =>
    obtain ⟨gateway, hstep, rfl⟩ := Option.map_eq_some_iff.mp h
    cases event with
    | arrives request =>
      obtain rfl := Option.some.inj hstep
      have hnone : s.dialed ++ dialOf s.gateway (.arrives request) = s.dialed := List.append_nil _
      rw [hnone]
      exact hs.arrives request
    | proceeds handler engineUp => exact hs.proceeds hstep
  | asks personaToolConfig callSid phone exc =>
    by_cases hphone : isE164 phone = true
    · rw [transferStep, if_pos hphone] at h
      cases hbegin : beginCall py (withRuntime personaToolConfig callSid) phone exc with
      | inl phase =>
        rw [hbegin] at h
        obtain rfl := Option.some.inj h
        exact @Truthful.returns py app s hs ⟨personaToolConfig, callSid, phone, phase⟩ hphone exc
          hbegin
      | inr request =>
        rw [hbegin] at h
        obtain ⟨gateway, hstep, rfl⟩ := Option.map_eq_some_iff.mp h
        obtain rfl := Option.some.inj hstep
        exact hs.posts hphone hbegin
    · rw [transferStep, if_neg hphone] at h
      cases h
  | hears i exc =>
    obtain ⟨waiting, hwaiting, h⟩ := Option.bind_eq_some_iff.mp h
    split at h
    · rename_i handler hphase
      split at h
      · rename_i response hresponse
        obtain ⟨output, houtput, h⟩ := Option.bind_eq_some_iff.mp h
        obtain rfl := Option.some.inj h
        obtain ⟨hstatus, hnumber⟩ := endCall_output houtput
        refine hs.ends hwaiting (by rw [hphase]; rfl) fun found hfound => ?_
        obtain rfl := Option.some.inj hfound
        refine ⟨hnumber, fun hno => ?_, fun _ => ⟨handler, response, rfl, hresponse, hstatus⟩⟩
        cases hno
      · cases h
    · cases h
  | givesUp i exc =>
    obtain ⟨waiting, hwaiting, h⟩ := Option.bind_eq_some_iff.mp h
    split at h
    · rename_i handler hphase
      obtain ⟨output, houtput, h⟩ := Option.bind_eq_some_iff.mp h
      obtain rfl := Option.some.inj h
      obtain ⟨hstatus, hnumber⟩ := endCall_output houtput
      refine hs.ends hwaiting (by rw [hphase]; rfl) fun found hfound => ?_
      obtain rfl := Option.some.inj hfound
      refine ⟨hnumber, fun _ => ?_, fun hyes => ?_⟩
      · cases hfound : output.status with
        | started => exact absurd (hstatus.mp hfound) (by simp)
        | failed => rfl
      · cases hyes
    · cases h

end Truth

/-- The INVITE is what the tool's configuration asks for, in the call's own session. -/
structure Rings (cfg : WarmTransferConfig) (call : TransferCall) (invite : SipInviteRequest) :
    Prop where
  session : invite.sessionId = cfg.sessionId
  ownSession : call.callSid ≠ [] → invite.sessionId = strip call.callSid
  phone : invite.targetPhone = call.phone
  number : invite.twilioNumber = cfg.twilioNumber
  trunkHost : invite.trunkHost = cfg.trunkHost
  trunkPort : (invite.trunkPort : Int) = cfg.trunkPort

theorem rings_of_asks {py : Conversions} {app : AppState} {cfg : WarmTransferConfig}
    {call : TransferCall} {request : StartTransferRequest} {rtpPort : Nat}
    (hload : loadWarmTransferConfig py call.toolConfig = some cfg)
    (hasks : Asks cfg call.phone request) :
    Rings cfg call (inviteRequest app request rtpPort) := by
  obtain ⟨trunkPort, hport, htrunk⟩ := hasks.port
  refine ⟨hasks.session, fun hsid => ?_, hasks.phone, hasks.number, hasks.host, ?_⟩
  · exact hasks.session.trans (session_of_call hsid hload)
  · rw [inviteRequest, hport]
    exact htrunk

/-- However the gateway's other requests and the tool calls of any number of voice calls run into
each other: every INVITE is dialed for one request; a tool that reports a started transfer has
had its own dialed, once, to its number and from the session of its call; and one that reports a
failure the gateway has answered, or that the gateway has never heard of, has had none. -/
theorem transfers_reported_truthfully (py : Conversions) (app : AppState) {s : Transfers}
    (hrun : GuardedRuns.Run (transferStep py) (.start app) s) :
    s.gateway.app.sentInvites =
      app.sentInvites ++ s.dialed.map (fun dial => inviteRequest app dial.payload dial.rtpPort) ∧
    (s.dialed.map Dial.handler).Nodup ∧
    ((s.calls.map fun call => call.phase.handler).reduceOption).Nodup ∧
    ∀ call ∈ s.calls, ∀ output, call.phase.output = some output →
      output.transferToPhoneNumber = call.phone ∧ isE164 call.phone = true ∧
      (output.status = .started → ∃ cfg, loadWarmTransferConfig py call.toolConfig = some cfg ∧
        ∃ dial ∈ s.dialed, call.phase.handler = some dial.handler ∧
          Rings cfg call (inviteRequest app dial.payload dial.rtpPort)) ∧
      (output.status = .failed → call.phase.heard = true ∨ call.phase.handler = none →
        ∀ dial ∈ s.dialed, call.phase.handler ≠ some dial.handler) := by
  have hs : Truthful py app s := GuardedRun.invariant hrun start_truthful
    fun _ _ _ hs _ hstep => transferStep_truthful hs hstep
  refine ⟨hs.sent, hs.once, hs.apart, fun call hcall output houtput => ?_⟩
  obtain ⟨hphone, hreported⟩ := hs.reported call hcall
  obtain ⟨hnumber, hunheard, hheard⟩ := hreported output houtput
  refine ⟨hnumber, hphone, fun hstarted => ?_, fun hfailed hknown dial hdial hsame => ?_⟩
  · cases hhearing : call.phase.heard with
    | false =>
      rw [hunheard hhearing] at hstarted
      cases hstarted
    | true =>
      obtain ⟨handler, response, hhandler, hresponse, hstatus⟩ := hheard hhearing
      obtain ⟨cfg, request, task, hload, hasks, htask, hserves⟩ :=
        hs.serving call hcall handler hhandler
      rw [hresponse] at htask
      obtain rfl := Option.some.inj htask
      rcases hserves with hserves | ⟨answer, hanswer, hyes, -⟩
      · cases hserves
      · obtain rfl := Task.answered.inj hanswer
        obtain ⟨dial, hdial, rfl, rfl⟩ := hyes (hstatus.mp hstarted)
        exact ⟨cfg, hload, dial, hdial, hhandler, rings_of_asks hload hasks⟩
  · rcases hknown with hhearing | hnone
    · obtain ⟨handler, response, hhandler, hresponse, hstatus⟩ := hheard hhearing
      obtain ⟨cfg, request, task, -, -, htask, hserves⟩ := hs.serving call hcall handler hhandler
      rw [hresponse] at htask
      obtain rfl := Option.some.inj htask
      have hrefused : isSuccess response = false := by
        rw [Bool.eq_false_iff]
        intro hok
        rw [hstatus.mpr hok] at hfailed
        cases hfailed
      rcases hserves with hserves | ⟨answer, hanswer, -, hno⟩
      · cases hserves
      · obtain rfl := Task.answered.inj hanswer
        exact hno hrefused dial hdial (Option.some.inj (hsame.symm.trans hhandler))
    · rw [hnone] at hsame
      cases hsame

section Examples

def plainConversions : Conversions where
  str _ := []
  int
    | .int i => .value i
    | _ => .refused
  float _ := .value ()
  isZero _ := false

def salesConfig : ToolConfig :=
  [("gateway_base_url".toList, .str "http://sbc:8080/".toList),
    ("warm_transfer".toList, .dict [("trunk_host".toList, .str "198.51.100.7".toList),
      ("twilio_number".toList, .str "+16175550100".toList)])]

/-- Two callers ask at once; the tool of the first gives up on a request that the gateway goes on to
serve, the tool of the second waits for its answer. -/
def twoTransfers : List TransferAction :=
  [.asks salesConfig "CA1".toList "+16177100171".toList none,
    .asks salesConfig "CA2".toList "+16177100172".toList none,
    .gateway (.proceeds 0 true), .gateway (.proceeds 1 true), .givesUp 0 "timed out".toList,
    .gateway (.proceeds 1 true), .gateway (.proceeds 1 true), .gateway (.proceeds 0 true),
    .gateway (.proceeds 1 true), .gateway (.proceeds 0 true), .gateway (.proceeds 0 true),
    .hears 1 []]

/-- The second tool's report is true; the first has reported a failure, and its INVITE is out. -/
theorem two_transfers_reported : ∃ s, exec (transferStep plainConversions) (.start quietApp)
      twoTransfers = some s ∧
    s.calls.map (fun call => call.phase.output.map WarmTransferCallOutput.status) =
      [some .failed, some .started] ∧
    s.dialed.map Dial.handler = [1, 0] ∧
    ∀ call ∈ s.calls, ∀ output, call.phase.output = some output → output.status = .started →
      ∃ cfg, loadWarmTransferConfig plainConversions call.toolConfig = some cfg ∧
        ∃ dial ∈ s.dialed, call.phase.handler = some dial.handler ∧
          Rings cfg call (inviteRequest quietApp dial.payload dial.rtpPort) := by
  have hsome : (exec (transferStep plainConversions) (.start quietApp) twoTransfers).any (fun s =>
      decide (s.calls.map (fun call => call.phase.output.map WarmTransferCallOutput.status) =
        [some .failed, some .started]) &&
      decide (s.dialed.map Dial.handler = [1, 0])) = true := by
    decide +kernel
  obtain ⟨s, hs, hfound⟩ := (Option.any_eq_true _ _).mp hsome
  simp only [Bool.and_eq_true, decide_eq_true_eq] at hfound
  have htruth := (transfers_reported_truthfully plainConversions quietApp (run_of_exec hs)).2.2.2
  exact ⟨s, hs, hfound.1, hfound.2, fun call hcall output houtput =>
    (htruth call hcall output houtput).2.2.1⟩

end Examples

end DemoService.WarmTransfer
