import DemoService.NetAddr

/-! SIP messages: parsing, the responses and requests the gateway builds, SDP
and Contact values. -/

namespace DemoService.Sip

open RustText NetAddr

structure SipInviteRequest where
  sessionId : Str
  targetPhone : Str
  twilioNumber : Str
  trunkHost : Str
  trunkPort : Nat
  localHost : Str
  localRtpPort : Nat
  deriving DecidableEq, Repr

structure SipInvite where
  callId : Str
  payload : Str
  targetAddr : Str
  requestUri : Str
  fromValue : Str
  cseq : Nat
  deriving DecidableEq, Repr

/-- Header lines in order, and the first value of every name. -/
structure SipHeaders where
  entries : List (Str × Str)
  firstValues : List (Str × Str)
  coherent : ∀ name, firstValues.lookup name = entries.lookup name
  deriving DecidableEq

namespace SipHeaders

def empty : SipHeaders := ⟨[], [], fun _ => rfl⟩

def normalize (name : Str) : Str := toAsciiLowercase (trim name)

def get (h : SipHeaders) (name : Str) : Option Str := h.firstValues.lookup (normalize name)

def values (h : SipHeaders) (name : Str) : List Str :=
  (h.entries.filter (·.1 = normalize name)).map (·.2)

def insert (h : SipHeaders) (name value : Str) : SipHeaders where
  entries := h.entries ++ [(name, value)]
  firstValues :=
    if (h.firstValues.lookup name).isSome then h.firstValues else h.firstValues ++ [(name, value)]
  coherent := by
    intro n
    split
    · rename_i hsome
      rw [List.lookup_append, h.coherent n]
      by_cases hn : n = name
      · subst hn
        rw [h.coherent n] at hsome
        obtain ⟨v, hv⟩ := Option.isSome_iff_exists.mp hsome
        simp [hv]
      · have hb : (n == name) = false := by simpa using hn
        simp [List.lookup_cons, hb]
    · rw [List.lookup_append, List.lookup_append, h.coherent n]

theorem get_eq (h : SipHeaders) (name : Str) : h.get name = h.entries.lookup (normalize name) :=
  h.coherent _

end SipHeaders

structure SipParsedRequest where
  method : Str
  requestUri : Str
  version : Str
  headers : SipHeaders
  body : Str
  deriving DecidableEq

structure SipParsedResponse where
  version : Str
  statusCode : Nat
  reasonPhrase : Str
  headers : SipHeaders
  body : Str
  deriving DecidableEq

structure InboundDialogSignaling where
  callId : Str
  localFrom : Str
  remoteTo : Str
  remoteRequestUri : Str
  localHost : Str
  localCseq : Nat
  deriving DecidableEq

structure SipDatagram where
  payload : Str
  targetAddr : SocketAddr
  deriving DecidableEq

def crlf : Str := ['\r', '\n']

def parseHeaders (headers : SipHeaders) : List Str → SipHeaders
  | [] => headers
  | line :: rest =>
    let trimmed := trim line
    if trimmed = [] then headers
    else
      match splitOnce [':'] trimmed with
      | none => parseHeaders headers rest
      | some (name, value) =>
        parseHeaders (headers.insert (toAsciiLowercase (trim name)) (trim value)) rest

def splitSipMessage (message : Str) : Str × Str :=
  match splitOnce (crlf ++ crlf) message with
  | some parts => parts
  | none =>
    match splitOnce ['\n', '\n'] message with
    | some parts => parts
    | none => (message, [])

def parseSipRequest (message : Str) : Option SipParsedRequest :=
  let (head, body) := splitSipMessage message
  match lines head with
  | [] => none
  | first :: rest =>
    match splitWhitespace (trim first) with
    | method :: requestUri :: version :: _ =>
      if eqIgnoreAsciiCase version "SIP/2.0".toList then
        some { method := toAsciiUppercase method, requestUri, version,
               headers := parseHeaders .empty rest, body }
      else none
    | _ => none

def parseSipResponse (message : Str) : Option SipParsedResponse :=
  let (head, body) := splitSipMessage message
  match lines head with
  | [] => none
  | first :: rest =>
    match splitWhitespace (trim first) with
    | version :: code :: reason =>
      if eqIgnoreAsciiCase version "SIP/2.0".toList then
        (parseU16 code).map (fun statusCode =>
          { version, statusCode, reasonPhrase := join [' '] reason,
            headers := parseHeaders .empty rest, body })
      else none
    | _ => none

def parseSipStatusCode (message : Str) : Option Nat :=
  (parseSipResponse message).map (·.statusCode)

def sipHeaderValue (message headerName : Str) : Option Str :=
  match parseSipRequest message with
  | some request => request.headers.get headerName
  | none => (parseSipResponse message).bind (·.headers.get headerName)

/-- The body both SDP readers look at. -/
def sdpBody (message : Str) : Option Str :=
  match parseSipRequest message with
  | some request => some request.body
  | none => (parseSipResponse message).map (·.body)

def audioPort : List Str → Option Nat
  | [] => none
  | line :: rest =>
    let trimmed := trim line
    if startsWith "m=audio".toList trimmed then
      (splitWhitespace trimmed)[1]?.bind parseU16
    else audioPort rest

def extractAudioPortFromSdp (message : Str) : Option Nat :=
  (sdpBody message).bind (fun body => audioPort (lines body))

/-- The scan of `extract_media_addr_from_sdp`; `none` is its early return. -/
def scanMedia (host : IpAddr) (port : Option Nat) : List Str → Option (IpAddr × Option Nat)
  | [] => some (host, port)
  | line :: rest =>
    let trimmed := trim line
    if startsWith "c=IN".toList trimmed then
      match (splitWhitespace trimmed)[2]? with
      | none => scanMedia host port rest
      | some value =>
        match parseIpAddr value with
        | none => none
        | some ip => scanMedia ip port rest
    else if startsWith "m=audio".toList trimmed then
      scanMedia host ((splitWhitespace trimmed)[1]?.bind parseU16) rest
    else scanMedia host port rest

def extractMediaAddrFromSdp (message : Str) (fallbackHost : IpAddr) : Option SocketAddr := do
  let body ← sdpBody message
  let (host, port) ← scanMedia fallbackHost none (lines body)
  let port ← port
  pure (.new host port)

def buildSdpOffer (localHost : Str) (localRtpPort : Nat) : Str :=
  let addrType := if contains [':'] localHost then "IP6".toList else "IP4".toList
  join crlf
    ["v=0".toList,
      "o=RustSBC 2890844526 2890844526 IN ".toList ++ addrType ++ [' '] ++ localHost,
      "s=-".toList,
      "c=IN ".toList ++ addrType ++ [' '] ++ localHost,
      "t=0 0".toList,
      "m=audio ".toList ++ ofNat localRtpPort ++ " RTP/AVP 0 8 101".toList,
      "a=rtpmap:0 PCMU/8000".toList,
      "a=rtpmap:8 PCMA/8000".toList,
      "a=rtpmap:101 telephone-event/8000".toList,
      "a=fmtp:101 0-16".toList,
      "a=ptime:20".toList,
      "a=sendrecv".toList] ++ crlf

def buildSipMessage (lines : List Str) (body : Option Str) : Str :=
  (lines.map (· ++ crlf)).flatten ++ crlf ++ body.getD []

/-- Puts the Via and Record-Route lines after the start line; `none` without a Via. -/
def prependResponseRouteHeaders (request : SipParsedRequest) : List Str → Option (List Str)
  | [] => none
  | start :: rest =>
    match request.headers.values "via".toList with
    | [] => none
    | vias =>
      some (start :: (vias.map ("Via: ".toList ++ ·) ++
        (request.headers.values "record-route".toList).map ("Record-Route: ".toList ++ ·)) ++ rest)

def hasTag (value : Str) : Bool := contains ";tag=".toList (toAsciiLowercase value)

def withTag (value : Str) (localTag : Option Str) : Str :=
  if hasTag value then value
  else
    match localTag with
    | some tag => value ++ ";tag=".toList ++ tag
    | none => value

def buildResponseForRequest (request : SipParsedRequest) (statusCode : Nat) (reasonPhrase : Str)
    (localTag body : Option Str) : Option Str := do
  let fromValue ← request.headers.get "from".toList
  let toValue ← request.headers.get "to".toList
  let callId ← request.headers.get "call-id".toList
  let cseq ← request.headers.get "cseq".toList
  let lines ← prependResponseRouteHeaders request
    ["SIP/2.0 ".toList ++ ofNat statusCode ++ [' '] ++ reasonPhrase,
      "From: ".toList ++ fromValue,
      "To: ".toList ++ withTag toValue localTag,
      "Call-ID: ".toList ++ callId,
      "CSeq: ".toList ++ cseq]
  match body with
  | some bodyValue =>
    pure (buildSipMessage (lines ++ ["Content-Type: application/sdp".toList,
      "Content-Length: ".toList ++ ofNat (utf8Len bodyValue)]) (some bodyValue))
  | none => pure (buildSipMessage (lines ++ ["Content-Length: 0".toList]) none)

def buildSipTryingForInvite (request : SipParsedRequest) : Option Str :=
  buildResponseForRequest request 100 "Trying".toList none none

def buildSipRingingForInvite (request : SipParsedRequest) (localTag : Str) : Option Str :=
  buildResponseForRequest request 180 "Ringing".toList (some localTag) none

def buildSip200OkForInvite (request : SipParsedRequest) (localTag localHost : Str)
    (localRtpPort : Nat) : Option Str := do
  let sdp := buildSdpOffer localHost localRtpPort
  let fromValue ← request.headers.get "from".toList
  let toValue ← request.headers.get "to".toList
  let callId ← request.headers.get "call-id".toList
  let cseq ← request.headers.get "cseq".toList
  let lines ← prependResponseRouteHeaders request
    ["SIP/2.0 200 OK".toList,
      "From: ".toList ++ fromValue,
      "To: ".toList ++ withTag toValue (some localTag),
      "Call-ID: ".toList ++ callId,
      "CSeq: ".toList ++ cseq,
      "Contact: <sip:sbc@".toList ++ localHost ++ ":5060>".toList,
      "Content-Type: application/sdp".toList,
      "Content-Length: ".toList ++ ofNat (utf8Len sdp)]
  pure (buildSipMessage lines (some sdp))

def buildSipFinalResponseForInvite (request : SipParsedRequest) (statusCode : Nat)
    (reasonPhrase localTag : Str) : Option Str :=
  buildResponseForRequest request statusCode reasonPhrase (some localTag) none

def buildResponseForInDialogRequest (request : Str) (statusCode : Nat) (reasonPhrase : Str) :
    Option Str := do
  let parsed ← parseSipRequest request
  buildResponseForRequest parsed statusCode reasonPhrase none none

def extractUriFromNameAddr (value : Str) : Except Panic (Option Str) :=
  match find '<' value, find '>' value with
  | some start, some stop => do
    let uri ← slice value (start + 1) stop
    pure (some (trim uri))
  | _, _ => pure (some (trim value))

def parseHostPort (resolve : Resolver) (hostPort : Str) (defaultPort : Nat) : Option SocketAddr :=
  match parseSocketAddr hostPort with
  | some addr => some addr
  | none =>
    match parseIpAddr hostPort with
    | some ip => some (.new ip defaultPort)
    | none =>
      (toSocketAddrs resolve (hostPort ++ [':'] ++ ofNat defaultPort)).bind (·.head?)

/-- The host and port of a SIP URI, without its user part and parameters. -/
def uriHostPort (uri : Str) : Str :=
  let withoutPrefix := (stripPrefix "sip:".toList uri).getD uri
  let hostPort := ((rsplitOnce '@' withoutPrefix).map (·.2)).getD withoutPrefix
  (splitChar ';' hostPort).head?.getD hostPort

def parseSocketAddrFromSipUri (resolve : Resolver) (value : Str) (defaultPort : Nat) :
    Except Panic (Option SocketAddr) := do
  let uri ← extractUriFromNameAddr value
  pure (uri.bind (fun uri => parseHostPort resolve (uriHostPort uri) defaultPort))

/-- The engine's own copy of the Contact-target parser. -/
def parseSipTargetFromContact (resolve : Resolver) (contact : Str) (defaultPort : Nat) :
    Except Panic (Option SocketAddr) := do
  let uri ← extractUriFromNameAddr contact
  pure (uri.bind (fun uri => parseHostPort resolve (uriHostPort uri) defaultPort))

/-- `headers.get("contact").and_then(parse)`. -/
def andThenContact {α : Type} (headers : SipHeaders) (parse : Str → Except Panic (Option α)) :
    Except Panic (Option α) :=
  match headers.get "contact".toList with
  | none => pure none
  | some contact => parse contact

def buildAckForFinalResponse (resolve : Resolver) (branch response : Str) (invite : SipInvite)
    (sourceAddr : SocketAddr) (localHost : Str) : Except Panic (Option SipDatagram) :=
  match parseSipResponse response with
  | none => pure none
  | some parsed =>
    match parsed.headers.get "call-id".toList with
    | none => pure none
    | some callId =>
      if callId ≠ invite.callId then pure none
      else
        match parsed.headers.get "to".toList with
        | none => pure none
        | some toValue => do
          let uri ← andThenContact parsed.headers extractUriFromNameAddr
          let target ← andThenContact parsed.headers
            (fun contact => parseSocketAddrFromSipUri resolve contact sourceAddr.port)
          pure (some {
            payload := buildSipMessage
              ["ACK ".toList ++ uri.getD invite.requestUri ++ " SIP/2.0".toList,
                "Via: SIP/2.0/UDP ".toList ++ localHost ++ ":5060;branch=z9hG4bK".toList ++ branch,
                "To: ".toList ++ toValue,
                "From: ".toList ++ invite.fromValue,
                "Call-ID: ".toList ++ invite.callId,
                "CSeq: ".toList ++ ofNat invite.cseq ++ " ACK".toList,
                "Max-Forwards: 70".toList,
                "Content-Length: 0".toList] none
            targetAddr := target.getD sourceAddr })

/-- `u32::saturating_add` of one. -/
def nextCseq (cseq : Nat) : Nat := min (cseq + 1) 4294967295

def buildByeRequest (branch : Str) (dialog : InboundDialogSignaling) : Str :=
  buildSipMessage
    ["BYE ".toList ++ dialog.remoteRequestUri ++ " SIP/2.0".toList,
      "Via: SIP/2.0/UDP ".toList ++ dialog.localHost ++ ":5060;branch=z9hG4bK".toList ++ branch,
      "From: ".toList ++ dialog.localFrom,
      "To: ".toList ++ dialog.remoteTo,
      "Call-ID: ".toList ++ dialog.callId,
      "CSeq: ".toList ++ ofNat (nextCseq dialog.localCseq) ++ " BYE".toList,
      "Max-Forwards: 70".toList,
      "Content-Length: 0".toList] none

/-- `Uuid::to_string` from the 32 digits of the simple form. -/
def hyphenated (simple : Str) : Str :=
  join ['-'] [simple.take 8, (simple.drop 8).take 4, (simple.drop 12).take 4,
    (simple.drop 16).take 4, simple.drop 20]

/-- The three random ids are in the simple form. -/
def buildSipInvite (callUuid branch fromTag : Str) (request : SipInviteRequest) : SipInvite :=
  let callId := hyphenated callUuid ++ "@rust-sbc-node".toList
  let requestUri := "sip:".toList ++ request.targetPhone ++ ['@'] ++ request.trunkHost
  let fromValue := "<sip:".toList ++ request.twilioNumber ++ ['@'] ++ request.trunkHost ++
    ">;tag=".toList ++ fromTag
  let sdp := buildSdpOffer request.localHost request.localRtpPort
  { callId, requestUri, fromValue, cseq := 1
    targetAddr := request.trunkHost ++ [':'] ++ ofNat request.trunkPort
    payload := buildSipMessage
      ["INVITE ".toList ++ requestUri ++ " SIP/2.0".toList,
        "Via: SIP/2.0/UDP ".toList ++ request.localHost ++ ":5060;branch=z9hG4bK".toList ++ branch,
        "To: <sip:".toList ++ request.targetPhone ++ ['@'] ++ request.trunkHost ++ ['>'],
        "From: ".toList ++ fromValue,
        "Call-ID: ".toList ++ callId,
        "CSeq: 1 INVITE".toList,
        "Contact: <sip:".toList ++ request.twilioNumber ++ ['@'] ++ request.localHost ++
          ":5060>".toList,
        "Content-Type: application/sdp".toList,
        "Max-Forwards: 70".toList,
        "X-Session-ID: ".toList ++ request.sessionId,
        "Content-Length: ".toList ++ ofNat (utf8Len sdp)] (some sdp) }

/-- The first `>` of a Contact value stands before its first `<`. -/
def AnglesReversed (value : Str) : Prop :=
  ∃ start stop, find '<' value = some start ∧ find '>' value = some stop ∧ stop < start

instance (value : Str) : Decidable (AnglesReversed value) :=
  match hl : find '<' value, hg : find '>' value with
  | some start, some stop =>
    decidable_of_iff (stop < start) (by simp [AnglesReversed, hl, hg])
  | none, _ => .isFalse (by simp [AnglesReversed, hl])
  | some _, none => .isFalse (by simp [AnglesReversed, hg])

/-- The one explicit slice of the message code is in range exactly when the
brackets are in order. -/
theorem extractUriFromNameAddr_ok_iff (value : Str) :
    (∃ r, extractUriFromNameAddr value = .ok r) ↔ ¬ AnglesReversed value := by
  unfold extractUriFromNameAddr AnglesReversed
  split
  · rename_i start stop hl hg
    have hne : start ≠ stop := by
      obtain ⟨front, back, hs, hfront, rfl⟩ := find_eq_some hl
      obtain ⟨front', back', hs', hfront', hlen⟩ := find_eq_some hg
      intro he
      have hd := dropBytes_append front ('<' :: back)
      have hd' := dropBytes_append front' ('>' :: back')
      rw [← hs] at hd
      rw [← hs', hlen, ← he, hd] at hd'
      exact absurd (List.cons.inj (Option.some.inj hd')).1 (by decide)
    have hslice := slice_between_found hl hg (by decide) (by decide)
    have hmap : (∃ r, (do
        let uri ← slice value (start + 1) stop
        pure (some (trim uri)) : Except Panic (Option Str)) = .ok r) ↔
        ∃ mid, slice value (start + 1) stop = .ok mid := by
      cases slice value (start + 1) stop with
      | error e => exact ⟨fun ⟨_, h⟩ => (by cases h), fun ⟨_, h⟩ => (by cases h)⟩
      | ok mid => exact ⟨fun _ => ⟨mid, rfl⟩, fun _ => ⟨_, rfl⟩⟩
    rw [hmap, hslice]
    constructor
    · rintro hlt ⟨a, b, ha, hb, hba⟩
      rw [hl] at ha
      rw [hg] at hb
      cases ha
      cases hb
      omega
    · intro h
      by_contra hlt
      exact h ⟨start, stop, hl, hg, by omega⟩
  · rename_i hno
    refine ⟨?_, fun _ => ⟨_, rfl⟩⟩
    rintro - ⟨start, stop, hl, hg, -⟩
    exact hno start stop hl hg

end DemoService.Sip
