import DemoService.SipMessage

/-! The responses the gateway builds, line by line: the route headers after the
start line, the four echoed headers, and the description of the body. -/

namespace DemoService.Sip

open RustText NetAddr

/-- The header values a response repeats, with the To value as it is sent. -/
structure Echo where
  fromValue : Str
  toValue : Str
  callId : Str
  cseq : Str

/-- What a request with all these headers has in a response to it. -/
structure Echoes (request : SipParsedRequest) (localTag : Option Str) (echo : Echo) : Prop where
  fromValue : request.headers.get "from".toList = some echo.fromValue
  toValue : ∃ value, request.headers.get "to".toList = some value ∧
    echo.toValue = withTag value localTag
  callId : request.headers.get "call-id".toList = some echo.callId
  cseq : request.headers.get "cseq".toList = some echo.cseq
  via : request.headers.values "via".toList ≠ []

/-- The headers a 200 OK is built from. -/
def Answerable (request : SipParsedRequest) : Prop :=
  (request.headers.get "from".toList).isSome ∧ (request.headers.get "to".toList).isSome ∧
    (request.headers.get "call-id".toList).isSome ∧ (request.headers.get "cseq".toList).isSome ∧
    request.headers.values "via".toList ≠ []

instance (request : SipParsedRequest) : Decidable (Answerable request) :=
  inferInstanceAs (Decidable (_ ∧ _))

theorem answerable_iff {request : SipParsedRequest} (localTag : Option Str) :
    Answerable request ↔ ∃ echo, Echoes request localTag echo := by
  simp only [Answerable, Option.isSome_iff_exists]
  constructor
  · rintro ⟨⟨fromValue, hfrom⟩, ⟨toValue, hto⟩, ⟨callId, hcall⟩, ⟨cseq, hcseq⟩, hvia⟩
    exact ⟨⟨fromValue, withTag toValue localTag, callId, cseq⟩,
      ⟨hfrom, ⟨toValue, hto, rfl⟩, hcall, hcseq, hvia⟩⟩
  · rintro ⟨echo, hfrom, ⟨toValue, hto, -⟩, hcall, hcseq, hvia⟩
    exact ⟨⟨_, hfrom⟩, ⟨toValue, hto⟩, ⟨_, hcall⟩, ⟨_, hcseq⟩, hvia⟩

def routeLines (request : SipParsedRequest) : List Str :=
  (request.headers.values "via".toList).map ("Via: ".toList ++ ·) ++
    (request.headers.values "record-route".toList).map ("Record-Route: ".toList ++ ·)

def Echo.lines (echo : Echo) : List Str :=
  ["From: ".toList ++ echo.fromValue, "To: ".toList ++ echo.toValue,
    "Call-ID: ".toList ++ echo.callId, "CSeq: ".toList ++ echo.cseq]

def contentLines : Option Str → List Str
  | some body => ["Content-Type: application/sdp".toList,
      "Content-Length: ".toList ++ ofNat (utf8Len body)]
  | none => ["Content-Length: 0".toList]

/-- The response with a start line, and with further lines before the description of the body. -/
def responseMessage (request : SipParsedRequest) (start : Str) (echo : Echo) (further : List Str)
    (body : Option Str) : Str :=
  buildSipMessage (start :: (routeLines request ++ (echo.lines ++ (further ++ contentLines body))))
    body

theorem prependResponseRouteHeaders_eq_some {request : SipParsedRequest} {start : Str}
    {rest lines : List Str} :
    prependResponseRouteHeaders request (start :: rest) = some lines ↔
      request.headers.values "via".toList ≠ [] ∧ lines = start :: (routeLines request ++ rest) := by
  unfold prependResponseRouteHeaders routeLines
  cases request.headers.values "via".toList with
  | nil => simp
  | cons via vias => simp [eq_comm]

section

variable {request : SipParsedRequest} {statusCode : Nat} {reasonPhrase payload : Str}

theorem buildResponseForRequest_eq_some {localTag body : Option Str} :
    buildResponseForRequest request statusCode reasonPhrase localTag body = some payload ↔
      ∃ echo, Echoes request localTag echo ∧ payload = responseMessage request
        ("SIP/2.0 ".toList ++ ofNat statusCode ++ [' '] ++ reasonPhrase) echo [] body := by
  constructor
  · intro h
    simp only [buildResponseForRequest, Option.bind_eq_bind, Option.bind_eq_some_iff] at h
    obtain ⟨fromValue, hfrom, toValue, hto, callId, hcall, cseq, hcseq, lines, hlines, h⟩ := h
    obtain ⟨hvia, rfl⟩ := prependResponseRouteHeaders_eq_some.mp hlines
    refine ⟨⟨fromValue, withTag toValue localTag, callId, cseq⟩,
      ⟨hfrom, ⟨toValue, hto, rfl⟩, hcall, hcseq, hvia⟩, ?_⟩
    cases body with
    | none => simpa [responseMessage, contentLines, Echo.lines] using h.symm
    | some body => simpa [responseMessage, contentLines, Echo.lines] using h.symm
  · rintro ⟨⟨fromValue, sent, callId, cseq⟩, ⟨hfrom, ⟨toValue, hto, hsent⟩, hcall, hcseq, hvia⟩, rfl⟩
    obtain rfl : sent = withTag toValue localTag := hsent
    simp only [buildResponseForRequest, Option.bind_eq_bind, Option.bind_eq_some_iff]
    refine ⟨fromValue, hfrom, toValue, hto, callId, hcall, cseq, hcseq, _,
      prependResponseRouteHeaders_eq_some.mpr ⟨hvia, rfl⟩, ?_⟩
    cases body with
    | none => simp [responseMessage, contentLines, Echo.lines]
    | some body => simp [responseMessage, contentLines, Echo.lines]

theorem buildSip200OkForInvite_eq_some {localTag localHost : Str} {localRtpPort : Nat} :
    buildSip200OkForInvite request localTag localHost localRtpPort = some payload ↔
      ∃ echo, Echoes request (some localTag) echo ∧
        payload = responseMessage request "SIP/2.0 200 OK".toList echo
          ["Contact: <sip:sbc@".toList ++ localHost ++ ":5060>".toList]
          (some (buildSdpOffer localHost localRtpPort)) := by
  constructor
  · intro h
    simp only [buildSip200OkForInvite, Option.bind_eq_bind, Option.bind_eq_some_iff] at h
    obtain ⟨fromValue, hfrom, toValue, hto, callId, hcall, cseq, hcseq, lines, hlines, h⟩ := h
    obtain ⟨hvia, rfl⟩ := prependResponseRouteHeaders_eq_some.mp hlines
    refine ⟨⟨fromValue, withTag toValue (some localTag), callId, cseq⟩,
      ⟨hfrom, ⟨toValue, hto, rfl⟩, hcall, hcseq, hvia⟩, ?_⟩
    simpa [responseMessage, contentLines, Echo.lines] using h.symm
  · rintro ⟨⟨fromValue, sent, callId, cseq⟩, ⟨hfrom, ⟨toValue, hto, hsent⟩, hcall, hcseq, hvia⟩, rfl⟩
    obtain rfl : sent = withTag toValue (some localTag) := hsent
    simp only [buildSip200OkForInvite, Option.bind_eq_bind, Option.bind_eq_some_iff]
    refine ⟨fromValue, hfrom, toValue, hto, callId, hcall, cseq, hcseq, _,
      prependResponseRouteHeaders_eq_some.mpr ⟨hvia, rfl⟩, ?_⟩
    simp [responseMessage, contentLines, Echo.lines]

/-- A message begins as its start line does. -/
theorem head_buildSipMessage {c : Char} {start : Str} (h : start.head? = some c)
    (rest : List Str) (body : Option Str) :
    (buildSipMessage (start :: rest) body).head? = some c := by
  cases start with
  | nil => cases h
  | cons d start =>
    rw [← h]
    rfl

theorem head_buildResponseForRequest {localTag body : Option Str}
    (h : buildResponseForRequest request statusCode reasonPhrase localTag body = some payload) :
    payload.head? = some 'S' := by
  obtain ⟨echo, -, rfl⟩ := buildResponseForRequest_eq_some.mp h
  exact head_buildSipMessage rfl _ _

theorem head_buildSip200OkForInvite {localTag localHost : Str} {localRtpPort : Nat}
    (h : buildSip200OkForInvite request localTag localHost localRtpPort = some payload) :
    payload.head? = some 'S' := by
  obtain ⟨echo, -, rfl⟩ := buildSip200OkForInvite_eq_some.mp h
  exact head_buildSipMessage rfl _ _

end

end DemoService.Sip
