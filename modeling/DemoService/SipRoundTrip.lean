import DemoService.RustLines
import DemoService.SipResponses

/-! Reading back the responses the gateway builds. Header values that were
parsed are trimmed and lie on one line, so the lines of a response come apart
again where they were put together. -/

namespace DemoService.Sip

open RustText NetAddr

/-! ### Parsed header values -/

/-- A value that one header line can carry. -/
structure Clean (value : Str) : Prop where
  trimmed : Trimmed value
  oneLine : '\n' ∉ value

theorem parseHeaders_clean {ls : List Str} (hls : ∀ line ∈ ls, '\n' ∉ line) {headers : SipHeaders}
    (h : ∀ entry ∈ headers.entries, Clean entry.2) :
    ∀ entry ∈ (parseHeaders headers ls).entries, Clean entry.2 := by
  induction ls generalizing headers with
  | nil => exact h
  | cons line ls ih =>
    rw [List.forall_mem_cons] at hls
    simp only [parseHeaders]
    split
    · exact h
    · split
      · exact ih hls.2 h
      · rename_i name value hsplit
        refine ih hls.2 ?_
        have hvalue : Clean (trim value) := by
          refine ⟨trimmed_trim value, fun hnl => hls.1 (mem_of_mem_trim ?_)⟩
          rw [splitOnce_eq_some hsplit]
          exact List.mem_append_right _ (mem_of_mem_trim hnl)
        intro entry hentry
        rcases List.mem_append.mp hentry with hentry | hentry
        · exact h entry hentry
        · obtain rfl := List.mem_singleton.mp hentry
          exact hvalue

theorem parseSipRequest_clean {message : Str} {request : SipParsedRequest}
    (h : parseSipRequest message = some request) :
    ∀ entry ∈ request.headers.entries, Clean entry.2 := by
  simp only [parseSipRequest] at h
  split at h
  · cases h
  · rename_i first rest hlines
    split at h
    · split at h
      · cases h
        refine parseHeaders_clean (fun line hmem => ?_) nofun
        have hline : line ∈ lines (splitSipMessage message).1 := by
          rw [hlines]
          exact List.mem_cons_of_mem _ hmem
        exact newline_notMem_lines hline
      · cases h
    · cases h

section

variable {headers : SipHeaders} (h : ∀ entry ∈ headers.entries, Clean entry.2)
include h

theorem clean_of_get {name value : Str} (hget : headers.get name = some value) : Clean value := by
  rw [SipHeaders.get_eq, List.lookup_eq_some_iff] at hget
  obtain ⟨front, back, hentries, -⟩ := hget
  have hmem : (SipHeaders.normalize name, value) ∈ headers.entries := by
    rw [hentries]
    simp
  exact h _ hmem

theorem clean_of_values {name value : Str} (hvalue : value ∈ headers.values name) :
    Clean value := by
  obtain ⟨entry, hentry, rfl⟩ := List.mem_map.mp hvalue
  exact h entry (List.mem_of_mem_filter hentry)

end

/-! ### Built header lines -/

def contentFields : Option Str → List (Str × Str)
  | some text => [("Content-Type".toList, "application/sdp".toList),
      ("Content-Length".toList, ofNat (utf8Len text))]
  | none => [("Content-Length".toList, ['0'])]

def responseFields (request : SipParsedRequest) (echo : Echo) (further : List (Str × Str))
    (body : Option Str) : List (Str × Str) :=
  (request.headers.values "via".toList).map (Prod.mk "Via".toList) ++
    (request.headers.values "record-route".toList).map (Prod.mk "Record-Route".toList) ++
    [("From".toList, echo.fromValue), ("To".toList, echo.toValue),
      ("Call-ID".toList, echo.callId), ("CSeq".toList, echo.cseq)] ++ further ++
    contentFields body

theorem lines_eq_fields (request : SipParsedRequest) (echo : Echo) (further : List (Str × Str))
    (body : Option Str) :
    routeLines request ++ (echo.lines ++ (further.map fieldLine ++ contentLines body)) =
      (responseFields request echo further body).map fieldLine := by
  cases body <;> simp [routeLines, Echo.lines, contentLines, contentFields, responseFields,
    fieldLine,
    Function.comp_def]

/-- A field that is read back as it was written. -/
structure CleanField (field : Str × Str) : Prop where
  name : IsFieldName field.1
  value : Clean field.2

theorem CleanField.oneLine {field : Str × Str} (h : CleanField field) : '\n' ∉ fieldLine field := by
  simp [fieldLine, h.name.2.2.1, h.value.oneLine]

theorem fieldLine_ne_nil (field : Str × Str) : fieldLine field ≠ [] := by
  simp [fieldLine]

theorem parseHeaders_fields {fields : List (Str × Str)} (h : ∀ field ∈ fields, CleanField field)
    (headers : SipHeaders) :
    (parseHeaders headers (fields.map fieldLine)).entries = headers.entries ++
      fields.map fun field => (toAsciiLowercase (trim field.1), field.2) := by
  induction fields generalizing headers with
  | nil => simp [parseHeaders]
  | cons field fields ih =>
    rw [List.forall_mem_cons] at h
    obtain ⟨name, value⟩ := field
    obtain ⟨rest, htrim, hvalue⟩ := trim_fieldLine h.1.name h.1.value.trimmed
    have hsplit : splitOnce [':'] (name ++ ':' :: rest) = some (name, rest) :=
      splitOnce_char h.1.name.2.1 rest
    have hne : name ++ ':' :: rest ≠ [] := by simp
    rw [List.map_cons, parseHeaders]
    simp only [htrim, hne, if_false, hsplit, hvalue]
    rw [ih h.2]
    simp [SipHeaders.insert]

theorem buildSipMessage_eq {ls : List Str} (h : ls ≠ []) (body : Option Str) :
    buildSipMessage ls body = joinLines ls ++ blankLine ++ body.getD [] := by
  have hlines : (ls.map (· ++ crlf)).flatten = joinLines ls ++ crlf := flatten_endings h
  rw [buildSipMessage, hlines]
  simp [crlf, blankLine]

theorem splitSipMessage_build {ls : List Str} (h : ls ≠ []) (hone : ∀ line ∈ ls, '\n' ∉ line)
    (hne : ∀ line ∈ ls, line ≠ []) (body : Option Str) :
    splitSipMessage (buildSipMessage ls body) = (joinLines ls, body.getD []) := by
  have hsplit := splitOnce_joinLines h hone hne (body.getD [])
  rw [buildSipMessage_eq h, splitSipMessage, show crlf ++ crlf = blankLine from rfl, hsplit]

def statusLine (code : Nat) (reason : Str) : Str :=
  "SIP/2.0 ".toList ++ ofNat code ++ [' '] ++ reason

theorem statusLine_ne_nil (code : Nat) (reason : Str) : statusLine code reason ≠ [] := by
  unfold statusLine
  simp

theorem newline_notMem_statusLine {code : Nat} {reason : List Str}
    (hreason : ∀ word ∈ reason, IsWord word) : '\n' ∉ statusLine code (join [' '] reason) := by
  have hcode : '\n' ∉ ofNat code := fun hnl => (isWord_ofNat code).2 _ hnl (by decide)
  unfold statusLine
  simp [hcode, newline_notMem_join hreason]

theorem splitWhitespace_statusLine {code : Nat} {reason : List Str}
    (hreason : ∀ word ∈ reason, IsWord word) :
    splitWhitespace (trim (statusLine code (join [' '] reason))) =
      "SIP/2.0".toList :: ofNat code :: reason := by
  have hsplit : statusLine code (join [' '] reason) =
      "SIP/2.0".toList ++ ' ' :: (ofNat code ++ ' ' :: join [' '] reason) := by
    unfold statusLine
    simp
  have hversion : IsWord "SIP/2.0".toList := isWord_of_all (by decide)
  rw [splitWhitespace_trim, hsplit, splitWhitespace_word hversion (by decide),
    splitWhitespace_word (isWord_ofNat code) (by decide), splitWhitespace_join hreason]

/-- The status line and the fields of a message are what its parser finds. -/
theorem parseSipResponse_message {code : Nat} (hcode : code < 65536) {reason : List Str}
    (hreason : ∀ word ∈ reason, IsWord word) {fields : List (Str × Str)}
    (hfields : ∀ field ∈ fields, CleanField field) (body : Option Str) :
    ∃ response, parseSipResponse (buildSipMessage
        (statusLine code (join [' '] reason) :: fields.map fieldLine) body) = some response ∧
      response.statusCode = code ∧ response.reasonPhrase = join [' '] reason ∧
      response.body = body.getD [] ∧ response.headers.entries =
        fields.map fun field => (toAsciiLowercase (trim field.1), field.2) := by
  have hone : ∀ line ∈ statusLine code (join [' '] reason) :: fields.map fieldLine,
      '\n' ∉ line := by
    refine List.forall_mem_cons.mpr ⟨newline_notMem_statusLine hreason, ?_⟩
    rintro _ hline
    obtain ⟨field, hfield, rfl⟩ := List.mem_map.mp hline
    exact (hfields field hfield).oneLine
  have hne : ∀ line ∈ statusLine code (join [' '] reason) :: fields.map fieldLine, line ≠ [] := by
    refine List.forall_mem_cons.mpr ⟨statusLine_ne_nil _ _, ?_⟩
    rintro _ hline
    obtain ⟨field, -, rfl⟩ := List.mem_map.mp hline
    exact fieldLine_ne_nil field
  have hlines := lines_joinLines hone fun line hlast => hne line (List.mem_of_getLast? hlast)
  have hversion : eqIgnoreAsciiCase "SIP/2.0".toList "SIP/2.0".toList = true := by decide
  refine ⟨⟨"SIP/2.0".toList, code, join [' '] reason,
    parseHeaders .empty (fields.map fieldLine), body.getD []⟩, ?_, rfl, rfl, rfl, ?_⟩
  · unfold parseSipResponse
    rw [splitSipMessage_build (List.cons_ne_nil _ _) hone hne]
    simp only [hlines, splitWhitespace_statusLine hreason, hversion, if_true, parseU16_ofNat hcode,
      Option.map_some]
  · exact parseHeaders_fields hfields .empty

/-! ### Round trips -/

theorem filter_named (name key : Str) (vs : List Str) :
    (vs.map (Prod.mk name)).filter (·.1 = key) = if name = key then vs.map (Prod.mk name) else [] := by
  induction vs with
  | nil => simp
  | cons v vs ih =>
    by_cases h : name = key
    · simp [h]
    · simp [h]

theorem lookup_named {name key : Str} (h : key ≠ name) (vs : List Str) :
    (vs.map (Prod.mk name)).lookup key = none := by
  induction vs with
  | nil => rfl
  | cons v vs ih =>
    have hb : (key == name) = false := by simpa using h
    simp [List.lookup_cons, hb, ih]

/-- What the parser finds in a response to a request with a status, a tag and a body. -/
structure ReadsBack (request : SipParsedRequest) (code : Nat) (reason : Str)
    (localTag : Option Str) (content : Str) (response : SipParsedResponse) : Prop where
  statusCode : response.statusCode = code
  reasonPhrase : response.reasonPhrase = reason
  via : response.headers.values "via".toList = request.headers.values "via".toList
  recordRoute : response.headers.values "record-route".toList =
    request.headers.values "record-route".toList
  fromValue : response.headers.get "from".toList = request.headers.get "from".toList
  callId : response.headers.get "call-id".toList = request.headers.get "call-id".toList
  cseq : response.headers.get "cseq".toList = request.headers.get "cseq".toList
  toKept : hasTag ((request.headers.get "to".toList).getD []) = true ∨ localTag = none →
    response.headers.get "to".toList = request.headers.get "to".toList
  toTagged : ∀ tag, hasTag ((request.headers.get "to".toList).getD []) = false →
    localTag = some tag → response.headers.get "to".toList =
      (request.headers.get "to".toList).map (· ++ ";tag=".toList ++ tag)
  body : response.body = content
  contentLength : response.headers.get "content-length".toList = some (ofNat (utf8Len content))

def RoundTrips (request : SipParsedRequest) (code : Nat) (reason : Str) (localTag : Option Str)
    (content : Str) (built : Option Str) : Prop :=
  ∃ payload response, built = some payload ∧ parseSipResponse payload = some response ∧
    ReadsBack request code reason localTag content response

theorem isHexDigit_not_space {c : Char} (h : (digit? 16 c).isSome = true) :
    ¬ isWhitespace c = true := by
  intro hspace
  have hnone : digit? 16 c = none := by
    simp only [isWhitespace, Bool.or_eq_true, Bool.and_eq_true, decide_eq_true_eq] at hspace
    have hlower : ¬ (48 ≤ c.toNat ∧ c.toNat ≤ 57) := by omega
    have hletter : ¬ (97 ≤ c.toNat ∧ c.toNat ≤ 122) := by omega
    have hupper : ¬ (65 ≤ c.toNat ∧ c.toNat ≤ 90) := by omega
    simp [digit?, hlower, hletter, hupper]
  rw [hnone] at h
  cases h

def IsHex (tag : Str) : Prop := ∀ c ∈ tag, (digit? 16 c).isSome = true

theorem isHex_of_all {tag : Str} (h : (tag.all fun c => (digit? 16 c).isSome) = true) : IsHex tag :=
  List.all_eq_true.mp h

theorem clean_withTag {value : Str} (h : Clean value) {localTag : Option Str}
    (htag : ∀ tag ∈ localTag, IsHex tag) : Clean (withTag value localTag) := by
  unfold withTag
  split
  · exact h
  · cases localTag with
    | none => exact h
    | some tag =>
      have hhex : ∀ c ∈ tag, ¬ isWhitespace c = true := fun c hc =>
        isHexDigit_not_space (htag tag rfl c hc)
      have hlast : ∀ c ∈ ('=' :: tag).getLast?, ¬ isWhitespace c = true := by
        intro c hc
        rcases List.mem_cons.mp (List.mem_of_getLast? hc) with rfl | hmem
        · decide
        · exact hhex c hmem
      have hnl : '\n' ∉ tag := fun hmem => hhex _ hmem (by decide)
      refine ⟨⟨?_, ?_⟩, ?_⟩
      · cases value with
        | nil => simp; decide
        | cons c value => simpa using h.trimmed.1
      · simpa using hlast
      · simp [h.oneLine, hnl]

theorem clean_of_word {word : Str} (h : IsWord word) : Clean word := by
  refine ⟨⟨fun c hc => h.2 c (List.mem_of_mem_head? hc), fun c hc =>
    h.2 c (List.mem_of_getLast? hc)⟩, fun hnl => h.2 _ hnl (by decide)⟩

theorem contentFields_clean (body : Option Str) : ∀ field ∈ contentFields body, CleanField field := by
  have htype : IsFieldName "Content-Type".toList := by decide
  have hlength : IsFieldName "Content-Length".toList := by decide
  have hsdp : IsWord "application/sdp".toList := isWord_of_all (by decide)
  have hnone : IsWord ['0'] := isWord_of_all (by decide)
  cases body with
  | some text =>
    simp only [contentFields, List.forall_mem_cons]
    exact ⟨⟨htype, clean_of_word hsdp⟩, ⟨hlength, clean_of_word (isWord_ofNat _)⟩, by simp⟩
  | none =>
    simp only [contentFields, List.forall_mem_cons]
    exact ⟨⟨hlength, clean_of_word hnone⟩, by simp⟩

theorem responseFields_clean {request : SipParsedRequest}
    (h : ∀ entry ∈ request.headers.entries, Clean entry.2) {localTag : Option Str} {echo : Echo}
    (hecho : Echoes request localTag echo) (htag : ∀ tag ∈ localTag, IsHex tag)
    {further : List (Str × Str)} (hfurther : ∀ field ∈ further, CleanField field)
    (body : Option Str) : ∀ field ∈ responseFields request echo further body, CleanField field := by
  have hvalue : ∀ {name value : Str}, request.headers.get name = some value → Clean value :=
    fun hget => clean_of_get h hget
  have hnamed : ∀ {name key : Str}, IsFieldName name →
      ∀ field ∈ (request.headers.values key).map (Prod.mk name), CleanField field := by
    intro name key hname field hfield
    obtain ⟨value, hmem, rfl⟩ := List.mem_map.mp hfield
    exact ⟨hname, clean_of_values h hmem⟩
  have hto : Clean echo.toValue := by
    obtain ⟨value, hget, heq⟩ := hecho.toValue
    rw [heq]
    exact clean_withTag (hvalue hget) htag
  have hfrom : IsFieldName "From".toList := by decide
  have htoName : IsFieldName "To".toList := by decide
  have hcallId : IsFieldName "Call-ID".toList := by decide
  have hcseq : IsFieldName "CSeq".toList := by decide
  unfold responseFields
  simp only [List.forall_mem_append]
  refine ⟨⟨⟨⟨hnamed (by decide), hnamed (by decide)⟩, ?_⟩, hfurther⟩, contentFields_clean body⟩
  simp only [List.forall_mem_cons]
  exact ⟨⟨hfrom, hvalue hecho.fromValue⟩, ⟨htoName, hto⟩, ⟨hcallId, hvalue hecho.callId⟩,
    ⟨hcseq, hvalue hecho.cseq⟩, by simp⟩

def dialogEntries (echo : Echo) : List (Str × Str) :=
  [("from".toList, echo.fromValue), ("to".toList, echo.toValue), ("call-id".toList, echo.callId),
    ("cseq".toList, echo.cseq)]

theorem dialogEntries_filter (echo : Echo) (key : Str)
    (h : key ∉ ["from".toList, "to".toList, "call-id".toList, "cseq".toList]) :
    (dialogEntries echo).filter (·.1 = key) = [] := by
  simp only [List.mem_cons, List.not_mem_nil, or_false, not_or] at h
  simp only [dialogEntries, List.filter_eq_nil_iff, List.forall_mem_cons, decide_eq_true_eq]
  exact ⟨Ne.symm h.1, Ne.symm h.2.1, Ne.symm h.2.2.1, Ne.symm h.2.2.2, by simp⟩

theorem contentEntries_filter (body : Option Str) (key : Str)
    (h : key ∉ ["content-type".toList, "content-length".toList]) :
    ((contentFields body).map fun field => (toAsciiLowercase field.1, field.2)).filter
      (·.1 = key) = [] := by
  have htype : toAsciiLowercase "Content-Type".toList = "content-type".toList := by decide
  have hlength : toAsciiLowercase "Content-Length".toList = "content-length".toList := by decide
  simp only [List.mem_cons, List.not_mem_nil, or_false, not_or] at h
  cases body with
  | some text =>
    simp only [contentFields, List.map_cons, List.map_nil, htype, hlength,
      List.filter_eq_nil_iff, List.forall_mem_cons, decide_eq_true_eq]
    exact ⟨Ne.symm h.1, Ne.symm h.2, by simp⟩
  | none =>
    simp only [contentFields, List.map_cons, List.map_nil, hlength, List.filter_eq_nil_iff,
      List.forall_mem_cons, decide_eq_true_eq]
    exact ⟨Ne.symm h.2, by simp⟩

def responseEntries (request : SipParsedRequest) (echo : Echo) (further : List (Str × Str))
    (body : Option Str) : List (Str × Str) :=
  (request.headers.values "via".toList).map (Prod.mk "via".toList) ++
    (request.headers.values "record-route".toList).map (Prod.mk "record-route".toList) ++
    dialogEntries echo ++ (further.map (·.2)).map (Prod.mk "contact".toList) ++
    (contentFields body).map fun field => (toAsciiLowercase field.1, field.2)

theorem responseFields_lower (request : SipParsedRequest) (echo : Echo) (body : Option Str)
    {further : List (Str × Str)}
    (hfurther : ∀ field ∈ further, toAsciiLowercase (trim field.1) = "contact".toList) :
    ((responseFields request echo further body).map
      fun field => (toAsciiLowercase (trim field.1), field.2)) =
        responseEntries request echo further body := by
  have hcontact : (further.map fun field => (toAsciiLowercase (trim field.1), field.2)) =
      (further.map (·.2)).map (Prod.mk "contact".toList) := by
    rw [List.map_map]
    exact List.map_congr_left fun field hfield => by simp [hfurther field hfield]
  have hvia : toAsciiLowercase (trim "Via".toList) = "via".toList := by decide
  have hroute : toAsciiLowercase (trim "Record-Route".toList) = "record-route".toList := by decide
  have hfrom : toAsciiLowercase (trim "From".toList) = "from".toList := by decide
  have hto : toAsciiLowercase (trim "To".toList) = "to".toList := by decide
  have hcall : toAsciiLowercase (trim "Call-ID".toList) = "call-id".toList := by decide
  have hcseq : toAsciiLowercase (trim "CSeq".toList) = "cseq".toList := by decide
  have hcontent : ((contentFields body).map
      fun field => (toAsciiLowercase (trim field.1), field.2)) =
        (contentFields body).map fun field => (toAsciiLowercase field.1, field.2) := by
    have htype : trim "Content-Type".toList = "Content-Type".toList := by decide
    have hlength : trim "Content-Length".toList = "Content-Length".toList := by decide
    cases body with
    | some text => simp only [contentFields, List.map_cons, List.map_nil, htype, hlength]
    | none => simp only [contentFields, List.map_cons, List.map_nil, hlength]
  unfold responseFields responseEntries dialogEntries
  rw [List.map_append, List.map_append, List.map_append, List.map_append, hcontact, hcontent]
  simp only [List.map_map, List.map_cons, List.map_nil, Function.comp_def, hvia, hroute, hfrom,
    hto, hcall, hcseq]

section

variable {request : SipParsedRequest} {echo : Echo} {further : List (Str × Str)}
  {body : Option Str} {headers : SipHeaders}
  (h : headers.entries = responseEntries request echo further body)
include h

theorem values_via : headers.values "via".toList = request.headers.values "via".toList := by
  have hkey : SipHeaders.normalize "via".toList = "via".toList := by decide
  have hne : ¬ "record-route".toList = "via".toList := by decide
  have hcontact : ¬ "contact".toList = "via".toList := by decide
  have hdialog := dialogEntries_filter echo "via".toList (by decide)
  have hcontent := contentEntries_filter body "via".toList (by decide)
  rw [SipHeaders.values, h, hkey, responseEntries]
  simp only [List.filter_append, filter_named, hne, hcontact, hdialog, hcontent, if_true, if_false,
    List.append_nil]
  simp only [List.map_map, Function.comp_def, List.map_id']

theorem values_recordRoute :
    headers.values "record-route".toList = request.headers.values "record-route".toList := by
  have hkey : SipHeaders.normalize "record-route".toList = "record-route".toList := by decide
  have hne : ¬ "via".toList = "record-route".toList := by decide
  have hcontact : ¬ "contact".toList = "record-route".toList := by decide
  have hdialog := dialogEntries_filter echo "record-route".toList (by decide)
  have hcontent := contentEntries_filter body "record-route".toList (by decide)
  rw [SipHeaders.values, h, hkey, responseEntries]
  simp only [List.filter_append, filter_named, hne, hcontact, hdialog, hcontent, if_true, if_false,
    List.append_nil, List.nil_append]
  simp only [List.map_map, Function.comp_def, List.map_id']

theorem get_echoed {name value : Str} (hkey : SipHeaders.normalize name = name)
    (hvia : name ≠ "via".toList) (hroute : name ≠ "record-route".toList)
    (hname : (dialogEntries echo).lookup name = some value) : headers.get name = some value := by
  rw [SipHeaders.get_eq, h, hkey, responseEntries]
  simp only [List.lookup_append, lookup_named hvia, lookup_named hroute, hname, Option.none_or,
    Option.some_or]

theorem get_contentLength :
    headers.get "content-length".toList = some (ofNat (utf8Len (body.getD []))) := by
  have hkey : SipHeaders.normalize "content-length".toList = "content-length".toList := by decide
  have hvia : "content-length".toList ≠ "via".toList := by decide
  have hroute : "content-length".toList ≠ "record-route".toList := by decide
  have hcontact : "content-length".toList ≠ "contact".toList := by decide
  have hdialog : (dialogEntries echo).lookup "content-length".toList = none := rfl
  have hcontent : ((contentFields body).map
      fun field => (toAsciiLowercase field.1, field.2)).lookup "content-length".toList =
        some (ofNat (utf8Len (body.getD []))) := by
    cases body <;> rfl
  rw [SipHeaders.get_eq, h, hkey, responseEntries]
  simp only [List.lookup_append, lookup_named hvia, lookup_named hroute, lookup_named hcontact,
    hdialog, hcontent, Option.none_or]

end

theorem readsBack_of_entries {request : SipParsedRequest} {localTag : Option Str} {echo : Echo}
    (hecho : Echoes request localTag echo) {further : List (Str × Str)} {code : Nat} {reason : Str}
    {body : Option Str} {response : SipParsedResponse}
    (hcode : response.statusCode = code) (hreason : response.reasonPhrase = reason)
    (hbody : response.body = body.getD [])
    (hentries : response.headers.entries = responseEntries request echo further body) :
    ReadsBack request code reason localTag (body.getD []) response := by
  have hto : response.headers.get "to".toList = some echo.toValue :=
    get_echoed hentries (by decide) (by decide) (by decide) rfl
  obtain ⟨sent, hsent, heq⟩ := hecho.toValue
  have hkept : ∀ {value : Str} {tag : Option Str}, hasTag value = true ∨ tag = none →
      withTag value tag = value := by
    rintro value tag (htag | rfl)
    · simp [withTag, htag]
    · simp [withTag]
  constructor
  case statusCode => exact hcode
  case reasonPhrase => exact hreason
  case via => exact values_via hentries
  case recordRoute => exact values_recordRoute hentries
  case fromValue =>
    rw [hecho.fromValue]
    exact get_echoed hentries (by decide) (by decide) (by decide) rfl
  case callId =>
    rw [hecho.callId]
    exact get_echoed hentries (by decide) (by decide) (by decide) rfl
  case cseq =>
    rw [hecho.cseq]
    exact get_echoed hentries (by decide) (by decide) (by decide) rfl
  case toKept =>
    intro hcase
    rw [hsent, Option.getD_some] at hcase
    rw [hto, heq, hsent, hkept hcase]
  case toTagged =>
    intro tag hno hsome
    rw [hsent, Option.getD_some] at hno
    rw [hto, heq, hsent, hsome]
    simp [withTag, hno]
  case body => exact hbody
  case contentLength => exact get_contentLength hentries

theorem responseMessage_roundTrips {request : SipParsedRequest}
    (h : ∀ entry ∈ request.headers.entries, Clean entry.2) {localTag : Option Str} {echo : Echo}
    (hecho : Echoes request localTag echo) (htag : ∀ tag ∈ localTag, IsHex tag)
    (further : List (Str × Str)) (hfurther : ∀ field ∈ further, CleanField field)
    (hcontact : ∀ field ∈ further, toAsciiLowercase (trim field.1) = "contact".toList)
    {code : Nat} (hcode : code < 65536) (reason : List Str)
    (hreason : ∀ word ∈ reason, IsWord word) (body : Option Str) :
    RoundTrips request code (join [' '] reason) localTag (body.getD [])
      (some (responseMessage request (statusLine code (join [' '] reason)) echo
        (further.map fieldLine) body)) := by
  obtain ⟨response, hparse, hc, hr, hb, hentries⟩ := parseSipResponse_message hcode hreason
    (responseFields_clean h hecho htag hfurther body) body
  refine ⟨_, response, rfl, ?_, readsBack_of_entries hecho hc hr hb
    (hentries.trans (responseFields_lower request echo body hcontact))⟩
  rw [responseMessage, lines_eq_fields]
  exact hparse

theorem buildResponseForRequest_roundTrips {request : SipParsedRequest}
    (hrequest : ∀ entry ∈ request.headers.entries, Clean entry.2) (hanswer : Answerable request)
    {localTag : Option Str} (htag : ∀ tag ∈ localTag, IsHex tag) {code : Nat}
    (hcode : code < 65536) (reason : List Str) (hreason : ∀ word ∈ reason, IsWord word)
    (body : Option Str) :
    RoundTrips request code (join [' '] reason) localTag (body.getD [])
      (buildResponseForRequest request code (join [' '] reason) localTag body) := by
  obtain ⟨echo, hecho⟩ := (answerable_iff localTag).mp hanswer
  rw [buildResponseForRequest_eq_some.mpr ⟨echo, hecho, rfl⟩]
  exact responseMessage_roundTrips hrequest hecho htag [] (by simp) (by simp) hcode reason
    hreason body

def contactField (localHost : Str) : Str × Str :=
  ("Contact".toList, "<sip:sbc@".toList ++ localHost ++ ":5060>".toList)

theorem contactField_clean {localHost : Str} (h : '\n' ∉ localHost) :
    CleanField (contactField localHost) := by
  refine ⟨?_, ⟨?_, ?_⟩, ?_⟩
  · show IsFieldName "Contact".toList
    decide
  · rintro c hc
    obtain rfl : '<' = c := Option.some.inj hc
    decide
  · rintro c hc
    have hlast : (contactField localHost).2.getLast? = some '>' := by
      unfold contactField
      rw [List.getLast?_append]
      rfl
    obtain rfl : '>' = c := Option.some.inj (hlast.symm.trans hc)
    decide
  · have hfront : '\n' ∉ "<sip:sbc@".toList := by decide
    have hback : '\n' ∉ ":5060>".toList := by decide
    show '\n' ∉ "<sip:sbc@".toList ++ localHost ++ ":5060>".toList
    simp only [List.mem_append, hfront, h, hback, or_self, not_false_eq_true]

theorem buildSip200OkForInvite_roundTrips {request : SipParsedRequest}
    (hrequest : ∀ entry ∈ request.headers.entries, Clean entry.2) (hanswer : Answerable request)
    {localTag localHost : Str} (htag : IsHex localTag) (hhost : '\n' ∉ localHost)
    (localRtpPort : Nat) :
    RoundTrips request 200 "OK".toList (some localTag) (buildSdpOffer localHost localRtpPort)
      (buildSip200OkForInvite request localTag localHost localRtpPort) := by
  obtain ⟨echo, hecho⟩ := (answerable_iff (some localTag)).mp hanswer
  have hok : IsWord "OK".toList := isWord_of_all (by decide)
  have hcontact : toAsciiLowercase (trim (contactField localHost).1) = "contact".toList := by
    show toAsciiLowercase (trim "Contact".toList) = "contact".toList
    decide
  have hsome : ∀ tag ∈ some localTag, IsHex tag := by simpa using htag
  have hcode : 200 < 65536 := by omega
  have hround := responseMessage_roundTrips hrequest hecho hsome [contactField localHost]
    (by simpa using contactField_clean hhost) (by simpa using hcontact) hcode
    ["OK".toList] (by simpa using hok) (some (buildSdpOffer localHost localRtpPort))
  rw [buildSip200OkForInvite_eq_some.mpr ⟨echo, hecho, rfl⟩]
  exact hround

/-- Every response to a request that was parsed is read back with its status, its
reason, the route and dialog headers of the request, and the body it was built with. -/
theorem responses_read_back {message : Str} {request : SipParsedRequest}
    (hparse : parseSipRequest message = some request) (hanswer : Answerable request)
    {localTag : Str} (htag : IsHex localTag) {localHost : Str} (hhost : '\n' ∉ localHost) :
    RoundTrips request 100 "Trying".toList none [] (buildSipTryingForInvite request) ∧
    RoundTrips request 180 "Ringing".toList (some localTag) []
      (buildSipRingingForInvite request localTag) ∧
    (∀ localRtpPort, RoundTrips request 200 "OK".toList (some localTag)
      (buildSdpOffer localHost localRtpPort)
      (buildSip200OkForInvite request localTag localHost localRtpPort)) ∧
    ∀ code < 65536, ∀ reason : List Str, (∀ word ∈ reason, IsWord word) →
      RoundTrips request code (join [' '] reason) (some localTag) []
        (buildSipFinalResponseForInvite request code (join [' '] reason) localTag) ∧
      RoundTrips request code (join [' '] reason) none []
        (buildResponseForInDialogRequest message code (join [' '] reason)) := by
  have hrequest := parseSipRequest_clean hparse
  have hsome : ∀ tag ∈ some localTag, IsHex tag := by simpa using htag
  have htrying : IsWord "Trying".toList := isWord_of_all (by decide)
  have hringing : IsWord "Ringing".toList := isWord_of_all (by decide)
  refine ⟨?_, ?_, fun localRtpPort => ?_, fun code hcode reason hreason => ⟨?_, ?_⟩⟩
  · exact buildResponseForRequest_roundTrips hrequest hanswer (by simp) (by omega)
      ["Trying".toList] (by simpa using htrying) none
  · exact buildResponseForRequest_roundTrips hrequest hanswer hsome (by omega)
      ["Ringing".toList] (by simpa using hringing) none
  · exact buildSip200OkForInvite_roundTrips hrequest hanswer htag hhost localRtpPort
  · exact buildResponseForRequest_roundTrips hrequest hanswer hsome hcode reason hreason none
  · rw [buildResponseForInDialogRequest, hparse]
    exact buildResponseForRequest_roundTrips hrequest hanswer (by simp) hcode reason hreason none

def proxiedInvite : Str :=
  joinLines ["INVITE sip:6001@gateway SIP/2.0".toList, "Via: SIP/2.0/UDP b".toList,
    "Via:  SIP/2.0/UDP a ".toList, "From: <sip:x@a>;tag=1".toList, "To: <sip:6001@gateway>".toList,
    "Call-ID: c1".toList, "CSeq: 1 INVITE".toList] ++ blankLine

theorem proxied_call_is_read_back : ∃ request, parseSipRequest proxiedInvite = some request ∧
    RoundTrips request 180 "Ringing".toList (some "0af9".toList) []
      (buildSipRingingForInvite request "0af9".toList) := by
  have hany : (parseSipRequest proxiedInvite).any (fun request => decide (Answerable request)) =
      true := by
    decide +kernel
  obtain ⟨request, hrequest, hanswer⟩ := (Option.any_eq_true _ _).mp hany
  rw [decide_eq_true_eq] at hanswer
  have htag : IsHex "0af9".toList := isHex_of_all (by decide)
  have hhost : '\n' ∉ "10.0.0.1".toList := by decide
  exact ⟨request, hrequest, (responses_read_back hrequest hanswer htag hhost).2.1⟩

end DemoService.Sip
