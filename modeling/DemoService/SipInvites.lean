import Mathlib.Data.List.Nodup
import Mathlib.Data.List.Perm.Basic
import DemoService.RustBreaks
import DemoService.SipRequests

/-! The INVITE of a transfer as its receiver parses it. The strings of the request go
into the header lines as they are, so a line break in one of them begins a line of its own. -/

namespace DemoService.Sip

open RustText NetAddr

/-! ### Header lines with any text -/

/-- The name and the value that the header parser reads off a line. -/
def headerField (line : Str) : Option (Str × Str) :=
  (splitOnce [':'] (trim line)).map fun parts => (toAsciiLowercase (trim parts.1), trim parts.2)

/-- The value of a line that bears the name. -/
def valueFor (name line : Str) : Option Str :=
  (headerField line).bind fun field =>
    if field.1 = SipHeaders.normalize name then some field.2 else none

/-- The lines in front of the first blank one. -/
def headerBlock (ls : List Str) : List Str := ls.takeWhile fun line => trim line ≠ []

theorem headerField_trim (line : Str) : headerField (trim line) = headerField line := by
  rw [headerField, trim_of_trimmed (trimmed_trim line), headerField]

theorem parseHeaders_eq (headers : SipHeaders) (ls : List Str) : parseHeaders headers ls =
    ((headerBlock ls).filterMap headerField).foldl
      (fun headers field => headers.insert field.1 field.2) headers := by
  induction ls generalizing headers with
  | nil => rfl
  | cons line ls ih =>
    rw [parseHeaders, headerBlock, List.takeWhile_cons]
    by_cases hblank : trim line = []
    · simp [hblank]
    · simp only [hblank, if_false, ne_eq, not_false_eq_true, decide_true, if_true,
        List.filterMap_cons]
      rw [← headerBlock]
      cases hsplit : splitOnce [':'] (trim line) with
      | none => simp [headerField, hsplit, ih]
      | some parts => simp [headerField, hsplit, ih]

theorem parseHeaders_entries (headers : SipHeaders) (ls : List Str) :
    (parseHeaders headers ls).entries =
      headers.entries ++ (headerBlock ls).filterMap headerField := by
  rw [parseHeaders_eq]
  generalize (headerBlock ls).filterMap headerField = fields
  induction fields generalizing headers with
  | nil => exact (List.append_nil _).symm
  | cons field fields ih =>
    rw [List.foldl_cons, ih, SipHeaders.insert, List.append_assoc]
    rfl

theorem headerBlock_congr {ls ls' : List Str} (h : ls.map trim = ls'.map trim) :
    (headerBlock ls).filterMap headerField = (headerBlock ls').filterMap headerField := by
  induction ls generalizing ls' with
  | nil =>
    obtain rfl := List.map_eq_nil_iff.mp h.symm
    rfl
  | cons line ls ih =>
    cases ls' with
    | nil => cases h
    | cons line' ls' =>
      rw [List.map_cons, List.map_cons, List.cons.injEq] at h
      have hfield : headerField line = headerField line' := by
        rw [← headerField_trim line, h.1, headerField_trim]
      have hrest := ih h.2
      unfold headerBlock at hrest ⊢
      rw [List.takeWhile_cons, List.takeWhile_cons, h.1]
      split
      · rw [List.filterMap_cons, List.filterMap_cons, hfield, hrest]
      · rfl

theorem values_of_entries {headers : SipHeaders} {ls : List Str}
    (h : headers.entries = ls.filterMap headerField) (name : Str) :
    headers.values name = ls.filterMap (valueFor name) := by
  rw [SipHeaders.values, h, List.filter_filterMap, List.map_filterMap]
  apply List.filterMap_congr
  intro line _
  unfold valueFor
  cases headerField line with
  | none => rfl
  | some field =>
    by_cases hname : field.1 = SipHeaders.normalize name
    · simp [Option.filter, hname]
    · simp [Option.filter, hname]

theorem headerField_fieldLine {name : Str} (h : IsFieldName name) (value : Str) :
    headerField (fieldLine (name, value)) =
      some (toAsciiLowercase (trim name), trim value) := by
  have hcolon : ¬ isWhitespace ':' = true := by decide
  have hspace : isWhitespace ' ' = true := by decide
  obtain ⟨c, rest, rfl⟩ := List.exists_cons_of_ne_nil h.1
  have hc : isWhitespace c = false := h.2.2.2
  have hdrop : (c :: rest).dropWhile isWhitespace = c :: rest := by simp [hc]
  have htrim : trim ((' ' :: value).rdropWhile isWhitespace) = trim value := by
    rw [trim_rdropWhile]
    simp [trim, hspace]
  rw [headerField, fieldLine, trim_around hcolon, hdrop, splitOnce_char h.2.1]
  simp [htrim]

/-- One value under each name is found again among fields whose names differ. -/
theorem filterMap_valueFor {fields : List (Str × Str)} (hnames : ∀ field ∈ fields, IsFieldName field.1)
    (hdistinct : (fields.map fun field => toAsciiLowercase (trim field.1)).Nodup)
    {field : Str × Str} (h : field ∈ fields) :
    (fields.map fieldLine).filterMap (valueFor field.1) = [trim field.2] := by
  have hvalue : ∀ other ∈ fields, valueFor field.1 (fieldLine other) =
      if toAsciiLowercase (trim other.1) = SipHeaders.normalize field.1 then some (trim other.2)
      else none := by
    intro other hother
    rw [valueFor, headerField_fieldLine (hnames other hother), Option.bind_some]
  obtain ⟨before, after, rfl⟩ := List.append_of_mem h
  have hothers : ∀ other ∈ before ++ after,
      valueFor field.1 (fieldLine other) = none := by
    intro other hother
    have hmem : other ∈ before ++ field :: after := by
      rcases List.mem_append.mp hother with hother | hother
      · exact List.mem_append_left _ hother
      · exact List.mem_append_right _ (List.mem_cons_of_mem _ hother)
    have hne : toAsciiLowercase (trim other.1) ≠ toAsciiLowercase (trim field.1) := by
      rw [List.map_append, List.map_cons, List.nodup_middle, List.nodup_cons] at hdistinct
      intro heq
      apply hdistinct.1
      rw [← heq, ← List.map_append]
      exact List.mem_map_of_mem hother
    rw [hvalue other hmem, SipHeaders.normalize, if_neg hne]
  rw [List.forall_mem_append] at hothers
  have hbefore : (before.map fieldLine).filterMap (valueFor field.1) = [] := by
    rw [List.filterMap_eq_nil_iff]
    intro line hline
    obtain ⟨other, hother, rfl⟩ := List.mem_map.mp hline
    exact hothers.1 other hother
  have hafter : (after.map fieldLine).filterMap (valueFor field.1) = [] := by
    rw [List.filterMap_eq_nil_iff]
    intro line hline
    obtain ⟨other, hother, rfl⟩ := List.mem_map.mp hline
    exact hothers.2 other hother
  have hhere : valueFor field.1 (fieldLine field) = some (trim field.2) := by
    rw [hvalue field h, SipHeaders.normalize, if_pos rfl]
  rw [List.map_append, List.filterMap_append, hbefore, List.map_cons, List.filterMap_cons, hhere,
    hafter]
  rfl

/-! ### The lines of the INVITE -/

def inviteStart (request : SipInviteRequest) : Str :=
  "INVITE ".toList ++ ("sip:".toList ++ request.targetPhone ++ ['@'] ++ request.trunkHost) ++
    " SIP/2.0".toList

def inviteSdp (request : SipInviteRequest) : Str :=
  buildSdpOffer request.localHost request.localRtpPort

def inviteFields (callUuid branch fromTag : Str) (request : SipInviteRequest) : List (Str × Str) :=
  [("Via".toList, "SIP/2.0/UDP ".toList ++ request.localHost ++ ":5060;branch=z9hG4bK".toList ++
      branch),
    ("To".toList, "<sip:".toList ++ request.targetPhone ++ ['@'] ++ request.trunkHost ++ ['>']),
    ("From".toList, "<sip:".toList ++ request.twilioNumber ++ ['@'] ++ request.trunkHost ++
      ">;tag=".toList ++ fromTag),
    ("Call-ID".toList, hyphenated callUuid ++ "@rust-sbc-node".toList),
    ("CSeq".toList, "1 INVITE".toList),
    ("Contact".toList, "<sip:".toList ++ request.twilioNumber ++ ['@'] ++ request.localHost ++
      ":5060>".toList),
    ("Content-Type".toList, "application/sdp".toList),
    ("Max-Forwards".toList, "70".toList),
    ("X-Session-ID".toList, request.sessionId),
    ("Content-Length".toList, ofNat (utf8Len (inviteSdp request)))]

def inviteLines (callUuid branch fromTag : Str) (request : SipInviteRequest) : List Str :=
  inviteStart request :: (inviteFields callUuid branch fromTag request).map fieldLine

theorem buildSipInvite_payload (callUuid branch fromTag : Str) (request : SipInviteRequest) :
    (buildSipInvite callUuid branch fromTag request).payload =
      buildSipMessage (inviteLines callUuid branch fromTag request) (some (inviteSdp request)) := by
  exact rfl

theorem inviteFields_names {callUuid branch fromTag : Str} {request : SipInviteRequest} :
    (inviteFields callUuid branch fromTag request).map (·.1) =
      ["Via".toList, "To".toList, "From".toList, "Call-ID".toList, "CSeq".toList, "Contact".toList,
        "Content-Type".toList, "Max-Forwards".toList, "X-Session-ID".toList,
        "Content-Length".toList] := rfl

/-- The headers of which the message must have one each. -/
def requiredHeaders : List Str :=
  ["To".toList, "From".toList, "Call-ID".toList, "CSeq".toList, "X-Session-ID".toList,
    "Content-Length".toList]

/-- The parsed message is the one INVITE that was asked for. -/
structure OneInvite (request : SipInviteRequest) (parsed : SipParsedRequest) : Prop where
  method : parsed.method = "INVITE".toList
  single : ∀ name ∈ requiredHeaders, (parsed.headers.values name).length = 1
  session : ∀ value ∈ parsed.headers.values "X-Session-ID".toList,
    trim value = trim request.sessionId
  body : parsed.body = buildSdpOffer request.localHost request.localRtpPort
  contentLength : parsed.headers.values "Content-Length".toList = [ofNat (utf8Len parsed.body)]

/-- The header lines of the text, those included that a line break in a string begins. -/
def textLines (callUuid branch fromTag : Str) (request : SipInviteRequest) : List Str :=
  ((inviteLines callUuid branch fromTag request).flatMap (splitChar '\n')).tail

/-- The lines that a line break in a string begins. -/
def startedLines (callUuid branch fromTag : Str) (request : SipInviteRequest) : List Str :=
  (inviteLines callUuid branch fromTag request).flatMap furtherLines

/-- The session id is one line, and the lines that the other strings begin are neither blank
nor one of the headers. -/
structure Harmless (callUuid branch fromTag : Str) (request : SipInviteRequest) : Prop where
  session : '\n' ∉ request.sessionId
  started : ∀ line ∈ startedLines callUuid branch fromTag request,
    trim line ≠ [] ∧ ∀ name ∈ requiredHeaders, valueFor name line = none

/-- The lines give one value to each of the headers, and the right ones to two of them. -/
structure ReadsOnce (request : SipInviteRequest) (block : List Str) : Prop where
  single : ∀ name ∈ requiredHeaders, (block.filterMap (valueFor name)).length = 1
  session : ∀ value ∈ block.filterMap (valueFor "X-Session-ID".toList),
    trim value = trim request.sessionId
  contentLength : block.filterMap (valueFor "Content-Length".toList) =
    [ofNat (utf8Len (inviteSdp request))]

/-- A blank line that a string begins ends the headers, after the strings have spelled out
those that it cuts off. -/
structure Replaced (callUuid branch fromTag : Str) (request : SipInviteRequest) : Prop where
  blank : ∃ line ∈ startedLines callUuid branch fromTag request, trim line = []
  spelled : ReadsOnce request (headerBlock (textLines callUuid branch fromTag request))

/-- The strings of the request do not show in the structure of the message. -/
structure Transparent (callUuid branch fromTag : Str) (request : SipInviteRequest) : Prop where
  noBlankLine : ∀ text ∈ [request.targetPhone, request.trunkHost, request.twilioNumber,
    request.localHost, request.sessionId ++ crlf], ¬ blankLine <:+: text
  version : ∃ word, (splitWhitespace (firstLine (inviteStart request)))[2]? = some word ∧
    eqIgnoreAsciiCase word "SIP/2.0".toList = true
  headers : Harmless callUuid branch fromTag request ∨ Replaced callUuid branch fromTag request

/-! ### The end of the headers -/

theorem newline_notMem_hex {text : Str} (h : IsHex text) : '\n' ∉ text :=
  fun hmem => isHexDigit_not_space (h _ hmem) (by decide)

theorem newline_notMem_callId {callUuid : Str} (h : IsHex callUuid) :
    '\n' ∉ hyphenated callUuid ++ "@rust-sbc-node".toList := by
  have hdomain : '\n' ∉ "@rust-sbc-node".toList := by decide
  have hnl := newline_notMem_hex h
  rw [List.mem_append, not_or]
  refine ⟨fun hmem => ?_, hdomain⟩
  rcases mem_join hmem with hsep | ⟨word, hword, hmem⟩
  · simp at hsep
  · apply hnl
    simp only [List.mem_cons, List.not_mem_nil, or_false] at hword
    rcases hword with rfl | rfl | rfl | rfl | rfl
    · exact List.mem_of_mem_take hmem
    · exact List.mem_of_mem_drop (List.mem_of_mem_take hmem)
    · exact List.mem_of_mem_drop (List.mem_of_mem_take hmem)
    · exact List.mem_of_mem_drop (List.mem_of_mem_take hmem)
    · exact List.mem_of_mem_drop hmem

section Blank

theorem inviteStart_blankLine_iff (request : SipInviteRequest) :
    blankLine <:+: inviteStart request ++ crlf ↔
      blankLine <:+: request.targetPhone ∨ blankLine <:+: request.trunkHost := by
  have hline : '\n' ∉ "SIP/2.0".toList := by decide
  have hback : ¬ blankLine <:+: "SIP/2.0".toList ++ crlf := not_blankLine_infix_line hline
  have hfront : Unbroken ("INVITE ".toList ++ "sip:".toList) := by decide
  have hsplit : " SIP/2.0".toList = ' ' :: "SIP/2.0".toList := by decide
  have hshape : ∀ method scheme user host version : Str,
      method ++ (scheme ++ user ++ ['@'] ++ host) ++ ' ' :: version ++ crlf =
        method ++ scheme ++ (user ++ (['@'] ++ (host ++ ' ' :: (version ++ crlf)))) := by
    simp
  unfold inviteStart
  rw [hsplit, hshape]
  exact blankLine_infix_holes_iff (by decide) hfront (by decide) hback (by decide) (by decide) _ _

theorem via_blankLine_iff {branch : Str} (hbranch : IsHex branch) (localHost : Str) :
    blankLine <:+: fieldLine ("Via".toList, "SIP/2.0/UDP ".toList ++ localHost ++
      ":5060;branch=z9hG4bK".toList ++ branch) ++ crlf ↔ blankLine <:+: localHost := by
  have hnl : '\n' ∉ "5060;branch=z9hG4bK".toList ++ branch := by
    have hlit : '\n' ∉ "5060;branch=z9hG4bK".toList := by decide
    simp only [List.mem_append, hlit, newline_notMem_hex hbranch, or_self, not_false_eq_true]
  have hfront : Unbroken ("Via".toList ++ ':' :: ' ' :: "SIP/2.0/UDP ".toList) := by decide
  have hiff := blankLine_infix_hole_iff (by decide) hfront (d := ':') (by decide)
    (not_blankLine_infix_line hnl) localHost
  rw [← hiff]
  have hsplit : ":5060;branch=z9hG4bK".toList = ':' :: "5060;branch=z9hG4bK".toList := by decide
  simp only [fieldLine, crlf, hsplit, List.append_assoc, List.cons_append]

/-- A field with an address in angle brackets, of which two texts are a part. -/
theorem address_blankLine_iff (name last : Str) {back : Str} (hname : Unbroken name) {d : Char}
    (hlast : last = d :: back) (hd : d ∉ blankLine) (hback : '\n' ∉ back) (user host : Str) :
    blankLine <:+: fieldLine (name, "<sip:".toList ++ user ++ ['@'] ++ host ++ last) ++ crlf ↔
      blankLine <:+: user ∨ blankLine <:+: host := by
  have hopen : Unbroken (':' :: ' ' :: "<sip:".toList) := by decide
  have hfront := hname.append hopen
  have hmid : Unbroken ['@'] := by decide
  have hiff := blankLine_infix_holes_iff (by simp) hfront hd (not_blankLine_infix_line hback)
    (List.cons_ne_nil _ _) hmid user host
  rw [← hiff, hlast]
  simp only [fieldLine, crlf, List.append_assoc, List.cons_append]

theorem session_blankLine_iff (sessionId : Str) :
    blankLine <:+: fieldLine ("X-Session-ID".toList, sessionId) ++ crlf ↔
      blankLine <:+: sessionId ++ crlf := by
  have hempty : ¬ blankLine <:+: [] := by simp [blankLine]
  have hfront : Unbroken ("X-Session-ID".toList ++ [':', ' ']) := by decide
  have hiff := infix_around_iff (by decide) hfront.notMem [] (sessionId ++ crlf)
  simp only [List.nil_append, hempty, false_or, List.append_assoc, List.cons_append] at hiff
  simp only [fieldLine, List.append_assoc, List.cons_append, hiff]

theorem oneLine_blankLine (name value : Str) (hname : '\n' ∉ name) (hvalue : '\n' ∉ value) :
    ¬ blankLine <:+: fieldLine (name, value) ++ crlf := by
  apply not_blankLine_infix_line
  simp [fieldLine, hname, hvalue]

theorem inviteLines_blankLine_iff {callUuid branch fromTag : Str} (hcall : IsHex callUuid)
    (hbranch : IsHex branch) (htag : IsHex fromTag) (request : SipInviteRequest) :
    (∃ line ∈ inviteLines callUuid branch fromTag request, blankLine <:+: line ++ crlf) ↔
      ∃ text ∈ [request.targetPhone, request.trunkHost, request.twilioNumber, request.localHost,
        request.sessionId ++ crlf], blankLine <:+: text := by
  have hto := address_blankLine_iff "To".toList ['>'] (by decide) rfl (by decide) (by decide)
    request.targetPhone request.trunkHost
  have htagged : ">;tag=".toList ++ fromTag = '>' :: (";tag=".toList ++ fromTag) := by
    have hsplit : ">;tag=".toList = '>' :: ";tag=".toList := by decide
    rw [hsplit, List.cons_append]
  have htagLine : '\n' ∉ ";tag=".toList ++ fromTag := by
    have hlit : '\n' ∉ ";tag=".toList := by decide
    simp only [List.mem_append, hlit, newline_notMem_hex htag, or_self, not_false_eq_true]
  have hfrom := address_blankLine_iff "From".toList _ (by decide) htagged (by decide) htagLine
    request.twilioNumber request.trunkHost
  have hcontact := address_blankLine_iff "Contact".toList ":5060>".toList (by decide) rfl (by decide) (by decide) request.twilioNumber request.localHost
  have hcallId := oneLine_blankLine "Call-ID".toList _ (by decide) (newline_notMem_callId hcall)
  have hcseq := oneLine_blankLine "CSeq".toList "1 INVITE".toList (by decide) (by decide)
  have htype := oneLine_blankLine "Content-Type".toList "application/sdp".toList (by decide)
    (by decide)
  have hforwards := oneLine_blankLine "Max-Forwards".toList "70".toList (by decide) (by decide)
  have hlength := oneLine_blankLine "Content-Length".toList (ofNat (utf8Len (inviteSdp request)))
    (by decide)
    (fun hmem => (isWord_ofNat _).2 _ hmem (by decide))
  rw [← List.append_assoc] at hfrom
  simp only [inviteLines, inviteFields, List.map_cons, List.map_nil, List.exists_mem_cons_iff,
    inviteStart_blankLine_iff, via_blankLine_iff hbranch, hto, hfrom, hcontact,
    session_blankLine_iff, hcallId, hcseq, htype, hforwards, hlength, List.not_mem_nil, false_and,
    exists_false, or_false, false_or]
  constructor
  · rintro ((h | h) | h | (h | h) | (h | h) | (h | h) | h)
    all_goals simp only [h, true_or, or_true]
  · rintro (h | h | h | h | h)
    all_goals simp only [h, true_or, or_true]

end Blank

/-! ### Parsing the INVITE -/

theorem parseSipRequest_iff {message head body first : Str} {rest : List Str}
    (hsplit : splitSipMessage message = (head, body)) (hlines : lines head = first :: rest)
    (parsed : SipParsedRequest) : parseSipRequest message = some parsed ↔
      ∃ method uri version more, splitWhitespace (trim first) = method :: uri :: version :: more ∧
        eqIgnoreAsciiCase version "SIP/2.0".toList = true ∧
          parsed = ⟨toAsciiUppercase method, uri, version, parseHeaders .empty rest, body⟩ := by
  simp only [parseSipRequest, hsplit, hlines]
  split
  · rename_i method uri version more hwords
    by_cases hversion : eqIgnoreAsciiCase version "SIP/2.0".toList = true
    · rw [if_pos hversion, Option.some.injEq]
      constructor
      · rintro rfl
        exact ⟨method, uri, version, more, hwords, hversion, rfl⟩
      · rintro ⟨method', uri', version', more', hwords', -, rfl⟩
        rw [hwords] at hwords'
        cases hwords'
        rfl
    · rw [if_neg hversion]
      constructor
      · exact fun h => absurd h (by simp)
      · rintro ⟨method', uri', version', more', hwords', hversion', -⟩
        rw [hwords] at hwords'
        cases hwords'
        exact absurd hversion' hversion
  · rename_i hshort
    constructor
    · exact fun h => absurd h (by simp)
    · rintro ⟨method, uri, version, more, hwords, -, -⟩
      exact absurd hwords (hshort method uri version more)

theorem parseSipRequest_body {message : Str} {parsed : SipParsedRequest}
    (h : parseSipRequest message = some parsed) : parsed.body = (splitSipMessage message).2 := by
  cases hlines : lines (splitSipMessage message).1 with
  | nil =>
    simp only [parseSipRequest, hlines] at h
    cases h
  | cons first rest =>
    obtain ⟨method, uri, version, more, -, -, rfl⟩ := (parseSipRequest_iff rfl hlines parsed).mp h
    rfl

theorem inviteStart_words (request : SipInviteRequest) :
    ∃ words, splitWhitespace (trim (firstLine (inviteStart request))) = "INVITE".toList :: words := by
  have hword : IsWord "INVITE".toList := isWord_of_all (by decide)
  have hnl : '\n' ∉ "INVITE ".toList := by decide
  have hspace : "INVITE ".toList = "INVITE".toList ++ [' '] := by decide
  have hfirst : ∃ rest, firstLine (inviteStart request) = "INVITE".toList ++ ' ' :: rest := by
    unfold inviteStart
    rw [List.append_assoc, firstLine_append hnl, hspace]
    exact ⟨_, List.append_assoc _ _ _⟩
  obtain ⟨rest, hrest⟩ := hfirst
  rw [splitWhitespace_trim, hrest, splitWhitespace_word hword (by decide)]
  exact ⟨_, rfl⟩

section Parse

variable (callUuid branch fromTag : Str) (request : SipInviteRequest)

theorem inviteLines_lines :
    ∃ first rest, lines (joinLines (inviteLines callUuid branch fromTag request)) = first :: rest ∧
      trim first = trim (firstLine (inviteStart request)) ∧
        rest.map trim = (textLines callUuid branch fromTag request).map trim := by
  obtain ⟨front, hfront⟩ := joinLines_concat
    (inviteStart request :: ((inviteFields callUuid branch fromTag request).take 9).map fieldLine)
    (fieldLine ("Content-Length".toList, ofNat (utf8Len (inviteSdp request))))
  obtain ⟨digits, last, hdigits⟩ := List.eq_nil_or_concat (ofNat (utf8Len (inviteSdp request)))
    |>.resolve_left Nat.toDigits_ne_nil
  have hlast : last ≠ '\n' := by
    have hmem : last ∈ ofNat (utf8Len (inviteSdp request)) := by simp [hdigits]
    rintro rfl
    exact (isWord_ofNat _).2 _ hmem (by decide)
  have hend : joinLines (inviteLines callUuid branch fromTag request) =
      (front ++ "Content-Length".toList ++ ':' :: ' ' :: digits) ++ [last] := by
    refine hfront.trans ?_
    simp [fieldLine, hdigits]
  have htrim := lines_joinLines_trim hend hlast (List.cons_ne_nil _ _)
  have hflat : (inviteLines callUuid branch fromTag request).flatMap (splitChar '\n') =
      firstLine (inviteStart request) :: textLines callUuid branch fromTag request := by
    rw [textLines, inviteLines, List.flatMap_cons, ← firstLine_cons_furtherLines]
    rfl
  rw [hflat] at htrim
  cases hlines : lines (joinLines (inviteLines callUuid branch fromTag request)) with
  | nil =>
    rw [hlines] at htrim
    cases htrim
  | cons first rest =>
    rw [hlines, List.map_cons, List.map_cons, List.cons.injEq] at htrim
    exact ⟨first, rest, rfl, htrim⟩

/-! ### The lines that the strings begin -/

def firstFields : List (Str × Str) :=
  (inviteFields callUuid branch fromTag request).map fun field => (field.1, firstLine field.2)

theorem isFieldName_of_mem {field : Str × Str}
    (h : field ∈ inviteFields callUuid branch fromTag request) : IsFieldName field.1 := by
  have hnames : ∀ name ∈ (inviteFields callUuid branch fromTag request).map (·.1),
      IsFieldName name := by
    rw [inviteFields_names]
    decide
  exact hnames _ (List.mem_map_of_mem h)

theorem firstLine_fieldLine {field : Str × Str} (h : IsFieldName field.1) :
    firstLine (fieldLine field) = fieldLine (field.1, firstLine field.2) := by
  have hnl : '\n' ∉ field.1 ++ [':', ' '] := by simp [h.2.2.1]
  have hfirst := firstLine_append hnl field.2
  simpa [fieldLine] using hfirst

theorem textLines_perm : (textLines callUuid branch fromTag request).Perm
    ((firstFields callUuid branch fromTag request).map fieldLine ++
      startedLines callUuid branch fromTag request) := by
  have hfirst : (firstFields callUuid branch fromTag request).map fieldLine =
      ((inviteFields callUuid branch fromTag request).map fieldLine).map firstLine := by
    rw [firstFields, List.map_map, List.map_map]
    apply List.map_congr_left
    intro field hfield
    exact (firstLine_fieldLine (isFieldName_of_mem _ _ _ _ hfield)).symm
  have hsplit := List.map_append_flatMap_perm
    ((inviteFields callUuid branch fromTag request).map fieldLine) firstLine furtherLines
  have htext : textLines callUuid branch fromTag request = furtherLines (inviteStart request) ++
      ((inviteFields callUuid branch fromTag request).map fieldLine).flatMap
        (fun line => firstLine line :: furtherLines line) := by
    simp only [firstLine_cons_furtherLines]
    rw [textLines, inviteLines, List.flatMap_cons, ← firstLine_cons_furtherLines]
    rfl
  have hstarted : startedLines callUuid branch fromTag request =
      furtherLines (inviteStart request) ++
        ((inviteFields callUuid branch fromTag request).map fieldLine).flatMap furtherLines := rfl
  rw [htext, hstarted, hfirst]
  exact (hsplit.symm.append_left _).trans (List.perm_append_comm_assoc _ _ _)

variable {callUuid branch fromTag request}

theorem firstFields_value {name value : Str}
    (h : (name, value) ∈ inviteFields callUuid branch fromTag request) :
    ((firstFields callUuid branch fromTag request).map fieldLine).filterMap (valueFor name) =
      [trim (firstLine value)] := by
  have hnames : ∀ field ∈ firstFields callUuid branch fromTag request, IsFieldName field.1 := by
    intro field hfield
    obtain ⟨other, hother, rfl⟩ := List.mem_map.mp hfield
    have hname : IsFieldName other.1 := isFieldName_of_mem _ _ _ _ hother
    exact hname
  have hsame : (firstFields callUuid branch fromTag request).map
      (fun field => toAsciiLowercase (trim field.1)) =
        ((inviteFields callUuid branch fromTag request).map (·.1)).map
          (fun name => toAsciiLowercase (trim name)) := by
    rw [firstFields, List.map_map, List.map_map]
    rfl
  have hdistinct : ((firstFields callUuid branch fromTag request).map
      (fun field => toAsciiLowercase (trim field.1))).Nodup := by
    rw [hsame, inviteFields_names]
    decide
  exact filterMap_valueFor hnames hdistinct (List.mem_map_of_mem h)

theorem required_mem (callUuid branch fromTag : Str) (request : SipInviteRequest) {name : Str}
    (h : name ∈ requiredHeaders) :
    ∃ value, (name, value) ∈ inviteFields callUuid branch fromTag request := by
  have hall : ∀ name ∈ requiredHeaders,
      name ∈ (inviteFields callUuid branch fromTag request).map (·.1) := by
    rw [inviteFields_names]
    decide
  obtain ⟨⟨_, value⟩, hfield, rfl⟩ := List.mem_map.mp (hall name h)
  exact ⟨value, hfield⟩

theorem headerBlock_textLines
    (h : ∀ line ∈ startedLines callUuid branch fromTag request, trim line ≠ []) :
    headerBlock (textLines callUuid branch fromTag request) =
      textLines callUuid branch fromTag request := by
  rw [headerBlock, List.takeWhile_eq_self_iff]
  intro line hline
  rw [decide_eq_true_eq]
  rcases List.mem_append.mp ((textLines_perm _ _ _ _).mem_iff.mp hline) with hfirst | hstarted
  · obtain ⟨field, hfield, rfl⟩ := List.mem_map.mp hfirst
    obtain ⟨other, hother, rfl⟩ := List.mem_map.mp hfield
    have hname : IsFieldName other.1 := isFieldName_of_mem _ _ _ _ hother
    have hread := headerField_fieldLine hname (firstLine other.2)
    intro hnil
    rw [headerField, hnil] at hread
    cases hread
  · exact h line hstarted

theorem session_mem : ("X-Session-ID".toList, request.sessionId) ∈
    inviteFields callUuid branch fromTag request := by
  unfold inviteFields
  iterate 8 apply List.mem_cons_of_mem
  exact List.mem_cons_self

theorem contentLength_mem : ("Content-Length".toList, ofNat (utf8Len (inviteSdp request))) ∈
    inviteFields callUuid branch fromTag request := by
  unfold inviteFields
  iterate 9 apply List.mem_cons_of_mem
  exact List.mem_cons_self

/-- A session id of several lines gives its header only the first of them. -/
theorem session_oneLine
    (hstarted : ∀ line ∈ startedLines callUuid branch fromTag request, trim line ≠ [])
    (hread : trim (firstLine request.sessionId) = trim request.sessionId) :
    '\n' ∉ request.sessionId := by
  intro hnl
  obtain ⟨front, back, hsplit, hfront⟩ := List.eq_append_cons_of_mem hnl
  obtain ⟨hfirst, hfurther⟩ := firstLine_break hfront back
  rw [← hsplit] at hfirst hfurther
  have hname : '\n' ∉ "X-Session-ID".toList ++ [':', ' '] := by decide
  have hline : furtherLines (fieldLine ("X-Session-ID".toList, request.sessionId)) =
      splitChar '\n' back := by
    have happend := furtherLines_append hname request.sessionId
    rw [List.append_assoc, hfurther] at happend
    exact happend
  have hmem : firstLine back ∈ startedLines callUuid branch fromTag request := by
    refine List.mem_flatMap.mpr ⟨fieldLine ("X-Session-ID".toList, request.sessionId),
      List.mem_cons_of_mem _ (List.mem_map_of_mem session_mem), ?_⟩
    rw [hline, ← firstLine_cons_furtherLines]
    exact List.mem_cons_self
  obtain ⟨c, hc, hspace⟩ := exists_of_trim_ne_nil (hstarted _ hmem)
  have hback : c ∈ back := by
    have hpart : firstLine back ∈ splitBy (· = '\n') back := by
      have hcons := firstLine_cons_furtherLines back
      rw [splitChar] at hcons
      rw [← hcons]
      exact List.mem_cons_self
    exact mem_of_mem_splitBy hpart hc
  have hne := trim_break_ne hfront ⟨c, hback, hspace⟩
  rw [← hsplit, ← hread, hfirst] at hne
  exact hne rfl

theorem harmless_of_readsOnce
    (hstarted : ∀ line ∈ startedLines callUuid branch fromTag request, trim line ≠ [])
    (h : ReadsOnce request (textLines callUuid branch fromTag request)) :
    Harmless callUuid branch fromTag request := by
  have hnone : ∀ name ∈ requiredHeaders,
      (startedLines callUuid branch fromTag request).filterMap (valueFor name) = [] := by
    intro name hname
    obtain ⟨value, hvalue⟩ := required_mem callUuid branch fromTag request hname
    have hlen := ((textLines_perm callUuid branch fromTag request).filterMap (valueFor name)).length_eq
    rw [h.single name hname, List.filterMap_append, firstFields_value hvalue, List.length_append,
      List.length_singleton] at hlen
    exact List.length_eq_zero_iff.mp (by omega)
  have hvalue : trim (firstLine request.sessionId) ∈
      (textLines callUuid branch fromTag request).filterMap (valueFor "X-Session-ID".toList) := by
    rw [((textLines_perm _ _ _ _).filterMap _).mem_iff, List.filterMap_append,
      firstFields_value session_mem]
    exact List.mem_append_left _ List.mem_cons_self
  have hread := h.session _ hvalue
  rw [trim_of_trimmed (trimmed_trim _)] at hread
  exact ⟨session_oneLine hstarted hread, fun line hline => ⟨hstarted line hline, fun name hname =>
    List.filterMap_eq_nil_iff.mp (hnone name hname) line hline⟩⟩

theorem readsOnce_of_harmless (h : Harmless callUuid branch fromTag request) :
    ReadsOnce request (textLines callUuid branch fromTag request) := by
  have hvalues : ∀ name ∈ requiredHeaders, ∀ value,
      (name, value) ∈ inviteFields callUuid branch fromTag request →
        (textLines callUuid branch fromTag request).filterMap (valueFor name) =
          [trim (firstLine value)] := by
    intro name hname value hvalue
    have hnone : (startedLines callUuid branch fromTag request).filterMap (valueFor name) = [] :=
      List.filterMap_eq_nil_iff.mpr fun line hline => (h.started line hline).2 name hname
    have hperm := (textLines_perm callUuid branch fromTag request).filterMap (valueFor name)
    rw [List.filterMap_append, firstFields_value hvalue, hnone, List.append_nil] at hperm
    exact List.perm_singleton.mp hperm
  have hsession := hvalues _ (by decide) _ session_mem
  have hlength := hvalues _ (by decide) _ contentLength_mem
  constructor
  case single =>
    intro name hname
    obtain ⟨value, hvalue⟩ := required_mem callUuid branch fromTag request hname
    rw [hvalues name hname value hvalue, List.length_singleton]
  case session =>
    intro value hvalue
    rw [hsession, List.mem_singleton] at hvalue
    rw [hvalue, firstLine_of_oneLine h.session, trim_of_trimmed (trimmed_trim _)]
  case contentLength =>
    have hclean := clean_of_word (isWord_ofNat (utf8Len (inviteSdp request)))
    rw [hlength, firstLine_of_oneLine hclean.oneLine, trim_of_trimmed hclean.trimmed]

theorem readsOnce_iff : ReadsOnce request (headerBlock (textLines callUuid branch fromTag request)) ↔
    Harmless callUuid branch fromTag request ∨ Replaced callUuid branch fromTag request := by
  by_cases hblank : ∃ line ∈ startedLines callUuid branch fromTag request, trim line = []
  · constructor
    · exact fun h => Or.inr ⟨hblank, h⟩
    · rintro (h | h)
      · obtain ⟨line, hline, hnil⟩ := hblank
        exact absurd hnil (h.started line hline).1
      · exact h.spelled
  · have hstarted : ∀ line ∈ startedLines callUuid branch fromTag request, trim line ≠ [] :=
      fun line hline hnil => hblank ⟨line, hline, hnil⟩
    rw [headerBlock_textLines hstarted]
    constructor
    · exact fun h => Or.inl (harmless_of_readsOnce hstarted h)
    · rintro (h | h)
      · exact readsOnce_of_harmless h
      · exact absurd h.blank hblank

end Parse

theorem oneInvite_iff {request : SipInviteRequest} {parsed : SipParsedRequest} {block : List Str}
    (hmethod : parsed.method = "INVITE".toList) (hbody : parsed.body = inviteSdp request)
    (hentries : parsed.headers.entries = block.filterMap headerField) :
    OneInvite request parsed ↔ ReadsOnce request block := by
  have hvalues := values_of_entries hentries
  constructor
  · intro h
    refine ⟨fun name hname => ?_, ?_, ?_⟩
    · rw [← hvalues, h.single name hname]
    · rw [← hvalues]
      exact h.session
    · rw [← hvalues, h.contentLength, hbody]
  · intro h
    refine ⟨hmethod, fun name hname => ?_, ?_, hbody, ?_⟩
    · rw [hvalues, h.single name hname]
    · rw [hvalues]
      exact h.session
    · rw [hvalues, h.contentLength, hbody]

section Message

variable {callUuid branch fromTag : Str} (request : SipInviteRequest)

theorem splitOnce_invite_iff (hcall : IsHex callUuid) (hbranch : IsHex branch)
    (htag : IsHex fromTag) :
    splitOnce blankLine (buildSipInvite callUuid branch fromTag request).payload =
        some (joinLines (inviteLines callUuid branch fromTag request), inviteSdp request) ↔
      ∀ text ∈ [request.targetPhone, request.trunkHost, request.twilioNumber, request.localHost,
        request.sessionId ++ crlf], ¬ blankLine <:+: text := by
  have hne : inviteLines callUuid branch fromTag request ≠ [] := List.cons_ne_nil _ _
  have hstart : ∀ line ∈ inviteLines callUuid branch fromTag request,
      ∃ c rest, line = c :: rest ∧ c ∉ blankLine := by
    have hspace : ∀ c ∈ blankLine, isWhitespace c = true := List.all_eq_true.mp (by decide)
    refine List.forall_mem_cons.mpr ⟨?_, fun line hline => ?_⟩
    · have hsplit : "INVITE ".toList = 'I' :: "NVITE ".toList := by decide
      unfold inviteStart
      rw [hsplit]
      exact ⟨'I', _, rfl, by decide⟩
    · obtain ⟨⟨name, value⟩, hfield, rfl⟩ := List.mem_map.mp hline
      have hname : IsFieldName name := isFieldName_of_mem _ _ _ _ hfield
      obtain ⟨c, rest, rfl⟩ := List.exists_cons_of_ne_nil hname.1
      have hc : isWhitespace c = false := hname.2.2.2
      refine ⟨c, rest ++ ':' :: ' ' :: value, rfl, fun hmem => ?_⟩
      rw [hspace c hmem] at hc
      cases hc
  have hlines := blankLine_infix_lines_iff hstart
  have hhead : ((inviteLines callUuid branch fromTag request).map (· ++ ['\r', '\n'])).flatten ++
      ['\r'] = joinLines (inviteLines callUuid branch fromTag request) ++ blankLine.dropLast := by
    rw [flatten_endings hne, List.append_assoc]
    rfl
  have htexts := inviteLines_blankLine_iff hcall hbranch htag request
  rw [hhead] at hlines
  rw [buildSipInvite_payload, buildSipMessage_eq hne, Option.getD_some, List.append_assoc,
    splitOnce_append_iff (by decide), hlines]
  unfold crlf at htexts
  rw [htexts]
  simp only [not_exists, not_and]
  rfl

theorem parse_invite_iff (h : splitOnce blankLine
    (buildSipInvite callUuid branch fromTag request).payload =
      some (joinLines (inviteLines callUuid branch fromTag request), inviteSdp request)) :
    (∃ parsed, parseSipRequest (buildSipInvite callUuid branch fromTag request).payload =
        some parsed ∧ OneInvite request parsed) ↔
      (∃ word, (splitWhitespace (firstLine (inviteStart request)))[2]? = some word ∧
        eqIgnoreAsciiCase word "SIP/2.0".toList = true) ∧
          ReadsOnce request (headerBlock (textLines callUuid branch fromTag request)) := by
  have hsplit : splitSipMessage (buildSipInvite callUuid branch fromTag request).payload =
      (joinLines (inviteLines callUuid branch fromTag request), inviteSdp request) := by
    rw [splitSipMessage, show crlf ++ crlf = blankLine from rfl, h]
  obtain ⟨first, rest, hlines, hfirst, hrest⟩ := inviteLines_lines callUuid branch fromTag request
  obtain ⟨words, hwords⟩ := inviteStart_words request
  have hupper : toAsciiUppercase "INVITE".toList = "INVITE".toList := by decide
  have hentries : (parseHeaders .empty rest).entries =
      (headerBlock (textLines callUuid branch fromTag request)).filterMap headerField := by
    rw [parseHeaders_entries, headerBlock_congr hrest]
    rfl
  simp only [parseSipRequest_iff hsplit hlines, hfirst, hwords]
  rw [splitWhitespace_trim] at hwords
  rw [hwords]
  constructor
  · rintro ⟨parsed, ⟨method, uri, version, more, heq, hversion, rfl⟩, hone⟩
    obtain ⟨rfl, rfl⟩ := List.cons.inj heq
    exact ⟨⟨version, rfl, hversion⟩, (oneInvite_iff hupper rfl hentries).mp hone⟩
  · rintro ⟨⟨version, hword, hversion⟩, hread⟩
    cases words with
    | nil => cases hword
    | cons uri words =>
      cases words with
      | nil => cases hword
      | cons word more =>
        obtain rfl := Option.some.inj hword
        exact ⟨_, ⟨_, uri, word, more, rfl, hversion, rfl⟩, (oneInvite_iff hupper rfl hentries).mpr hread⟩

/-- Only the blank line that ends the headers leaves the offer as the body. -/
theorem splitOnce_of_body {parsed : SipParsedRequest}
    (hparse : parseSipRequest (buildSipInvite callUuid branch fromTag request).payload = some parsed)
    (hbody : parsed.body = inviteSdp request) :
    splitOnce blankLine (buildSipInvite callUuid branch fromTag request).payload =
      some (joinLines (inviteLines callUuid branch fromTag request), inviteSdp request) := by
  have hne : inviteLines callUuid branch fromTag request ≠ [] := List.cons_ne_nil _ _
  have hpayload : (buildSipInvite callUuid branch fromTag request).payload =
      joinLines (inviteLines callUuid branch fromTag request) ++ blankLine ++ inviteSdp request := by
    rw [buildSipInvite_payload, buildSipMessage_eq hne, Option.getD_some]
  cases hfound : splitOnce blankLine (buildSipInvite callUuid branch fromTag request).payload with
  | none =>
    rw [splitOnce_eq_none_iff, hpayload] at hfound
    exact absurd (List.infix_append _ _ _) hfound
  | some parts =>
    obtain ⟨front, back⟩ := parts
    have hback : back = inviteSdp request := by
      have hread := parseSipRequest_body hparse
      rw [splitSipMessage, show crlf ++ crlf = blankLine from rfl, hfound] at hread
      exact hread.symm.trans hbody
    have hfront := splitOnce_eq_some hfound
    rw [hpayload, hback] at hfront
    rw [hback, List.append_cancel_right (List.append_cancel_right hfront)]

/-- The INVITE of a transfer is parsed as one message with one of each header, the session id
and the offer exactly when the strings of the request do not show in its structure. -/
theorem invite_is_one_message_iff (hcall : IsHex callUuid) (hbranch : IsHex branch)
    (htag : IsHex fromTag) :
    (∃ parsed, parseSipRequest (buildSipInvite callUuid branch fromTag request).payload =
        some parsed ∧ OneInvite request parsed) ↔
      Transparent callUuid branch fromTag request := by
  have hblank := splitOnce_invite_iff request hcall hbranch htag
  constructor
  · rintro ⟨parsed, hparse, hone⟩
    have hsplit := splitOnce_of_body request hparse hone.body
    have hiff := (parse_invite_iff request hsplit).mp ⟨parsed, hparse, hone⟩
    exact ⟨hblank.mp hsplit, hiff.1, readsOnce_iff.mp hiff.2⟩
  · intro h
    exact (parse_invite_iff request (hblank.mpr h.noBlankLine)).mpr
      ⟨h.version, readsOnce_iff.mpr h.headers⟩

end Message

def sampleUuid : Str := "0f8fad5bd9cb469fa16570867728950e".toList

def sampleInvite : SipInviteRequest where
  sessionId := "session-1".toList
  targetPhone := "+15551231234".toList
  twilioNumber := "+15557654321".toList
  trunkHost := "example.sip.twilio.com".toList
  trunkPort := 5060
  localHost := "10.0.0.5".toList
  localRtpPort := 10000

theorem sample_invite_is_one_message : ∃ parsed,
    parseSipRequest (buildSipInvite sampleUuid sampleUuid sampleUuid sampleInvite).payload =
      some parsed ∧ OneInvite sampleInvite parsed := by
  have hhex : IsHex sampleUuid := isHex_of_all (by decide)
  have hnone : startedLines sampleUuid sampleUuid sampleUuid sampleInvite = [] := by decide +kernel
  have hversion : (splitWhitespace (firstLine (inviteStart sampleInvite)))[2]? =
      some "SIP/2.0".toList := by
    decide +kernel
  refine (invite_is_one_message_iff sampleInvite hhex hhex hhex).mpr
    ⟨?_, ⟨_, hversion, by decide⟩, Or.inl ⟨by decide, fun line hline => ?_⟩⟩
  · simp only [List.forall_mem_cons]
    exact ⟨no_blankLine (by decide), no_blankLine (by decide),
      no_blankLine (by decide), no_blankLine (by decide),
      not_blankLine_infix_line (by decide), by simp⟩
  · rw [hnone] at hline
    cases hline

/-- A session id with a line break gives the message a second Content-Length. -/
def injectingInvite : SipInviteRequest :=
  { sampleInvite with sessionId := "session-1\r\nContent-Length: 0".toList }

theorem session_id_injects_a_header : ¬ ∃ parsed,
    parseSipRequest (buildSipInvite sampleUuid sampleUuid sampleUuid injectingInvite).payload =
      some parsed ∧ OneInvite injectingInvite parsed := by
  rintro ⟨parsed, hparse, hone⟩
  have hcount : (parseSipRequest (buildSipInvite sampleUuid sampleUuid sampleUuid
      injectingInvite).payload).map
        (fun request => (request.headers.values "Content-Length".toList).length) = some 2 := by
    decide +kernel
  rw [hparse, Option.map_some, Option.some.injEq,
    hone.single "Content-Length".toList (by decide)] at hcount
  cases hcount

end DemoService.Sip
