import DemoService.SipRoundTrip

/-! The header fields of a built message: as they are put into it, and as the
header parser finds them in the text. -/

namespace DemoService.Sip

open RustText NetAddr

/-- The header section of a message, whatever its start line. -/
def headersOf (payload : Str) : SipHeaders :=
  parseHeaders .empty ((lines (splitSipMessage payload).1).drop 1)

/-- The message was put together with this value in its first field of the name. -/
def Carries (payload name value : Str) : Prop :=
  ∃ (start : Str) (fields : List (Str × Str)) (body : Option Str),
    payload = buildSipMessage (start :: fields.map fieldLine) body ∧ fields.lookup name = some value

/-- The header parser finds this value under the name in the text. -/
def Reads (payload name value : Str) : Prop := (headersOf payload).get name = some value

def lowerFields (fields : List (Str × Str)) : List (Str × Str) :=
  fields.map fun field => (toAsciiLowercase (trim field.1), field.2)

theorem headersOf_build {start : Str} (hne : start ≠ []) (hone : '\n' ∉ start)
    {fields : List (Str × Str)} (hfields : ∀ field ∈ fields, CleanField field) (body : Option Str) :
    (headersOf (buildSipMessage (start :: fields.map fieldLine) body)).entries =
      lowerFields fields := by
  have honeLine : ∀ line ∈ start :: fields.map fieldLine, '\n' ∉ line := by
    refine List.forall_mem_cons.mpr ⟨hone, ?_⟩
    intro line hline
    obtain ⟨field, hfield, rfl⟩ := List.mem_map.mp hline
    exact (hfields field hfield).oneLine
  have hnonempty : ∀ line ∈ start :: fields.map fieldLine, line ≠ [] := by
    refine List.forall_mem_cons.mpr ⟨hne, ?_⟩
    intro line hline
    obtain ⟨field, -, rfl⟩ := List.mem_map.mp hline
    exact fieldLine_ne_nil field
  have hlines := lines_joinLines honeLine fun line hlast =>
    hnonempty line (List.mem_of_getLast? hlast)
  have hsplit := splitSipMessage_build (List.cons_ne_nil _ _) honeLine hnonempty body
  have hdrop : (start :: fields.map fieldLine).drop 1 = fields.map fieldLine := rfl
  unfold headersOf
  rw [hsplit, hlines, hdrop]
  exact parseHeaders_fields hfields .empty

theorem reads_build {start : Str} (hne : start ≠ []) (hone : '\n' ∉ start)
    {fields : List (Str × Str)} (hfields : ∀ field ∈ fields, CleanField field) (body : Option Str)
    {name value : Str} (h : (lowerFields fields).lookup (SipHeaders.normalize name) = some value) :
    Reads (buildSipMessage (start :: fields.map fieldLine) body) name value := by
  unfold Reads
  rw [SipHeaders.get_eq, headersOf_build hne hone hfields body]
  exact h

/-! ### Responses -/

theorem lookup_prefix_named {name key : Str} (h : key ≠ name) (vs : List Str)
    (fields : List (Str × Str)) :
    (vs.map (Prod.mk name) ++ fields).lookup key = fields.lookup key := by
  rw [List.lookup_append, lookup_named h, Option.none_or]

theorem responseMessage_carries_to (request : SipParsedRequest) (start : Str) (echo : Echo)
    (further : List (Str × Str)) (body : Option Str) :
    Carries (responseMessage request start echo (further.map fieldLine) body) "To".toList
      echo.toValue := by
  have hvia : "To".toList ≠ "Via".toList := by decide
  have hroute : "To".toList ≠ "Record-Route".toList := by decide
  refine ⟨start, responseFields request echo further body, body, ?_, ?_⟩
  · rw [responseMessage, lines_eq_fields]
  · unfold responseFields
    rw [List.append_assoc, List.append_assoc, List.append_assoc, lookup_prefix_named hvia,
      lookup_prefix_named hroute]
    rfl

theorem responseMessage_reads_to {request : SipParsedRequest}
    (h : ∀ entry ∈ request.headers.entries, Clean entry.2) {localTag : Option Str} {echo : Echo}
    (hecho : Echoes request localTag echo) (htag : ∀ tag ∈ localTag, IsHex tag)
    (further : List (Str × Str)) (hfurther : ∀ field ∈ further, CleanField field)
    (hcontact : ∀ field ∈ further, toAsciiLowercase (trim field.1) = "contact".toList)
    {start : Str} (hne : start ≠ []) (hone : '\n' ∉ start) (body : Option Str) :
    Reads (responseMessage request start echo (further.map fieldLine) body) "To".toList
      echo.toValue := by
  have hentries := headersOf_build hne hone (responseFields_clean h hecho htag hfurther body) body
  rw [lowerFields, responseFields_lower request echo body hcontact] at hentries
  unfold Reads
  rw [responseMessage, lines_eq_fields]
  have hto : (dialogEntries echo).lookup "to".toList = some echo.toValue := rfl
  have hget := get_echoed hentries (by decide) (by decide) (by decide) hto
  exact hget

/-! ### The BYE -/

def byeStart (dialog : InboundDialogSignaling) : Str :=
  "BYE ".toList ++ dialog.remoteRequestUri ++ " SIP/2.0".toList

def byeFields (branch : Str) (dialog : InboundDialogSignaling) : List (Str × Str) :=
  [("Via".toList, "SIP/2.0/UDP ".toList ++ dialog.localHost ++ ":5060;branch=z9hG4bK".toList ++ branch),
    ("From".toList, dialog.localFrom),
    ("To".toList, dialog.remoteTo),
    ("Call-ID".toList, dialog.callId),
    ("CSeq".toList, ofNat (nextCseq dialog.localCseq) ++ " BYE".toList),
    ("Max-Forwards".toList, "70".toList),
    ("Content-Length".toList, "0".toList)]

theorem buildByeRequest_eq (branch : Str) (dialog : InboundDialogSignaling) :
    buildByeRequest branch dialog =
      buildSipMessage (byeStart dialog :: (byeFields branch dialog).map fieldLine) none := rfl

theorem buildByeRequest_carries {branch name value : Str} {dialog : InboundDialogSignaling}
    (h : (byeFields branch dialog).lookup name = some value) :
    Carries (buildByeRequest branch dialog) name value :=
  ⟨byeStart dialog, byeFields branch dialog, none, buildByeRequest_eq branch dialog, h⟩

/-- A dialog whose values each stay on their own line of a BYE. -/
structure OneLine (dialog : InboundDialogSignaling) : Prop where
  requestUri : '\n' ∉ dialog.remoteRequestUri
  localHost : '\n' ∉ dialog.localHost
  localFrom : Clean dialog.localFrom
  remoteTo : Clean dialog.remoteTo
  callId : Clean dialog.callId

theorem byeStart_oneLine {dialog : InboundDialogSignaling} (h : '\n' ∉ dialog.remoteRequestUri) :
    '\n' ∉ byeStart dialog := by
  have hfront : '\n' ∉ "BYE ".toList := by decide
  have hback : '\n' ∉ " SIP/2.0".toList := by decide
  unfold byeStart
  simp only [List.mem_append, hfront, h, hback, or_self, not_false_eq_true]

theorem not_space_of_ends {front back : Str} {c : Char} (hc : ¬ isWhitespace c = true)
    (hback : ∀ d ∈ back, ¬ isWhitespace d = true) :
    ∀ d ∈ (front ++ c :: back).getLast?, ¬ isWhitespace d = true := by
  intro d hd
  have hlast : (front ++ c :: back).getLast? = (c :: back).getLast? := by
    rw [List.getLast?_append, List.getLast?_cons, Option.some_or]
  rw [hlast] at hd
  rcases List.mem_cons.mp (List.mem_of_getLast? hd) with rfl | hmem
  · exact hc
  · exact hback d hmem

theorem byeVia_clean {localHost branch : Str} (hhost : '\n' ∉ localHost) (hbranch : IsHex branch) :
    Clean ("SIP/2.0/UDP ".toList ++ localHost ++ ":5060;branch=z9hG4bK".toList ++ branch) := by
  have hhex : ∀ c ∈ branch, ¬ isWhitespace c = true := fun c hc => isHexDigit_not_space (hbranch c hc)
  have hnl : '\n' ∉ branch := fun hmem => hhex _ hmem (by decide)
  have hfront : '\n' ∉ "SIP/2.0/UDP ".toList := by decide
  have hback : '\n' ∉ ":5060;branch=z9hG4bK".toList := by decide
  have hsplit : "SIP/2.0/UDP ".toList ++ localHost ++ ":5060;branch=z9hG4bK".toList ++ branch =
      ("SIP/2.0/UDP ".toList ++ localHost ++ ":5060;branch=z9hG4b".toList) ++ 'K' :: branch := by
    simp
  refine ⟨⟨?_, ?_⟩, ?_⟩
  · intro c hc
    obtain rfl : 'S' = c := Option.some.inj hc
    decide
  · rw [hsplit]
    exact not_space_of_ends (by decide) hhex
  · simp only [List.mem_append, hfront, hhost, hback, hnl, or_self, not_false_eq_true]

theorem byeCseq_clean (n : Nat) : Clean (ofNat n ++ " BYE".toList) := by
  obtain ⟨hne, hword⟩ := isWord_ofNat n
  have hnl : '\n' ∉ ofNat n := fun hmem => hword _ hmem (by decide)
  refine ⟨⟨?_, ?_⟩, ?_⟩
  · intro c hc
    rw [List.head?_append_of_ne_nil _ hne] at hc
    exact hword c (List.mem_of_mem_head? hc)
  · have hsplit : ofNat n ++ " BYE".toList = (ofNat n ++ " BY".toList) ++ ['E'] := by simp
    rw [hsplit]
    exact not_space_of_ends (by decide) (by simp)
  · simp [hnl]

theorem byeFields_clean {branch : Str} (hbranch : IsHex branch) {dialog : InboundDialogSignaling}
    (h : OneLine dialog) : ∀ field ∈ byeFields branch dialog, CleanField field := by
  have hvia : IsFieldName "Via".toList := by decide
  have hfrom : IsFieldName "From".toList := by decide
  have hto : IsFieldName "To".toList := by decide
  have hcall : IsFieldName "Call-ID".toList := by decide
  have hcseq : IsFieldName "CSeq".toList := by decide
  have hforwards : IsFieldName "Max-Forwards".toList := by decide
  have hlength : IsFieldName "Content-Length".toList := by decide
  have hseventy : IsWord "70".toList := isWord_of_all (by decide)
  have hzero : IsWord "0".toList := isWord_of_all (by decide)
  simp only [byeFields, List.forall_mem_cons]
  exact ⟨⟨hvia, byeVia_clean h.localHost hbranch⟩, ⟨hfrom, h.localFrom⟩, ⟨hto, h.remoteTo⟩,
    ⟨hcall, h.callId⟩, ⟨hcseq, byeCseq_clean _⟩, ⟨hforwards, clean_of_word hseventy⟩,
    ⟨hlength, clean_of_word hzero⟩, by simp⟩

theorem buildByeRequest_reads {branch : Str} (hbranch : IsHex branch)
    {dialog : InboundDialogSignaling} (h : OneLine dialog) {name value : Str}
    (hvalue : (lowerFields (byeFields branch dialog)).lookup (SipHeaders.normalize name) =
      some value) : Reads (buildByeRequest branch dialog) name value := by
  have hne : byeStart dialog ≠ [] := by simp [byeStart]
  rw [buildByeRequest_eq]
  exact reads_build hne (byeStart_oneLine h.requestUri) (byeFields_clean hbranch h) none hvalue

end DemoService.Sip
