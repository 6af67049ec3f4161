import DemoService.SipEngine
import DemoService.SipRoundTrip

/-! The tag parameters of a To header value, and those of the values that the gateway answers
with. -/

namespace DemoService.Sip

open RustText NetAddr

/-! ### The parameters of a header value -/

/-- Where a character of a name-addr stands: outside, in a quoted string, after a backslash there,
or in angle brackets. -/
inductive Place
  | outside
  | quoted
  | escaped
  | angled
  deriving DecidableEq, Repr

def Place.next (place : Place) (c : Char) : Place :=
  match place with
  | .outside => if c = '"' then .quoted else if c = '<' then .angled else .outside
  | .quoted => if c = '\\' then .escaped else if c = '"' then .outside else .quoted
  | .escaped => .quoted
  | .angled => if c = '>' then .outside else .angled

/-- The parts of a value between the semicolons that stand outside. -/
def outerFields (place : Place) : Str → List Str
  | [] => [[]]
  | c :: cs =>
    if place = .outside ∧ c = ';' then [] :: outerFields .outside cs
    else
      match outerFields (place.next c) cs with
      | [] => [[c]]
      | field :: fields => (c :: field) :: fields

/-- All quoted strings and angle brackets are closed. -/
def Closed (value : Str) : Prop := value.foldl Place.next .outside = .outside

instance (value : Str) : Decidable (Closed value) := inferInstanceAs (Decidable (_ = _))

/-- The value of a tag parameter; spaces may surround its parts. -/
def tagOf (field : Str) : Option Str :=
  match splitOnce ['='] field with
  | some (name, value) => if toAsciiLowercase (trim name) = "tag".toList then some (trim value) else none
  | none => none

/-- The header-level tags of a name-addr or a bare URI: the parameters after the address. -/
def headerTags (value : Str) : List Str := (outerFields .outside value).tail.filterMap tagOf

theorem outerFields_ne_nil (place : Place) (s : Str) : outerFields place s ≠ [] := by
  cases s with
  | nil => exact List.cons_ne_nil _ _
  | cons c cs =>
    rw [outerFields]
    split
    · exact List.cons_ne_nil _ _
    · split <;> exact List.cons_ne_nil _ _

theorem outerFields_single {s : Str} (h : ';' ∉ s) (place : Place) : outerFields place s = [s] := by
  induction s generalizing place with
  | nil => rfl
  | cons c cs ih =>
    rw [List.mem_cons, not_or] at h
    rw [outerFields, if_neg fun hc => h.1 hc.2.symm, ih h.2]

theorem outerFields_semicolon (t : Str) :
    outerFields .outside (';' :: t) = [] :: outerFields .outside t := if_pos ⟨rfl, rfl⟩

/-- A semicolon after a closed text starts a new field. -/
theorem outerFields_append {s : Str} {place : Place} (h : s.foldl Place.next place = .outside)
    (t : Str) : outerFields place (s ++ ';' :: t) =
      outerFields place s ++ outerFields .outside t := by
  induction s generalizing place with
  | nil =>
    obtain rfl : place = .outside := h
    exact outerFields_semicolon t
  | cons c cs ih =>
    by_cases hc : place = .outside ∧ c = ';'
    · obtain ⟨rfl, rfl⟩ := hc
      have hrest : outerFields .outside (cs ++ ';' :: t) =
          outerFields .outside cs ++ outerFields .outside t := ih h
      rw [List.cons_append, outerFields_semicolon, outerFields_semicolon, hrest, List.cons_append]
    · have hrest : outerFields (place.next c) (cs ++ ';' :: t) =
          outerFields (place.next c) cs ++ outerFields .outside t := ih h
      rw [List.cons_append, outerFields, if_neg hc, outerFields, if_neg hc, hrest]
      cases hfields : outerFields (place.next c) cs with
      | nil => exact absurd hfields (outerFields_ne_nil _ _)
      | cons field fields => rfl

theorem isHex_clean {tag : Str} (h : IsHex tag) : ';' ∉ tag ∧ trim tag = tag := by
  have hspace : ∀ c ∈ tag, ¬ isWhitespace c = true := fun c hc => isHexDigit_not_space (h c hc)
  refine ⟨fun hc => ?_, trim_of_trimmed ⟨fun c hc => ?_, fun c hc => ?_⟩⟩
  · have hhex := h ';' hc
    revert hhex
    decide
  · exact hspace c (List.mem_of_mem_head? hc)
  · exact hspace c (List.mem_of_getLast? hc)

theorem tagOf_localTag {tag : Str} (h : IsHex tag) : tagOf ("tag=".toList ++ tag) = some tag := by
  have hname : '=' ∉ "tag".toList := by decide
  have hsplit : splitOnce ['='] ("tag=".toList ++ tag) = some ("tag".toList, tag) :=
    splitOnce_char hname tag
  have hlower : toAsciiLowercase (trim "tag".toList) = "tag".toList := by decide
  rw [tagOf, hsplit]
  simp only [hlower, if_true, (isHex_clean h).2]

/-- What the gateway appends to a closed value is one more header-level tag. -/
theorem headerTags_append {value tag : Str} (hclosed : Closed value) (htag : IsHex tag) :
    headerTags (value ++ ";tag=".toList ++ tag) = headerTags value ++ [tag] := by
  have hsemi : ';' ∉ "tag=".toList ++ tag := by
    rw [List.mem_append, not_or]
    exact ⟨by decide, (isHex_clean htag).1⟩
  have hfields : outerFields .outside (value ++ ';' :: ("tag=".toList ++ tag)) =
      outerFields .outside value ++ ["tag=".toList ++ tag] := by
    rw [outerFields_append hclosed, outerFields_single hsemi]
  have htail : (outerFields .outside value ++ ["tag=".toList ++ tag]).tail =
      (outerFields .outside value).tail ++ ["tag=".toList ++ tag] :=
    List.tail_append_of_ne_nil (outerFields_ne_nil .outside value)
  have hvalue : value ++ ";tag=".toList ++ tag = value ++ ';' :: ("tag=".toList ++ tag) :=
    List.append_assoc _ _ _
  have hone : ["tag=".toList ++ tag].filterMap tagOf = [tag] := by
    rw [List.filterMap_cons_some (tagOf_localTag htag), List.filterMap_nil]
  rw [headerTags, hvalue, hfields, htail, List.filterMap_append, headerTags, hone]

/-! ### The tag of an answer -/

/-- The value has one tag, that of the request if it had one and else the local one. -/
def OneTag (requested localTag value : Str) : Prop :=
  ∃ tag, headerTags value = [tag] ∧
    if headerTags requested = [] then tag = localTag else tag ∈ headerTags requested

/-- The substring that the gateway looks for is there if the value has its one tag, and not there
if it has none. -/
def TagDetected (value : Str) : Prop :=
  if hasTag value then (headerTags value).length = 1 else headerTags value = []

theorem oneTag_withTag_iff {value localTag : Str} (hclosed : Closed value) (htag : IsHex localTag) :
    OneTag value localTag (withTag value (some localTag)) ↔ TagDetected value := by
  rw [OneTag, TagDetected, withTag]
  by_cases hdetected : hasTag value = true
  · rw [if_pos hdetected, if_pos hdetected, List.length_eq_one_iff]
    refine exists_congr fun tag => ⟨And.left, fun h => ⟨h, ?_⟩⟩
    rw [h, if_neg (List.cons_ne_nil _ _)]
    exact List.mem_singleton_self tag
  · rw [if_neg hdetected, if_neg hdetected]
    simp only [headerTags_append hclosed htag]
    constructor
    · rintro ⟨tag, htags, -⟩
      have hlen := congrArg List.length htags
      rw [List.length_append] at hlen
      exact List.length_eq_zero_iff.mp (Nat.succ_injective hlen)
    · intro hnone
      rw [hnone]
      exact ⟨localTag, rfl, rfl⟩

/-- The response is built and read back with one tag in its To value. -/
def AnswersWithOneTag (requested localTag : Str) (built : Option Str) : Prop :=
  ∃ payload response value, built = some payload ∧ parseSipResponse payload = some response ∧
    response.headers.get "to".toList = some value ∧ OneTag requested localTag value

theorem answersWithOneTag_iff {request : SipParsedRequest} {requested localTag content reason : Str}
    {code : Nat} {built : Option Str} (hto : request.headers.get "to".toList = some requested)
    (hclosed : Closed requested) (htag : IsHex localTag)
    (h : RoundTrips request code reason (some localTag) content built) :
    AnswersWithOneTag requested localTag built ↔ TagDetected requested := by
  obtain ⟨payload, response, rfl, hparse, hreads⟩ := h
  have hvalue : response.headers.get "to".toList = some (withTag requested (some localTag)) := by
    have hkept := hreads.toKept
    have htagged := hreads.toTagged localTag
    rw [hto, Option.getD_some] at hkept htagged
    by_cases hdetected : hasTag requested = true
    · rw [hkept (.inl hdetected), withTag, if_pos hdetected]
    · rw [htagged (Bool.not_eq_true _ ▸ hdetected) rfl, withTag, if_neg hdetected]
      rfl
  rw [← oneTag_withTag_iff hclosed htag]
  constructor
  · rintro ⟨payload', response', value, hbuilt, hparse', hget, hone⟩
    obtain rfl := Option.some.inj hbuilt
    obtain rfl := Option.some.inj (hparse.symm.trans hparse')
    obtain rfl := Option.some.inj (hvalue.symm.trans hget)
    exact hone
  · exact fun hone => ⟨payload, response, _, rfl, hparse, hvalue, hone⟩

/-- For every request with a closed To value, the answers with a local tag and
the dialog's own value have exactly one tag where the substring search is right about the value. -/
theorem one_to_tag_iff {message : Str} {request : SipParsedRequest}
    (hparse : parseSipRequest message = some request) (hanswer : Answerable request)
    {requested : Str} (hto : request.headers.get "to".toList = some requested)
    (hclosed : Closed requested) {localTag : Str} (htag : IsHex localTag) {localHost : Str}
    (hhost : '\n' ∉ localHost) :
    (AnswersWithOneTag requested localTag (buildSipRingingForInvite request localTag) ↔
        TagDetected requested) ∧
    (∀ localRtpPort, AnswersWithOneTag requested localTag
      (buildSip200OkForInvite request localTag localHost localRtpPort) ↔ TagDetected requested) ∧
    (∀ code < 65536, ∀ reason : List Str, (∀ word ∈ reason, IsWord word) →
      (AnswersWithOneTag requested localTag
        (buildSipFinalResponseForInvite request code (join [' '] reason) localTag) ↔
          TagDetected requested)) ∧
    (OneTag requested localTag (ensureTag requested localTag) ↔ TagDetected requested) := by
  obtain ⟨-, hringing, hok, hfinal⟩ := responses_read_back hparse hanswer htag hhost
  refine ⟨answersWithOneTag_iff hto hclosed htag hringing, fun localRtpPort => ?_,
    fun code hcode reason hreason => ?_, oneTag_withTag_iff hclosed htag⟩
  · exact answersWithOneTag_iff hto hclosed htag (hok localRtpPort)
  · exact answersWithOneTag_iff hto hclosed htag (hfinal code hcode reason hreason).1

theorem proxied_call_gets_one_tag : ∃ request requested,
    parseSipRequest proxiedInvite = some request ∧
      request.headers.get "to".toList = some requested ∧
        AnswersWithOneTag requested "0af9".toList
          (buildSipRingingForInvite request "0af9".toList) := by
  have hany : (parseSipRequest proxiedInvite).any (fun request => decide (Answerable request ∧
      request.headers.get "to".toList = some "<sip:6001@gateway>".toList)) = true := by
    decide +kernel
  obtain ⟨request, hrequest, hgood⟩ := (Option.any_eq_true _ _).mp hany
  rw [decide_eq_true_eq] at hgood
  have htag : IsHex "0af9".toList := isHex_of_all (by decide)
  have hhost : '\n' ∉ "10.0.0.1".toList := by decide
  have hdetected : TagDetected "<sip:6001@gateway>".toList := by
    rw [TagDetected]
    decide +kernel
  exact ⟨request, _, hrequest, hgood.2,
    (one_to_tag_iff hrequest hgood.1 hgood.2 (by decide) htag hhost).1.mpr hdetected⟩

/-- A To value whose tag stands after a space, as the grammar allows. -/
def spacedTo : Str := "<sip:6001@gateway>; tag=abc".toList

def spacedInvite : Str :=
  joinLines ["INVITE sip:6001@gateway SIP/2.0".toList, "Via: SIP/2.0/UDP b".toList,
    "From: <sip:x@a>;tag=1".toList, "To: ".toList ++ spacedTo, "Call-ID: c1".toList,
    "CSeq: 1 INVITE".toList] ++ blankLine

/-- A To value with a tag in its URI only. -/
def uriTagTo : Str := "<sip:6001@gateway;tag=x>".toList

theorem spaced_tag_doubled : (∃ request, parseSipRequest spacedInvite = some request ∧
    request.headers.get "to".toList = some spacedTo ∧ headerTags spacedTo = ["abc".toList] ∧
      ¬ AnswersWithOneTag spacedTo "0af9".toList
        (buildSipRingingForInvite request "0af9".toList)) ∧
    headerTags (ensureTag spacedTo "0af9".toList) = ["abc".toList, "0af9".toList] ∧
      headerTags (ensureTag uriTagTo "0af9".toList) = [] := by
  have hany : (parseSipRequest spacedInvite).any (fun request => decide (Answerable request ∧
      request.headers.get "to".toList = some spacedTo)) = true := by
    decide +kernel
  obtain ⟨request, hrequest, hgood⟩ := (Option.any_eq_true _ _).mp hany
  rw [decide_eq_true_eq] at hgood
  have htag : IsHex "0af9".toList := isHex_of_all (by decide)
  have hhost : '\n' ∉ "10.0.0.1".toList := by decide
  have hringing := (responses_read_back hrequest hgood.1 htag hhost).2.1
  have htwo : ¬ TagDetected spacedTo := by
    rw [TagDetected]
    decide +kernel
  refine ⟨⟨request, hrequest, hgood.2, by decide +kernel, fun hone => htwo ?_⟩, by decide +kernel,
    by decide +kernel⟩
  exact (answersWithOneTag_iff hgood.2 (by decide) htag hringing).mp hone

end DemoService.Sip
