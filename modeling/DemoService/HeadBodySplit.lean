import DemoService.BlankLines
import DemoService.SipInvites

/-! Where the gateway splits a SIP message into head and body, against the first blank line of the
message as its header parser sees it. -/

namespace DemoService.Sip

open RustText

/-! ### The first blank line -/

/-- The headers of the lines in front of the first blank one. -/
def headersIn (ls : List Str) : SipHeaders :=
  ((headerBlock ls).filterMap headerField).foldl
    (fun headers field => headers.insert field.1 field.2) .empty

/-- All that comes after the first blank line. -/
def afterBlank : List Str → Str
  | [] => []
  | line :: rest => if trim line = [] then unlines rest else afterBlank rest

/-- Behind the line `previous`, the first blank line is one that the splitter takes for the end of
the head, or nothing comes after it: between two `\r\n`, or between two `\n` in a message that has
no `\r\n\r\n` after them. -/
def SplitsAtBlank (previous : Str) : List Str → Prop
  | [] => True
  | line :: rest =>
    if trim line = [] then
      unlines rest = [] ∨ (['\r'] <:+ previous ∧ line = ['\r']) ∨
        (line = [] ∧ ¬ blankLine <:+: unlines rest)
    else SplitsAtBlank line rest

instance : (previous : Str) → (ls : List Str) → Decidable (SplitsAtBlank previous ls)
  | _, [] => .isTrue trivial
  | _, line :: rest =>
    if h : trim line = [] then decidable_of_iff _ (by rw [SplitsAtBlank, if_pos h])
    else
      have := instDecidableSplitsAtBlank line rest
      decidable_of_iff _ (by rw [SplitsAtBlank, if_neg h])

/-! ### The body -/

section Body

theorem splitSipMessage_body (message : Str) : (splitSipMessage message).2 =
    ((textAfter blankLine message).or (textAfter (emptyLine []) message)).getD [] := by
  rw [splitSipMessage, textAfter, textAfter]
  have hcrlf : crlf ++ crlf = blankLine := rfl
  have hnewlines : ['\n', '\n'] = emptyLine [] := rfl
  rw [hcrlf, hnewlines]
  cases splitOnce blankLine message with
  | some parts => rfl
  | none =>
    cases splitOnce (emptyLine []) message with
    | some parts => rfl
    | none => rfl

theorem textAfter_lt {ending : Str} (hending : '\n' ∉ ending) {line : Str} {rest : List Str}
    (h : ∀ l ∈ line :: rest, '\n' ∉ l) {text : Str}
    (htext : textAfter (emptyLine ending) (unlines (line :: rest)) = some text) :
    text.length < (unlines rest).length := by
  induction rest generalizing line with
  | nil =>
    rw [textAfter_oneLine ending (h line List.mem_cons_self)] at htext
    cases htext
  | cons next rest ih =>
    rw [List.forall_mem_cons] at h
    rw [textAfter_emptyLine hending h.1 (h.2 next List.mem_cons_self)] at htext
    by_cases hrest : rest = []
    · subst hrest
      rw [if_neg (by simp), textAfter_oneLine ending (h.2 next List.mem_cons_self)] at htext
      cases htext
    · have hlonger : (unlines rest).length < (unlines (next :: rest)).length := by
        rw [unlines_cons hrest, List.length_append, List.length_cons]
        omega
      split at htext
      · obtain rfl := Option.some.inj htext
        exact hlonger
      · exact (ih h.2 htext).trans hlonger

theorem blankLine_infix_newline_iff {s : Str} : blankLine <:+: '\n' :: s ↔ blankLine <:+: s := by
  have hnot : ¬ blankLine <+: '\n' :: s := by simp [blankLine]
  rw [List.infix_cons_iff]
  exact or_iff_right hnot

/-- Of two searches that else come out shorter, the first one that may takes the text itself. -/
theorem getD_or_eq_iff {x y : Option Str} {text : Str} {c d : Prop} [Decidable c] [Decidable d]
    (hx : ∀ found, x = some found → found.length < text.length)
    (hy : ∀ found, y = some found → found.length < text.length) :
    ((if c then some text else x).or (if d then some text else y)).getD [] = text ↔
      text = [] ∨ c ∨ (x = none ∧ d) := by
  have hne : ∀ found : Str, found.length < text.length → found ≠ text ∧ text ≠ [] := by
    refine fun found hshort => ⟨?_, ?_⟩
    · rintro rfl
      exact lt_irrefl _ hshort
    · exact List.ne_nil_of_length_pos (Nat.zero_lt_of_lt hshort)
  by_cases hc : c
  · rw [if_pos hc]
    exact iff_of_true rfl (.inr (.inl hc))
  · rw [if_neg hc]
    cases x with
    | some found =>
      obtain ⟨hdiffers, hsome⟩ := hne found (hx found rfl)
      refine iff_of_false hdiffers ?_
      rintro (h | h | ⟨h, -⟩)
      · exact hsome h
      · exact hc h
      · cases h
    | none =>
      by_cases hd : d
      · rw [if_pos hd]
        exact iff_of_true rfl (.inr (.inr ⟨rfl, hd⟩))
      · rw [if_neg hd]
        simp only [hc, hd, and_false, or_false, Option.none_or]
        cases y with
        | some found =>
          obtain ⟨hdiffers, hsome⟩ := hne found (hy found rfl)
          exact iff_of_false hdiffers hsome
        | none => exact eq_comm

/-- What the splitter leaves is what comes after the first blank line exactly where it splits
there. -/
theorem body_iff {previous : Str} {rest : List Str} (h : ∀ line ∈ previous :: rest, '\n' ∉ line) :
    ((textAfter blankLine (unlines (previous :: rest))).or
      (textAfter (emptyLine []) (unlines (previous :: rest)))).getD [] = afterBlank rest ↔
        SplitsAtBlank previous rest := by
  have hreturn : '\n' ∉ ['\r'] := by decide
  have hempty : '\n' ∉ ([] : Str) := by decide
  have hblank : blankLine = emptyLine ['\r'] := rfl
  rw [hblank]
  induction rest generalizing previous with
  | nil =>
    have hone := h previous List.mem_cons_self
    rw [textAfter_oneLine _ hone, textAfter_oneLine _ hone]
    exact iff_of_true rfl trivial
  | cons line rest ih =>
    rw [List.forall_mem_cons] at h
    have hline := h.2 line List.mem_cons_self
    rw [textAfter_emptyLine hreturn h.1 hline, textAfter_emptyLine hempty h.1 hline, afterBlank,
      SplitsAtBlank]
    by_cases htrim : trim line = []
    · rw [if_pos htrim, if_pos htrim, getD_or_eq_iff (fun _ => textAfter_lt hreturn h.2)
        (fun _ => textAfter_lt hempty h.2), textAfter_eq_none]
      by_cases hnothing : unlines rest = []
      · simp only [hnothing, true_or]
      · have hrest : rest ≠ [] := by
          rintro rfl
          exact hnothing rfl
        have hbehind : ¬ blankLine <:+: unlines ([] :: rest) ↔ ¬ blankLine <:+: unlines rest := by
          rw [unlines_cons hrest]
          exact blankLine_infix_newline_iff.not
        simp only [hnothing, hrest, ne_eq, not_false_eq_true, and_true, false_or,
          List.nil_suffix, true_and]
        refine or_congr_right ?_
        rw [and_comm]
        refine and_congr_right ?_
        rintro rfl
        exact hbehind
    · have hcr : line ≠ ['\r'] := by
        rintro rfl
        exact htrim (by decide)
      have hlf : line ≠ [] := by
        rintro rfl
        exact htrim rfl
      simp only [hcr, hlf, htrim, false_and, and_false, if_false]
      exact ih h.2

end Body

/-! ### The head -/

section Head

theorem headerBlock_append {more : List Str} (h : ∀ line ∈ more.head?, trim line = [])
    (ls : List Str) : headerBlock (ls ++ more) = headerBlock ls := by
  induction ls with
  | nil =>
    cases more with
    | nil => rfl
    | cons line more => simp [headerBlock, h line rfl]
  | cons line ls ih =>
    unfold headerBlock at ih ⊢
    rw [List.cons_append, List.takeWhile_cons, List.takeWhile_cons, ih]

structure HeadOf (text : Str) (ls : List Str) : Prop where
  first : trim (ls.headD []) = trim (firstLine text)
  headers : headersIn ls.tail = headersIn (furtherLines text)

/-- Blanks around the lines make no difference, nor does what begins with a blank line. -/
theorem headOf_of_map_trim {text : Str} {ls : List Str} (more : List Str) (hls : ls ≠ [])
    (h : (splitChar '\n' text).map trim = (ls ++ more).map trim)
    (hmore : ∀ line ∈ more.head?, trim line = []) : HeadOf text ls := by
  obtain ⟨line, ls, rfl⟩ := List.exists_cons_of_ne_nil hls
  rw [← firstLine_cons_furtherLines, List.map_cons, List.cons_append, List.map_cons,
    List.cons.injEq] at h
  refine ⟨h.1.symm, ?_⟩
  rw [List.tail_cons, headersIn, headersIn, headerBlock_congr h.2, headerBlock_append hmore]

theorem headOf_lines (text : Str) : HeadOf text (lines text) := by
  have hspace : isWhitespace '\r' = true := by decide
  have hstrip : ∀ front : List Str, (front.map (stripSuffixChar '\r')).map trim = front.map trim := by
    intro front
    rw [List.map_map]
    exact List.map_congr_left fun line _ => trim_stripSuffixChar hspace line
  obtain hnil | ⟨front, last, hsplit⟩ := List.eq_nil_or_concat (splitChar '\n' text)
  · exact absurd hnil (splitBy_ne_nil _ text)
  · rw [List.concat_eq_append] at hsplit
    have hlines : lines text = front.map (stripSuffixChar '\r') ++
        (if last = [] then [] else [last]) := by
      rw [lines, hsplit]
      simp
    rw [hlines]
    by_cases hlast : last = []
    · subst hlast
      rw [if_pos rfl, List.append_nil]
      cases front with
      | nil =>
        have htext := unlines_splitChar text
        rw [hsplit] at htext
        subst htext
        exact ⟨rfl, rfl⟩
      | cons line front =>
        refine headOf_of_map_trim [[]] (List.cons_ne_nil _ _) ?_ (by simp [trim])
        rw [hsplit, List.map_append, List.map_append, hstrip]
    · rw [if_neg hlast]
      refine headOf_of_map_trim [] (by simp) ?_ (by simp)
      rw [hsplit, List.append_nil, List.map_append, List.map_append, hstrip]

theorem splitChar_return_trim (text : Str) :
    (splitChar '\n' (text ++ ['\r'])).map trim = (splitChar '\n' text).map trim := by
  have hreturn : ¬ decide ('\r' = '\n') = true := by decide
  have hspace : isWhitespace '\r' = true := by decide
  obtain ⟨front, last, hsplit, hconcat⟩ := splitBy_concat_neg (p := (· = '\n')) hreturn text
  rw [splitChar, splitChar, hconcat, hsplit]
  simp only [List.map_append, List.map_cons, List.map_nil, trim_concat hspace]

theorem headOf_front {ending : Str} (hending : '\n' ∉ ending) (hblank : trim ending = [])
    {front : Str}
    (hfront : (splitChar '\n' (front ++ ending)).map trim = (splitChar '\n' front).map trim)
    (back : Str) : HeadOf (front ++ emptyLine ending ++ back) (splitChar '\n' front) := by
  have htext : front ++ emptyLine ending ++ back =
      (front ++ ending) ++ '\n' :: (ending ++ '\n' :: back) := by
    simp [emptyLine]
  have hline : ∀ c ∈ ending, ¬ decide (c = '\n') = true := fun c hc => by
    simpa using fun he : c = '\n' => hending (he ▸ hc)
  refine headOf_of_map_trim (ending :: splitChar '\n' back) (splitBy_ne_nil _ _) ?_ ?_
  · rw [htext, splitChar, splitBy_append_cons (by simp), splitBy_field hline (by simp),
      List.map_append, List.map_append, ← splitChar, hfront]
    rfl
  · rintro line ⟨⟩
    exact hblank

/-- The parsers read the head of the message in the head that the splitter gives them. -/
theorem headOf_split (message : Str) : HeadOf message (lines (splitSipMessage message).1) := by
  have hlines := headOf_lines (splitSipMessage message).1
  suffices hsplit : HeadOf message (splitChar '\n' (splitSipMessage message).1) from
    ⟨hlines.first.trans hsplit.first, hlines.headers.trans hsplit.headers⟩
  have hself : HeadOf message (splitChar '\n' message) := ⟨rfl, rfl⟩
  rw [splitSipMessage]
  cases hcrlf : splitOnce (crlf ++ crlf) message with
  | some parts =>
    rw [splitOnce_eq_some hcrlf]
    exact headOf_front (by decide) (by decide) (splitChar_return_trim parts.1) parts.2
  | none =>
    cases hlf : splitOnce ['\n', '\n'] message with
    | some parts =>
      have hfront : (splitChar '\n' (parts.1 ++ [])).map trim =
          (splitChar '\n' parts.1).map trim := by
        rw [List.append_nil]
      rw [splitOnce_eq_some hlf]
      exact headOf_front List.not_mem_nil rfl hfront parts.2
    | none => exact hself

end Head

/-! ### Parsed messages -/

section Messages

/-- The words of a first line that `parse_sip_request` takes. -/
def RequestWords : List Str → Prop
  | _ :: _ :: version :: _ => eqIgnoreAsciiCase version "SIP/2.0".toList = true
  | _ => False

def StatusWords : List Str → Prop
  | version :: code :: _ =>
    eqIgnoreAsciiCase version "SIP/2.0".toList = true ∧ (parseU16 code).isSome = true
  | _ => False

theorem lineWords_of_lines {message first : Str} {rest : List Str}
    (h : lines (splitSipMessage message).1 = first :: rest) :
    splitWhitespace (trim first) = splitWhitespace (firstLine message) := by
  have hfirst := (headOf_split message).first
  rw [h, List.headD_cons] at hfirst
  rw [hfirst, splitWhitespace_trim]

theorem lineWords_of_no_lines {message : Str} (h : lines (splitSipMessage message).1 = []) :
    splitWhitespace (firstLine message) = [] := by
  have hfirst := (headOf_split message).first
  rw [h] at hfirst
  rw [← splitWhitespace_trim, ← hfirst]
  rfl

theorem headers_of_lines {message first : Str} {rest : List Str}
    (h : lines (splitSipMessage message).1 = first :: rest) :
    parseHeaders .empty rest = headersIn (furtherLines message) := by
  have hheaders := (headOf_split message).headers
  rw [h, List.tail_cons] at hheaders
  rw [← hheaders, parseHeaders_eq, headersIn]

/-- A request of the message: its first line, the headers in front of the first blank line and
what the splitter leaves. -/
theorem parseSipRequest_words {message : Str} {request : SipParsedRequest} :
    parseSipRequest message = some request ↔
      ∃ method uri version more,
        splitWhitespace (firstLine message) = method :: uri :: version :: more ∧
          eqIgnoreAsciiCase version "SIP/2.0".toList = true ∧
            request = ⟨toAsciiUppercase method, uri, version, headersIn (furtherLines message),
              (splitSipMessage message).2⟩ := by
  cases hlines : lines (splitSipMessage message).1 with
  | nil =>
    have hnone : parseSipRequest message = none := by simp only [parseSipRequest, hlines]
    rw [hnone, lineWords_of_no_lines hlines]
    simp
  | cons first rest =>
    rw [parseSipRequest_iff rfl hlines, lineWords_of_lines hlines, headers_of_lines hlines]
    exact Iff.rfl

theorem parseSipResponse_words {message : Str} {response : SipParsedResponse} :
    parseSipResponse message = some response ↔
      ∃ version code reason statusCode,
        splitWhitespace (firstLine message) = version :: code :: reason ∧
          eqIgnoreAsciiCase version "SIP/2.0".toList = true ∧ parseU16 code = some statusCode ∧
            response = ⟨version, statusCode, join [' '] reason, headersIn (furtherLines message),
              (splitSipMessage message).2⟩ := by
  cases hlines : lines (splitSipMessage message).1 with
  | nil =>
    have hnone : parseSipResponse message = none := by simp only [parseSipResponse, hlines]
    rw [hnone, lineWords_of_no_lines hlines]
    simp
  | cons first rest =>
    simp only [parseSipResponse, hlines, lineWords_of_lines hlines, headers_of_lines hlines]
    cases splitWhitespace (firstLine message) with
    | nil => simp
    | cons version words =>
      cases words with
      | nil => simp
      | cons code reason =>
        by_cases hversion : eqIgnoreAsciiCase version "SIP/2.0".toList = true
        · simp only [if_pos hversion, Option.map_eq_some_iff]
          constructor
          · rintro ⟨statusCode, hstatus, rfl⟩
            exact ⟨version, code, reason, statusCode, rfl, hversion, hstatus, rfl⟩
          · rintro ⟨_, _, _, statusCode, hline, -, hstatus, rfl⟩
            cases hline
            exact ⟨statusCode, hstatus, rfl⟩
        · simp only [if_neg hversion]
          refine iff_of_false (Option.some_ne_none _).symm ?_
          rintro ⟨_, _, _, _, hline, hsip, -⟩
          cases hline
          exact hversion hsip

/-- The headers and the body of a message are those in front of its first blank line and all that
comes after it. -/
def SplitRight (message : Str) (headers : SipHeaders) (body : Str) : Prop :=
  headers = headersIn (furtherLines message) ∧ body = afterBlank (furtherLines message)

theorem splitRight_iff (message : Str) :
    SplitRight message (headersIn (furtherLines message)) (splitSipMessage message).2 ↔
      SplitsAtBlank (firstLine message) (furtherLines message) := by
  have hlines : ∀ line ∈ firstLine message :: furtherLines message, '\n' ∉ line := by
    rw [firstLine_cons_furtherLines]
    exact fun line hline hnl => mem_splitBy hline '\n' hnl (by simp)
  have hbody := body_iff hlines
  rw [firstLine_cons_furtherLines, unlines_splitChar, ← splitSipMessage_body] at hbody
  rw [SplitRight, hbody]
  exact and_iff_right rfl

/-- Whatever the lines of a message end in, it is split at its first blank line exactly where it has
none behind its first line, nothing follows it, or it is the end of a line and an empty line of one
kind, of the second kind only without `\r\n\r\n` in what follows. -/
theorem split_at_first_blank_line_iff (message : Str) :
    ((∀ request, parseSipRequest message = some request →
        SplitRight message request.headers request.body) ∧
      ∀ response, parseSipResponse message = some response →
        SplitRight message response.headers response.body) ↔
    (RequestWords (splitWhitespace (firstLine message)) ∨
        StatusWords (splitWhitespace (firstLine message)) →
      SplitsAtBlank (firstLine message) (furtherLines message)) := by
  rw [← splitRight_iff]
  constructor
  · rintro ⟨hrequest, hresponse⟩ (hwords | hwords)
    · match hline : splitWhitespace (firstLine message), hwords with
      | method :: uri :: version :: more, hversion =>
        exact hrequest _ (parseSipRequest_words.mpr
          ⟨method, uri, version, more, hline, hversion, rfl⟩)
    · match hline : splitWhitespace (firstLine message), hwords with
      | version :: code :: reason, ⟨hversion, hcode⟩ =>
        obtain ⟨statusCode, hstatus⟩ := Option.isSome_iff_exists.mp hcode
        exact hresponse _ (parseSipResponse_words.mpr
          ⟨version, code, reason, statusCode, hline, hversion, hstatus, rfl⟩)
  · intro h
    constructor
    · intro request hrequest
      obtain ⟨method, uri, version, more, hline, hversion, rfl⟩ := parseSipRequest_words.mp hrequest
      refine h (.inl ?_)
      rw [hline]
      exact hversion
    · intro response hresponse
      obtain ⟨version, code, reason, statusCode, hline, hversion, hstatus, rfl⟩ :=
        parseSipResponse_words.mp hresponse
      refine h (.inr ?_)
      rw [hline]
      exact ⟨hversion, Option.isSome_of_eq_some hstatus⟩

example : SplitsAtBlank "OPTIONS sip:a SIP/2.0".toList
    ["Call-ID: x".toList, [], "v=0\r".toList, "s=-\r".toList, []] := by decide

/-- A request with lines that end in `\n`, and an empty line in its body that ends in `\r\n`. -/
def demoMixedEndings : Str := "OPTIONS sip:a SIP/2.0\nCall-ID: x\n\nA\r\n\r\nB".toList

theorem body_loses_what_precedes_its_own_blank_line :
    (parseSipRequest demoMixedEndings).map SipParsedRequest.body = some ['B'] ∧
      afterBlank (furtherLines demoMixedEndings) = ['A', '\r', '\n', '\r', '\n', 'B'] ∧
      ¬ ∀ request, parseSipRequest demoMixedEndings = some request →
        SplitRight demoMixedEndings request.headers request.body := by
  have hbody : (parseSipRequest demoMixedEndings).map SipParsedRequest.body = some ['B'] := by
    decide
  have hafter : afterBlank (furtherLines demoMixedEndings) =
      ['A', '\r', '\n', '\r', '\n', 'B'] := by
    decide
  refine ⟨hbody, hafter, fun h => ?_⟩
  obtain ⟨request, hrequest, hone⟩ := Option.map_eq_some_iff.mp hbody
  have hright := (h request hrequest).2
  rw [hone, hafter] at hright
  cases hright

end Messages

end DemoService.Sip
