import DemoService.RustBounds
import DemoService.SipFinalAnswers
import DemoService.SipRequests

/-! The tags of an inbound call: what the engine sends for it from the INVITE it
admits to the BYE it builds, read under the headers that name the dialog. -/

namespace DemoService.Sip

open AssocMap RustText NetAddr Fallible GuardedRuns

/-- What was sent for a call since its INVITE was admitted. -/
structure CallLog where
  request : SipParsedRequest
  texts : List Str

/-- The engine, and by Call-ID the log of the call last admitted under it. -/
structure Book where
  engine : Engine
  calls : Str → Option CallLog

def Book.init (config : AppConfig) : Book := ⟨Engine.new config, fun _ => none⟩

def Output.text? : Output → Option Str
  | .send payload _ _ => some payload
  | _ => none

/-- The INVITE that the turn admitted. -/
def admittedBy (e : Engine) (event : EngineEvent) (e' : Engine) : Option SipParsedRequest :=
  match event with
  | .datagram payload _ => (parseSipRequest payload).filter fun request =>
      request.method = "INVITE".toList ∧
        (e.pendingInbound.lookup (callIdOf request)).isNone = true ∧
          (e'.pendingInbound.lookup (callIdOf request)).isSome = true
  | _ => none

/-- The established or pending call the turn sends something for. -/
def servedBy (e : Engine) (event : EngineEvent) : Option Str :=
  match event with
  | .inboundSetupResult callId _ => some callId
  | .backendEndRequested callId => some callId
  | .datagram payload _ => ((parseSipRequest payload).filter fun request =>
      request.method = "INVITE".toList ∧
        (e.inboundDialogs.lookup (callIdOf request)).isSome = true).map callIdOf
  | .command _ => none

def appendTexts (texts : List Str) (calls : Str → Option CallLog) (callId : Str) :
    Str → Option CallLog :=
  Function.update calls callId ((calls callId).map fun log => { log with texts := log.texts ++ texts })

def noteTurn (e : Engine) (event : EngineEvent) (e' : Engine) (out : List Output)
    (calls : Str → Option CallLog) : Str → Option CallLog :=
  match admittedBy e event e', servedBy e event with
  | some request, _ =>
    Function.update calls (callIdOf request) (some ⟨request, out.filterMap Output.text?⟩)
  | none, some callId => appendTexts (out.filterMap Output.text?) calls callId
  | none, none => calls

def Book.step (config : AppConfig) (book : Book) (input : Env × EngineEvent) : Option Book :=
  match book.engine.handle config input.1 input.2 with
  | .ok (e', out) => some ⟨e', noteTurn book.engine input.2 e' out book.calls⟩
  | .error _ => none

/-- What was sent for a call has this value in its To header: the 180 and the 200 OK. -/
def SentTo (Has : Str → Str → Str → Prop) (value text : Str) : Prop :=
  startsWith "SIP/2.0 180 ".toList text = true ∨ startsWith "SIP/2.0 200 ".toList text = true →
    Has text "To".toList value

/-- The header values that name a dialog, in all that is sent for it. -/
structure Identity (Has : Str → Str → Str → Prop) (log : CallLog) (dialog : InboundDialog) :
    Prop where
  sent : ∀ text ∈ log.texts, SentTo Has dialog.signaling.localFrom text
  accepted : dialog.inviteOkPayload ∈ log.texts ∧
    startsWith "SIP/2.0 200 ".toList dialog.inviteOkPayload = true
  byeFrom : ∀ branch, IsHex branch →
    Has (buildByeRequest branch dialog.signaling) "From".toList dialog.signaling.localFrom
  byeTo : ∃ value, log.request.headers.get "from".toList = some value ∧ ∀ branch, IsHex branch →
    Has (buildByeRequest branch dialog.signaling) "To".toList value
  byeCallId : ∃ value, log.request.headers.get "call-id".toList = some value ∧
    ∀ branch, IsHex branch →
      Has (buildByeRequest branch dialog.signaling) "Call-ID".toList value
  byeCseq : ∃ n, dialog.signaling.localCseq < n ∧ ∀ branch, IsHex branch →
    Has (buildByeRequest branch dialog.signaling) "CSeq".toList (ofNat n ++ " BYE".toList)

/-! ### What the log of a call holds -/

/-- A text that is neither a 180 nor a 200. -/
def Plain (text : Str) : Prop :=
  startsWith "SIP/2.0 180 ".toList text = false ∧ startsWith "SIP/2.0 200 ".toList text = false

/-- The log of a call whose responses carry a tag, with its 200 OK once it was sent. -/
structure CallLogged (log : CallLog) (callId tag : Str) (ok : Option Str) : Prop where
  hexTag : IsHex tag
  parsed : ∀ entry ∈ log.request.headers.entries, Clean entry.2
  requestUri : '\n' ∉ log.request.requestUri
  callId : log.request.headers.get "call-id".toList = some callId
  texts : ∀ text ∈ log.texts,
    buildSipRingingForInvite log.request tag = some text ∨ ok = some text ∨ Plain text
  okSent : ∀ text ∈ ok, text ∈ log.texts

/-- The dialog that an INVITE makes with a tag. -/
structure DialogFor (config : AppConfig) (request : SipParsedRequest) (callId tag : Str)
    (dialog : InboundDialog) : Prop where
  accepted : ∃ port, buildSip200OkForInvite request tag config.localSipAdvertiseHost port =
    some dialog.inviteOkPayload
  localFrom : ∃ value, request.headers.get "to".toList = some value ∧
    dialog.signaling.localFrom = withTag value (some tag)
  remoteTo : request.headers.get "from".toList = some dialog.signaling.remoteTo
  callId : dialog.signaling.callId = callId
  requestUri : '\n' ∉ dialog.signaling.remoteRequestUri
  localHost : dialog.signaling.localHost = config.localSipAdvertiseHost
  localCseq : dialog.signaling.localCseq = 1

structure Book.Sound (config : AppConfig) (book : Book) : Prop where
  pending : ∀ c p, book.engine.pendingInbound.lookup c = some p → ∃ log, book.calls c = some log ∧
    log.request = p.request ∧ CallLogged log c p.localTag none
  dialogs : ∀ c d, book.engine.inboundDialogs.lookup c = some d → ∃ log tag,
    book.calls c = some log ∧ CallLogged log c tag (some d.inviteOkPayload) ∧
      DialogFor config log.request c tag d
  disjoint : ∀ c p, book.engine.pendingInbound.lookup c = some p →
    book.engine.inboundDialogs.lookup c = none

theorem plain_of_head {text : Str} {c : Char} (h : text.head? = some c) (hc : c ≠ 'S') :
    Plain text := by
  have hringing : "SIP/2.0 180 ".toList = 'S' :: "IP/2.0 180 ".toList := by decide
  have hok : "SIP/2.0 200 ".toList = 'S' :: "IP/2.0 200 ".toList := by decide
  cases text with
  | nil => cases h
  | cons d text =>
    obtain rfl : d = c := Option.some.inj h
    have hb : ('S' == d) = false := by simpa using hc.symm
    constructor
    · rw [startsWith, hringing, List.isPrefixOf, hb, Bool.false_and]
    · rw [startsWith, hok, List.isPrefixOf, hb, Bool.false_and]

theorem response_start {request : SipParsedRequest} {code : Nat} {reason : Str}
    {localTag body : Option Str} {text : Str}
    (h : buildResponseForRequest request code reason localTag body = some text) :
    ∃ rest, text = "SIP/2.0 ".toList ++ ofNat code ++ [' '] ++ rest := by
  obtain ⟨echo, -, rfl⟩ := buildResponseForRequest_eq_some.mp h
  unfold responseMessage buildSipMessage
  simp only [List.map_cons, List.flatten_cons, List.append_assoc]
  exact ⟨_, rfl⟩

theorem trying_plain {request : SipParsedRequest} {text : Str}
    (h : buildSipTryingForInvite request = some text) : Plain text := by
  obtain ⟨rest, rfl⟩ := response_start h
  have hstart : "SIP/2.0 ".toList ++ ofNat 100 ++ [' '] = "SIP/2.0 100 ".toList := by decide
  rw [hstart]
  exact ⟨rfl, rfl⟩

theorem unavailable_plain {request : SipParsedRequest} {reason tag text : Str}
    (h : buildSipFinalResponseForInvite request 503 reason tag = some text) : Plain text := by
  obtain ⟨rest, rfl⟩ := response_start h
  have hstart : "SIP/2.0 ".toList ++ ofNat 503 ++ [' '] = "SIP/2.0 503 ".toList := by decide
  rw [hstart]
  exact ⟨rfl, rfl⟩

section

variable {log : CallLog} {callId tag : Str} {ok : Option Str}

theorem CallLogged.append (h : CallLogged log callId tag ok) {texts : List Str}
    (htexts : ∀ text ∈ texts, ok = some text ∨ Plain text) :
    CallLogged { log with texts := log.texts ++ texts } callId tag ok where
  hexTag := h.hexTag
  parsed := h.parsed
  requestUri := h.requestUri
  callId := h.callId
  texts := List.forall_mem_append.mpr ⟨h.texts, fun text htext => .inr (htexts text htext)⟩
  okSent := fun text htext => List.mem_append_left _ (h.okSent text htext)

/-- The log with the 200 OK that establishes the call. -/
theorem CallLogged.accept (h : CallLogged log callId tag none) (okResponse : Str) :
    CallLogged { log with texts := log.texts ++ [okResponse] } callId tag (some okResponse) where
  hexTag := h.hexTag
  parsed := h.parsed
  requestUri := h.requestUri
  callId := h.callId
  texts := by
    refine List.forall_mem_append.mpr ⟨fun text htext => ?_, ?_⟩
    · rcases h.texts text htext with hringing | hnone | hplain
      · exact .inl hringing
      · cases hnone
      · exact .inr (.inr hplain)
    · exact List.forall_mem_singleton.mpr (.inr (.inl rfl))
  okSent := by
    intro text htext
    obtain rfl : okResponse = text := Option.some.inj htext
    exact List.mem_append_right _ (List.mem_singleton_self _)

end

/-! ### What a turn leaves of the log -/

section

variable {config : AppConfig} {env : Env} {e e' : Engine} {out : List Output}
  {calls : Str → Option CallLog}

/-- The rows of the tables that were there before have their logs still. -/
theorem Book.Sound.kept (h : Book.Sound config ⟨e, calls⟩) (hkept : Kept e e') :
    Book.Sound config ⟨e', calls⟩ where
  pending := fun c p hp => h.pending c p (hkept.pending c p hp)
  dialogs := fun c d hd => h.dialogs c d (hkept.dialogs c d hd)
  disjoint := by
    intro c p hp
    by_contra hne
    obtain ⟨d, hd⟩ := Option.ne_none_iff_exists'.mp hne
    exact absurd ((h.disjoint c p (hkept.pending c p hp)).symm.trans (hkept.dialogs c d hd)) nofun

theorem Book.Sound.of_tables (h : Book.Sound config ⟨e, calls⟩)
    (hpending : e'.pendingInbound = e.pendingInbound)
    (hdialogs : e'.inboundDialogs = e.inboundDialogs) : Book.Sound config ⟨e', calls⟩ :=
  h.kept (.of_eq hpending hdialogs)

theorem Book.Sound.countSend (h : Book.Sound config ⟨e, calls⟩) (delivered : Bool) :
    Book.Sound config ⟨e.countSend delivered, calls⟩ := by
  cases delivered
  · exact h.of_tables rfl rfl
  · exact h

theorem appendTexts_self {texts : List Str} {callId : Str} {log : CallLog}
    (h : calls callId = some log) :
    appendTexts texts calls callId callId = some { log with texts := log.texts ++ texts } := by
  unfold appendTexts
  rw [Function.update_self, h]
  rfl

theorem appendTexts_of_ne {texts : List Str} {c callId : Str} (h : c ≠ callId) :
    appendTexts texts calls callId c = calls c := Function.update_of_ne h _ _

/-- Texts that are plain, or copies of the call's 200 OK, keep the book sound. -/
theorem Book.Sound.append (h : Book.Sound config ⟨e, calls⟩) (callId : Str) (texts : List Str)
    (htexts : ∀ text ∈ texts, Plain text ∨
      ∃ d, e.inboundDialogs.lookup callId = some d ∧ d.inviteOkPayload = text) :
    Book.Sound config ⟨e, appendTexts texts calls callId⟩ where
  pending := by
    intro c p hp
    obtain ⟨log, hlog, hrequest, hlogged⟩ := h.pending c p hp
    by_cases hc : c = callId
    · subst hc
      refine ⟨_, appendTexts_self hlog, hrequest, hlogged.append ?_⟩
      intro text htext
      rcases htexts text htext with hplain | ⟨d, hd, -⟩
      · exact .inr hplain
      · exact absurd ((h.disjoint c p hp).symm.trans hd) nofun
    · exact ⟨log, (appendTexts_of_ne hc).trans hlog, hrequest, hlogged⟩
  dialogs := by
    intro c d hd
    obtain ⟨log, tag, hlog, hlogged, hdialog⟩ := h.dialogs c d hd
    by_cases hc : c = callId
    · subst hc
      refine ⟨_, tag, appendTexts_self hlog, hlogged.append ?_, hdialog⟩
      intro text htext
      rcases htexts text htext with hplain | ⟨other, hother, rfl⟩
      · exact .inr hplain
      · cases hd.symm.trans hother
        exact .inl rfl
    · exact ⟨log, tag, (appendTexts_of_ne hc).trans hlog, hlogged, hdialog⟩
  disjoint := h.disjoint

/-- The log of a call that is gone does not matter. -/
theorem Book.Sound.forget (h : Book.Sound config ⟨e, calls⟩) {callId : Str}
    (hpending : ∀ c p, e'.pendingInbound.lookup c = some p →
      c ≠ callId ∧ e.pendingInbound.lookup c = some p)
    (hdialogs : ∀ c d, e'.inboundDialogs.lookup c = some d →
      c ≠ callId ∧ e.inboundDialogs.lookup c = some d) (texts : List Str) :
    Book.Sound config ⟨e', appendTexts texts calls callId⟩ where
  pending := by
    intro c p hp
    obtain ⟨hc, hp⟩ := hpending c p hp
    obtain ⟨log, hlog, hrest⟩ := h.pending c p hp
    exact ⟨log, (appendTexts_of_ne hc).trans hlog, hrest⟩
  dialogs := by
    intro c d hd
    obtain ⟨hc, hd⟩ := hdialogs c d hd
    obtain ⟨log, tag, hlog, hrest⟩ := h.dialogs c d hd
    exact ⟨log, tag, (appendTexts_of_ne hc).trans hlog, hrest⟩
  disjoint := by
    have hkept : Kept e e' := ⟨fun c p hp => (hpending c p hp).2, fun c d hd => (hdialogs c d hd).2⟩
    exact (h.kept hkept).disjoint

theorem oneLine_of_extract {value uri : Str} (h : extractUriFromNameAddr value = .ok (some uri))
    (hvalue : '\n' ∉ value) : '\n' ∉ uri := by
  intro hnl
  unfold extractUriFromNameAddr at h
  split at h
  · obtain ⟨mid, hslice, h⟩ := bind_eq_ok.mp h
    obtain rfl : trim mid = uri := Option.some.inj (pure_eq_ok.mp h)
    obtain ⟨front, back, rfl, -⟩ := slice_eq_ok hslice
    refine hvalue ?_
    simp [mem_of_mem_trim hnl]
  · obtain rfl : trim value = uri := Option.some.inj (pure_eq_ok.mp h)
    exact hvalue (mem_of_mem_trim hnl)

theorem acceptedDialog_for {callId okResponse : Str} {pending : PendingInboundInvite}
    {bridge : InboundBridgeHandle} {dialog : InboundDialog} {log : CallLog}
    (hlog : CallLogged log callId pending.localTag none) (hrequest : log.request = pending.request)
    (hok : buildSip200OkForInvite pending.request pending.localTag config.localSipAdvertiseHost
      pending.localRtpPort = some okResponse)
    (h : acceptedDialog config env callId pending bridge okResponse = .ok dialog) :
    DialogFor config log.request callId pending.localTag dialog := by
  have hpayload := acceptedDialog_payload h
  obtain ⟨echo, hecho, -⟩ := buildSip200OkForInvite_eq_some.mp hok
  obtain ⟨toValue, hto, -⟩ := hecho.toValue
  unfold acceptedDialog at h
  obtain ⟨uri, huri, h⟩ := bind_eq_ok.mp h
  obtain ⟨target, -, h⟩ := bind_eq_ok.mp h
  have hone : '\n' ∉ uri.getD pending.request.requestUri := by
    cases uri with
    | none => exact hrequest ▸ hlog.requestUri
    | some uri =>
      unfold andThenContact at huri
      split at huri
      · cases huri
      · rename_i contact hcontact
        rw [← hrequest] at hcontact
        exact oneLine_of_extract huri (clean_of_get hlog.parsed hcontact).oneLine
  have hdialog := pure_eq_ok.mp h
  rw [hto] at hdialog
  rw [hrequest]
  refine ⟨⟨pending.localRtpPort, by rw [hpayload]; exact hok⟩, ⟨toValue, hto, ?_⟩, ?_, ?_, ?_, ?_, ?_⟩
  · rw [← hdialog]
    rfl
  · rw [← hdialog, hecho.fromValue]
    rfl
  · rw [← hdialog]
  · rw [← hdialog]
    exact hone
  · rw [← hdialog]
  · rw [← hdialog]

theorem acceptInvite_sound (h : Book.Sound config ⟨e, calls⟩) {callId : Str}
    {pending : PendingInboundInvite} {bridge : InboundBridgeHandle}
    (hpending : e.pendingInbound.lookup callId = some pending)
    (hr : acceptInvite config env e callId pending bridge = .ok (e', out)) :
    Book.Sound config ⟨e', appendTexts (out.filterMap Output.text?) calls callId⟩ := by
  have hnone := h.disjoint callId pending hpending
  have hdropped : ∀ c p, (e.refuse callId pending).pendingInbound.lookup c = some p →
      c ≠ callId ∧ e.pendingInbound.lookup c = some p := fun _ _ hp => lookup_erase_some hp
  have hgone : ∀ c d, (e.refuse callId pending).inboundDialogs.lookup c = some d →
      c ≠ callId ∧ e.inboundDialogs.lookup c = some d := by
    intro c d hd
    refine ⟨?_, hd⟩
    rintro rfl
    exact absurd (hnone.symm.trans hd) nofun
  have hforget : ∀ texts,
      Book.Sound config ⟨e.refuse callId pending, appendTexts texts calls callId⟩ := fun texts =>
    h.forget hdropped hgone texts
  unfold acceptInvite at hr
  split at hr
  · cases hr
    exact (hforget _).of_tables rfl rfl
  · rename_i okResponse hok
    split at hr
    · obtain ⟨dialog, hdialog, hr⟩ := bind_eq_ok.mp hr
      obtain ⟨log, hlog, hrequest, hlogged⟩ := h.pending callId pending hpending
      have hfor := acceptedDialog_for hlogged hrequest hok hdialog
      have hpayload := acceptedDialog_payload hdialog
      cases hr
      refine ⟨(hforget [okResponse]).pending, fun c d hd => ?_, fun c p hp => ?_⟩
      · rcases lookup_insert_some hd with ⟨rfl, rfl⟩ | ⟨-, hd⟩
        · refine ⟨_, pending.localTag, appendTexts_self hlog, ?_, hfor⟩
          rw [hpayload]
          exact hlogged.accept okResponse
        · exact (hforget [okResponse]).dialogs c d hd
      · obtain ⟨hc, hp⟩ := lookup_erase_some hp
        exact (AList.lookup_insert_ne hc).trans (h.disjoint c p hp)
    · cases hr
      exact (hforget _).of_tables rfl rfl

theorem text_reply {site : SendSite} {response : Option Str} {destination : SocketAddr} :
    (env.reply site response destination).filterMap Output.text? = response.toList := by
  cases response <;> rfl

theorem handleInboundSetupResult_sound (h : Book.Sound config ⟨e, calls⟩) {callId : Str}
    {result : Except Str InboundBridgeHandle}
    (hr : handleInboundSetupResult config env e callId result = .ok (e', out)) :
    Book.Sound config ⟨e', appendTexts (out.filterMap Output.text?) calls callId⟩ := by
  unfold handleInboundSetupResult at hr
  split at hr
  · cases hr
    exact (h.append _ _ fun _ hmem => absurd hmem List.not_mem_nil).of_tables rfl rfl
  · cases hr
    exact h.append _ _ fun _ hmem => absurd hmem List.not_mem_nil
  · rename_i pending bridge hpending
    exact acceptInvite_sound h hpending hr
  · rename_i pending reason hpending
    have hplain : ∀ text ∈ (rejectInvite env e callId pending).2.filterMap Output.text?,
        Plain text := by
      intro text htext
      rw [show (rejectInvite env e callId pending).2.filterMap Output.text? = _ from text_reply,
        Option.mem_toList] at htext
      exact unavailable_plain htext
    have happend := h.append callId _ fun text htext => .inl (hplain text htext)
    have hrefuse : Kept e (e.refuse callId pending) :=
      ⟨fun _ _ hp => (lookup_erase_some hp).2, fun _ _ hd => hd⟩
    have hcounted : Book.Sound config
        ⟨(e.refuse callId pending).fetchAdd .inboundInvitesRejectedTotal, _⟩ :=
      (happend.kept hrefuse).of_tables rfl rfl
    cases hr
    exact hcounted.countSend _

theorem handleBackendEnd_sound (h : Book.Sound config ⟨e, calls⟩) (callId : Str) :
    Book.Sound config ⟨(handleBackendEnd env e callId).1,
      appendTexts ((handleBackendEnd env e callId).2.filterMap Output.text?) calls callId⟩ := by
  unfold handleBackendEnd
  split
  · exact h.append _ _ fun _ hmem => absurd hmem List.not_mem_nil
  · rename_i dialog hdialog
    have hhead : (buildByeRequest (env.uuid .branch) dialog.signaling).head? = some 'B' :=
      head_buildSipMessage rfl _ _
    have happend := h.append callId [buildByeRequest (env.uuid .branch) dialog.signaling]
      (List.forall_mem_singleton.mpr (.inl (plain_of_head hhead (by decide))))
    exact happend.kept ((Kept.refl e).teardown _ _)

theorem Book.Sound.cleanup (h : Book.Sound config ⟨e, calls⟩) (now : Nat) :
    Book.Sound config ⟨cleanupStaleState now e, calls⟩ :=
  h.kept ((Kept.refl e).cleanup now)

/-- An INVITE that finds neither a dialog nor a pending INVITE: it is admitted, or no table changes. -/
theorem newInvite_tables {request : SipParsedRequest} {payload : Str} {sourceAddr : SocketAddr}
    (hdialog : e.inboundDialogs.lookup (callIdOf request) = none)
    (hpending : e.pendingInbound.lookup (callIdOf request) = none)
    {r : Engine × List Output}
    (h : handleInboundInvite config env e request payload sourceAddr = r) :
    r.1.inboundDialogs = e.inboundDialogs ∧
      (r.1.pendingInbound = e.pendingInbound ∨
        callIdOf request ≠ missingCallId ∧ ∃ p, p.request = request ∧
          p.localTag = env.uuid .localTag ∧
          r.1.pendingInbound = e.pendingInbound.insert (callIdOf request) p ∧
          r.2.filterMap Output.text? =
            (provisionalResponses config env request sourceAddr).filterMap Output.text?) := by
  subst h
  unfold handleInboundInvite
  split
  · rename_i dialog hsome
    exact absurd (hdialog.symm.trans hsome) nofun
  · rename_i pending _ hsome
    exact absurd (hpending.symm.trans hsome) nofun
  · split
    · exact ⟨rfl, .inl rfl⟩
    · rename_i hcall
      simp only [admitInvite]
      split
      · exact ⟨rfl, .inl rfl⟩
      · split
        · exact ⟨rfl, .inl rfl⟩
        · exact ⟨rfl, .inr ⟨hcall, _, rfl, rfl, rfl, by simp [Output.text?]⟩⟩

theorem provisional_texts (request : SipParsedRequest) (sourceAddr : SocketAddr) :
    ∀ text ∈ (provisionalResponses config env request sourceAddr).filterMap Output.text?,
      buildSipRingingForInvite request (env.uuid .localTag) = some text ∨ Plain text := by
  intro text htext
  rw [provisionalResponses, List.filterMap_append, text_reply, List.mem_append] at htext
  rcases htext with htrying | hringing
  · exact .inr (trying_plain (Option.mem_toList.mp htrying))
  · split at hringing
    · rw [text_reply] at hringing
      exact .inl (Option.mem_toList.mp hringing)
    · exact absurd hringing List.not_mem_nil

theorem requestUri_oneLine {payload : Str} {request : SipParsedRequest}
    (h : parseSipRequest payload = some request) : '\n' ∉ request.requestUri := by
  simp only [parseSipRequest] at h
  split at h
  · cases h
  · rename_i first rest hlines
    split at h
    · rename_i method requestUri version more hwords
      split at h
      · cases h
        have hmem : requestUri ∈ splitWhitespace (trim first) := by
          rw [hwords]
          exact List.mem_cons_of_mem _ List.mem_cons_self
        exact (clean_of_word (isWord_of_mem_splitWhitespace hmem)).oneLine
      · cases h
    · cases h

/-- An admitted INVITE opens its log with the provisional responses. -/
theorem Book.Sound.admit (h : Book.Sound config ⟨e, calls⟩) (htag : IsHex (env.uuid .localTag))
    {payload : Str} {request : SipParsedRequest} (hparse : parseSipRequest payload = some request)
    (hcall : callIdOf request ≠ missingCallId)
    (hdialog : e.inboundDialogs.lookup (callIdOf request) = none)
    {p : PendingInboundInvite} (hrequest : p.request = request)
    (hp : p.localTag = env.uuid .localTag) {texts : List Str}
    (htexts : ∀ text ∈ texts,
      buildSipRingingForInvite request (env.uuid .localTag) = some text ∨ Plain text)
    (hpending : ∀ c q, e'.pendingInbound.lookup c = some q →
      (c = callIdOf request ∧ q = p) ∨ (c ≠ callIdOf request ∧ e.pendingInbound.lookup c = some q))
    (hdialogs : e'.inboundDialogs = e.inboundDialogs) :
    Book.Sound config ⟨e', Function.update calls (callIdOf request) (some ⟨request, texts⟩)⟩ where
  pending := by
    intro c q hq
    rcases hpending c q hq with ⟨rfl, rfl⟩ | ⟨hc, hq⟩
    · refine ⟨⟨request, texts⟩, Function.update_self .., hrequest.symm, ?_⟩
      refine ⟨hp ▸ htag, parseSipRequest_clean hparse, requestUri_oneLine hparse, ?_, ?_, nofun⟩
      · exact callId_of_known hcall
      · intro text htext
        rw [hp]
        rcases htexts text htext with hringing | hplain
        · exact .inl hringing
        · exact .inr (.inr hplain)
    · obtain ⟨log, hlog, hrest⟩ := h.pending c q hq
      exact ⟨log, (Function.update_of_ne hc _ _).trans hlog, hrest⟩
  dialogs := by
    intro c d hd
    have hd : e.inboundDialogs.lookup c = some d := hdialogs ▸ hd
    have hc : c ≠ callIdOf request := by
      rintro rfl
      exact absurd (hdialog.symm.trans hd) nofun
    obtain ⟨log, tag, hlog, hrest⟩ := h.dialogs c d hd
    exact ⟨log, tag, (Function.update_of_ne hc _ _).trans hlog, hrest⟩
  disjoint := by
    intro c q hq
    have hsame : e'.inboundDialogs.lookup c = e.inboundDialogs.lookup c := by rw [hdialogs]
    rw [show (Book.mk e' _).engine.inboundDialogs.lookup c = _ from hsame]
    rcases hpending c q hq with ⟨rfl, -⟩ | ⟨-, hq⟩
    · exact hdialog
    · exact h.disjoint c q hq

theorem noteTurn_quiet {event : EngineEvent} (hadmitted : admittedBy e event e' = none)
    (hserved : servedBy e event = none) : noteTurn e event e' out calls = calls := by
  unfold noteTurn
  rw [hadmitted, hserved]

theorem admittedBy_eq_none {payload : Str} {sourceAddr : SocketAddr}
    (h : ∀ request, isRequest "INVITE" payload request →
      e.pendingInbound.lookup (callIdOf request) = none →
        e'.pendingInbound.lookup (callIdOf request) = none) :
    admittedBy e (.datagram payload sourceAddr) e' = none := by
  unfold admittedBy
  rw [Option.filter_eq_none_iff]
  intro request hparse
  rw [decide_eq_true_eq]
  rintro ⟨hmethod, hnone, hsome⟩
  rw [h request ⟨hparse, hmethod⟩ (Option.isNone_iff_eq_none.mp hnone)] at hsome
  cases hsome

theorem servedBy_eq_none {payload : Str} {sourceAddr : SocketAddr}
    (h : ∀ request, isRequest "INVITE" payload request →
      e.inboundDialogs.lookup (callIdOf request) = none) :
    servedBy e (.datagram payload sourceAddr) = none := by
  unfold servedBy
  rw [Option.map_eq_none_iff, Option.filter_eq_none_iff]
  intro request hparse
  rw [decide_eq_true_eq]
  rintro ⟨hmethod, hsome⟩
  rw [h request ⟨hparse, hmethod⟩] at hsome
  cases hsome

theorem Kept.lookup_none (h : Kept e e') {c : Str} (hnone : e.pendingInbound.lookup c = none) :
    e'.pendingInbound.lookup c = none := by
  by_contra hne
  obtain ⟨p, hp⟩ := Option.ne_none_iff_exists'.mp hne
  exact absurd (hnone.symm.trans (h.pending c p hp)) nofun

/-- A datagram that is no INVITE leaves the logs and brings no call. -/
theorem datagram_sound_of_kept (h : Book.Sound config ⟨e, calls⟩) (hkept : Kept e e')
    {payload : Str} {sourceAddr : SocketAddr}
    (hdialogs : ∀ request, isRequest "INVITE" payload request →
      e.inboundDialogs.lookup (callIdOf request) = none) :
    Book.Sound config ⟨e', noteTurn e (.datagram payload sourceAddr) e' out calls⟩ := by
  rw [noteTurn_quiet (admittedBy_eq_none fun _ _ hnone => hkept.lookup_none hnone)
    (servedBy_eq_none hdialogs)]
  exact h.kept hkept

theorem handleInboundInvite_sound (h : Book.Sound config ⟨e, calls⟩) (henv : env.SimpleUuids)
    {request : SipParsedRequest} {payload : Str} {sourceAddr : SocketAddr}
    (hrequest : isRequest "INVITE" payload request) {r : Engine × List Output}
    (hr : handleInboundInvite config env e request payload sourceAddr = r) (now : Nat) :
    Book.Sound config ⟨cleanupStaleState now r.1,
      noteTurn e (.datagram payload sourceAddr) (cleanupStaleState now r.1) r.2 calls⟩ := by
  have honly : ∀ other, isRequest "INVITE" payload other → other = request := by
    intro other hother
    exact Option.some.inj (hother.1.symm.trans hrequest.1)
  cases hdialog : e.inboundDialogs.lookup (callIdOf request) with
  | some dialog =>
    have hresult : handleInboundInvite config env e request payload sourceAddr =
        ((e.fetchAdd .inboundInvitesTotal).countSend (env.delivered .resentOk),
          [.send dialog.inviteOkPayload dialog.inviteResponseTarget (env.delivered .resentOk)]) := by
      unfold handleInboundInvite
      simp only [hdialog]
    have hcounted : Kept e (e.fetchAdd .inboundInvitesTotal) := .of_eq rfl rfl
    have hkept := hcounted.countSend (env.delivered .resentOk)
    have hserved : servedBy e (.datagram payload sourceAddr) = some (callIdOf request) := by
      have hsome : (e.inboundDialogs.lookup (callIdOf request)).isSome = true := by
        rw [hdialog]
        rfl
      unfold servedBy
      simp [hrequest.1, Option.filter, hrequest.2, hsome]
    obtain rfl := hresult.symm.trans hr
    unfold noteTurn
    rw [admittedBy_eq_none fun _ _ hnone => (hkept.cleanup now).lookup_none hnone, hserved]
    have happend := h.append (callIdOf request) [dialog.inviteOkPayload]
      (List.forall_mem_singleton.mpr (.inr ⟨dialog, hdialog, rfl⟩))
    exact happend.kept (hkept.cleanup now)
  | none =>
    have hdialogs : ∀ other, isRequest "INVITE" payload other →
        e.inboundDialogs.lookup (callIdOf other) = none := by
      intro other hother
      rw [honly other hother]
      exact hdialog
    cases hpending : e.pendingInbound.lookup (callIdOf request) with
    | some pending =>
      have hresult : handleInboundInvite config env e request payload sourceAddr =
          (e.fetchAdd .inboundInvitesTotal, []) := by
        unfold handleInboundInvite
        simp only [hdialog, hpending]
      have hkept : Kept e (e.fetchAdd .inboundInvitesTotal) := .of_eq rfl rfl
      obtain rfl := hresult.symm.trans hr
      exact datagram_sound_of_kept h (hkept.cleanup now) hdialogs
    | none =>
      obtain ⟨hsame, hcase⟩ := newInvite_tables hdialog hpending hr
      rcases hcase with hunchanged | ⟨hcall, p, hp, htag, hinsert, htexts⟩
      · have hkept : Kept e r.1 := .of_eq hunchanged hsame
        exact datagram_sound_of_kept h (hkept.cleanup now) hdialogs
      · have hrows : ∀ c q, (cleanupStaleState now r.1).pendingInbound.lookup c = some q →
            (c = callIdOf request ∧ q = p) ∨
              (c ≠ callIdOf request ∧ e.pendingInbound.lookup c = some q) := by
          intro c q hq
          have hq : r.1.pendingInbound.lookup c = some q := lookup_of_retain hq
          rw [hinsert] at hq
          rcases lookup_insert_some hq with ⟨hc, hpq⟩ | hq
          · exact .inl ⟨hc, hpq.symm⟩
          · exact .inr hq
        have hserved : servedBy e (.datagram payload sourceAddr) = none := servedBy_eq_none hdialogs
        cases hswept : (cleanupStaleState now r.1).pendingInbound.lookup (callIdOf request) with
        | none =>
          have hadmitted : admittedBy e (.datagram payload sourceAddr) (cleanupStaleState now r.1) =
              none := by
            refine admittedBy_eq_none fun other hother _ => ?_
            rw [honly other hother]
            exact hswept
          rw [noteTurn_quiet hadmitted hserved]
          refine h.kept ⟨fun c q hq => ?_, fun c d hd => hsame ▸ hd⟩
          rcases hrows c q hq with ⟨rfl, -⟩ | ⟨-, hq⟩
          · exact absurd (hswept.symm.trans hq) nofun
          · exact hq
        | some swept =>
          have hadmitted : admittedBy e (.datagram payload sourceAddr) (cleanupStaleState now r.1) =
              some request := by
            unfold admittedBy
            simp [hrequest.1, Option.filter, hrequest.2, hpending, hswept]
          unfold noteTurn
          rw [hadmitted]
          refine h.admit (henv .localTag) hrequest.1 hcall hdialog hp htag ?_ hrows hsame
          rw [htexts]
          exact provisional_texts request sourceAddr

theorem handleInboundRequest_kept {request : SipParsedRequest} (payload : Str)
    (sourceAddr : SocketAddr) (hmethod : request.method ≠ "INVITE".toList) :
    Kept e (handleInboundRequest config env e request payload sourceAddr).1 := by
  unfold handleInboundRequest
  rw [if_neg hmethod]
  split
  · exact handleInboundBye_kept
  · split
    · unfold handleInboundCancel
      split
      · exact .refl e
      · exact ⟨fun _ _ hp => (lookup_erase_some hp).2, fun _ _ hd => hd⟩
    · exact .refl e

theorem handlePayload_sound (h : Book.Sound config ⟨e, calls⟩) (henv : env.SimpleUuids)
    {payload : Str} {sourceAddr : SocketAddr}
    (hr : handlePayload config env e payload sourceAddr = .ok (e', out)) (now : Nat) :
    Book.Sound config ⟨cleanupStaleState now e',
      noteTurn e (.datagram payload sourceAddr) (cleanupStaleState now e') out calls⟩ := by
  unfold handlePayload at hr
  split at hr
  · rename_i request hparse
    by_cases hmethod : request.method = "INVITE".toList
    · rw [handleInboundRequest, if_pos hmethod] at hr
      exact handleInboundInvite_sound h henv ⟨hparse, hmethod⟩ (pure_eq_ok.mp hr) now
    · have hkept : Kept e e' := by
        have hfirst : (handleInboundRequest config env e request payload sourceAddr).1 = e' :=
          congrArg Prod.fst (pure_eq_ok.mp hr)
        rw [← hfirst]
        exact handleInboundRequest_kept payload sourceAddr hmethod
      refine datagram_sound_of_kept h (hkept.cleanup now) fun other hother => ?_
      exact absurd hother.2 (Option.some.inj (hother.1.symm.trans hparse) ▸ hmethod)
  · rename_i hparse _
    cases hr
    refine datagram_sound_of_kept h ((Kept.refl e).cleanup now) fun other hother => ?_
    cases hparse.symm.trans hother.1
  · rename_i code hparse _
    obtain ⟨⟨handled, sent⟩, hhandle, hr⟩ := bind_eq_ok.mp hr
    obtain ⟨-, hpending, hdialogs, -⟩ := CallTables.mk.inj (handleSipResponse_calls hhandle).1
    have hkept : Kept e handled := .of_eq hpending hdialogs
    have hcounted : Kept e e' := by
      cases hr
      split
      · exact ⟨hkept.pending, hkept.dialogs⟩
      · exact hkept
    refine datagram_sound_of_kept h (hcounted.cleanup now) fun other hother => ?_
    cases hparse.symm.trans hother.1

theorem handle_sound (h : Book.Sound config ⟨e, calls⟩) (henv : env.SimpleUuids)
    {event : EngineEvent} (hr : e.handle config env event = .ok (e', out)) :
    Book.Sound config ⟨e', noteTurn e event e' out calls⟩ := by
  cases event with
  | command request =>
    have hfirst : (handleOutboundInvite env e request).1 = e' :=
      congrArg Prod.fst (pure_eq_ok.mp hr)
    rw [noteTurn_quiet rfl rfl, ← hfirst]
    unfold handleOutboundInvite
    split
    · exact h.of_tables rfl rfl
    · exact h
  | backendEndRequested callId =>
    have hresult : handleBackendEnd env e callId = (e', out) := pure_eq_ok.mp hr
    have hsound : Book.Sound config ⟨(handleBackendEnd env e callId).1,
        appendTexts ((handleBackendEnd env e callId).2.filterMap Output.text?) calls callId⟩ :=
      handleBackendEnd_sound h callId
    rw [hresult] at hsound
    exact hsound
  | inboundSetupResult callId result => exact handleInboundSetupResult_sound h hr
  | datagram payload sourceAddr =>
    obtain ⟨⟨handled, sent⟩, hhandle, hr⟩ := bind_eq_ok.mp hr
    cases hr
    exact handlePayload_sound h henv hhandle env.sweepAt

end

theorem book_sound_init (config : AppConfig) : (Book.init config).Sound config where
  pending := nofun
  dialogs := nofun
  disjoint := nofun

/-- A run of the engine in which the random ids are simple-form UUIDs. -/
abbrev BookRun (config : AppConfig) :=
  GuardedRun (Book.step config) (fun _ input => input.1.SimpleUuids)

theorem BookRun.sound {config : AppConfig} {book : Book}
    (h : BookRun config (Book.init config) book) : book.Sound config := by
  refine h.invariant (book_sound_init config) fun book input next hsound henv hstep => ?_
  unfold Book.step at hstep
  split at hstep
  · rename_i e' out hhandle
    obtain rfl := Option.some.inj hstep
    exact handle_sound hsound henv hhandle
  · cases hstep

/-! ### The dialog's identity -/

section

variable {config : AppConfig} {log : CallLog} {callId tag : Str} {dialog : InboundDialog}

theorem contactLine_eq (localHost : Str) :
    ["Contact: <sip:sbc@".toList ++ localHost ++ ":5060>".toList] =
      [contactField localHost].map fieldLine := rfl

/-- The 180 and the 200 OK of a dialog have the dialog's own To value. -/
theorem CallLogged.sentTo {Has : Str → Str → Str → Prop}
    (hlog : CallLogged log callId tag (some dialog.inviteOkPayload))
    (hdialog : DialogFor config log.request callId tag dialog)
    (hringing : ∀ echo, Echoes log.request (some tag) echo → Has (responseMessage log.request
      ("SIP/2.0 ".toList ++ ofNat 180 ++ [' '] ++ "Ringing".toList) echo [] none) "To".toList
        echo.toValue)
    (hok : ∀ echo body, Echoes log.request (some tag) echo → Has (responseMessage log.request
      "SIP/2.0 200 OK".toList echo ([contactField config.localSipAdvertiseHost].map fieldLine)
        (some body)) "To".toList echo.toValue) :
    ∀ text ∈ log.texts, SentTo Has dialog.signaling.localFrom text := by
  obtain ⟨toValue, hto, hfrom⟩ := hdialog.localFrom
  have hsame : ∀ echo, Echoes log.request (some tag) echo →
      echo.toValue = dialog.signaling.localFrom := by
    intro echo hecho
    obtain ⟨value, hvalue, heq⟩ := hecho.toValue
    rw [heq, hfrom, Option.some.inj (hvalue.symm.trans hto)]
  intro text htext hstart
  rcases hlog.texts text htext with hbuilt | hbuilt | hplain
  · obtain ⟨echo, hecho, rfl⟩ := buildResponseForRequest_eq_some.mp hbuilt
    rw [← hsame echo hecho]
    exact hringing echo hecho
  · obtain ⟨port, haccepted⟩ := hdialog.accepted
    rw [hbuilt] at haccepted
    obtain ⟨echo, hecho, rfl⟩ := buildSip200OkForInvite_eq_some.mp haccepted
    rw [← hsame echo hecho, contactLine_eq]
    exact hok echo _ hecho
  · rcases hstart with h180 | h200
    · exact absurd (hplain.1.symm.trans h180) nofun
    · exact absurd (hplain.2.symm.trans h200) nofun

theorem ok_start {request : SipParsedRequest} {localHost text : Str} {port : Nat}
    (h : buildSip200OkForInvite request tag localHost port = some text) :
    startsWith "SIP/2.0 200 ".toList text = true := by
  obtain ⟨echo, -, rfl⟩ := buildSip200OkForInvite_eq_some.mp h
  rfl

theorem identity_carries (hlog : CallLogged log callId tag (some dialog.inviteOkPayload))
    (hdialog : DialogFor config log.request callId tag dialog) : Identity Carries log dialog := by
  obtain ⟨port, haccepted⟩ := hdialog.accepted
  have hcseq : nextCseq dialog.signaling.localCseq = 2 := by rw [hdialog.localCseq]; rfl
  refine ⟨hlog.sentTo hdialog (fun echo _ => responseMessage_carries_to _ _ _ [] none)
    (fun echo body _ => responseMessage_carries_to _ _ _ _ _), ⟨hlog.okSent _ rfl,
      ok_start haccepted⟩, fun branch _ => buildByeRequest_carries rfl,
    ⟨_, hdialog.remoteTo, fun branch _ => buildByeRequest_carries rfl⟩,
    ⟨_, hlog.callId, fun branch _ => buildByeRequest_carries ?_⟩,
    ⟨2, by rw [hdialog.localCseq]; omega, fun branch _ => buildByeRequest_carries ?_⟩⟩
  · rw [← hdialog.callId]
    rfl
  · rw [← hcseq]
    rfl

theorem identity_reads (hlog : CallLogged log callId tag (some dialog.inviteOkPayload))
    (hdialog : DialogFor config log.request callId tag dialog)
    (hhost : '\n' ∉ config.localSipAdvertiseHost) : Identity Reads log dialog := by
  obtain ⟨port, haccepted⟩ := hdialog.accepted
  obtain ⟨toValue, hto, hfrom⟩ := hdialog.localFrom
  have htag : ∀ t ∈ some tag, IsHex t := by simpa using hlog.hexTag
  have hcseq : nextCseq dialog.signaling.localCseq = 2 := by rw [hdialog.localCseq]; rfl
  have hone : OneLine dialog.signaling := by
    refine ⟨hdialog.requestUri, ?_, ?_, ?_, ?_⟩
    · rw [hdialog.localHost]
      exact hhost
    · rw [hfrom]
      exact clean_withTag (clean_of_get hlog.parsed hto) htag
    · exact clean_of_get hlog.parsed hdialog.remoteTo
    · rw [hdialog.callId]
      exact clean_of_get hlog.parsed hlog.callId
  have hcontact : ∀ field ∈ [contactField config.localSipAdvertiseHost],
      toAsciiLowercase (trim field.1) = "contact".toList := by
    refine List.forall_mem_singleton.mpr ?_
    show toAsciiLowercase (trim "Contact".toList) = "contact".toList
    decide
  have hringing : '\n' ∉ "SIP/2.0 ".toList ++ ofNat 180 ++ [' '] ++ "Ringing".toList := by decide
  refine ⟨hlog.sentTo hdialog (fun echo hecho => ?_) (fun echo body hecho => ?_),
    ⟨hlog.okSent _ rfl, ok_start haccepted⟩, fun branch hb => buildByeRequest_reads hb hone rfl,
    ⟨_, hdialog.remoteTo, fun branch hb => buildByeRequest_reads hb hone rfl⟩,
    ⟨_, hlog.callId, fun branch hb => buildByeRequest_reads hb hone ?_⟩,
    ⟨2, by rw [hdialog.localCseq]; omega, fun branch hb => buildByeRequest_reads hb hone ?_⟩⟩
  · exact responseMessage_reads_to hlog.parsed hecho htag [] (by simp) (by simp)
      (by decide) hringing none
  · exact responseMessage_reads_to hlog.parsed hecho htag _
      (List.forall_mem_singleton.mpr (contactField_clean hhost)) hcontact (by decide) (by decide) _
  · rw [← hdialog.callId]
    rfl
  · rw [← hcseq]
    rfl

end

/-- In every state of every run, the 180 and the 200 OK sent for an established call and any BYE
built for it name the dialog alike: as the messages are put together, and as their text is parsed
where the advertised host is one line. -/
theorem dialog_identity_consistent (config : AppConfig) {book : Book}
    (h : BookRun config (Book.init config) book) {callId : Str} {dialog : InboundDialog}
    (hdialog : book.engine.inboundDialogs.lookup callId = some dialog) :
    ∃ log, book.calls callId = some log ∧
      log.request.headers.get "call-id".toList = some callId ∧ Identity Carries log dialog ∧
        ('\n' ∉ config.localSipAdvertiseHost → Identity Reads log dialog) := by
  obtain ⟨log, tag, hcall, hlog, hfor⟩ := h.sound.dialogs callId dialog hdialog
  exact ⟨log, hcall, hlog.callId, identity_carries hlog hfor, identity_reads hlog hfor⟩

def ringingConfig : AppConfig := { smallConfig with sipRingingEnabled := true }

def acceptedCall : List (Env × EngineEvent) :=
  [(uuidEnv, .datagram (inviteWith "1 INVITE") peerAddr),
    (uuidEnv, .inboundSetupResult "c".toList
      (.ok ⟨"c".toList, 10000, "a".toList, .new (.v4 10 0 0 1) 9, 0⟩))]

/-- A call that was rung and accepted: its log holds the 180 and the 200 OK. -/
theorem rung_call_identity : ∃ (book : Book) (log : CallLog) (dialog : InboundDialog),
    book.calls "c".toList = some log ∧
      log.texts.map (startsWith "SIP/2.0 180 ".toList) = [false, true, false] ∧
        Identity Reads log dialog := by
  have hrun : (exec (Book.step ringingConfig) (Book.init ringingConfig) acceptedCall).map
      (fun book => ((book.engine.inboundDialogs.lookup "c".toList).isSome,
        (book.calls "c".toList).map fun log =>
          log.texts.map (startsWith "SIP/2.0 180 ".toList))) =
        some (true, some [false, true, false]) := by decide +kernel
  obtain ⟨book, hexec, hresult⟩ := Option.map_eq_some_iff.mp hrun
  obtain ⟨hsome, htexts⟩ := Prod.mk.inj hresult
  obtain ⟨dialog, hdialog⟩ := Option.isSome_iff_exists.mp hsome
  have hbook : BookRun ringingConfig (Book.init ringingConfig) book := by
    refine guardedRun_of_forall hexec fun input hinput _ => ?_
    simp only [acceptedCall, List.mem_cons, List.not_mem_nil, or_false] at hinput
    rcases hinput with rfl | rfl
    · exact uuidEnv_simple
    · exact uuidEnv_simple
  obtain ⟨log, hlog, -, -, hreads⟩ := dialog_identity_consistent ringingConfig hbook hdialog
  rw [hlog] at htexts
  exact ⟨book, log, dialog, hlog, Option.some.inj htexts, hreads (by decide)⟩

end DemoService.Sip
