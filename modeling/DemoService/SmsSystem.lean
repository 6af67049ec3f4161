import DemoService.GuardedRuns
import DemoService.SmsModel
import Mathlib.Logic.Function.Basic

/-! Webhooks, completion notifications and pending model calls over one database. The
handlers share an event loop, so what lies between two awaits is one step. -/

namespace DemoService.Sms

open PyText

inductive SmsKind
  | completion
  | confirmation
  | limit
  | reply (generated : Bool)
  deriving DecidableEq, Repr

/-- One call of `send_sms`, and whether Twilio took the message. -/
structure Outbound where
  phoneNumber : Text
  conversationId : Nat
  kind : SmsKind
  body : Text
  accepted : Bool
  deriving DecidableEq, Repr

inductive Event
  | optedOut (phoneNumber : Text)
  | sent (sms : Outbound)
  deriving DecidableEq, Repr

/-- `handle_inbound_sms_reply` at each of its awaits. -/
inductive Handler
  | idle
  | classifying (phoneNumber : Text) (conversationId : Nat)
  | generating (phoneNumber : Text) (conversationId loadedCount : Nat)
  | done
  deriving DecidableEq, Repr

/-- The history holds the opt-outs that were committed and the calls of `send_sms`, in order. -/
structure System where
  db : Database
  handlers : Nat → Handler
  history : List Event

def init : System := ⟨⟨[], [], []⟩, fun _ => .idle, []⟩

/-- What the world decides: the texts that come in, what the models answer (`none` where the
call raises), and what Twilio does with a message. -/
inductive Action
  | receive (i : Nat) (fromPhoneNumber body : Text) (providerMessageSid : Option Text)
      (outcome : SendOutcome)
  | classified (i : Nat) (isOptOut : Option Bool) (outcome : SendOutcome)
  | generated (i : Nat) (reply : Option Text) (outcome : SendOutcome)
  | notify (enabled : Bool) (run : Run) (outcome : SendOutcome)
  | cancel (i : Nat)

def System.setHandler (s : System) (i : Nat) (handler : Handler) : System :=
  { s with handlers := Function.update s.handlers i handler }

def System.sendReply (s : System) (conversation : SmsConversation) (runId : Option Nat)
    (phoneNumber : Text) (kind : SmsKind) (body : Text) (outcome : SendOutcome) : System :=
  let message := outboundMessage phoneNumber runId body "attempted" (some conversation.id) none
  { s with
    db := recordOutboundMessage s.db (message.settle outcome)
    history := s.history ++ [.sent ⟨phoneNumber, conversation.id, kind, body, outcome.isOk⟩] }

def System.skipNotification (s : System) (run : Run) (phoneNumber : Text) (status error : String) :
    System :=
  let message := outboundMessage phoneNumber (some run.id) [] status none (some error)
  { s with db := recordOutboundMessage s.db message }

def maybeSendCompletionNotification (s : System) (enabled : Bool) (run : Run)
    (outcome : SendOutcome) : System :=
  match run.notificationPreference with
  | none => s
  | some preference =>
    if !enabled || run.status ≠ .completed || !preference.wantsSms then s
    else
      match preference.phoneNumber.bind orNone with
      | none => s
      | some stored =>
        match normalizeUsPhone (some stored) with
        | none => s.skipNotification run stored "skipped_invalid_phone"
            "Stored SMS phone number is invalid."
        | some phone =>
          if isPhoneOptedOut s.db phone then
            s.skipNotification run phone "skipped_opted_out"
              "Phone number is permanently opted out."
          else
            let opened := getOrCreateConversation s.db phone (some run.id)
            let s := { s with db := opened.1 }
            s.sendReply opened.2 (some run.id) phone .completion (completionMessage run) outcome

def System.optOut (s : System) (conversation : SmsConversation) (phoneNumber : Text)
    (outcome : SendOutcome) : System :=
  match upsertSmsOptOut s.db phoneNumber "twilio_reply" (some "Inbound SMS opt-out intent.") with
  | none => s
  | some db =>
    let listed := { s with db := db, history := s.history ++ [Event.optedOut phoneNumber] }
    listed.sendReply conversation conversation.runId phoneNumber .confirmation
      smsOptOutConfirmation outcome

def isGenerated (reply : Option Text) : Bool := (reply.bind orNone).isSome

/-- One step; `none` when the action is not enabled. -/
def System.step (s : System) : Action → Option System
  | .receive i fromPhoneNumber body providerMessageSid outcome =>
    match s.handlers i with
    | .idle =>
      match normalizeUsPhone (some fromPhoneNumber) with
      | none => some (s.setHandler i .done)
      | some phone =>
        let opened := getOrCreateConversation s.db phone none
        let received := { s with
          db := recordInboundMessage opened.1 opened.2 phone body providerMessageSid }
        if isExactOptOut body then
          some ((received.optOut opened.2 phone outcome).setHandler i .done)
        else some (received.setHandler i (.classifying phone opened.2.id))
    | _ => none
  | .classified i isOptOut outcome =>
    match s.handlers i with
    | .classifying phone id =>
      (s.db.conversation id).map fun conversation =>
        if isOptOut = some true then (s.optOut conversation phone outcome).setHandler i .done
        else if isPhoneOptedOut s.db phone then s.setHandler i .done
        else if conversation.llmReplyCount < llmReplyLimit then
          s.setHandler i (.generating phone id conversation.llmReplyCount)
        else
          (s.sendReply conversation conversation.runId phone .limit smsLimitMessage
            outcome).setHandler i .done
    | _ => none
  | .generated i reply outcome =>
    match s.handlers i with
    | .generating phone id loadedCount =>
      (s.db.conversation id).map fun conversation =>
        let counted := { s with db := s.db.setReplyCount id (loadedCount + 1) }
        (counted.sendReply conversation conversation.runId phone (.reply (isGenerated reply))
          (orText reply smsFallbackMessage) outcome).setHandler i .done
    | _ => none
  | .notify enabled run outcome => some (maybeSendCompletionNotification s enabled run outcome)
  | .cancel i =>
    match s.handlers i with
    | .classifying _ _ | .generating _ _ _ => some (s.setHandler i .done)
    | _ => none

section

variable (s : System) (conversation : SmsConversation) (runId : Option Nat) (phoneNumber : Text)
  (kind : SmsKind) (body : Text) (outcome : SendOutcome)

@[simp] theorem sendReply_conversations :
    (s.sendReply conversation runId phoneNumber kind body outcome).db.conversations =
      s.db.conversations := rfl

@[simp] theorem sendReply_optedOut :
    (s.sendReply conversation runId phoneNumber kind body outcome).db.optedOut = s.db.optedOut := rfl

@[simp] theorem sendReply_handlers :
    (s.sendReply conversation runId phoneNumber kind body outcome).handlers = s.handlers := rfl

@[simp] theorem sendReply_history :
    (s.sendReply conversation runId phoneNumber kind body outcome).history = s.history ++
      [.sent ⟨phoneNumber, conversation.id, kind, body, outcome.isOk⟩] := rfl

@[simp] theorem setHandler_db (i : Nat) (handler : Handler) : (s.setHandler i handler).db = s.db :=
  rfl

@[simp] theorem setHandler_history (i : Nat) (handler : Handler) :
    (s.setHandler i handler).history = s.history := rfl

end

/-! ### What holds of every handler -/

/-- A handler answers a normalized number in a conversation of the table, and asks for a
reply only below the limit. -/
def HandlerOk (db : Database) : Handler → Prop
  | .classifying phone id =>
    normalizeUsPhone (some phone) = some phone ∧ id < db.conversations.length
  | .generating phone id loadedCount =>
    normalizeUsPhone (some phone) = some phone ∧ id < db.conversations.length ∧
      loadedCount < llmReplyLimit
  | _ => True

structure Tracked (s : System) : Prop where
  ids : s.db.conversations.map SmsConversation.id = List.range s.db.conversations.length
  handlers : ∀ i, HandlerOk s.db (s.handlers i)

theorem tracked_init : Tracked init := ⟨rfl, fun _ => trivial⟩

theorem id_lt_of_ids {db : Database}
    (hids : db.conversations.map SmsConversation.id = List.range db.conversations.length)
    {row : SmsConversation} (hrow : row ∈ db.conversations) :
    row.id < db.conversations.length := by
  have hmem : row.id ∈ db.conversations.map SmsConversation.id := List.mem_map_of_mem hrow
  rw [hids] at hmem
  exact List.mem_range.mp hmem

theorem Tracked.classifying {s : System} (h : Tracked s) {i id : Nat} {phone : Text}
    (hi : s.handlers i = .classifying phone id) :
    normalizeUsPhone (some phone) = some phone ∧ id < s.db.conversations.length := by
  have hok := h.handlers i
  rwa [hi] at hok

theorem Tracked.generating {s : System} (h : Tracked s) {i id loadedCount : Nat} {phone : Text}
    (hi : s.handlers i = .generating phone id loadedCount) :
    normalizeUsPhone (some phone) = some phone ∧ id < s.db.conversations.length ∧
      loadedCount < llmReplyLimit := by
  have hok := h.handlers i
  rwa [hi] at hok

theorem conversation_eq_some {db : Database} {id : Nat} {row : SmsConversation}
    (h : db.conversation id = some row) : row ∈ db.conversations ∧ row.id = id := by
  refine ⟨List.mem_of_find?_eq_some h, ?_⟩
  simpa using List.find?_some h

theorem setReplyCount_ids (db : Database) (id count : Nat) :
    (db.setReplyCount id count).conversations.map SmsConversation.id =
      db.conversations.map SmsConversation.id := by
  simp only [Database.setReplyCount, List.map_map]
  apply List.map_congr_left
  intro row _
  by_cases hrow : row.id = id <;> simp [hrow]

theorem optOut_eq {phone : Text} (h : normalizeUsPhone (some phone) = some phone) (s : System)
    (conversation : SmsConversation) (outcome : SendOutcome) :
    s.optOut conversation phone outcome =
      ({ s with
        db := s.db.putOptOut ⟨phone, "twilio_reply", some "Inbound SMS opt-out intent."⟩
        history := s.history ++ [Event.optedOut phone] } : System).sendReply conversation
          conversation.runId phone .confirmation smsOptOutConfirmation outcome := by
  rw [System.optOut, upsertSmsOptOut_eq h]

/-! ### What a step does -/

def Action.IsReply : Action → Prop
  | .generated _ _ _ => True
  | _ => False

/-- Everything a step can do to the tables and the history. -/
inductive Effect (s : System) (a : Action) (t : System) : Prop
  | quiet (hother : ¬ a.IsReply) (hopens : Opens s.db t.db)
      (hlist : t.db.optedOut = s.db.optedOut) (hhistory : t.history = s.history)
  | optOut (sms : Outbound) (hother : ¬ a.IsReply) (hopens : Opens s.db t.db)
      (hlist : ∀ phone, phone ∈ t.db.optedOut ↔ phone ∈ s.db.optedOut ∨ phone = sms.phoneNumber)
      (hkind : sms.kind = .confirmation)
      (hhistory : t.history = s.history ++ [.optedOut sms.phoneNumber, .sent sms])
  | send (sms : Outbound) (hother : ¬ a.IsReply) (hopens : Opens s.db t.db)
      (hlist : t.db.optedOut = s.db.optedOut) (hkind : sms.kind = .completion ∨ sms.kind = .limit)
      (hfree : sms.phoneNumber ∉ s.db.optedOut) (hhistory : t.history = s.history ++ [.sent sms])
  | reply (i id loadedCount : Nat) (answer : Option Text) (outcome : SendOutcome) (phone : Text)
      (haction : a = .generated i answer outcome)
      (hi : s.handlers i = .generating phone id loadedCount)
      (hconversations : t.db.conversations = (s.db.setReplyCount id (loadedCount + 1)).conversations)
      (hlist : t.db.optedOut = s.db.optedOut)
      (hhistory : t.history = s.history ++ [.sent ⟨phone, id, .reply (isGenerated answer),
        orText answer smsFallbackMessage, outcome.isOk⟩])

theorem Effect.setHandler {s t : System} {a : Action} (h : Effect s a t) (i : Nat)
    (handler : Handler) : Effect s a (t.setHandler i handler) := by
  cases h with
  | quiet hother hopens hlist hhistory => exact .quiet hother hopens hlist hhistory
  | optOut sms hother hopens hlist hkind hhistory =>
    exact .optOut sms hother hopens hlist hkind hhistory
  | send sms hother hopens hlist hkind hfree hhistory =>
    exact .send sms hother hopens hlist hkind hfree hhistory
  | reply i id loadedCount answer outcome phone haction hi hconversations hlist hhistory =>
    exact .reply i id loadedCount answer outcome phone haction hi hconversations hlist hhistory

/-- Opting out adds the number to the list and confirms it. -/
theorem optOut_effect {s r : System} (hopens : Opens s.db r.db)
    (hlist : r.db.optedOut = s.db.optedOut) (hhistory : r.history = s.history) {phone : Text}
    (hnormal : normalizeUsPhone (some phone) = some phone) {a : Action} (hother : ¬ a.IsReply)
    (conversation : SmsConversation) (outcome : SendOutcome) :
    Effect s a (r.optOut conversation phone outcome) := by
  rw [optOut_eq hnormal]
  refine .optOut ⟨phone, conversation.id, .confirmation, smsOptOutConfirmation, outcome.isOk⟩
    hother hopens (fun other => ?_) rfl ?_
  · rw [← hlist]
    exact mem_optedOut_putOptOut
  · simp [hhistory]

theorem notification_effect (s : System) (enabled : Bool) (run : Run) (outcome : SendOutcome)
    {a : Action} (hother : ¬ a.IsReply) :
    Effect s a (maybeSendCompletionNotification s enabled run outcome) := by
  have hskip : ∀ phone status error, Effect s a (s.skipNotification run phone status error) :=
    fun _ _ _ => .quiet hother (.refl _) rfl rfl
  unfold maybeSendCompletionNotification
  cases run.notificationPreference with
  | none => exact .quiet hother (.refl _) rfl rfl
  | some preference =>
    simp only
    split
    · exact .quiet hother (.refl _) rfl rfl
    · split
      · exact .quiet hother (.refl _) rfl rfl
      · split
        · exact hskip _ _ _
        · rename_i phone hphone
          have hnormal := normalizeUsPhone_normalized hphone
          by_cases hlisted : isPhoneOptedOut s.db phone = true
          · rw [if_pos hlisted]
            exact hskip _ _ _
          · rw [if_neg hlisted]
            obtain ⟨hopens, hlist, -⟩ := getOrCreateConversation_spec s.db phone (some run.id)
            have hfree : phone ∉ s.db.optedOut := fun hmem =>
              hlisted ((isPhoneOptedOut_iff hnormal).mpr hmem)
            exact .send _ hother hopens hlist (.inl rfl) hfree rfl

theorem receive_effect {s t : System} {i : Nat} {fromPhoneNumber body : Text}
    {sid : Option Text} {outcome : SendOutcome}
    (h : s.step (.receive i fromPhoneNumber body sid outcome) = some t) :
    Effect s (.receive i fromPhoneNumber body sid outcome) t := by
  have hother : ¬ (Action.receive i fromPhoneNumber body sid outcome).IsReply := id
  simp only [System.step] at h
  split at h
  · split at h
    · obtain rfl := Option.some.inj h
      exact .quiet hother (.refl _) rfl rfl
    · rename_i phone hphone
      have hnormal := normalizeUsPhone_normalized hphone
      obtain ⟨hopens, hlist, -⟩ := getOrCreateConversation_spec s.db phone none
      by_cases hexact : isExactOptOut body = true
      · rw [if_pos hexact] at h
        obtain rfl := Option.some.inj h
        apply Effect.setHandler
        refine optOut_effect ?_ ?_ ?_ hnormal hother _ outcome
        · exact hopens
        · exact hlist
        · rfl
      · rw [if_neg hexact] at h
        obtain rfl := Option.some.inj h
        exact .quiet hother hopens hlist rfl
  · cases h

theorem classified_effect {s t : System} (htracked : Tracked s) {i : Nat} {isOptOut : Option Bool}
    {outcome : SendOutcome} (h : s.step (.classified i isOptOut outcome) = some t) :
    Effect s (.classified i isOptOut outcome) t := by
  have hother : ¬ (Action.classified i isOptOut outcome).IsReply := id
  simp only [System.step] at h
  split at h
  · rename_i phone id hi
    obtain ⟨conversation, -, rfl⟩ := Option.map_eq_some_iff.mp h
    have hnormal := (htracked.classifying hi).1
    by_cases hverdict : isOptOut = some true
    · rw [if_pos hverdict]
      apply Effect.setHandler
      exact optOut_effect (.refl _) rfl rfl hnormal hother conversation outcome
    · rw [if_neg hverdict]
      by_cases hlisted : isPhoneOptedOut s.db phone = true
      · rw [if_pos hlisted]
        exact .quiet hother (.refl _) rfl rfl
      · rw [if_neg hlisted]
        by_cases hbelow : conversation.llmReplyCount < llmReplyLimit
        · rw [if_pos hbelow]
          exact .quiet hother (.refl _) rfl rfl
        · rw [if_neg hbelow]
          have hfree : phone ∉ s.db.optedOut := fun hmem =>
            hlisted ((isPhoneOptedOut_iff hnormal).mpr hmem)
          exact .send _ hother (.refl _) rfl (.inr rfl) hfree rfl
  · cases h

theorem generated_effect {s t : System} {i : Nat} {answer : Option Text} {outcome : SendOutcome}
    (h : s.step (.generated i answer outcome) = some t) :
    Effect s (.generated i answer outcome) t := by
  simp only [System.step] at h
  split at h
  · rename_i phone id loadedCount hi
    obtain ⟨conversation, hconversation, rfl⟩ := Option.map_eq_some_iff.mp h
    obtain ⟨-, rfl⟩ := conversation_eq_some hconversation
    exact .reply i _ loadedCount answer outcome phone rfl hi rfl rfl rfl
  · cases h

theorem step_effect {s t : System} {a : Action} (htracked : Tracked s) (h : s.step a = some t) :
    Effect s a t := by
  cases a with
  | receive i fromPhoneNumber body sid outcome => exact receive_effect h
  | classified i isOptOut outcome => exact classified_effect htracked h
  | generated i answer outcome => exact generated_effect h
  | notify enabled run outcome =>
    obtain rfl := Option.some.inj h
    exact notification_effect s enabled run outcome id
  | cancel i =>
    have hother : ¬ (Action.cancel i).IsReply := id
    simp only [System.step] at h
    split at h
    · obtain rfl := Option.some.inj h
      exact .quiet hother (.refl _) rfl rfl
    · obtain rfl := Option.some.inj h
      exact .quiet hother (.refl _) rfl rfl
    · cases h

/-! ### The handlers along a step -/

def Grows (db db' : Database) : Prop :=
  db'.conversations.map SmsConversation.id = List.range db'.conversations.length ∧
    db.conversations.length ≤ db'.conversations.length

theorem grows_of_opens {db db' : Database}
    (hids : db.conversations.map SmsConversation.id = List.range db.conversations.length)
    (h : Opens db db') : Grows db db' := by
  rcases h with h | ⟨phoneNumber, runId, h⟩
  · simp [Grows, h, hids]
  · simp [Grows, h, hids, List.range_succ]

theorem Effect.grows {s t : System} {a : Action} (h : Effect s a t) (htracked : Tracked s) :
    Grows s.db t.db := by
  cases h with
  | quiet _ hopens => exact grows_of_opens htracked.ids hopens
  | optOut _ _ hopens => exact grows_of_opens htracked.ids hopens
  | send _ _ hopens => exact grows_of_opens htracked.ids hopens
  | reply i id loadedCount answer outcome phone haction hi hconversations =>
    have hids := setReplyCount_ids s.db id (loadedCount + 1)
    have hlength : t.db.conversations.length = s.db.conversations.length := by
      rw [hconversations, Database.setReplyCount, List.length_map]
    refine ⟨?_, hlength.ge⟩
    rw [hlength, hconversations, hids, htracked.ids]

theorem HandlerOk.grows {db db' : Database} (hgrows : Grows db db') {handler : Handler}
    (h : HandlerOk db handler) : HandlerOk db' handler := by
  have hle := hgrows.2
  cases handler with
  | classifying phone id => exact ⟨h.1, h.2.trans_le hle⟩
  | generating phone id loadedCount => exact ⟨h.1, h.2.1.trans_le hle, h.2.2⟩
  | idle => trivial
  | done => trivial

theorem notification_handlers (s : System) (enabled : Bool) (run : Run) (outcome : SendOutcome) :
    (maybeSendCompletionNotification s enabled run outcome).handlers = s.handlers := by
  unfold maybeSendCompletionNotification
  cases run.notificationPreference with
  | none => rfl
  | some preference =>
    simp only
    split
    · rfl
    · split
      · rfl
      · split
        · rfl
        · split <;> rfl

/-- A step moves at most one handler, and leaves it in order. -/
theorem step_handlers {s t : System} {a : Action} (htracked : Tracked s) (h : s.step a = some t) :
    ∃ i handler, t.handlers = Function.update s.handlers i handler ∧ HandlerOk t.db handler := by
  have hgrows := (step_effect htracked h).grows htracked
  have hkeep : s.handlers = Function.update s.handlers 0 (s.handlers 0) :=
    (Function.update_eq_self 0 s.handlers).symm
  have hoptOut : ∀ (r : System) conversation phone outcome,
      (r.optOut conversation phone outcome).handlers = r.handlers := fun r _ phone _ => by
    unfold System.optOut
    split <;> rfl
  cases a with
  | receive i fromPhoneNumber body sid outcome =>
    simp only [System.step] at h
    split at h
    · split at h
      · obtain rfl := Option.some.inj h
        exact ⟨i, .done, rfl, trivial⟩
      · rename_i phone hphone
        obtain ⟨-, -, hmem⟩ := getOrCreateConversation_spec s.db phone none
        by_cases hexact : isExactOptOut body = true
        · rw [if_pos hexact] at h
          obtain rfl := Option.some.inj h
          exact ⟨i, .done, by simp only [System.setHandler, hoptOut], trivial⟩
        · rw [if_neg hexact] at h
          obtain rfl := Option.some.inj h
          refine ⟨i, _, rfl, normalizeUsPhone_normalized hphone, ?_⟩
          exact id_lt_of_ids hgrows.1 hmem
    · cases h
  | classified i isOptOut outcome =>
    simp only [System.step] at h
    split at h
    · rename_i phone id hi
      obtain ⟨conversation, hconversation, rfl⟩ := Option.map_eq_some_iff.mp h
      obtain ⟨hnormal, hlt⟩ := htracked.classifying hi
      by_cases hverdict : isOptOut = some true
      · rw [if_pos hverdict]
        exact ⟨i, .done, by simp only [System.setHandler, hoptOut], trivial⟩
      · rw [if_neg hverdict]
        by_cases hlisted : isPhoneOptedOut s.db phone = true
        · rw [if_pos hlisted]
          exact ⟨i, .done, rfl, trivial⟩
        · rw [if_neg hlisted]
          by_cases hbelow : conversation.llmReplyCount < llmReplyLimit
          · rw [if_pos hbelow]
            exact ⟨i, _, rfl, hnormal, hlt, hbelow⟩
          · rw [if_neg hbelow]
            exact ⟨i, .done, rfl, trivial⟩
    · cases h
  | generated i answer outcome =>
    simp only [System.step] at h
    split at h
    · obtain ⟨conversation, -, rfl⟩ := Option.map_eq_some_iff.mp h
      exact ⟨i, .done, rfl, trivial⟩
    · cases h
  | notify enabled run outcome =>
    obtain rfl := Option.some.inj h
    refine ⟨0, s.handlers 0, ?_, (htracked.handlers 0).grows hgrows⟩
    rw [notification_handlers, ← hkeep]
  | cancel i =>
    simp only [System.step] at h
    split at h
    · obtain rfl := Option.some.inj h
      exact ⟨i, .done, rfl, trivial⟩
    · obtain rfl := Option.some.inj h
      exact ⟨i, .done, rfl, trivial⟩
    · cases h

theorem Tracked.step {s t : System} {a : Action} (htracked : Tracked s)
    (h : s.step a = some t) : Tracked t := by
  have hgrows := (step_effect htracked h).grows htracked
  obtain ⟨i, handler, hhandlers, hok⟩ := step_handlers htracked h
  refine ⟨hgrows.1, fun j => ?_⟩
  rw [hhandlers]
  by_cases hj : j = i
  · subst hj
    rw [Function.update_self]
    exact hok
  · rw [Function.update_of_ne hj]
    exact (htracked.handlers j).grows hgrows

def sampleNumber : Text := "+14155550134".toList

def takenMessage : SendOutcome := .ok ⟨none, "sent".toList⟩

example : (init.step (.receive 0 sampleNumber "Any news?".toList none takenMessage)).isSome = true := by
  decide +kernel

end DemoService.Sms
