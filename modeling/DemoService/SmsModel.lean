import DemoService.RunModel

/-! SMS notifications: phone numbers, the opt-out list, conversations, and the rows
that record what came in and what was sent. -/

namespace DemoService.Sms

open PyText

structure SmsConversation where
  id : Nat
  phoneNumber : Text
  runId : Option Nat
  llmReplyCount : Nat
  deriving DecidableEq, Repr

inductive Direction
  | inbound
  | outbound
  deriving DecidableEq, Repr

structure SmsMessage where
  conversationId : Option Nat
  runId : Option Nat
  phoneNumber : Text
  direction : Direction
  body : Text
  provider : String := "twilio"
  providerMessageSid : Option Text
  status : Text
  errorMessage : Option Text
  deriving DecidableEq, Repr

structure SmsOptOut where
  phoneNumber : Text
  source : String
  reason : Option String
  deriving DecidableEq, Repr

structure Database where
  conversations : List SmsConversation
  messages : List SmsMessage
  optOuts : List SmsOptOut
  deriving DecidableEq, Repr

structure NotificationPreference where
  wantsSms : Bool
  phoneNumber : Option Text
  deriving DecidableEq, Repr

/-- What a notification reads of a run. -/
structure Run where
  id : Nat
  status : Runs.RunStatus
  title : Option Text
  notificationPreference : Option NotificationPreference
  deriving DecidableEq, Repr

def llmReplyLimit : Nat := 2

def smsLimitMessage : Text :=
  "This SMS thread is limited for the demo. Please return to the app for the full run details.".toList

def smsFallbackMessage : Text :=
  "Thanks for the reply. I could not generate a useful SMS answer right now; please return to the app for the run details.".toList

def smsOptOutConfirmation : Text :=
  "Understood - we won't send future messages to this number.".toList

/-! ### Phone numbers -/

def isTrunkDigit (c : Option Char) : Bool := c == some '0' || c == some '1'

def normalizeUsPhone (phoneNumber : Option Text) : Option Text :=
  match phoneNumber with
  | none => none
  | some value =>
    if strip value = [] then none
    else
      let found := value.filter isDecimal
      let digits := if found.length = 11 ∧ found.head? = some '1' then found.drop 1 else found
      if digits.length ≠ 10 then none
      else if isTrunkDigit digits[0]? || isTrunkDigit digits[3]? then none
      else some ('+' :: '1' :: digits)

/-- Ten digits that are no trunk code, after the country code. -/
structure Subscriber (digits : Text) : Prop where
  decimal : ∀ c ∈ digits, isDecimal c = true
  length : digits.length = 10
  noTrunk : ¬ (isTrunkDigit digits[0]? || isTrunkDigit digits[3]?) = true

theorem normalizeUsPhone_eq_some {value : Option Text} {phone : Text}
    (h : normalizeUsPhone value = some phone) :
    ∃ digits, Subscriber digits ∧ phone = '+' :: '1' :: digits := by
  cases value with
  | none => cases h
  | some text =>
    by_cases hblank : strip text = []
    · simp [normalizeUsPhone, hblank] at h
    · have hfound : ∀ c ∈ text.filter isDecimal, isDecimal c = true := by simp
      have hdrop : ∀ c ∈ (text.filter isDecimal).drop 1, isDecimal c = true := fun c hc =>
        hfound c (List.mem_of_mem_drop hc)
      simp only [normalizeUsPhone, hblank, if_false] at h
      generalize hdigits : (if (text.filter isDecimal).length = 11 ∧
        (text.filter isDecimal).head? = some '1' then (text.filter isDecimal).drop 1
        else text.filter isDecimal) = digits at h
      have hdecimal : ∀ c ∈ digits, isDecimal c = true := by
        rw [← hdigits]
        split
        · exact hdrop
        · exact hfound
      by_cases hlen : digits.length = 10
      · rw [if_neg (not_not.mpr hlen)] at h
        by_cases htrunk : (isTrunkDigit digits[0]? || isTrunkDigit digits[3]?) = true
        · rw [if_pos htrunk] at h
          cases h
        · rw [if_neg htrunk] at h
          exact ⟨digits, ⟨hdecimal, hlen, htrunk⟩, (Option.some.inj h).symm⟩
      · rw [if_pos hlen] at h
        cases h

/-- A normalized number is its own normal form. -/
theorem normalizeUsPhone_normalized {value : Option Text} {phone : Text}
    (h : normalizeUsPhone value = some phone) : normalizeUsPhone (some phone) = some phone := by
  obtain ⟨digits, hdigits, rfl⟩ := normalizeUsPhone_eq_some h
  have hblank : ¬ strip ('+' :: '1' :: digits) = [] := by
    have hspace : isSpace '+' = false := by decide
    rw [strip, lstrip, List.dropWhile_cons_of_neg (by simp [hspace]), rstrip,
      List.rdropWhile_eq_nil_iff]
    simp [hspace]
  have hfound : ('+' :: '1' :: digits).filter isDecimal = '1' :: digits := by
    have hplus : isDecimal '+' = false := by decide
    have hone : isDecimal '1' = true := by decide
    simp [hplus, hone, List.filter_eq_self.mpr hdigits.decimal]
  have hdrop : (if ('1' :: digits).length = 11 ∧ ('1' :: digits).head? = some '1' then
      ('1' :: digits).drop 1 else '1' :: digits) = digits := by
    rw [if_pos ⟨by rw [List.length_cons, hdigits.length], rfl⟩]
    rfl
  simp only [normalizeUsPhone, hblank, if_false, hfound, hdrop]
  rw [if_neg (not_not.mpr hdigits.length), if_neg hdigits.noTrunk]

/-! ### Opting out -/

def isPhoneOptedOut (db : Database) (phoneNumber : Text) : Bool :=
  match normalizeUsPhone (some phoneNumber) with
  | none => false
  | some normalized => db.optOuts.any (·.phoneNumber = normalized)

def Database.putOptOut (db : Database) (optOut : SmsOptOut) : Database :=
  { db with optOuts :=
      if db.optOuts.any (·.phoneNumber = optOut.phoneNumber) then
        db.optOuts.map fun row => if row.phoneNumber = optOut.phoneNumber then optOut else row
      else db.optOuts ++ [optOut] }

/-- `none` where an invalid number raises. -/
def upsertSmsOptOut (db : Database) (phoneNumber : Text) (source : String)
    (reason : Option String) : Option Database :=
  (normalizeUsPhone (some phoneNumber)).map fun normalized =>
    db.putOptOut ⟨normalized, source, reason⟩

def exactOptOutMessages : List Text :=
  ["stop".toList, "stopall".toList, "unsubscribe".toList, "cancel".toList, "end".toList,
    "quit".toList]

/-- The letter from a to z that `str.lower` leaves of a character. -/
def lowerLetter (c : Char) : Option Char :=
  if 'a' ≤ c ∧ c ≤ 'z' then some c
  else if 'A' ≤ c ∧ c ≤ 'Z' then some (Char.ofNat (c.toNat + 32))
  else if c.toNat = 0x130 then some 'i'
  else if c.toNat = 0x212A then some 'k'
  else none

def isExactOptOut (body : Text) : Bool := exactOptOutMessages.contains (body.filterMap lowerLetter)

/-! ### Conversations and messages -/

def getOrCreateConversation (db : Database) (phoneNumber : Text) (runId : Option Nat) :
    Database × SmsConversation :=
  let found := db.conversations.filter fun row =>
    row.phoneNumber = phoneNumber && (runId.isNone || row.runId = runId)
  match found.getLast? with
  | some conversation => (db, conversation)
  | none =>
    let conversation := ⟨db.conversations.length, phoneNumber, runId, 0⟩
    ({ db with conversations := db.conversations ++ [conversation] }, conversation)

def Database.conversation (db : Database) (id : Nat) : Option SmsConversation :=
  db.conversations.find? (·.id = id)

/-- `UPDATE sms_conversations SET llm_reply_count = :count WHERE id = :id`. -/
def Database.setReplyCount (db : Database) (id count : Nat) : Database :=
  { db with conversations := db.conversations.map fun row =>
      if row.id = id then { row with llmReplyCount := count } else row }

def recordInboundMessage (db : Database) (conversation : SmsConversation) (phoneNumber : Text)
    (body : Text) (providerMessageSid : Option Text) : Database :=
  { db with messages := db.messages ++ [{
      conversationId := some conversation.id, runId := conversation.runId,
      phoneNumber := phoneNumber, direction := .inbound, body := body,
      providerMessageSid := providerMessageSid, status := "received".toList,
      errorMessage := none }] }

def outboundMessage (phoneNumber : Text) (runId : Option Nat) (body : Text) (status : String)
    (conversationId : Option Nat) (errorMessage : Option String) : SmsMessage where
  conversationId := conversationId
  runId := runId
  phoneNumber := phoneNumber
  direction := .outbound
  body := body
  providerMessageSid := none
  status := status.toList
  errorMessage := errorMessage.map String.toList

def recordOutboundMessage (db : Database) (message : SmsMessage) : Database :=
  { db with messages := db.messages ++ [message] }

structure SmsSendResult where
  providerMessageSid : Option Text
  status : Text
  deriving DecidableEq, Repr

/-- What `send_sms` did: its result, or the text of what it raised. -/
abbrev SendOutcome := Except Text SmsSendResult

def SmsMessage.settle (message : SmsMessage) : SendOutcome → SmsMessage
  | .ok result =>
    { message with providerMessageSid := result.providerMessageSid, status := result.status }
  | .error text => { message with status := "failed".toList, errorMessage := some text }

def completionMessage (run : Run) : Text :=
  "Your messy-notes run is complete: ".toList ++
    orText run.title ("Run #".toList ++ Nat.toDigits 10 run.id) ++
    ". Open the demo app to review the brief and audit summary.".toList

/-! ### What the operations change -/

def Database.optedOut (db : Database) : List Text := db.optOuts.map SmsOptOut.phoneNumber

theorem any_optOuts_iff {db : Database} {phone : Text} :
    db.optOuts.any (·.phoneNumber = phone) = true ↔ phone ∈ db.optedOut := by
  simp [Database.optedOut]

theorem isPhoneOptedOut_iff {db : Database} {phone : Text}
    (h : normalizeUsPhone (some phone) = some phone) :
    isPhoneOptedOut db phone = true ↔ phone ∈ db.optedOut := by
  rw [isPhoneOptedOut, h]
  exact any_optOuts_iff

theorem mem_optedOut_putOptOut {db : Database} {optOut : SmsOptOut} {phone : Text} :
    phone ∈ (db.putOptOut optOut).optedOut ↔ phone ∈ db.optedOut ∨ phone = optOut.phoneNumber := by
  by_cases hlisted : db.optOuts.any (·.phoneNumber = optOut.phoneNumber) = true
  · have hsame : ∀ row : SmsOptOut, (if row.phoneNumber = optOut.phoneNumber then optOut
        else row).phoneNumber = row.phoneNumber := fun row => by
      by_cases hrow : row.phoneNumber = optOut.phoneNumber <;> simp [hrow]
    have hmap : (db.putOptOut optOut).optedOut = db.optedOut := by
      simp only [Database.optedOut, Database.putOptOut, if_pos hlisted, List.map_map,
        Function.comp_def, hsame]
    rw [hmap]
    exact ⟨.inl, fun hor => hor.elim id fun heq => heq ▸ any_optOuts_iff.mp hlisted⟩
  · simp only [Database.optedOut, Database.putOptOut, if_neg hlisted, List.map_append,
      List.mem_append, List.map_cons, List.map_nil, List.mem_singleton]

theorem upsertSmsOptOut_eq {phone : Text} (h : normalizeUsPhone (some phone) = some phone)
    (db : Database) (source : String) (reason : Option String) :
    upsertSmsOptOut db phone source reason = some (db.putOptOut ⟨phone, source, reason⟩) := by
  rw [upsertSmsOptOut, h, Option.map_some]

/-- A conversation with no replies may have been added. -/
def Opens (db db' : Database) : Prop :=
  db'.conversations = db.conversations ∨ ∃ phoneNumber runId, db'.conversations =
    db.conversations ++ [⟨db.conversations.length, phoneNumber, runId, 0⟩]

theorem Opens.refl (db : Database) : Opens db db := .inl rfl

theorem getOrCreateConversation_spec (db : Database) (phoneNumber : Text) (runId : Option Nat) :
    Opens db (getOrCreateConversation db phoneNumber runId).1 ∧
      (getOrCreateConversation db phoneNumber runId).1.optedOut = db.optedOut ∧
      (getOrCreateConversation db phoneNumber runId).2 ∈
        (getOrCreateConversation db phoneNumber runId).1.conversations := by
  unfold getOrCreateConversation
  simp only
  split
  · rename_i conversation hlast
    exact ⟨.inl rfl, rfl, List.mem_of_mem_filter (List.mem_of_getLast? hlast)⟩
  · exact ⟨.inr ⟨phoneNumber, runId, rfl⟩, rfl, by simp⟩

end DemoService.Sms
