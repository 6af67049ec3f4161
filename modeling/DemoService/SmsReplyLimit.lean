import DemoService.SmsSystem

/-! The limit on the replies of the model in one conversation. The handler reads the
count before it asks the model and writes the count it read plus one. -/

namespace DemoService.Sms

open GuardedRuns PyText

def isReplyIn (id : Nat) : Event → Bool
  | .sent sms => sms.conversationId = id && sms.kind = .reply true && sms.accepted
  | .optedOut _ => false

def System.repliesSent (s : System) (id : Nat) : Nat := s.history.countP (isReplyIn id)

def ReplyLaw (s : System) : Prop :=
  ∀ row ∈ s.db.conversations, s.repliesSent row.id ≤ llmReplyLimit ∧
    row.llmReplyCount = s.repliesSent row.id

/-- No reply goes to a conversation that is not in the table. -/
def Placed (s : System) : Prop := ∀ id, s.db.conversations.length ≤ id → s.repliesSent id = 0

theorem placed_init : Placed init := fun _ _ => rfl

/-- The replies that one answer of the model adds. -/
def addedReplies (answer : Option Text) (outcome : SendOutcome) : Nat :=
  if isGenerated answer && outcome.isOk then 1 else 0

/-- The count a handler read, plus one, is the present count plus the reply it sends. -/
def CountsItsReply (s : System) : Action → Prop
  | .generated i answer outcome =>
    match s.handlers i with
    | .generating _ id loadedCount => ∀ row ∈ s.db.conversations, row.id = id →
        loadedCount + 1 = row.llmReplyCount + addedReplies answer outcome
    | _ => True
  | _ => True

theorem repliesSent_append {s t : System} {events : List Event} (id : Nat)
    (hhistory : t.history = s.history ++ events) :
    t.repliesSent id = s.repliesSent id + events.countP (isReplyIn id) := by
  simp [System.repliesSent, hhistory, List.countP_append]

/-- A step of another kind sends no reply of the model. -/
theorem Effect.repliesSent_other {s t : System} {a : Action} (h : Effect s a t)
    (hother : ¬ a.IsReply) (id : Nat) : t.repliesSent id = s.repliesSent id := by
  cases h with
  | quiet _ _ _ hhistory => rw [System.repliesSent, hhistory, System.repliesSent]
  | optOut sms _ _ _ hkind hhistory =>
    rw [repliesSent_append id hhistory]
    simp [isReplyIn, hkind]
  | send sms _ _ _ hkind _ hhistory =>
    rw [repliesSent_append id hhistory]
    rcases hkind with hkind | hkind <;> simp [isReplyIn, hkind]
  | reply i id loadedCount answer outcome phone haction =>
    subst haction
    exact absurd trivial hother

theorem Effect.opens_other {s t : System} {a : Action} (h : Effect s a t) (hother : ¬ a.IsReply) :
    Opens s.db t.db := by
  cases h with
  | quiet _ hopens => exact hopens
  | optOut _ _ hopens => exact hopens
  | send _ _ hopens => exact hopens
  | reply i id loadedCount answer outcome phone haction =>
    subst haction
    exact absurd trivial hother

theorem replyLaw_opens_iff {s t : System} (hplaced : Placed s) (hopens : Opens s.db t.db)
    (hsent : ∀ id, t.repliesSent id = s.repliesSent id) : ReplyLaw t ↔ ReplyLaw s := by
  unfold ReplyLaw
  rcases hopens with hconversations | ⟨phoneNumber, runId, hconversations⟩
  · simp only [hconversations, hsent]
  · have hnone := hplaced _ (Nat.le_refl s.db.conversations.length)
    simp only [hconversations, hsent, List.forall_mem_append, List.forall_mem_singleton, hnone]
    simp

theorem Placed.step {s t : System} {a : Action} (h : Placed s) (htracked : Tracked s)
    (heffect : Effect s a t) : Placed t := by
  intro id hid
  have hle := (heffect.grows htracked).2
  by_cases hother : a.IsReply
  · cases heffect with
    | quiet hno => exact absurd hother hno
    | optOut _ hno => exact absurd hother hno
    | send _ hno => exact absurd hother hno
    | reply i conversationId loadedCount answer outcome phone haction hi hconversations hlist
        hhistory =>
      have hlt := (htracked.generating hi).2.1
      have hne : ¬ conversationId = id := by omega
      rw [repliesSent_append id hhistory, h id (by omega)]
      simp [isReplyIn, hne]
  · rw [heffect.repliesSent_other hother id]
    exact h id (by omega)

theorem countsItsReply_of_other {a : Action} (h : ¬ a.IsReply) (s : System) :
    CountsItsReply s a := by
  cases a with
  | generated i answer outcome => exact absurd trivial h
  | receive | classified | notify | cancel => trivial

theorem replyLaw_step_iff {s t : System} {a : Action} (htracked : Tracked s) (hplaced : Placed s)
    (hlaw : ReplyLaw s) (h : s.step a = some t) : ReplyLaw t ↔ CountsItsReply s a := by
  have heffect := step_effect htracked h
  by_cases hother : a.IsReply
  · cases heffect with
    | quiet hno => exact absurd hother hno
    | optOut _ hno => exact absurd hother hno
    | send _ hno => exact absurd hother hno
    | reply i id loadedCount answer outcome phone haction hi hconversations hlist hhistory =>
      subst haction
      have hbelow := (htracked.generating hi).2.2
      have hsent : ∀ other, t.repliesSent other = s.repliesSent other +
          if id = other then addedReplies answer outcome else 0 := by
        intro other
        rw [repliesSent_append other hhistory]
        by_cases hid : id = other <;> simp [isReplyIn, addedReplies, hid]
      simp only [CountsItsReply, hi]
      constructor
      · intro ht row hrow hid
        have hmem : { row with llmReplyCount := loadedCount + 1 } ∈ t.db.conversations := by
          rw [hconversations]
          exact List.mem_map.mpr ⟨row, hrow, by simp [hid]⟩
        have hcount := (ht _ hmem).2
        have hold := (hlaw row hrow).2
        simp only [hsent, if_pos hid.symm] at hcount
        omega
      · intro hcounts row' hrow'
        rw [hconversations] at hrow'
        obtain ⟨row, hrow, rfl⟩ := List.mem_map.mp hrow'
        obtain ⟨hlimit, hold⟩ := hlaw row hrow
        by_cases hid : row.id = id
        · have hcount := hcounts row hrow hid
          rw [if_pos hid]
          simp only [hsent, hid, if_true]
          rw [hid] at hold
          omega
        · rw [if_neg hid, hsent, if_neg (Ne.symm hid)]
          exact ⟨hlimit, hold⟩
  · simp only [countsItsReply_of_other hother, iff_true]
    exact (replyLaw_opens_iff hplaced (heffect.opens_other hother)
      (heffect.repliesSent_other hother)).mpr hlaw

/-- The limit and the count hold all along a run exactly when every answer of the model leaves
the count that its handler read plus one equal to the present count plus the replies it adds: the
model's reply goes out and nothing was counted meanwhile, or none goes out and one was. -/
theorem reply_law_iff {s : System} {actions : List Action}
    (h : exec System.step init actions = some s) :
    Always System.step ReplyLaw init actions ↔
      AllSteps System.step CountsItsReply init actions := by
  have hinit : ReplyLaw init := fun row hrow => absurd hrow (by simp [init])
  refine always_iff (I := fun s => Tracked s ∧ Placed s) h ⟨tracked_init, placed_init⟩ hinit ?_ ?_
  · exact fun s a t hs hstep =>
      ⟨hs.1.step hstep, hs.2.step hs.1 (step_effect hs.1 hstep)⟩
  · exact fun s a t hs hlaw hstep => replyLaw_step_iff hs.1 hs.2 hlaw hstep

def concurrentMessages : List Action :=
  [.receive 0 sampleNumber "One?".toList none takenMessage, .classified 0 (some false) takenMessage,
    .receive 1 sampleNumber "Two?".toList none takenMessage,
    .classified 1 (some false) takenMessage,
    .generated 0 (some "A".toList) takenMessage, .generated 1 (some "B".toList) takenMessage,
    .receive 2 sampleNumber "Three?".toList none takenMessage,
    .classified 2 (some false) takenMessage, .generated 2 (some "C".toList) takenMessage]

theorem concurrent_messages_pass_the_limit :
    ¬ ∀ s actions, exec System.step init actions = some s → ReplyLaw s := by
  intro hall
  have hex : (exec System.step init concurrentMessages).map
      (fun s => (s.db.conversations, s.repliesSent 0)) = some ([⟨0, sampleNumber, none, 2⟩], 3) := by
    decide +kernel
  obtain ⟨s, hs, heq⟩ := Option.map_eq_some_iff.mp hex
  obtain ⟨hconversations, hsent⟩ := Prod.mk.inj heq
  have hlaw := hall s concurrentMessages hs _ (hconversations ▸ List.mem_singleton_self _)
  have hle : s.repliesSent 0 ≤ 2 := hlaw.1
  omega

def messagesInTurn : List Action :=
  [.receive 0 sampleNumber "One?".toList none takenMessage, .classified 0 (some false) takenMessage,
    .generated 0 (some "A".toList) takenMessage,
    .receive 1 sampleNumber "Two?".toList none takenMessage,
    .classified 1 (some false) takenMessage, .generated 1 (some "B".toList) takenMessage]

theorem messages_in_turn_are_counted : ∃ s, exec System.step init messagesInTurn = some s ∧
    (Always System.step ReplyLaw init messagesInTurn ↔
      AllSteps System.step CountsItsReply init messagesInTurn) := by
  have hex : (exec System.step init messagesInTurn).isSome = true := by decide +kernel
  obtain ⟨s, hs⟩ := Option.isSome_iff_exists.mp hex
  exact ⟨s, hs, reply_law_iff hs⟩

end DemoService.Sms
