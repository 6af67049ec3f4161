import DemoService.GuardedRuns
import DemoService.Holders
import DemoService.RagStore

/-! Message posts to RAG conversations. A post checks the number of user turns
before the model plans and drafts, and reads the next turn index and stores its
two messages afterwards; other posts run in between. -/

namespace DemoService.Rag

open PyText GuardedRuns Holders

inductive MessageRole
  | user
  | assistant
  deriving DecidableEq, Repr

structure RagConversation where
  id : Nat
  invitationCodeId : Nat
  personaId : Option Nat
  status : Text
  deriving DecidableEq, Repr

structure RagMessage where
  conversationId : Nat
  role : MessageRole
  content : Text
  turnIndex : Nat
  metadataSerialized : Option Text
  deriving DecidableEq, Repr

def getConversationOr404 (conversations : List RagConversation)
    (conversationId invitationCodeId : Nat) : Except HTTPException RagConversation :=
  match conversations.find? fun conversation =>
      conversation.id = conversationId ∧ conversation.invitationCodeId = invitationCodeId with
  | some conversation => .ok conversation
  | none => .error ⟨404, "Conversation not found.".toList⟩

def getActivePersonaOr404 (personas : List RagPersona) (personaId invitationCodeId : Nat) :
    Except HTTPException RagPersona :=
  match personas.find? fun persona => persona.id = personaId ∧
      persona.invitationCodeId = invitationCodeId ∧ persona.isActive = true with
  | some persona => .ok persona
  | none => .error ⟨404, "Persona not found.".toList⟩

def messagesOf (messages : List RagMessage) (conversationId : Nat) : List RagMessage :=
  messages.filter (·.conversationId = conversationId)

def nextMessageIndex (messages : List RagMessage) (conversationId : Nat) : Nat :=
  match ((messagesOf messages conversationId).map (·.turnIndex)).max? with
  | some current => current + 1
  | none => 0

def userTurnCount (messages : List RagMessage) (conversationId : Nat) : Nat :=
  ((messagesOf messages conversationId).filter (·.role = .user)).length

/-- The model's answer, or the refusal in its place, and the metadata stored with it. -/
structure RagAssistantDraft where
  contentMarkdown : Text
  metadataSerialized : Text
  deriving DecidableEq, Repr

inductive PostPhase
  | drafting
  | indexed (draft : RagAssistantDraft) (nextIndex : Nat)
  | answered (turnsRemaining : Nat)
  | failed
  deriving DecidableEq, Repr

structure MessagePost where
  conversationId : Nat
  userContent : Text
  existingUserTurns : Nat
  phase : PostPhase
  deriving DecidableEq, Repr

structure ChatSystem where
  conversations : List RagConversation
  personas : List RagPersona
  messages : List RagMessage
  posts : List MessagePost

def ChatSystem.initial (conversations : List RagConversation) (personas : List RagPersona) :
    ChatSystem :=
  ⟨conversations, personas, [], []⟩

/-- What `create_rag_conversation_message_route` checks in the conversation and the message. -/
def checkTurn (messages : List RagMessage) (conversation : RagConversation) (content : Text) :
    Except HTTPException MessagePost :=
  let existingUserTurns := userTurnCount messages conversation.id
  let userContent := strip content
  if 10 ≤ existingUserTurns then
    .error ⟨409, "RAG conversations are limited to 10 user turns.".toList⟩
  else if userContent = [] then .error ⟨422, "Message content cannot be empty.".toList⟩
  else .ok ⟨conversation.id, userContent, existingUserTurns, .drafting⟩

/-- The route up to its first await. -/
def beginPost (s : ChatSystem) (invitationCodeId conversationId : Nat) (content : Text) :
    Except HTTPException MessagePost :=
  match getConversationOr404 s.conversations conversationId invitationCodeId with
  | .error e => .error e
  | .ok conversation =>
    if conversation.status ≠ "active".toList then
      .error ⟨409, "Conversation is not active.".toList⟩
    else
      match conversation.personaId with
      | none => .error ⟨409, "Conversation persona is no longer available.".toList⟩
      | some personaId =>
        match getActivePersonaOr404 s.personas personaId invitationCodeId with
        | .error e => .error e
        | .ok _ => checkTurn s.messages conversation content

/-- Adds the two messages of a turn under the unique (conversation_id, turn_index). -/
def storeTurn (messages : List RagMessage) (post : MessagePost) (draft : RagAssistantDraft)
    (nextIndex : Nat) : Option (List RagMessage) :=
  if (messagesOf messages post.conversationId).any fun message =>
      message.turnIndex = nextIndex ∨ message.turnIndex = nextIndex + 1 then none
  else some (messages ++
    [⟨post.conversationId, .user, post.userContent, nextIndex, none⟩,
      ⟨post.conversationId, .assistant, draft.contentMarkdown, nextIndex + 1,
        some draft.metadataSerialized⟩])

/-- What happens next: a request arrives, a post gets its draft (or planning or
drafting raises), a post stores its turn (or its citations or its commit fail),
or other requests change conversations and personas. -/
inductive ChatAction
  | post (invitationCodeId conversationId : Nat) (content : Text)
  | resume (i : Nat) (draft : Option RagAssistantDraft)
  | commit (i : Nat) (stored : Bool)
  | others (conversations : List RagConversation) (personas : List RagPersona)

def ChatSystem.setPhase (s : ChatSystem) (i : Nat) (post : MessagePost) (phase : PostPhase) :
    ChatSystem :=
  { s with posts := s.posts.set i { post with phase } }

def ChatSystem.step (s : ChatSystem) : ChatAction → Option ChatSystem
  | .post invitationCodeId conversationId content =>
    match beginPost s invitationCodeId conversationId content with
    | .error _ => some s
    | .ok post => some { s with posts := s.posts ++ [post] }
  | .resume i draft =>
    match s.posts[i]? with
    | some post =>
      match post.phase, draft with
      | .drafting, some draft =>
        some (s.setPhase i post
          (.indexed draft (nextMessageIndex s.messages post.conversationId)))
      | .drafting, none => some (s.setPhase i post .failed)
      | _, _ => none
    | none => none
  | .commit i stored =>
    match s.posts[i]? with
    | some post =>
      match post.phase with
      | .indexed draft nextIndex =>
        match storeTurn s.messages post draft nextIndex, stored with
        | some messages, true =>
          some { s.setPhase i post (.answered (10 - post.existingUserTurns - 1)) with messages }
        | _, _ => some (s.setPhase i post .failed)
      | _ => none
    | none => none
  | .others conversations personas => some { s with conversations, personas }

/-! ### Turns in order -/

/-- `k` turns: indices from zero, a user's message before each assistant's. -/
def alternating (k : Nat) : List (Nat × MessageRole) :=
  (List.range (2 * k)).map fun i => (i, if i % 2 = 0 then .user else .assistant)

def turnsOf (messages : List RagMessage) (conversationId : Nat) : List (Nat × MessageRole) :=
  (messagesOf messages conversationId).map fun message => (message.turnIndex, message.role)

/-- In every conversation the turn indices are contiguous from zero and the roles alternate. -/
def Alternates (messages : List RagMessage) : Prop :=
  ∀ conversationId, ∃ k, turnsOf messages conversationId = alternating k

theorem alternating_succ (k : Nat) :
    alternating (k + 1) = alternating k ++ [(2 * k, .user), (2 * k + 1, .assistant)] := by
  have heven : 2 * k % 2 = 0 := by omega
  have hodd : (2 * k + 1) % 2 ≠ 0 := by omega
  have hrange : List.range (2 * (k + 1)) = List.range (2 * k) ++ [2 * k, 2 * k + 1] := by
    rw [show 2 * (k + 1) = 2 * k + 1 + 1 by omega, List.range_succ, List.range_succ]
    simp
  simp only [alternating, hrange, List.map_append, List.map_cons, List.map_nil, heven, hodd,
    if_true, if_false]

theorem alternating_users (k : Nat) : ((alternating k).filter (·.2 = .user)).length = k := by
  induction k with
  | zero => rfl
  | succ k ih =>
    rw [alternating_succ, List.filter_append, List.length_append, ih]
    simp

theorem alternating_indices (k : Nat) : (alternating k).map (·.1) = List.range (2 * k) := by
  simp [alternating, Function.comp_def]

section

variable {messages : List RagMessage} {conversationId k : Nat}
  (h : turnsOf messages conversationId = alternating k)
include h

theorem userTurnCount_eq : userTurnCount messages conversationId = k := by
  have hfilter : ((turnsOf messages conversationId).filter (·.2 = .user)).length =
      userTurnCount messages conversationId := by
    rw [turnsOf, List.filter_map, List.length_map]
    rfl
  rw [← hfilter, h, alternating_users]

theorem turnIndices_eq :
    (messagesOf messages conversationId).map (·.turnIndex) = List.range (2 * k) := by
  have hmap : (turnsOf messages conversationId).map (·.1) =
      (messagesOf messages conversationId).map (·.turnIndex) := by
    simp [turnsOf, Function.comp_def]
  rw [← hmap, h, alternating_indices]

theorem nextMessageIndex_eq : nextMessageIndex messages conversationId = 2 * k := by
  unfold nextMessageIndex
  rw [turnIndices_eq h]
  cases k with
  | zero => rfl
  | succ k =>
    have hmax : (List.range (2 * (k + 1))).max? = some (2 * k + 1) := by
      rw [List.max?_eq_some_iff]
      constructor
      · rw [List.mem_range]
        omega
      · intro i hi
        rw [List.mem_range] at hi
        omega
    rw [hmax]
    show 2 * k + 1 + 1 = 2 * (k + 1)
    omega

theorem length_messagesOf_eq : (messagesOf messages conversationId).length = 2 * k := by
  have hlen := congrArg List.length (turnIndices_eq h)
  rwa [List.length_map, List.length_range] at hlen

end

theorem le_of_storeTurn {messages stored : List RagMessage} {post : MessagePost}
    {draft : RagAssistantDraft} {nextIndex k : Nat}
    (h : turnsOf messages post.conversationId = alternating k)
    (hs : storeTurn messages post draft nextIndex = some stored) : 2 * k ≤ nextIndex := by
  unfold storeTurn at hs
  split at hs
  · cases hs
  · rename_i hfree
    by_contra hlt
    have hmem : nextIndex ∈ (messagesOf messages post.conversationId).map (·.turnIndex) := by
      rw [turnIndices_eq h, List.mem_range]
      omega
    obtain ⟨message, hmessage, hindex⟩ := List.mem_map.mp hmem
    apply hfree
    exact List.any_eq_true.mpr ⟨message, hmessage, by simp [hindex]⟩

theorem storeTurn_eq_some {messages stored : List RagMessage} {post : MessagePost}
    {draft : RagAssistantDraft} {nextIndex : Nat}
    (h : storeTurn messages post draft nextIndex = some stored) :
    turnsOf stored post.conversationId = turnsOf messages post.conversationId ++
        [(nextIndex, .user), (nextIndex + 1, .assistant)] ∧
      ∀ c, c ≠ post.conversationId → turnsOf stored c = turnsOf messages c := by
  unfold storeTurn at h
  split at h
  · cases h
  · obtain rfl := Option.some.inj h
    constructor
    · simp [turnsOf, messagesOf]
    · intro c hc
      have hne : post.conversationId ≠ c := hc.symm
      simp [turnsOf, messagesOf, hne]

/-! ### Steps -/

def StoresTurn (s : ChatSystem) (a : ChatAction) (post : MessagePost) (nextIndex : Nat)
    (messages : List RagMessage) : Prop :=
  ∃ i draft, a = .commit i true ∧ s.posts[i]? = some post ∧
    post.phase = .indexed draft nextIndex ∧ storeTurn s.messages post draft nextIndex = some messages

/-- What one action can do, guards included. -/
inductive ChatStep (s : ChatSystem) : ChatAction → ChatSystem → Prop
  | refused {invitationCodeId conversationId : Nat} {content : Text} {exception : HTTPException}
      (hbegin : beginPost s invitationCodeId conversationId content = .error exception) :
      ChatStep s (.post invitationCodeId conversationId content) s
  | began {invitationCodeId conversationId : Nat} {content : Text} {post : MessagePost}
      (hbegin : beginPost s invitationCodeId conversationId content = .ok post) :
      ChatStep s (.post invitationCodeId conversationId content)
        { s with posts := s.posts ++ [post] }
  | drafted {i : Nat} {post : MessagePost} {draft : RagAssistantDraft}
      (hpost : s.posts[i]? = some post) (hphase : post.phase = .drafting) :
      ChatStep s (.resume i (some draft))
        (s.setPhase i post (.indexed draft (nextMessageIndex s.messages post.conversationId)))
  | undrafted {i : Nat} {post : MessagePost} (hpost : s.posts[i]? = some post)
      (hphase : post.phase = .drafting) : ChatStep s (.resume i none) (s.setPhase i post .failed)
  | stored {i : Nat} {post : MessagePost} {draft : RagAssistantDraft} {nextIndex : Nat}
      {messages : List RagMessage} (hpost : s.posts[i]? = some post)
      (hphase : post.phase = .indexed draft nextIndex)
      (hstore : storeTurn s.messages post draft nextIndex = some messages) :
      ChatStep s (.commit i true)
        { s.setPhase i post (.answered (10 - post.existingUserTurns - 1)) with messages }
  | unstored {i : Nat} {stored : Bool} {post : MessagePost} {draft : RagAssistantDraft}
      {nextIndex : Nat} (hpost : s.posts[i]? = some post)
      (hphase : post.phase = .indexed draft nextIndex)
      (hfails : stored = true → storeTurn s.messages post draft nextIndex = none) :
      ChatStep s (.commit i stored) (s.setPhase i post .failed)
  | others {conversations : List RagConversation} {personas : List RagPersona} :
      ChatStep s (.others conversations personas) { s with conversations, personas }

theorem step_cases {s t : ChatSystem} {a : ChatAction} (h : s.step a = some t) :
    ChatStep s a t := by
  cases a with
  | post invitationCodeId conversationId content =>
    simp only [ChatSystem.step] at h
    split at h
    · rename_i exception hbegin
      cases h
      exact .refused hbegin
    · rename_i post hbegin
      cases h
      exact .began hbegin
  | resume i draft =>
    simp only [ChatSystem.step] at h
    split at h
    · rename_i post hpost
      split at h
      · rename_i hphase
        cases h
        exact .drafted hpost hphase
      · rename_i hphase
        cases h
        exact .undrafted hpost hphase
      · cases h
    · cases h
  | commit i stored =>
    simp only [ChatSystem.step] at h
    split at h
    · rename_i post hpost
      split at h
      · rename_i draft nextIndex hphase
        split at h
        · rename_i messages hstore
          cases h
          exact .stored hpost hphase hstore
        · rename_i hfails
          cases h
          refine .unstored hpost hphase fun hstored => ?_
          cases hstore : storeTurn s.messages post draft nextIndex with
          | none => rfl
          | some messages => exact absurd hstored (hfails messages hstore)
      · cases h
    · cases h
  | others conversations personas =>
    cases h
    exact .others

theorem step_messages {s t : ChatSystem} {a : ChatAction} (h : s.step a = some t) :
    (∃ post nextIndex, StoresTurn s a post nextIndex t.messages) ∨
      (t.messages = s.messages ∧ ∀ post nextIndex messages, ¬ StoresTurn s a post nextIndex messages) := by
  have hother : (∀ i, a ≠ .commit i true) →
      ∀ post nextIndex messages, ¬ StoresTurn s a post nextIndex messages := by
    intro hne post nextIndex messages hstores
    obtain ⟨i, _, ha, -⟩ := hstores
    exact hne i ha
  cases step_cases h with
  | refused hbegin => exact .inr ⟨rfl, hother nofun⟩
  | began hbegin => exact .inr ⟨rfl, hother nofun⟩
  | drafted hpost hphase => exact .inr ⟨rfl, hother nofun⟩
  | undrafted hpost hphase => exact .inr ⟨rfl, hother nofun⟩
  | stored hpost hphase hstore => exact .inl ⟨_, _, _, _, rfl, hpost, hphase, hstore⟩
  | unstored hpost hphase hfails =>
    refine .inr ⟨rfl, fun post' nextIndex' messages hstores => ?_⟩
    obtain ⟨i', draft', ha, hpost', hphase', hstore⟩ := hstores
    cases ha
    cases hpost.symm.trans hpost'
    cases hphase.symm.trans hphase'
    cases (hfails rfl).symm.trans hstore
  | others => exact .inr ⟨rfl, hother nofun⟩

theorem checkTurn_phase {messages : List RagMessage} {conversation : RagConversation}
    {content : Text} {post : MessagePost} (h : checkTurn messages conversation content = .ok post) :
    post.phase = .drafting := by
  simp only [checkTurn] at h
  split at h
  · cases h
  · split at h
    · cases h
    · cases h
      rfl

theorem beginPost_phase {s : ChatSystem} {invitationCodeId conversationId : Nat} {content : Text}
    {post : MessagePost} (h : beginPost s invitationCodeId conversationId content = .ok post) :
    post.phase = .drafting := by
  unfold beginPost at h
  split at h
  · cases h
  · split at h
    · cases h
    · split at h
      · cases h
      · split at h
        · cases h
        · exact checkTurn_phase h

/-- A post that has read its index had read it before the step, or reads it in the step. -/
theorem step_indexed {s t : ChatSystem} {a : ChatAction} (h : s.step a = some t) {j : Nat}
    {p : MessagePost} {draft : RagAssistantDraft} {nextIndex : Nat} (hp : t.posts[j]? = some p)
    (hphase : p.phase = .indexed draft nextIndex) :
    s.posts[j]? = some p ∨
      (nextIndex = nextMessageIndex s.messages p.conversationId ∧ t.messages = s.messages) := by
  have hset : ∀ {i : Nat} {post : MessagePost} {phase : PostPhase},
      (s.posts.set i { post with phase })[j]? = some p →
      (∀ draft nextIndex, phase ≠ .indexed draft nextIndex) → s.posts[j]? = some p := by
    intro i post phase hj hne
    rcases getElem?_set_cases hj with ⟨-, rfl⟩ | ⟨-, hj⟩
    · exact absurd hphase (hne _ _)
    · exact hj
  cases step_cases h with
  | refused hbegin => exact .inl hp
  | began hbegin =>
    rcases getElem?_concat_cases hp with hp | rfl
    · exact .inl hp
    · rw [beginPost_phase hbegin] at hphase
      cases hphase
  | drafted hpost hdrafting =>
    rcases getElem?_set_cases hp with ⟨-, rfl⟩ | ⟨-, hp⟩
    · cases hphase
      exact .inr ⟨rfl, rfl⟩
    · exact .inl hp
  | undrafted hpost hdrafting => exact .inl (hset hp nofun)
  | stored hpost hindexed hstore => exact .inl (hset hp nofun)
  | unstored hpost hindexed hfails => exact .inl (hset hp nofun)
  | others => exact .inl hp

/-- The turns are in order, and no post has read an index beyond the stored ones. -/
structure TurnsSound (s : ChatSystem) : Prop where
  alternates : Alternates s.messages
  indexed : ∀ (i : Nat) (post : MessagePost) (draft : RagAssistantDraft) (nextIndex : Nat),
    s.posts[i]? = some post → post.phase = .indexed draft nextIndex →
      nextIndex ≤ (messagesOf s.messages post.conversationId).length

theorem turnsSound_initial (conversations : List RagConversation) (personas : List RagPersona) :
    TurnsSound (ChatSystem.initial conversations personas) where
  alternates := fun _ => ⟨0, rfl⟩
  indexed := fun i post draft nextIndex hi => by
    simp [ChatSystem.initial] at hi

theorem StoresTurn.turns {s : ChatSystem} {a : ChatAction} {post : MessagePost} {nextIndex : Nat}
    {messages : List RagMessage} (h : StoresTurn s a post nextIndex messages) (hs : TurnsSound s) :
    ∃ k, turnsOf s.messages post.conversationId = alternating k ∧
      turnsOf messages post.conversationId = alternating (k + 1) ∧
      ∀ c, c ≠ post.conversationId → turnsOf messages c = turnsOf s.messages c := by
  obtain ⟨i, draft, -, hpost, hphase, hstore⟩ := h
  obtain ⟨k, hk⟩ := hs.alternates post.conversationId
  have hlow := le_of_storeTurn hk hstore
  have hhigh := hs.indexed i post draft nextIndex hpost hphase
  rw [length_messagesOf_eq hk] at hhigh
  obtain rfl : nextIndex = 2 * k := by omega
  obtain ⟨hturns, hothers⟩ := storeTurn_eq_some hstore
  refine ⟨k, hk, ?_, hothers⟩
  rw [hturns, hk, alternating_succ]

theorem TurnsSound.step {s t : ChatSystem} {a : ChatAction} (hs : TurnsSound s)
    (h : s.step a = some t) : TurnsSound t := by
  have halternates : Alternates t.messages := by
    rcases step_messages h with ⟨post, nextIndex, hstores⟩ | ⟨hsame, -⟩
    · obtain ⟨k, -, hnext, hothers⟩ := hstores.turns hs
      intro c
      by_cases hc : c = post.conversationId
      · exact ⟨k + 1, hc ▸ hnext⟩
      · rw [hothers c hc]
        exact hs.alternates c
    · rw [hsame]
      exact hs.alternates
  have hgrow : ∀ c, (messagesOf s.messages c).length ≤ (messagesOf t.messages c).length := by
    intro c
    rcases step_messages h with ⟨post, nextIndex, hstores⟩ | ⟨hsame, -⟩
    · obtain ⟨k, hk, hnext, hothers⟩ := hstores.turns hs
      by_cases hc : c = post.conversationId
      · rw [hc, length_messagesOf_eq hk, length_messagesOf_eq hnext]
        omega
      · have hlen := congrArg List.length (hothers c hc)
        simp only [turnsOf, List.length_map] at hlen
        omega
    · rw [hsame]
  refine ⟨halternates, fun i post draft nextIndex hpost hphase => ?_⟩
  rcases step_indexed h hpost hphase with hold | ⟨hread, hsame⟩
  · exact (hs.indexed i post draft nextIndex hold hphase).trans (hgrow _)
  · obtain ⟨k, hk⟩ := hs.alternates post.conversationId
    rw [hread, hsame, nextMessageIndex_eq hk, length_messagesOf_eq hk]

def WithinLimit (s : ChatSystem) : Prop :=
  ∀ conversationId, userTurnCount s.messages conversationId ≤ 10

/-- A post that stores its turn still finds fewer than ten user turns: those counted in its
check, and those that other posts stored since, leave room for one more. -/
def StoresBelowLimit (s : ChatSystem) (a : ChatAction) : Prop :=
  ∀ post nextIndex messages, StoresTurn s a post nextIndex messages →
    userTurnCount s.messages post.conversationId < 10

theorem withinLimit_iff {s t : ChatSystem} {a : ChatAction} (hs : TurnsSound s)
    (hgood : WithinLimit s) (h : s.step a = some t) : WithinLimit t ↔ StoresBelowLimit s a := by
  rcases step_messages h with ⟨post, nextIndex, hstores⟩ | ⟨hsame, hnone⟩
  · obtain ⟨k, hk, hnext, hothers⟩ := hstores.turns hs
    have hcount := userTurnCount_eq hk
    have hcountNext := userTurnCount_eq hnext
    constructor
    · intro hlimit post' nextIndex' messages hstores'
      obtain ⟨i, draft, rfl, hpost, -⟩ := hstores
      obtain ⟨i', draft', ha, hpost', -⟩ := hstores'
      cases ha
      obtain rfl : post = post' := Option.some.inj (hpost.symm.trans hpost')
      have hle := hlimit post.conversationId
      omega
    · intro hbelow c
      by_cases hc : c = post.conversationId
      · have hlt := hbelow post nextIndex t.messages hstores
        rw [hc]
        omega
      · obtain ⟨j, hj⟩ := hs.alternates c
        have hle := hgood c
        rw [userTurnCount_eq ((hothers c hc).trans hj)]
        rwa [userTurnCount_eq hj] at hle
  · refine iff_of_true (fun c => ?_) fun post nextIndex messages hstores => ?_
    · rw [hsame]
      exact hgood c
    · exact absurd hstores (hnone post nextIndex messages)

/-- Along every run the turns of a conversation stay contiguous and alternate, and they stay
within the limit exactly where every post that stores its turn finds room for it. -/
theorem turn_limit_iff {conversations : List RagConversation} {personas : List RagPersona}
    {actions : List ChatAction} {t : ChatSystem}
    (h : exec ChatSystem.step (.initial conversations personas) actions = some t) :
    Always ChatSystem.step (fun s => WithinLimit s ∧ Alternates s.messages)
        (.initial conversations personas) actions ↔
      AllSteps ChatSystem.step StoresBelowLimit (.initial conversations personas) actions := by
  have hinit := turnsSound_initial conversations personas
  have hinv : ∀ s a t, TurnsSound s → ChatSystem.step s a = some t → TurnsSound t :=
    fun s a t hs hstep => hs.step hstep
  have hlimit : WithinLimit (ChatSystem.initial conversations personas) :=
    fun c => Nat.zero_le 10
  rw [← always_iff h hinit hlimit hinv fun s a t hs hgood hstep => withinLimit_iff hs hgood hstep]
  constructor
  · exact fun hall => hall.mono fun s hs => hs.1
  · exact fun hall => hall.mono_of_invariant hinv (fun s hs hgood => ⟨hgood, hs.alternates⟩) hinit

/-! ### Runs of one conversation -/

def oneConversation : ChatSystem :=
  .initial [⟨0, 1, some 0, "active".toList⟩] [⟨0, 1, true⟩]

def asks : ChatAction := .post 1 0 ['q']

def oneTurn (i : Nat) : List ChatAction := [asks, .resume i (some ⟨['a'], []⟩), .commit i true]

theorem first_turn_is_kept : ∃ t, exec ChatSystem.step oneConversation (oneTurn 0) = some t ∧
    Always ChatSystem.step (fun s => WithinLimit s ∧ Alternates s.messages) oneConversation
      (oneTurn 0) := by
  have hex : (exec ChatSystem.step oneConversation [asks, .resume 0 (some ⟨['a'], []⟩)]).map
      (fun s => (s.messages, (s.step (.commit 0 true)).isSome)) = some ([], true) := by decide +kernel
  obtain ⟨s, hs, heq⟩ := Option.map_eq_some_iff.mp hex
  obtain ⟨hempty, hnext⟩ := Prod.mk.inj heq
  obtain ⟨t, ht⟩ := Option.isSome_iff_exists.mp hnext
  have hrun : exec ChatSystem.step oneConversation
      ([asks, .resume 0 (some ⟨['a'], []⟩)] ++ [.commit 0 true]) = some t := by
    rw [exec_append hs]
    simp [exec, ht]
  have hquiet : ∀ s, StoresBelowLimit s asks ∧ StoresBelowLimit s (.resume 0 (some ⟨['a'], []⟩)) := by
    intro s
    constructor
    · intro post nextIndex messages hstores
      obtain ⟨i, draft, ha, -⟩ := hstores
      cases ha
    · intro post nextIndex messages hstores
      obtain ⟨i, draft, ha, -⟩ := hstores
      cases ha
  have hlast : StoresBelowLimit s (.commit 0 true) := by
    intro post nextIndex messages _
    rw [hempty]
    exact Nat.zero_lt_succ 9
  have hall := (allSteps_concat_iff hs).mpr
    ⟨⟨(hquiet _).1, fun s _ => ⟨(hquiet s).2, fun _ _ => trivial⟩⟩, hlast⟩
  exact ⟨t, hrun, (turn_limit_iff hrun).mpr hall⟩

/-- Two posts count nine user turns each, and both store theirs. -/
theorem eleventh_turn_is_stored :
    ¬ ∀ actions t, exec ChatSystem.step oneConversation actions = some t → WithinLimit t := by
  intro hall
  have hex : (exec ChatSystem.step oneConversation
      ((List.range 9).flatMap oneTurn ++
        [asks, asks, .resume 9 (some ⟨['a'], []⟩), .commit 9 true,
          .resume 10 (some ⟨['b'], []⟩), .commit 10 true])).map
      (fun t => userTurnCount t.messages 0) = some 11 := by decide +kernel
  obtain ⟨t, ht, hcount⟩ := Option.map_eq_some_iff.mp hex
  have hle := hall _ t ht 0
  omega

end DemoService.Rag
