import DemoService.SmsSystem

/-! Whether an opt-out is final. Every sender looks at the opt-out list in the step in
which it sends, except the handler that comes back with a reply from the model. -/

namespace DemoService.Sms

open GuardedRuns PyText

/-- After an opt-out only its confirmation may go to the number. -/
def Allows : Event → Event → Prop
  | .optedOut phone, .sent sms => sms.phoneNumber = phone → sms.kind = .confirmation
  | _, _ => True

def OptOutFinal (s : System) : Prop := s.history.Pairwise Allows

/-- The opt-out list holds the numbers of the opt-outs that were committed. -/
def Listed (s : System) : Prop :=
  ∀ phone, Event.optedOut phone ∈ s.history ↔ phone ∈ s.db.optedOut

theorem listed_init : Listed init := fun phone => by simp [init, Database.optedOut]

theorem Listed.step {s t : System} {a : Action} (h : Listed s) (heffect : Effect s a t) :
    Listed t := by
  intro phone
  cases heffect with
  | quiet _ _ hlist hhistory => rw [hhistory, hlist, h phone]
  | optOut sms _ _ hlist _ hhistory => simp [hhistory, hlist, h phone]
  | send sms _ _ hlist _ _ hhistory => simp [hhistory, hlist, h phone]
  | reply _ _ _ _ _ _ _ _ _ hlist hhistory => simp [hhistory, hlist, h phone]

theorem allows_sent_iff {s : System} (h : Listed s) {sms : Outbound}
    (hkind : sms.kind ≠ .confirmation) :
    (∀ event ∈ s.history, Allows event (.sent sms)) ↔ sms.phoneNumber ∉ s.db.optedOut := by
  rw [← h]
  constructor
  · exact fun hall hmem => hkind (hall _ hmem rfl)
  · intro hfree event hevent
    cases event with
    | optedOut phone =>
      intro heq
      subst heq
      exact absurd hevent hfree
    | sent other => trivial

theorem optOutFinal_sent_iff {s t : System} {sms : Outbound}
    (hhistory : t.history = s.history ++ [.sent sms]) :
    OptOutFinal t ↔ OptOutFinal s ∧ ∀ event ∈ s.history, Allows event (.sent sms) := by
  simp [OptOutFinal, hhistory, List.pairwise_append]

def RepliesInTime (s : System) : Action → Prop
  | .generated i _ _ =>
    match s.handlers i with
    | .generating phone _ _ => isPhoneOptedOut s.db phone = false
    | _ => True
  | _ => True

theorem repliesInTime_of_other {a : Action} (h : ¬ a.IsReply) (s : System) : RepliesInTime s a := by
  cases a with
  | generated i answer outcome => exact absurd trivial h
  | receive | classified | notify | cancel => trivial

theorem optOutFinal_step_iff {s t : System} {a : Action} (htracked : Tracked s) (hlisted : Listed s)
    (h : s.step a = some t) : OptOutFinal t ↔ OptOutFinal s ∧ RepliesInTime s a := by
  cases step_effect htracked h with
  | quiet hother _ _ hhistory => simp [OptOutFinal, hhistory, repliesInTime_of_other hother]
  | optOut sms hother _ _ hkind hhistory =>
    have hlisting : ∀ event, Allows event (.optedOut sms.phoneNumber) := by
      intro event
      cases event <;> trivial
    have hconfirms : ∀ event, Allows event (.sent sms) := by
      intro event
      cases event with
      | optedOut phone => exact fun _ => hkind
      | sent other => trivial
    simp [OptOutFinal, hhistory, List.pairwise_append, repliesInTime_of_other hother, hconfirms,
      hlisting]
  | send sms hother _ _ hkind hfree hhistory =>
    have hne : sms.kind ≠ .confirmation := by
      rcases hkind with hkind | hkind <;> simp [hkind]
    rw [optOutFinal_sent_iff hhistory, allows_sent_iff hlisted hne]
    simp [hfree, repliesInTime_of_other hother]
  | reply i id loadedCount answer outcome phone haction hi _ _ hhistory =>
    subst haction
    have hnormal := (htracked.generating hi).1
    rw [optOutFinal_sent_iff hhistory, allows_sent_iff hlisted (by simp)]
    simp only [RepliesInTime, hi, ← isPhoneOptedOut_iff hnormal, Bool.not_eq_true]

/-- An opt-out stays final along a run exactly when every reply that the model was asked
for comes back before its number has opted out. -/
theorem opt_out_final_iff {s : System} {actions : List Action}
    (h : exec System.step init actions = some s) :
    OptOutFinal s ↔ AllSteps System.step RepliesInTime init actions := by
  have hinit : OptOutFinal init := .nil
  have hiff := exec_good_iff (I := fun s => Tracked s ∧ Listed s) h ⟨tracked_init, listed_init⟩
    (fun s a t hs hstep => ⟨hs.1.step hstep, hs.2.step (step_effect hs.1 hstep)⟩)
    (fun s a t hs hstep => optOutFinal_step_iff hs.1 hs.2 hstep)
  simpa [hinit] using hiff

def stopWhileReplying : List Action :=
  [.receive 0 sampleNumber "Any news?".toList none takenMessage, .classified 0 (some false) takenMessage,
    .receive 1 sampleNumber "STOP".toList none takenMessage,
    .generated 0 (some "Two risks are open.".toList) takenMessage]

theorem reply_goes_out_after_stop :
    ¬ ∀ s actions, exec System.step init actions = some s → OptOutFinal s := by
  intro hall
  have hex : (exec System.step init stopWhileReplying).map (·.history) =
      some [.optedOut sampleNumber,
        .sent ⟨sampleNumber, 0, .confirmation, smsOptOutConfirmation, true⟩,
        .sent ⟨sampleNumber, 0, .reply true, "Two risks are open.".toList, true⟩] := by
    decide +kernel
  obtain ⟨s, hs, hhistory⟩ := Option.map_eq_some_iff.mp hex
  have hfinal := hall s stopWhileReplying hs
  rw [OptOutFinal, hhistory, List.pairwise_cons] at hfinal
  have hallows := hfinal.1 (.sent ⟨sampleNumber, 0, .reply true, "Two risks are open.".toList, true⟩)
    (by simp)
  exact absurd (hallows rfl) (by decide)

def replyBeforeStop : List Action :=
  [.receive 0 sampleNumber "Any news?".toList none takenMessage, .classified 0 (some false) takenMessage,
    .generated 0 (some "Two risks are open.".toList) takenMessage,
    .receive 1 sampleNumber "STOP".toList none takenMessage]

theorem reply_before_stop_is_final : ∃ s, exec System.step init replyBeforeStop = some s ∧
    (OptOutFinal s ↔ AllSteps System.step RepliesInTime init replyBeforeStop) := by
  have hex : (exec System.step init replyBeforeStop).isSome = true := by decide +kernel
  obtain ⟨s, hs⟩ := Option.isSome_iff_exists.mp hex
  exact ⟨s, hs, opt_out_final_iff hs⟩

end DemoService.Sms
