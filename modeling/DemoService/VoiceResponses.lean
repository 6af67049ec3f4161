import DemoService.VoiceToolCalls

/-! When the stream asks the provider for a response: after each tool result it sends, and for
its opening turn. A request is outstanding until the provider's `response.created`. -/

namespace DemoService.Voice

open PyText GuardedRuns

/-- A tool task that has chosen to send its result and has not yet asked for the response. -/
def TaskPhase.Sends (phase : TaskPhase) : Prop := phase ≠ .idle ∧ phase ≠ .running

def OutputPhase.Sends : OutputPhase → Prop
  | .flushing _ _ | .creating _ _ => True
  | _ => False

/-- Nobody is in the middle of sending a tool result. -/
def Line.Quiet (l : Line) : Prop := (∀ call, ¬(l.task call).Sends) ∧ ¬l.output.Sends

/-- Responses in progress and requests for one that are unanswered. -/
def Line.outstanding (l : Line) : Nat := l.unanswered + if l.responseActive then 1 else 0

/-- What keeps requests apart: at most one result waits for the end of a response; a tool
returns to an inactive line, and the opening turn is asked for, only where nothing is
outstanding and nobody sends; and no response is created under somebody who sends. -/
def Apart (l : Line) : LineAction → Prop
  | .provider .responseDone => l.readyToolResults.length ≤ 1
  | .provider .responseCreated => l.Quiet
  | .toolReturns _ _ => l.responseActive = false → l.unanswered = 0 ∧ l.Quiet
  | .opens => l.outstanding = 0 ∧ l.Quiet
  | _ => True

/-- The step is the `response.create` of a tool result. -/
def Requests (l : Line) : LineAction → Prop
  | .taskSends call => l.task call = .creating
  | .flushSends => ∃ rest next, l.output = .creating rest next
  | _ => False

/-- The results a sender still has to send, beyond the one it is at. -/
def OutputPhase.rest : OutputPhase → List (Call × Text)
  | .flushing remaining _ => remaining.tail
  | .creating rest _ => rest
  | _ => []

structure OneAtATime (l : Line) : Prop where
  outstanding : l.outstanding ≤ 1
  idleReady : l.responseActive = false → l.readyToolResults = []
  taskFree : ∀ call, (l.task call).Sends → l.outstanding = 0
  outputFree : l.output.Sends → l.outstanding = 0
  aloneTask : ∀ call call', (l.task call).Sends → (l.task call').Sends → call = call'
  aloneOutput : l.output.Sends → ∀ call, ¬(l.task call).Sends
  single : l.output.rest = []

theorem not_sends_idle : ¬TaskPhase.idle.Sends := fun h => h.1 rfl

theorem not_sends_running : ¬TaskPhase.running.Sends := fun h => h.2 rfl

theorem start_oneAtATime : OneAtATime .start := by
  constructor <;> simp [Line.start, Line.outstanding, TaskPhase.Sends, OutputPhase.Sends,
    OutputPhase.rest]

variable {l l' : Line}

/-- A task's phase after an update of one call's. -/
theorem sends_update {task : Call → TaskPhase} {call c : Call} {phase : TaskPhase} :
    (Function.update task call phase c).Sends ↔
      c = call ∧ phase.Sends ∨ c ≠ call ∧ (task c).Sends := by
  by_cases hc : c = call
  · subst hc
    simp
  · simp [hc]

theorem proceed_rest {ready : List (Call × Text)} (h : ready.length ≤ 1) (next : Next) :
    (proceed ready next).rest = [] := by
  cases ready with
  | nil => cases next <;> rfl
  | cons r rest =>
    have hrest : rest = [] := List.length_eq_zero_iff.mp (by simpa using h)
    cases next <;> simp [proceed, OutputPhase.rest, hrest]

theorem proceed_sends {ready : List (Call × Text)} {next : Next} (h : (proceed ready next).Sends) :
    ready ≠ [] := by
  rintro rfl
  cases next <;> exact h

/-- A step after which nobody sends who did not before. -/
theorem OneAtATime.keep (h : OneAtATime l) (hout : l'.outstanding = l.outstanding)
    (hready : l'.responseActive = false → l'.readyToolResults = [])
    (htask : ∀ call, (l'.task call).Sends → (l.task call).Sends)
    (houtput : l'.output.Sends → l.output.Sends) (hrest : l'.output.rest = []) :
    OneAtATime l' where
  outstanding := hout ▸ h.outstanding
  idleReady := hready
  taskFree := fun call hs => hout ▸ h.taskFree call (htask call hs)
  outputFree := fun hs => hout ▸ h.outputFree (houtput hs)
  aloneTask := fun call call' hs hs' => h.aloneTask call call' (htask call hs) (htask call' hs')
  aloneOutput := fun hs call hc => h.aloneOutput (houtput hs) call (htask call hc)
  single := hrest

/-- A step after which nobody sends at all. -/
theorem OneAtATime.of_quiet (hquiet : l'.Quiet) (hout : l'.outstanding ≤ 1)
    (hready : l'.responseActive = false → l'.readyToolResults = [])
    (hrest : l'.output.rest = []) : OneAtATime l' where
  outstanding := hout
  idleReady := hready
  taskFree := fun call hs => absurd hs (hquiet.1 call)
  outputFree := fun hs => absurd hs hquiet.2
  aloneTask := fun call _ hs => absurd hs (hquiet.1 call)
  aloneOutput := fun hs => absurd hs hquiet.2
  single := hrest

/-- A step that leaves the sending to one task. -/
theorem OneAtATime.of_task (call : Call) (htask : ∀ c, (l'.task c).Sends → c = call)
    (houtput : ¬l'.output.Sends) (hout : l'.outstanding = 0)
    (hready : l'.responseActive = false → l'.readyToolResults = [])
    (hrest : l'.output.rest = []) : OneAtATime l' where
  outstanding := by omega
  idleReady := hready
  taskFree := fun _ _ => hout
  outputFree := fun hs => absurd hs houtput
  aloneTask := fun c c' hs hs' => (htask c hs).trans (htask c' hs').symm
  aloneOutput := fun hs => absurd hs houtput
  single := hrest

theorem receiving_not_sends (h : l.output = .receiving) : ¬l.output.Sends := by
  simp [h, OutputPhase.Sends]

theorem OneAtATime.unanswered_of_active (h : OneAtATime l) (ha : l.responseActive = true) :
    l.unanswered = 0 := by
  have hle := h.outstanding
  simp only [Line.outstanding, ha, if_true] at hle
  omega

theorem OneAtATime.quiet_of_active (h : OneAtATime l) (ha : l.responseActive = true)
    (hout : ¬l.output.Sends) : l.Quiet := by
  refine ⟨fun call hs => ?_, hout⟩
  have hzero := h.taskFree call hs
  simp [Line.outstanding, ha] at hzero

theorem responseDone_oneAtATime (h : OneAtATime l) (hout : l.output = .receiving)
    (hone : l.readyToolResults.length ≤ 1) (next : Next) :
    OneAtATime ({ l with responseActive := false }.flushReady next) := by
  have hrest := proceed_rest hone next
  cases ha : l.responseActive with
  | false =>
    have hready := h.idleReady ha
    refine h.keep ?_ (fun _ => rfl) (fun _ hs => hs) (fun hs => ?_) hrest
    · simp [Line.flushReady, Line.outstanding, ha]
    · exact absurd hready (proceed_sends hs)
  | true =>
    have hquiet := h.quiet_of_active ha (receiving_not_sends hout)
    have hzero := h.unanswered_of_active ha
    have hfree : ({ l with responseActive := false }.flushReady next).outstanding = 0 := by
      simp [Line.flushReady, Line.outstanding, hzero]
    exact {
      outstanding := by omega
      idleReady := fun _ => rfl
      taskFree := fun _ _ => hfree
      outputFree := fun _ => hfree
      aloneTask := fun call _ hs => absurd hs (hquiet.1 call)
      aloneOutput := fun _ => hquiet.1
      single := hrest }

theorem handleEvent_oneAtATime (h : OneAtATime l) (hout : l.output = .receiving)
    {event : ProviderEvent} (hok : Apart l (.provider event)) :
    OneAtATime (handleEvent l event) := by
  have hnot := receiving_not_sends hout
  cases event with
  | responseCreated =>
    refine .of_quiet ⟨hok.1, hnot⟩ ?_ (fun hf => by cases hf) h.single
    have hle := h.outstanding
    simp only [handleEvent, Line.outstanding, if_true] at hle ⊢
    omega
  | toolArgumentsDelta callId name delta =>
    exact h.keep rfl h.idleReady (fun _ hs => hs) (fun hs => hs) h.single
  | toolArgumentsDone registry callId name arguments =>
    simp only [handleEvent]
    split
    · exact h.keep rfl h.idleReady (fun _ hs => hs) (fun hs => hs) h.single
    · exact h.keep rfl h.idleReady (fun _ hs => hs) (fun hs => hs.elim) rfl
  | responseDone => exact responseDone_oneAtATime h hout hok _
  | other => exact h
  | disconnected => exact h.keep rfl h.idleReady (fun _ hs => hs) (fun hs => hs.elim) rfl

theorem handleAnnounced_oneAtATime (h : OneAtATime l) (registry : ToolRegistry)
    (callId toolName arguments : Text) :
    OneAtATime (handleAnnounced registry l callId toolName arguments) := by
  simp only [handleAnnounced]
  split
  · exact h.keep rfl h.idleReady (fun _ hs => hs) (fun hs => hs.elim) rfl
  · split
    · exact h.keep rfl h.idleReady (fun _ hs => hs) (fun hs => hs.elim) rfl
    · refine h.keep rfl h.idleReady (fun c hs => ?_) (fun hs => hs.elim) rfl
      rcases sends_update.mp hs with ⟨-, hrun⟩ | ⟨-, hs⟩
      · exact absurd hrun not_sends_running
      · exact hs

/-- A task that stops sending, or has never begun to. -/
theorem idle_sends {call c : Call} (hs : (Function.update l.task call .idle c).Sends) :
    c ≠ call ∧ (l.task c).Sends := by
  rcases sends_update.mp hs with ⟨-, hidle⟩ | hs
  · exact absurd hidle not_sends_idle
  · exact hs

theorem sendOrQueue_oneAtATime (h : OneAtATime l) {call : Call} {result : Text}
    (hok : Apart l (.toolReturns call result)) : OneAtATime (l.sendOrQueue call result) := by
  unfold Line.sendOrQueue
  split
  · rename_i ha
    refine h.keep rfl (fun hf => ?_) (fun c hs => (idle_sends hs).2) (fun hs => hs) h.single
    simp [ha] at hf
  · rename_i ha
    have hidle : l.responseActive = false := by simpa using ha
    obtain ⟨hzero, hquiet⟩ := hok hidle
    refine .of_task call (fun c hs => ?_) hquiet.2 ?_ h.idleReady h.single
    · rcases sends_update.mp hs with ⟨hc, -⟩ | ⟨-, hs⟩
      · exact hc
      · exact absurd hs (hquiet.1 c)
    · simp [Line.outstanding, hzero, hidle]

theorem lineStep_oneAtATime {a : LineAction} (h : OneAtATime l) (hok : Apart l a)
    (hs : lineStep l a = some l') : OneAtATime l' := by
  cases a with
  | opens =>
    obtain rfl := Option.some.inj hs
    obtain ⟨hzero, hquiet⟩ := hok
    refine .of_quiet hquiet ?_ h.idleReady h.single
    simp only [Line.outstanding] at hzero ⊢
    omega
  | provider event =>
    simp only [lineStep] at hs
    split at hs
    · rename_i hout
      obtain rfl := Option.some.inj hs
      exact handleEvent_oneAtATime h hout hok
    · cases hs
  | announced registry =>
    simp only [lineStep] at hs
    split at hs
    · obtain rfl := Option.some.inj hs
      exact handleAnnounced_oneAtATime h registry _ _ _
    · cases hs
  | toolReturns call result =>
    simp only [lineStep] at hs
    split at hs
    · obtain rfl := Option.some.inj hs
      exact sendOrQueue_oneAtATime h hok
    · cases hs
  | taskSends call =>
    simp only [lineStep] at hs
    split at hs
    · rename_i result htask
      obtain rfl := Option.some.inj hs
      refine h.keep rfl h.idleReady (fun c hs => ?_) (fun hs => hs) h.single
      rcases sends_update.mp hs with ⟨rfl, -⟩ | ⟨-, hs⟩
      · simp [htask, TaskPhase.Sends]
      · exact hs
    · rename_i htask
      obtain rfl := Option.some.inj hs
      have hsends : (l.task call).Sends := by simp [htask, TaskPhase.Sends]
      have hzero := h.taskFree call hsends
      refine .of_quiet ⟨fun c hs => ?_, fun ho => h.aloneOutput ho call hsends⟩ ?_ h.idleReady
        h.single
      · obtain ⟨hc, hs⟩ := idle_sends hs
        exact hc (h.aloneTask c call hs hsends)
      · simp only [Line.outstanding] at hzero ⊢
        omega
    · cases hs
  | taskFails call =>
    simp only [lineStep] at hs
    split at hs
    · obtain rfl := Option.some.inj hs
      exact h.keep rfl h.idleReady (fun c hs => (idle_sends hs).2) (fun hs => hs) h.single
    · obtain rfl := Option.some.inj hs
      exact h.keep rfl h.idleReady (fun c hs => (idle_sends hs).2) (fun hs => hs) h.single
    · cases hs
  | flushSends =>
    simp only [lineStep] at hs
    split at hs
    · rename_i call result rest next hout
      obtain rfl := Option.some.inj hs
      have hrest : rest = [] := by simpa [hout, OutputPhase.rest] using h.single
      exact h.keep rfl h.idleReady (fun _ hs => hs) (fun _ => by simp [hout, OutputPhase.Sends])
        hrest
    · rename_i rest next hout
      obtain rfl := Option.some.inj hs
      have hsends : l.output.Sends := by simp [hout, OutputPhase.Sends]
      have hrest : rest = [] := by simpa [hout, OutputPhase.rest] using h.single
      have hzero := h.outputFree hsends
      refine .of_quiet ⟨h.aloneOutput hsends, fun ho => proceed_sends ho hrest⟩ ?_ h.idleReady
        (proceed_rest (by simp [hrest]) next)
      simp only [Line.outstanding] at hzero ⊢
      omega
    · cases hs
  | gathered =>
    simp only [lineStep] at hs
    split at hs
    · split at hs
      · obtain rfl := Option.some.inj hs
        exact h.keep rfl h.idleReady (fun _ hs => hs) (fun hs => hs.elim) rfl
      · rename_i ha
        obtain rfl := Option.some.inj hs
        have hready := h.idleReady (by simpa using ha)
        exact h.keep rfl (fun _ => rfl) (fun _ hs => hs)
          (fun hs => absurd hready (proceed_sends hs)) (proceed_rest (by simp [hready]) _)
    · cases hs
  | raises =>
    simp only [lineStep] at hs
    split at hs
    · cases hs
    · obtain rfl := Option.some.inj hs
      refine h.keep rfl h.idleReady (fun c hs => ?_) (fun hs => hs.elim) rfl
      simp only at hs
      split at hs
      · exact absurd hs not_sends_idle
      · exact hs

/-- Who is about to ask for the response to a tool result finds nothing outstanding. -/
theorem Requests.free {a : LineAction} (ha : Requests l a) (h : OneAtATime l) :
    l.outstanding = 0 := by
  cases a with
  | taskSends call =>
    have htask : l.task call = .creating := ha
    exact h.taskFree call (by simp [htask, TaskPhase.Sends])
  | flushSends =>
    obtain ⟨rest, next, hout⟩ := ha
    exact h.outputFree (by simp [hout, OutputPhase.Sends])
  | _ => exact ha.elim

/-- Where requests are kept apart, at most one response is outstanding at any time, and a tool
result asks for one only where none is active and none is unanswered. -/
theorem one_response_outstanding (h : GuardedRun lineStep Apart .start l) :
    l.outstanding ≤ 1 ∧
      ∀ a, Requests l a → l.responseActive = false ∧ l.unanswered = 0 := by
  have hone : OneAtATime l :=
    h.invariant start_oneAtATime (fun _ _ _ hs hok ht => lineStep_oneAtATime hs hok ht)
  refine ⟨hone.outstanding, fun a ha => ?_⟩
  have hzero := ha.free hone
  simp only [Line.outstanding, Nat.add_eq_zero_iff] at hzero
  refine ⟨?_, hzero.1⟩
  cases hactive : l.responseActive with
  | false => rfl
  | true => simp [hactive] at hzero

theorem start_quiet : Line.start.Quiet := by
  simp [Line.Quiet, Line.start, TaskPhase.Sends, OutputPhase.Sends]

theorem answeredLater_apart : AllSteps lineStep Apart .start answeredLater := by
  refine ⟨start_quiet, fun l₁ h₁ => ⟨trivial, fun l₂ h₂ => ⟨trivial, fun l₃ h₃ => ?_⟩⟩⟩
  obtain rfl := Option.some.inj h₁
  obtain rfl := Option.some.inj h₂
  obtain rfl := Option.some.inj h₃
  refine ⟨fun hf => ?_, fun l₄ h₄ => ?_⟩
  · cases hf
  obtain rfl := Option.some.inj h₄
  exact ⟨Nat.le_refl 1, fun _ _ => ⟨trivial, fun _ _ => ⟨trivial, fun _ _ => trivial⟩⟩⟩

/-- One result waits for the end of the response, and asks for the next one then. -/
theorem answered_later_alone :
    ∃ l, exec lineStep .start answeredLater = some l ∧ l.unanswered = 1 ∧ l.outstanding ≤ 1 := by
  obtain ⟨l, hl, hone⟩ : ∃ l, exec lineStep .start answeredLater = some l ∧ l.unanswered = 1 :=
    ⟨_, rfl, by decide +kernel⟩
  exact ⟨l, hl, hone,
    (one_response_outstanding (guardedRun_of_allSteps hl answeredLater_apart)).1⟩

def assessedReadiness : Call :=
  ⟨1, "call_2".toList, "assess_employer_readiness".toList, "\x7b\x7d".toList,
    some ⟨"assess_employer_readiness".toList, false⟩⟩

/-- Two tools finish while the response is active. -/
def twoQueued : List LineAction :=
  [.provider .responseCreated,
    .provider (.toolArgumentsDone voiceToolRegistry "call_1".toList "record_answer".toList none),
    .announced voiceToolRegistry,
    .provider (.toolArgumentsDone voiceToolRegistry "call_2".toList
      "assess_employer_readiness".toList none),
    .announced voiceToolRegistry, .toolReturns recordedAnswer "recorded".toList,
    .toolReturns assessedReadiness "ready".toList, .provider .responseDone,
    .flushSends, .flushSends, .flushSends]

/-- The flush asks for the second response while the first request is unanswered. -/
theorem two_queued_requested_at_once :
    (exec lineStep .start twoQueued).map (fun l => (l.output, l.unanswered)) =
      some (.creating [] .receive, 1) ∧
    (exec lineStep .start (twoQueued ++ [.flushSends])).map Line.outstanding = some 2 := by
  decide +kernel

end DemoService.Voice
