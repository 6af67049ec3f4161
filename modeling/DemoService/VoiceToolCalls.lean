import DemoService.VoiceRelay
import DemoService.VoiceSessions

/-! The tool calls of a voice stream as its tasks interleave: the loop that reads the provider's
events, one task for every tool that runs, and the opening turn. Between two messages to the
provider any other task may take its turn. -/

namespace DemoService.Voice

open PyText GuardedRuns

/-- A `function_call_arguments.done` event, numbered in the order they are handled, with what
the registry in use said of its tool. -/
structure Call where
  number : Nat
  callId : Text
  toolName : Text
  arguments : Text
  entry : Option ToolEntry
  deriving DecidableEq, Repr

def Call.Terminal (call : Call) : Prop := call.entry.any ToolEntry.isTerminal = true

def Call.Known (call : Call) : Prop := call.callId ≠ [] ∧ call.entry.isSome = true

instance (call : Call) : Decidable call.Terminal := inferInstanceAs (Decidable (_ = _))

instance (call : Call) : Decidable call.Known := inferInstanceAs (Decidable (_ ∧ _))

inductive TaskPhase
  | idle
  | running
  | sending (result : Text)
  | creating
  deriving DecidableEq, Repr

/-- Where the event loop goes after a flush. -/
inductive Next
  | receive
  | gather
  | finish
  deriving DecidableEq, Repr

inductive OutputPhase
  | receiving
  | announcing (callId toolName arguments : Text)
  | flushing (remaining : List (Call × Text)) (next : Next)
  | creating (rest : List (Call × Text)) (next : Next)
  | gathering
  | ended
  | raised
  deriving DecidableEq, Repr

inductive Wire
  | output (call : Call) (result : Text)
  | create (opening : Bool)
  deriving DecidableEq, Repr

structure Line where
  output : OutputPhase
  responseActive : Bool
  closeAfterResponse : Bool
  pendingToolCalls : Dict Text (Text × Text)
  readyToolResults : List (Call × Text)
  task : Call → TaskPhase
  calls : List Call
  sent : List Wire
  /-- Calls whose output could not be sent. -/
  lost : List Call
  /-- How many `response.create` messages no `response.created` has answered. -/
  unanswered : Nat

def Line.start : Line := ⟨.receiving, false, false, [], [], fun _ => .idle, [], [], [], 0⟩

inductive ProviderEvent
  | responseCreated
  | toolArgumentsDelta (callId name delta : Text)
  | toolArgumentsDone (registry : ToolRegistry) (callId name : Text) (arguments : Option Text)
  | responseDone
  | other
  | disconnected
  deriving DecidableEq, Repr

inductive LineAction
  | opens
  | provider (event : ProviderEvent)
  | announced (registry : ToolRegistry)
  | toolReturns (call : Call) (result : Text)
  | taskSends (call : Call)
  | taskFails (call : Call)
  | flushSends
  | gathered
  | raises
  deriving DecidableEq, Repr

def proceed : List (Call × Text) → Next → OutputPhase
  | [], .receive => .receiving
  | [], .gather => .gathering
  | [], .finish => .ended
  | ready :: rest, next => .flushing (ready :: rest) next

def Line.flushReady (l : Line) (next : Next) : Line :=
  { l with readyToolResults := [], output := proceed l.readyToolResults next }

def Line.log (l : Line) (registry : ToolRegistry) (callId toolName arguments : Text) : Call :=
  ⟨l.calls.length, callId, toolName, arguments, registry.get toolName⟩

def handleEvent (l : Line) : ProviderEvent → Line
  | .responseCreated => { l with responseActive := true, unanswered := l.unanswered - 1 }
  | .toolArgumentsDelta callId name delta =>
    { l with pendingToolCalls := addDelta l.pendingToolCalls callId name delta }
  | .toolArgumentsDone registry callId name arguments =>
    if callId = [] then
      { l with calls := l.calls ++ [l.log registry callId name (orText arguments [])] }
    else
      let done := doneCall l.pendingToolCalls callId name arguments
      { l with
        pendingToolCalls := l.pendingToolCalls.filter (·.1 ≠ callId)
        output := .announcing callId done.1 done.2 }
  | .responseDone =>
    { l with responseActive := false }.flushReady
      (if l.closeAfterResponse then .gather else .receive)
  | .other => l
  | .disconnected => { l with output := .gathering }

/-- The registry lookup, once the caller has been told of the call. -/
def handleAnnounced (registry : ToolRegistry) (l : Line) (callId toolName arguments : Text) :
    Line :=
  let call := l.log registry callId toolName arguments
  let logged := { l with calls := l.calls ++ [call], output := .receiving }
  match call.entry with
  | none => logged
  | some entry =>
    if entry.isTerminal then { logged with closeAfterResponse := true }
    else { logged with task := Function.update l.task call .running }

def Line.sendOrQueue (l : Line) (call : Call) (result : Text) : Line :=
  if l.responseActive then
    { l with
      readyToolResults := l.readyToolResults ++ [(call, result)]
      task := Function.update l.task call .idle }
  else { l with task := Function.update l.task call (.sending result) }

def lineStep (l : Line) : LineAction → Option Line
  | .opens => some { l with sent := l.sent ++ [.create true], unanswered := l.unanswered + 1 }
  | .provider event => if l.output = .receiving then some (handleEvent l event) else none
  | .announced registry =>
    match l.output with
    | .announcing callId toolName arguments =>
      some (handleAnnounced registry l callId toolName arguments)
    | _ => none
  | .toolReturns call result =>
    if l.task call = .running then some (l.sendOrQueue call result) else none
  | .taskSends call =>
    match l.task call with
    | .sending result => some { l with
        sent := l.sent ++ [.output call result]
        task := Function.update l.task call .creating }
    | .creating => some { l with
        sent := l.sent ++ [.create false]
        unanswered := l.unanswered + 1
        task := Function.update l.task call .idle }
    | _ => none
  | .taskFails call =>
    match l.task call with
    | .sending _ => some { l with
        lost := l.lost ++ [call], task := Function.update l.task call .idle }
    | .creating => some { l with task := Function.update l.task call .idle }
    | _ => none
  | .flushSends =>
    match l.output with
    | .flushing ((call, result) :: rest) next => some { l with
        sent := l.sent ++ [.output call result], output := .creating rest next }
    | .creating rest next => some { l with
        sent := l.sent ++ [.create false]
        unanswered := l.unanswered + 1
        output := proceed rest next }
    | _ => none
  | .gathered =>
    if l.output = .gathering ∧ ∀ call ∈ l.calls, l.task call = .idle then
      if l.responseActive then some { l with output := .ended } else some (l.flushReady .finish)
    else none
  | .raises =>
    if l.output = .ended then none
    else some { l with
      output := .raised
      -- a cancelled `gather` cancels what it waits for
      task := if l.output = .gathering then fun _ => .idle else l.task }

def Wire.answered : Wire → Option Call
  | .output call _ => some call
  | .create _ => none

/-- How many outputs have been sent for a call. -/
def Line.outputs (l : Line) (call : Call) : Nat := (l.sent.filterMap Wire.answered).count call

def TaskPhase.owes : TaskPhase → Nat
  | .running | .sending _ => 1
  | .idle | .creating => 0

@[simp] theorem owes_idle : TaskPhase.idle.owes = 0 := rfl

@[simp] theorem owes_running : TaskPhase.running.owes = 1 := rfl

@[simp] theorem owes_sending (result : Text) : (TaskPhase.sending result).owes = 1 := rfl

@[simp] theorem owes_creating : TaskPhase.creating.owes = 0 := rfl

def OutputPhase.unsent : OutputPhase → List (Call × Text)
  | .flushing remaining _ => remaining
  | .creating rest _ => rest
  | _ => []

/-- The places where the output of a call can be on its way. -/
def Line.onTheWay (l : Line) (call : Call) : Nat :=
  (l.task call).owes + (l.readyToolResults.map Prod.fst).count call +
    (l.output.unsent.map Prod.fst).count call + l.lost.count call

/-- A non-terminal call whose tool has been found is owed one output. -/
def Line.owed (l : Line) (call : Call) : Nat :=
  if call ∈ l.calls ∧ call.Known ∧ ¬call.Terminal then 1 else 0

structure Accounted (l : Line) : Prop where
  numbered : l.calls.map Call.number = List.range l.calls.length
  atMost : ∀ call, l.outputs call + l.onTheWay call ≤ l.owed call
  exactly : l.output ≠ .raised → ∀ call, l.outputs call + l.onTheWay call = l.owed call
  idleReady : l.responseActive = false → l.readyToolResults = []
  named : ∀ callId toolName arguments, l.output = .announcing callId toolName arguments →
    callId ≠ []

theorem start_accounted : Accounted .start where
  numbered := by simp [Line.start]
  atMost := by
    simp [Line.start, Line.outputs, Line.onTheWay, Line.owed, TaskPhase.owes, OutputPhase.unsent]
  exactly := by
    simp [Line.start, Line.outputs, Line.onTheWay, Line.owed, TaskPhase.owes, OutputPhase.unsent]
  idleReady := fun _ => rfl
  named := by simp [Line.start]

@[simp] theorem proceed_unsent (ready : List (Call × Text)) (next : Next) :
    (proceed ready next).unsent = ready := by
  cases ready <;> cases next <;> rfl

variable {l l' : Line}

/-- A step that only moves outputs along keeps the account. -/
theorem Accounted.keep (h : Accounted l) (hcalls : l'.calls = l.calls)
    (hbalance : ∀ call, l'.outputs call + l'.onTheWay call = l.outputs call + l.onTheWay call)
    (hraised : l'.output ≠ .raised → l.output ≠ .raised)
    (hidle : l'.responseActive = false → l'.readyToolResults = [])
    (hnamed : ∀ callId toolName arguments, l'.output = .announcing callId toolName arguments →
      callId ≠ []) : Accounted l' where
  numbered := hcalls ▸ h.numbered
  atMost := fun call => by
    have howed : l'.owed call = l.owed call := by simp [Line.owed, hcalls]
    rw [hbalance, howed]
    exact h.atMost call
  exactly := fun hr call => by
    have howed : l'.owed call = l.owed call := by simp [Line.owed, hcalls]
    rw [hbalance, howed]
    exact h.exactly (hraised hr) call
  idleReady := hidle
  named := hnamed

theorem proceed_ne_announcing (ready : List (Call × Text)) (next : Next)
    (callId toolName arguments : Text) :
    proceed ready next ≠ .announcing callId toolName arguments := by
  cases ready <;> cases next <;> simp [proceed]

theorem flushReady_accounted (h : Accounted l) (hout : l.output.unsent = [])
    (hraised : l.output ≠ .raised) (active : Bool) (next : Next) :
    Accounted ({ l with responseActive := active }.flushReady next) := by
  refine h.keep rfl (fun call => ?_) (fun _ => hraised) (fun _ => rfl)
    (fun _ _ _ hn => absurd hn (proceed_ne_announcing _ _ _ _ _))
  simp only [Line.flushReady, Line.outputs, Line.onTheWay, proceed_unsent, hout, List.map_nil,
    List.count_nil]
  omega

/-- Logging a call: nothing of it can be on its way yet. -/
theorem log_fresh (h : Accounted l) (registry : ToolRegistry) (callId toolName arguments : Text) :
    l.log registry callId toolName arguments ∉ l.calls := by
  intro hm
  have hnumber := List.mem_map_of_mem (f := Call.number) hm
  rw [h.numbered, List.mem_range] at hnumber
  exact lt_irrefl _ hnumber

theorem numbered_log (h : Accounted l) (registry : ToolRegistry)
    (callId toolName arguments : Text) :
    (l.calls ++ [l.log registry callId toolName arguments]).map Call.number =
      List.range (l.calls ++ [l.log registry callId toolName arguments]).length := by
  rw [List.map_append, h.numbered, List.length_append, List.length_singleton, List.range_succ]
  rfl

theorem log_accounted (h : Accounted l) {registry : ToolRegistry}
    {callId toolName arguments : Text} {call : Call}
    (hcall : l.log registry callId toolName arguments = call)
    (hcalls : l'.calls = l.calls ++ [call])
    (hbalance : ∀ c, l'.outputs c + l'.onTheWay c = l.outputs c + l.onTheWay c +
      if c = call ∧ call.Known ∧ ¬call.Terminal then 1 else 0)
    (hraised : l'.output ≠ .raised → l.output ≠ .raised)
    (hidle : l'.responseActive = false → l'.readyToolResults = [])
    (hnamed : ∀ callId toolName arguments, l'.output = .announcing callId toolName arguments →
      callId ≠ []) : Accounted l' := by
  have hfresh : call ∉ l.calls := hcall ▸ log_fresh h registry callId toolName arguments
  have howed : ∀ c, l'.owed c = l.owed c +
      if c = call ∧ call.Known ∧ ¬call.Terminal then 1 else 0 := by
    intro c
    by_cases hc : c = call
    · subst hc
      simp [Line.owed, hcalls, hfresh]
    · simp [Line.owed, hcalls, hc]
  constructor
  · rw [hcalls, ← hcall]
    exact numbered_log h registry callId toolName arguments
  · intro c
    have hle := h.atMost c
    rw [hbalance, howed]
    omega
  · intro hr c
    rw [hbalance, howed, h.exactly (hraised hr) c]
  · exact hidle
  · exact hnamed

theorem owes_update (task : Call → TaskPhase) (call c : Call) (phase : TaskPhase) :
    (Function.update task call phase c).owes = if c = call then phase.owes else (task c).owes := by
  by_cases hc : c = call
  · subst hc
    simp
  · simp [hc]

/-- A call that has just been logged has nothing on its way. -/
theorem log_balance (h : Accounted l) {call : Call} (hfresh : call ∉ l.calls) :
    (l.task call).owes = 0 := by
  have hle := h.atMost call
  have howed : l.owed call = 0 := by simp [Line.owed, hfresh]
  simp only [Line.onTheWay] at hle
  omega

theorem handleAnnounced_accounted (h : Accounted l) {callId toolName arguments : Text}
    (hout : l.output = .announcing callId toolName arguments) (registry : ToolRegistry) :
    Accounted (handleAnnounced registry l callId toolName arguments) := by
  have hid : callId ≠ [] := h.named _ _ _ hout
  have hraised : l.output ≠ .raised := by simp [hout]
  have hfresh := log_fresh h registry callId toolName arguments
  simp only [handleAnnounced]
  split
  · rename_i hentry
    refine log_accounted h rfl rfl (fun c => ?_) (fun _ => hraised) h.idleReady (by simp)
    simp [Line.outputs, Line.onTheWay, hout, OutputPhase.unsent, Call.Known, hentry]
  · rename_i entry hentry
    split
    · rename_i hterm
      refine log_accounted h rfl rfl (fun c => ?_) (fun _ => hraised) h.idleReady (by simp)
      simp [Line.outputs, Line.onTheWay, hout, OutputPhase.unsent, Call.Terminal, hentry, hterm]
    · rename_i hterm
      refine log_accounted h rfl rfl (fun c => ?_) (fun _ => hraised) h.idleReady (by simp)
      have hknown : (l.log registry callId toolName arguments).Known := ⟨hid, by simp [hentry]⟩
      have hnot : ¬(l.log registry callId toolName arguments).Terminal := by
        simp [Call.Terminal, hentry, hterm]
      have hzero := log_balance h hfresh
      simp only [Line.outputs, Line.onTheWay, owes_update, hout, OutputPhase.unsent]
      by_cases hc : c = l.log registry callId toolName arguments
      · simp only [hc, hknown, hnot, hzero, not_false_eq_true, and_self, if_true, owes_running,
          List.map_nil, List.count_nil]
        omega
      · simp [hc]

theorem handleEvent_accounted (h : Accounted l) (hout : l.output = .receiving)
    (event : ProviderEvent) : Accounted (handleEvent l event) := by
  have hraised : l.output ≠ .raised := by simp [hout]
  have hnamed : ∀ callId toolName arguments,
      l.output = .announcing callId toolName arguments → callId ≠ [] := h.named
  cases event with
  | responseCreated =>
    exact h.keep rfl (fun _ => rfl) (fun _ => hraised) (fun hf => by cases hf) hnamed
  | toolArgumentsDelta callId name delta =>
    exact h.keep rfl (fun _ => rfl) (fun _ => hraised) h.idleReady hnamed
  | toolArgumentsDone registry callId name arguments =>
    simp only [handleEvent]
    split
    · rename_i hempty
      refine log_accounted h rfl rfl (fun c => ?_) (fun _ => hraised) h.idleReady hnamed
      simp [Line.outputs, Line.onTheWay, Call.Known, Line.log, hempty]
    · rename_i hid
      refine h.keep rfl (fun c => ?_) (fun _ => hraised) h.idleReady ?_
      · simp [Line.outputs, Line.onTheWay, hout, OutputPhase.unsent]
      · intro callId' toolName' arguments' he
        simp only [OutputPhase.announcing.injEq] at he
        exact he.1 ▸ hid
  | responseDone =>
    exact flushReady_accounted h (by simp [hout, OutputPhase.unsent]) hraised false _
  | other => exact h
  | disconnected =>
    show Accounted { l with output := .gathering }
    refine h.keep rfl (fun c => ?_) (fun _ => hraised) h.idleReady (by simp)
    simp [Line.outputs, Line.onTheWay, hout, OutputPhase.unsent]

/-- A task that moves on passes the output of its call on, or owes none. -/
theorem Accounted.moveTask (h : Accounted l) {call : Call} {before after : TaskPhase}
    (htask : l.task call = before) {sent : List Wire} {lost : List Call} {unanswered : Nat}
    (hmoved : ∀ c, (sent.filterMap Wire.answered).count c + lost.count c +
        (if c = call then after.owes else 0) =
      (l.sent.filterMap Wire.answered).count c + l.lost.count c +
        if c = call then before.owes else 0) :
    Accounted { l with sent, lost, unanswered, task := Function.update l.task call after } := by
  refine h.keep rfl (fun c => ?_) (fun hr => hr) h.idleReady h.named
  have hc := hmoved c
  simp only [Line.outputs, Line.onTheWay, owes_update]
  by_cases he : c = call
  · simp only [he, if_true, htask] at hc ⊢
    omega
  · simp only [if_neg he] at hc ⊢
    omega

theorem count_map_append (ready : List (Call × Text)) (call c : Call) (result : Text) :
    ((ready ++ [(call, result)]).map Prod.fst).count c =
      (ready.map Prod.fst).count c + if c = call then 1 else 0 := by
  by_cases hc : c = call
  · subst hc
    simp
  · have hc' : call ≠ c := fun h => hc h.symm
    simp [hc, hc', List.count_append]

theorem sendOrQueue_accounted (h : Accounted l) {call : Call} (hrun : l.task call = .running)
    (result : Text) : Accounted (l.sendOrQueue call result) := by
  unfold Line.sendOrQueue
  split
  · rename_i hactive
    refine h.keep rfl (fun c => ?_) (fun hr => hr) (fun hf => ?_) h.named
    · simp only [Line.outputs, Line.onTheWay, owes_update, count_map_append]
      split
      · rename_i hc
        simp only [hc, hrun, owes_idle, owes_running]
        omega
      · rfl
    · simp [hactive] at hf
  · exact h.moveTask hrun fun _ => rfl

theorem outputs_append_output (sent : List Wire) (call c : Call) (result : Text) :
    ((sent ++ [Wire.output call result]).filterMap Wire.answered).count c =
      (sent.filterMap Wire.answered).count c + if c = call then 1 else 0 := by
  by_cases hc : c = call
  · subst hc
    simp [Wire.answered]
  · have hc' : call ≠ c := fun h => hc h.symm
    simp [hc, hc', Wire.answered]

theorem outputs_append_create (sent : List Wire) (c : Call) (opening : Bool) :
    ((sent ++ [Wire.create opening]).filterMap Wire.answered).count c =
      (sent.filterMap Wire.answered).count c := by
  have hnone : [Wire.create opening].filterMap Wire.answered = [] := rfl
  rw [List.filterMap_append, hnone, List.append_nil]

theorem lineStep_accounted {a : LineAction} (h : Accounted l) (hs : lineStep l a = some l') :
    Accounted l' := by
  cases a with
  | opens =>
    obtain rfl := Option.some.inj hs
    refine h.keep rfl (fun c => ?_) (fun hr => hr) h.idleReady h.named
    simp only [Line.outputs, Line.onTheWay, outputs_append_create]
  | provider event =>
    simp only [lineStep] at hs
    split at hs
    · rename_i hout
      obtain rfl := Option.some.inj hs
      exact handleEvent_accounted h hout event
    · cases hs
  | announced registry =>
    simp only [lineStep] at hs
    split at hs
    · rename_i hout
      obtain rfl := Option.some.inj hs
      exact handleAnnounced_accounted h hout registry
    · cases hs
  | toolReturns call result =>
    simp only [lineStep] at hs
    split at hs
    · rename_i hrun
      obtain rfl := Option.some.inj hs
      exact sendOrQueue_accounted h hrun result
    · cases hs
  | taskSends call =>
    simp only [lineStep] at hs
    split at hs
    · rename_i result htask
      obtain rfl := Option.some.inj hs
      refine h.moveTask htask fun c => ?_
      simp only [outputs_append_output, owes_sending, owes_creating]
      split <;> omega
    · rename_i htask
      obtain rfl := Option.some.inj hs
      refine h.moveTask htask fun c => ?_
      simp only [outputs_append_create, owes_idle, owes_creating]
    · cases hs
  | taskFails call =>
    simp only [lineStep] at hs
    split at hs
    · rename_i result htask
      obtain rfl := Option.some.inj hs
      refine h.moveTask htask fun c => ?_
      simp only [List.count_append, List.count_singleton, beq_iff_eq, eq_comm (a := call),
        owes_idle, owes_sending]
      split <;> omega
    · rename_i htask
      obtain rfl := Option.some.inj hs
      exact h.moveTask htask fun _ => rfl
    · cases hs
  | flushSends =>
    simp only [lineStep] at hs
    split at hs
    · rename_i call result rest next hout
      obtain rfl := Option.some.inj hs
      refine h.keep rfl (fun c => ?_) (fun _ => by simp [hout]) h.idleReady (by simp)
      simp only [Line.outputs, Line.onTheWay, outputs_append_output, hout, OutputPhase.unsent,
        List.map_cons, List.count_cons]
      by_cases hc : c = call
      · simp only [hc, if_true, beq_self_eq_true]
        omega
      · have hc' : (call == c) = false := by simpa using fun he => hc he.symm
        simp [hc, hc']
    · rename_i rest next hout
      obtain rfl := Option.some.inj hs
      refine h.keep rfl (fun c => ?_) (fun _ => by simp [hout]) h.idleReady
        (fun _ _ _ hn => absurd hn (proceed_ne_announcing _ _ _ _ _))
      simp only [Line.outputs, Line.onTheWay, outputs_append_create, proceed_unsent, hout]
      rfl
    · cases hs
  | gathered =>
    simp only [lineStep] at hs
    split at hs
    · rename_i hg
      split at hs
      · obtain rfl := Option.some.inj hs
        refine h.keep rfl (fun c => ?_) (fun _ => by simp [hg.1]) h.idleReady (by simp)
        simp [Line.outputs, Line.onTheWay, hg.1, OutputPhase.unsent]
      · obtain rfl := Option.some.inj hs
        exact flushReady_accounted h (by simp [hg.1, OutputPhase.unsent]) (by simp [hg.1])
          l.responseActive .finish
    · cases hs
  | raises =>
    simp only [lineStep] at hs
    split at hs
    · cases hs
    · obtain rfl := Option.some.inj hs
      refine ⟨h.numbered, fun c => ?_, fun hr => absurd rfl hr, h.idleReady, by simp⟩
      have hle := h.atMost c
      simp only [Line.outputs, Line.onTheWay, Line.owed, OutputPhase.unsent, List.map_nil,
        List.count_nil] at hle ⊢
      split
      · simp only [owes_idle]
        omega
      · omega

/-- The loop waits for the next event or has ended, no response is active, no tool is pending. -/
def Line.Settled (l : Line) : Prop :=
  (l.output = .receiving ∨ l.output = .ended) ∧ l.responseActive = false ∧
    ∀ call, l.task call = .idle

theorem settled_onTheWay (h : Accounted l) (hs : l.Settled) (call : Call) :
    l.onTheWay call = l.lost.count call := by
  obtain ⟨hout, hidle, htask⟩ := hs
  have hready := h.idleReady hidle
  rcases hout with hout | hout <;>
    simp [Line.onTheWay, htask call, hready, hout, OutputPhase.unsent]

theorem settled_outputs (h : Accounted l) (hs : l.Settled) (call : Call) :
    l.outputs call + l.lost.count call = l.owed call := by
  have hraised : l.output ≠ .raised := by
    rcases hs.1 with hout | hout <;> simp [hout]
  have heq := h.exactly hraised call
  rwa [settled_onTheWay h hs call] at heq

theorem outputs_eq_one_iff (h : Accounted l) (hs : l.Settled) {call : Call} (hm : call ∈ l.calls)
    (hterm : ¬call.Terminal) : l.outputs call = 1 ↔ call.Known ∧ call ∉ l.lost := by
  have heq := settled_outputs h hs call
  by_cases hk : call.Known
  · have howed : l.owed call = 1 := by simp [Line.owed, hm, hk, hterm]
    rw [howed] at heq
    have hlost : call ∉ l.lost ↔ l.lost.count call = 0 := List.count_eq_zero.symm
    rw [hlost]
    constructor
    · intro hone
      exact ⟨hk, by omega⟩
    · rintro ⟨-, hzero⟩
      omega
  · have howed : l.owed call = 0 := by simp [Line.owed, hk]
    rw [howed] at heq
    constructor
    · intro hone
      omega
    · rintro ⟨hk', -⟩
      exact absurd hk' hk

theorem owed_le_one (l : Line) (call : Call) : l.owed call ≤ 1 := by
  unfold Line.owed
  split <;> omega

/-- No call gets two outputs. Once everything has settled, every non-terminal call has one
exactly where each came with a call id, named a tool of the registry in use, and the sending of
its output did not fail. -/
theorem calls_answered_iff (h : GuardedRuns.Run lineStep .start l) :
    l.calls.map Call.number = List.range l.calls.length ∧ (∀ call, l.outputs call ≤ 1) ∧
      (l.Settled →
        ((∀ call ∈ l.calls, ¬call.Terminal → l.outputs call = 1) ↔
          ∀ call ∈ l.calls, ¬call.Terminal → call.Known ∧ call ∉ l.lost)) := by
  have hacc : Accounted l :=
    h.invariant start_accounted (fun _ _ _ hs _ ht => lineStep_accounted hs ht)
  refine ⟨hacc.numbered, fun call => ?_, fun hs => ?_⟩
  · have hle := hacc.atMost call
    have hone := owed_le_one l call
    omega
  · exact forall_congr' fun call => forall_congr' fun hm => forall_congr' fun hterm =>
      outputs_eq_one_iff hacc hs hm hterm

def recordedAnswer : Call :=
  ⟨0, "call_1".toList, "record_answer".toList, "\x7b\x7d".toList,
    some ⟨"record_answer".toList, false⟩⟩

/-- A tool that finishes while the response is active: its output waits for the end. -/
def answeredLater : List LineAction :=
  [.provider .responseCreated,
    .provider (.toolArgumentsDone voiceToolRegistry "call_1".toList "record_answer".toList none),
    .announced voiceToolRegistry, .toolReturns recordedAnswer "recorded".toList,
    .provider .responseDone, .flushSends, .flushSends]

theorem answered_later_once :
    ∃ l, exec lineStep .start answeredLater = some l ∧ l.sent =
      [.output recordedAnswer "recorded".toList, .create false] ∧ ∀ call, l.outputs call ≤ 1 := by
  obtain ⟨l, hl, hsent⟩ : ∃ l, exec lineStep .start answeredLater = some l ∧
      l.sent = [.output recordedAnswer "recorded".toList, .create false] :=
    ⟨_, rfl, by decide +kernel⟩
  exact ⟨l, hl, hsent, (calls_answered_iff (run_of_exec hl)).2.1⟩

def unknownAndUnnamed : List LineAction :=
  [.provider .responseCreated,
    .provider (.toolArgumentsDone voiceToolRegistry "call_1".toList "get_weather".toList none),
    .announced voiceToolRegistry,
    .provider (.toolArgumentsDone voiceToolRegistry [] "record_answer".toList none),
    .provider .responseDone]

/-- A call of a tool nobody knows and a call without an id: once the response is done nothing
is pending, and neither has an output. -/
theorem unknown_and_unnamed_unanswered :
    (exec lineStep .start unknownAndUnnamed).map (fun l => (l.output, l.responseActive)) =
      some (.receiving, false) ∧
    (exec lineStep .start unknownAndUnnamed).map
        (fun l => l.calls.map fun call => (call.callId, l.outputs call)) =
      some [("call_1".toList, 0), ([], 0)] ∧
    (exec lineStep .start unknownAndUnnamed).map (fun l => l.calls.map l.task) =
      some [.idle, .idle] := by
  decide +kernel

end DemoService.Voice
