import Mathlib.Data.List.Infix
import DemoService.RunModel

/-! The one guarded follow-up question about a completed run's brief. How letters fold to lower
case and what an answer says of the brief are parameters. -/

namespace DemoService.Runs

open PyText

structure FollowUpResponse where
  question : Text
  answer : Text
  category : String
  deriving DecidableEq, Repr

structure StoredRun where
  run : Run
  followUpCount : Nat
  followUpResponse : Option FollowUpResponse
  deriving DecidableEq, Repr

structure FollowUpText where
  lower : Text → Text
  buildAnswer : String → Text → Text

def allowedMarkers : List (String × String) :=
  [("contradiction", "contradiction"), ("contradict", "contradiction"),
    ("decision", "decisions"), ("decisions", "decisions"), ("risk", "risks"), ("risks", "risks"),
    ("explain", "explain"), ("clarify", "clarify"), ("question", "open_questions"),
    ("questions", "open_questions"), ("summary", "summary"), ("summarize", "summary")]

def refusedMarkers : List String := ["weather", "joke", "recipe", "email", "code", "write me"]

def pointMarkers : List String := ["brief", "point", "mean", "why"]

/-- `marker in lowered`. -/
def mentions (lowered : Text) (marker : String) : Bool := decide (marker.toList <:+: lowered)

def classifyQuestion (lower : Text → Text) (question : Text) : Option String :=
  let lowered := lower question
  if refusedMarkers.any (mentions lowered) then none
  else
    match allowedMarkers.find? (fun entry => mentions lowered entry.1) with
    | some entry => some entry.2
    | none =>
      if '?' ∈ question ∧ pointMarkers.any (mentions lowered) then some "explain" else none

def answerFollowUp (text : FollowUpText) (stored : StoredRun) (question : Text) :
    Except RequestError FollowUpResponse :=
  match stored.run.status, stored.run.outputBrief.bind orNone with
  | .completed, some brief =>
    if stored.followUpCount ≥ 1 then
      .error (.http 409 "This run already used its one follow-up question.")
    else
      match classifyQuestion text.lower question with
      | none => .error (.http 400
          ("Follow-up must stay about this brief: ask about decisions, risks, " ++
            "contradictions, open questions, or one point that needs explaining."))
      | some category => .ok ⟨strip question, text.buildAnswer category brief, category⟩
  | _, _ => .error (.http 409 "Follow-up is available only after a brief is complete.")

/-- A run still has its follow-up question. -/
def StoredRun.FollowUpOpen (stored : StoredRun) : Prop :=
  stored.run.status = .completed ∧ (stored.run.outputBrief.bind orNone).isSome ∧
    stored.followUpCount < 1

instance (stored : StoredRun) : Decidable stored.FollowUpOpen :=
  inferInstanceAs (Decidable (_ ∧ _))

theorem followUpOpen_of_answer {text : FollowUpText} {stored : StoredRun} {question : Text}
    {response : FollowUpResponse} (h : answerFollowUp text stored question = .ok response) :
    stored.FollowUpOpen := by
  unfold answerFollowUp at h
  split at h
  · rename_i brief hstatus hbrief
    split at h
    · cases h
    · rename_i hcount
      exact ⟨hstatus, by simp [hbrief], by omega⟩
  · cases h

end DemoService.Runs
