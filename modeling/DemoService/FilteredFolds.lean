import Mathlib.Data.List.Basic

/-! A fold over a list and over what a filter leaves of it. A relation along a fold holds of
every item and the state it is met in. -/

namespace FilteredFolds

variable {σ α : Type} (step : σ → α → σ)

def Along (P : σ → α → Prop) : σ → List α → Prop
  | _, [] => True
  | s, a :: as => P s a ∧ Along P (step s a) as

variable {step} {P Q R : σ → α → Prop} {s t : σ} {as : List α}

theorem Along.mono (hpq : ∀ s a, P s a → Q s a) (h : Along step P s as) : Along step Q s as := by
  induction as generalizing s with
  | nil => trivial
  | cons a as ih => exact ⟨hpq s a h.1, ih h.2⟩

theorem Along.and (hp : Along step P s as) (hq : Along step Q s as) :
    Along step (fun s a => P s a ∧ Q s a) s as := by
  induction as generalizing s with
  | nil => trivial
  | cons a as ih => exact ⟨⟨hp.1, hq.1⟩, ih hp.2 hq.2⟩

/-- In a state that nothing changes, what holds of it holds along any list. -/
theorem Along.of_still (h : ∀ a, step s a = s ∧ P s a) : Along step P s as := by
  induction as with
  | nil => trivial
  | cons a as ih =>
    refine ⟨(h a).2, ?_⟩
    rw [(h a).1]
    exact ih

/-- Items that change nothing where they are met may be left out. -/
theorem foldl_filter_of_along {keep : α → Bool}
    (h : Along step (fun s a => ¬keep a → step s a = s) s as) :
    (as.filter keep).foldl step s = as.foldl step s := by
  induction as generalizing s with
  | nil => rfl
  | cons a as ih =>
    by_cases hkeep : keep a
    · rw [List.filter_cons_of_pos hkeep, List.foldl_cons, List.foldl_cons]
      exact ih h.2
    · have hsame : step s a = s := h.1 hkeep
      rw [List.filter_cons_of_neg hkeep, List.foldl_cons, hsame]
      exact ih (hsame ▸ h.2)

/-- A count of a run that goes on while the run is alive. What an item adds to it and whether the
run outlives the item are the same in every state that is alive. -/
structure Counted (step : σ → α → σ) (alive : σ → Prop) (count : σ → Nat) : Prop where
  dead : ∀ s a, ¬alive s → step s a = s
  alike : ∀ s t a, alive s → alive t →
    (alive (step s a) ↔ alive (step t a)) ∧ count (step s a) + count t = count (step t a) + count s
  mono : ∀ s a, count s ≤ count (step s a)

variable {alive : σ → Prop} {count : σ → Nat} {keep : α → Bool}

theorem Counted.foldl_dead (h : Counted step alive count) (hs : ¬alive s) :
    as.foldl step s = s := by
  induction as with
  | nil => rfl
  | cons a as ih => rw [List.foldl_cons, h.dead s a hs, ih]

/-- Where no item that is left out ends the run, leaving them out adds nothing to the count, and
takes nothing from it only if none of them added to it. -/
theorem Counted.filter_le (h : Counted step alive count)
    (hlasts : Along step (fun s a => alive s → ¬keep a → alive (step s a)) s as)
    (hs : alive s) (ht : alive t) :
    count ((as.filter keep).foldl step t) + count s ≤ count (as.foldl step s) + count t ∧
      (count ((as.filter keep).foldl step t) + count s = count (as.foldl step s) + count t →
        Along step (fun s a => alive s → ¬keep a → count (step s a) = count s) s as) := by
  induction as generalizing s t with
  | nil => exact ⟨Nat.le_of_eq (Nat.add_comm _ _), fun _ => trivial⟩
  | cons a as ih =>
    rw [List.foldl_cons]
    by_cases hkeep : keep a
    · rw [List.filter_cons_of_pos hkeep, List.foldl_cons]
      obtain ⟨hiff, hcount⟩ := h.alike s t a hs ht
      by_cases hnext : alive (step s a)
      · obtain ⟨hle, heq⟩ := ih hlasts.2 hnext (hiff.mp hnext)
        exact ⟨by omega, fun hsame => ⟨fun _ hno => absurd hkeep hno, heq (by omega)⟩⟩
      · rw [h.foldl_dead hnext, h.foldl_dead (mt hiff.mpr hnext)]
        exact ⟨by omega, fun _ => ⟨fun _ hno => absurd hkeep hno,
          .of_still fun a => ⟨h.dead _ a hnext, fun hs => absurd hs hnext⟩⟩⟩
    · rw [List.filter_cons_of_neg hkeep]
      have hmono := h.mono s a
      obtain ⟨hle, heq⟩ := ih hlasts.2 (hlasts.1 hs hkeep) ht
      refine ⟨by omega, fun hsame => ⟨fun _ _ => by omega, heq (by omega)⟩⟩

end FilteredFolds
