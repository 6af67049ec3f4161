import Mathlib.Logic.Function.Basic
import Mathlib.Tactic.TypeStar

/-! Parties that take turns on a shared value: each has a state of its own, and one turn of
one of them reads and writes the shared value and its own state only. -/

namespace Interleaving

variable {ι Shared Local Action : Type*} [DecidableEq ι]

structure System (ι Shared Local : Type*) where
  shared : Shared
  part : ι → Local

def step (turn : Shared → Local → Action → Option (Shared × Local))
    (s : System ι Shared Local) (a : ι × Action) : Option (System ι Shared Local) :=
  (turn s.shared (s.part a.1) a.2).map fun r => ⟨r.1, Function.update s.part a.1 r.2⟩

variable {turn : Shared → Local → Action → Option (Shared × Local)}
  {s t : System ι Shared Local} {a : ι × Action}

theorem step_eq_some : step turn s a = some t ↔
    ∃ shared part, turn s.shared (s.part a.1) a.2 = some (shared, part) ∧
      t = ⟨shared, Function.update s.part a.1 part⟩ := by
  simp only [step, Option.map_eq_some_iff, Prod.exists]
  exact exists_congr fun _ => exists_congr fun _ => and_congr_right fun _ => eq_comm

/-- What a turn keeps of its own party's state holds of every party. -/
theorem forall_part_step {J : Local → Prop} (hs : ∀ i, J (s.part i)) (h : step turn s a = some t)
    (hturn : ∀ shared part, J (s.part a.1) →
      turn s.shared (s.part a.1) a.2 = some (shared, part) → J part) (i : ι) : J (t.part i) := by
  obtain ⟨shared, part, hr, rfl⟩ := step_eq_some.mp h
  by_cases hi : i = a.1
  · simpa [hi] using hturn shared part (hs a.1) hr
  · simpa [hi] using hs i

/-- At most one party holds something, and what holding means is true of it. -/
structure Exclusive (Holds : Local → Prop) (Owned : Shared → Local → Prop)
    (s : System ι Shared Local) : Prop where
  owned : ∀ i, Holds (s.part i) → Owned s.shared (s.part i)
  alone : ∀ i j, Holds (s.part i) → Holds (s.part j) → i = j

variable {Holds : Local → Prop} {Owned : Shared → Local → Prop}

/-- The exclusion rule. A turn makes good what its own party holds after it; and a turn of a
party that did not hold is taken where nobody can hold, or takes nothing and leaves what the
others own. -/
theorem Exclusive.step (hs : Exclusive Holds Owned s) (h : step turn s a = some t)
    (hown : ∀ shared part, turn s.shared (s.part a.1) a.2 = some (shared, part) →
      Holds part → Owned shared part)
    (hother : ∀ shared part, turn s.shared (s.part a.1) a.2 = some (shared, part) →
      ¬Holds (s.part a.1) →
        (∀ part', Holds part' → ¬Owned s.shared part') ∨
        (¬Holds part ∧ ∀ part', Holds part' → Owned s.shared part' → Owned shared part')) :
    Exclusive Holds Owned t := by
  obtain ⟨shared, part, hr, rfl⟩ := step_eq_some.mp h
  have hoff : ∀ i, i ≠ a.1 → Holds (s.part i) →
      ¬Holds part ∧ Owned shared (s.part i) := by
    intro i hi hh
    have hnot : ¬Holds (s.part a.1) := fun ha => hi (hs.alone i a.1 hh ha)
    rcases hother shared part hr hnot with hnone | ⟨hpart, hkeep⟩
    · exact absurd (hs.owned i hh) (hnone _ hh)
    · exact ⟨hpart, hkeep _ hh (hs.owned i hh)⟩
  constructor
  · intro i hh
    by_cases hi : i = a.1
    · subst hi
      simp only [Function.update_self] at hh ⊢
      exact hown shared part hr hh
    · simp only [ne_eq, hi, not_false_eq_true, Function.update_of_ne] at hh ⊢
      exact (hoff i hi hh).2
  · intro i j hi hj
    by_cases hia : i = a.1 <;> by_cases hja : j = a.1
    · exact hia.trans hja.symm
    · simp only [hia, Function.update_self, ne_eq, hja, not_false_eq_true,
        Function.update_of_ne] at hi hj
      exact absurd hi (hoff j hja hj).1
    · simp only [hja, Function.update_self, ne_eq, hia, not_false_eq_true,
        Function.update_of_ne] at hi hj
      exact absurd hj (hoff i hia hi).1
    · simp only [ne_eq, hia, hja, not_false_eq_true, Function.update_of_ne] at hi hj
      exact hs.alone i j hi hj

end Interleaving
