import Mathlib.Logic.Relation
import Mathlib.Logic.Function.Basic

/-! A ledger of capped counters, one for each key. A grant is atomic: it is
given only below the cap and counts at once. Programs that check and count in
separate statements are compared with this ledger. -/

namespace Quota

variable {K : Type*} [DecidableEq K]

structure Ledger (K : Type*) where
  limit : K → Option Nat
  used : K → Nat

inductive Step : Ledger K → Ledger K → Prop
  | openKey (q : Ledger K) (k : K) (l : Option Nat) (h : q.used k = 0) :
      Step q { q with limit := Function.update q.limit k l }
  | grant (q : Ledger K) (k : K) (h : ∀ m, q.limit k = some m → q.used k < m) :
      Step q { q with used := Function.update q.used k (q.used k + 1) }

def WithinLimit (q : Ledger K) : Prop := ∀ k m, q.limit k = some m → q.used k ≤ m

theorem WithinLimit.step {q r : Ledger K} (h : WithinLimit q) (hs : Step q r) : WithinLimit r := by
  cases hs with
  | openKey k l hz =>
    intro k' m hm
    by_cases hk : k' = k
    · subst hk
      exact hz ▸ Nat.zero_le m
    · exact h k' m (by simpa [Function.update_of_ne hk] using hm)
  | grant k hl =>
    intro k' m hm
    by_cases hk : k' = k
    · subst hk
      simpa using Nat.succ_le_of_lt (hl m hm)
    · simpa [Function.update_of_ne hk] using h k' m hm

/-- No key is ever granted more often than its cap. -/
theorem WithinLimit.run {q r : Ledger K} (h : WithinLimit q)
    (hr : Relation.ReflTransGen Step q r) : WithinLimit r := by
  induction hr with
  | refl => exact h
  | tail _ hs ih => exact ih.step hs

end Quota
