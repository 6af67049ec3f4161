import Mathlib.Data.Multiset.ZeroCons
import Mathlib.Data.Finset.Basic
import Mathlib.Logic.Relation

/-! Leases on a pool of items. An item is taken only while it is free, and goes
back only from an owner that holds it; an owner may also vanish without giving
its item back. -/

namespace Lease

variable {P : Type*} [DecidableEq P]

structure State (P : Type*) where
  inUse : Finset P
  owned : Multiset P

inductive Step : State P → State P → Prop
  | acquire (s : State P) (p : P) (h : p ∉ s.inUse) :
      Step s ⟨insert p s.inUse, p ::ₘ s.owned⟩
  | release (s : State P) (p : P) (h : p ∈ s.owned) :
      Step s ⟨s.inUse.erase p, s.owned.erase p⟩
  | abandon (s : State P) (p : P) (h : p ∈ s.owned) :
      Step s ⟨s.inUse, s.owned.erase p⟩

/-- No item has two owners, and every owned item is marked as in use. -/
structure Sound (s : State P) : Prop where
  once : s.owned.Nodup
  marked : ∀ p ∈ s.owned, p ∈ s.inUse

theorem Sound.step {s t : State P} (h : Sound s) (hs : Step s t) : Sound t := by
  cases hs with
  | acquire p hp =>
    have hfree : p ∉ s.owned := fun hm => hp (h.marked p hm)
    refine ⟨Multiset.nodup_cons.mpr ⟨hfree, h.once⟩, fun q hq => ?_⟩
    rcases Multiset.mem_cons.mp hq with rfl | hq
    · exact Finset.mem_insert_self ..
    · exact Finset.mem_insert_of_mem (h.marked q hq)
  | release p hp =>
    refine ⟨h.once.erase p, fun q hq => ?_⟩
    obtain ⟨hne, hq⟩ := (h.once.mem_erase_iff).mp hq
    exact Finset.mem_erase.mpr ⟨hne, h.marked q hq⟩
  | abandon p hp =>
    exact ⟨h.once.erase p, fun q hq => h.marked q (Multiset.mem_of_mem_erase hq)⟩

theorem Sound.run {s t : State P} (h : Sound s) (hr : Relation.ReflTransGen Step s t) :
    Sound t := by
  induction hr with
  | refl => exact h
  | tail _ hs ih => exact ih.step hs

end Lease
