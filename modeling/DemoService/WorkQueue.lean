import Mathlib.Data.List.Forall2
import Mathlib.Data.Multiset.DershowitzManna

/-! A queue whose first entry is either finished or replaced by smaller ones. The queue gets
smaller in the multiset order of the sizes, and the results of one entry stand together. -/

namespace WorkQueue

universe u v

/-- The sizes of a queue, less where entries are replaced by smaller ones. -/
structure Sizes where
  sizes : Multiset Nat

instance sizesRelation : WellFoundedRelation Sizes where
  rel := InvImage Multiset.IsDershowitzMannaLT Sizes.sizes
  wf := InvImage.wf Sizes.sizes Multiset.wellFounded_isDershowitzMannaLT

variable {α : Type u} {β : Type v}

def sizesOf (size : α → Nat) (queue : List α) : Sizes := ⟨(queue.map size : List Nat)⟩

theorem sizesOf_split {size : α → Nat} {a : α} {parts : List α}
    (h : ∀ part ∈ parts, size part < size a) (rest : List α) :
    sizesRelation.rel (sizesOf size (parts ++ rest)) (sizesOf size (a :: rest)) := by
  refine ⟨(rest.map size : List Nat), (parts.map size : List Nat), {size a},
    Multiset.singleton_ne_zero _, ?_, ?_, ?_⟩
  · rw [sizesOf, List.map_append, ← Multiset.coe_add, add_comm]
  · rw [sizesOf, List.map_cons, ← Multiset.cons_coe, ← Multiset.singleton_add, add_comm]
  · intro n hn
    obtain ⟨part, hpart, rfl⟩ := List.mem_map.mp (Multiset.mem_coe.mp hn)
    exact ⟨size a, Multiset.mem_singleton_self _, h part hpart⟩

theorem sizesOf_tail (size : α → Nat) (a : α) (rest : List α) :
    sizesRelation.rel (sizesOf size rest) (sizesOf size (a :: rest)) := by
  have hnone : ∀ part ∈ ([] : List α), size part < size a := nofun
  exact sizesOf_split hnone rest

/-- What a queue is worked into: an entry gives its result, or its parts go in front. -/
inductive Worked (accepts : α → β → Prop) (splits : α → List α → Prop) :
    List α → List β → Prop
  | nil : Worked accepts splits [] []
  | done {a : α} {b : β} {rest : List α} {results : List β} (accepted : accepts a b)
      (later : Worked accepts splits rest results) :
      Worked accepts splits (a :: rest) (b :: results)
  | split {a : α} {parts rest : List α} {results : List β} (parted : splits a parts)
      (later : Worked accepts splits (parts ++ rest) results) :
      Worked accepts splits (a :: rest) results

/-- What holds of an accepted entry and is put together from the parts holds of each entry
and its own results. -/
theorem Worked.groups {accepts : α → β → Prop} {splits : α → List α → Prop}
    {holds : α → List β → Prop} (hdone : ∀ {a b}, accepts a b → holds a [b])
    (hsplit : ∀ {a parts groups}, splits a parts → List.Forall₂ holds parts groups →
      holds a groups.flatten) {queue : List α} {results : List β}
    (h : Worked accepts splits queue results) :
    ∃ groups, results = groups.flatten ∧ List.Forall₂ holds queue groups := by
  induction h with
  | nil => exact ⟨[], rfl, .nil⟩
  | done accepted _ ih =>
    obtain ⟨groups, rfl, hgroups⟩ := ih
    exact ⟨[_] :: groups, rfl, .cons (hdone accepted) hgroups⟩
  | @split a parts rest _ parted _ ih =>
    obtain ⟨groups, rfl, hgroups⟩ := ih
    have hfirst := (List.forall₂_take_append groups parts rest hgroups.flip).flip
    have hlater := (List.forall₂_drop_append groups parts rest hgroups.flip).flip
    refine ⟨(groups.take parts.length).flatten :: groups.drop parts.length, ?_,
      .cons (hsplit parted hfirst) hlater⟩
    rw [List.flatten_cons, ← List.flatten_append, List.take_append_drop]

end WorkQueue
