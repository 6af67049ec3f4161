import Mathlib.Data.Finset.Card
import Mathlib.Data.List.Basic

/-! Tasks that hold resources of a pool. The tasks are told apart by their place in a list;
the pool's set of used resources is exactly what they hold, and none is held twice. -/

namespace Holders

variable {T P K : Type*} {hold : T → Option P}

structure Exact (hold : T → Option P) (tasks : List T) (inUse : Finset P) : Prop where
  held : ∀ p, p ∈ inUse ↔ ∃ (i : Nat) (task : T), tasks[i]? = some task ∧ hold task = some p
  once : ∀ {i j : Nat} {task task' : T} {p : P}, tasks[i]? = some task → tasks[j]? = some task' →
    hold task = some p → hold task' = some p → i = j

theorem exact_nil (hold : T → Option P) : Exact hold [] ∅ :=
  ⟨fun p => by simp, fun hi => by simp at hi⟩

theorem getElem?_concat_cases {tasks : List T} {i : Nat} {new found : T}
    (h : (tasks ++ [new])[i]? = some found) : tasks[i]? = some found ∨ found = new := by
  by_cases hlt : i < tasks.length
  · rw [List.getElem?_append_left hlt] at h
    exact .inl h
  · rw [List.getElem?_append_right (Nat.le_of_not_lt hlt)] at h
    cases hsub : i - tasks.length with
    | zero => exact .inr (by simpa [hsub, eq_comm] using h)
    | succ n => simp [hsub] at h

theorem Exact.append {tasks : List T} {inUse : Finset P} (h : Exact hold tasks inUse) {task : T}
    (hnone : hold task = none) : Exact hold (tasks ++ [task]) inUse := by
  have hold_old : ∀ {i : Nat} {found : T} {p : P}, (tasks ++ [task])[i]? = some found → hold found = some p →
      tasks[i]? = some found := by
    intro i found p hi hp
    rcases getElem?_concat_cases hi with hi | rfl
    · exact hi
    · simp [hnone] at hp
  constructor
  · intro p
    rw [h.held]
    constructor
    · rintro ⟨i, found, hi, hp⟩
      have hlt : i < tasks.length := (List.getElem?_eq_some_iff.mp hi).1
      exact ⟨i, found, by rwa [List.getElem?_append_left hlt], hp⟩
    · rintro ⟨i, found, hi, hp⟩
      exact ⟨i, found, hold_old hi hp, hp⟩
  · intro i j found found' p hi hj hp hp'
    exact h.once (hold_old hi hp) (hold_old hj hp') hp hp'

variable [DecidableEq P]

/-- One task keeps what it holds, takes a free resource, or gives its resource back. -/
inductive Change (inUse : Finset P) : Option P → Option P → Finset P → Prop
  | keep (held : Option P) : Change inUse held held inUse
  | take (p : P) (free : p ∉ inUse) : Change inUse none (some p) (insert p inUse)
  | release (p : P) : Change inUse (some p) none (inUse.erase p)

theorem getElem?_set_cases {tasks : List T} {i j : Nat} {new found : T}
    (h : (tasks.set i new)[j]? = some found) :
    (j = i ∧ found = new) ∨ (j ≠ i ∧ tasks[j]? = some found) := by
  by_cases hij : i = j
  · subst hij
    rw [List.getElem?_set_self'] at h
    obtain ⟨old, -, hold⟩ := Option.map_eq_some_iff.mp h
    exact .inl ⟨rfl, hold.symm⟩
  · rw [List.getElem?_set_ne hij] at h
    exact .inr ⟨fun he => hij he.symm, h⟩

theorem getElem?_set_of {tasks : List T} {i : Nat} {task new : T} (hi : tasks[i]? = some task) :
    (tasks.set i new)[i]? = some new :=
  List.getElem?_set_self (List.getElem?_eq_some_iff.mp hi).1

theorem Change.mem_iff {inUse inUse' : Finset P} {before after : Option P}
    (h : Change inUse before after inUse') (hbefore : ∀ p, before = some p → p ∈ inUse) (p : P) :
    p ∈ inUse' ↔ after = some p ∨ (p ∈ inUse ∧ before ≠ some p) := by
  cases h with
  | keep =>
    constructor
    · intro hp
      by_cases hthis : before = some p
      · exact .inl hthis
      · exact .inr ⟨hp, hthis⟩
    · intro hp
      cases hp with
      | inl hp => exact hbefore p hp
      | inr hp => exact hp.1
  | take q hfree => simp [eq_comm]
  | release q => simp [and_comm, eq_comm]

theorem Change.held_or_free {inUse inUse' : Finset P} {before after : Option P}
    (h : Change inUse before after inUse') {p : P} (hp : after = some p) :
    before = some p ∨ p ∉ inUse := by
  cases h with
  | keep => exact .inl hp
  | take q hfree =>
    obtain rfl : q = p := Option.some.inj hp
    exact .inr hfree
  | release q => cases hp

theorem Exact.set {tasks : List T} {inUse inUse' : Finset P} (h : Exact hold tasks inUse) {i : Nat}
    {task new : T} (hi : tasks[i]? = some task)
    (hchange : Change inUse (hold task) (hold new) inUse') :
    Exact hold (tasks.set i new) inUse' := by
  -- what the other tasks hold is still used, and still not what this one holds
  have hmem := hchange.mem_iff fun p hp => (h.held p).mpr ⟨i, task, hi, hp⟩
  have hother : ∀ {j : Nat} {found : T} {p : P}, tasks[j]? = some found → j ≠ i → hold found = some p →
      hold new ≠ some p := by
    intro j found p hj hne hfound hnew
    cases hchange.held_or_free hnew with
    | inl hown => exact hne (h.once hj hi hfound hown)
    | inr hfree => exact hfree ((h.held p).mpr ⟨j, found, hj, hfound⟩)
  constructor
  · intro p
    rw [hmem]
    constructor
    · rintro (hp | ⟨hp, hthis⟩)
      · exact ⟨i, new, getElem?_set_of hi, hp⟩
      · obtain ⟨j, found, hj, hfound⟩ := (h.held p).mp hp
        have hne : i ≠ j := by
          rintro rfl
          exact hthis (Option.some.inj (hi.symm.trans hj) ▸ hfound)
        exact ⟨j, found, by rwa [List.getElem?_set_ne hne], hfound⟩
    · rintro ⟨j, found, hj, hfound⟩
      rcases getElem?_set_cases hj with ⟨-, rfl⟩ | ⟨hne, hj⟩
      · exact .inl hfound
      · refine .inr ⟨(h.held p).mpr ⟨j, found, hj, hfound⟩, fun hthis => hne ?_⟩
        exact h.once hj hi hfound hthis
  · intro j k found found' p hj hk hp hp'
    rcases getElem?_set_cases hj with ⟨hji, hjnew⟩ | ⟨hnej, hjold⟩
    · rcases getElem?_set_cases hk with ⟨hki, -⟩ | ⟨hnek, hkold⟩
      · rw [hji, hki]
      · exact absurd (hjnew ▸ hp) (hother hkold hnek hp')
    · rcases getElem?_set_cases hk with ⟨-, hknew⟩ | ⟨hnek, hkold⟩
      · exact absurd (hknew ▸ hp') (hother hjold hnej hp)
      · exact h.once hjold hkold hp hp'

/-- Where each holder is busy or the one that some key stands for, the resources in use are no
more than the keys and the busy tasks. -/
theorem Exact.card_le {tasks : List T} {inUse : Finset P} (h : Exact hold tasks inUse)
    (busy : T → Bool) (keys : List K) (own : K → Option Nat)
    (howned : ∀ (i : Nat) (task : T) (p : P), tasks[i]? = some task → hold task = some p →
      busy task = true ∨ ∃ key ∈ keys, own key = some i) :
    inUse.card ≤ keys.length + (tasks.filter busy).length := by
  have hsub : inUse ⊆
      (keys.filterMap fun key => (own key).bind fun i => tasks[i]?.bind hold).toFinset ∪
        ((tasks.filter busy).filterMap hold).toFinset := by
    intro p hp
    obtain ⟨i, task, hi, htask⟩ := (h.held p).mp hp
    rw [Finset.mem_union, List.mem_toFinset, List.mem_toFinset, List.mem_filterMap,
      List.mem_filterMap]
    rcases howned i task p hi htask with hbusy | ⟨key, hkey, hown⟩
    · exact .inr ⟨task, List.mem_filter.mpr ⟨List.mem_of_getElem? hi, hbusy⟩, htask⟩
    · exact .inl ⟨key, hkey, by simp [hown, hi, htask]⟩
  calc inUse.card
      ≤ _ := Finset.card_le_card hsub
    _ ≤ _ := Finset.card_union_le _ _
    _ ≤ keys.length + (tasks.filter busy).length :=
        Nat.add_le_add ((List.toFinset_card_le _).trans (List.length_filterMap_le _ _))
          ((List.toFinset_card_le _).trans (List.length_filterMap_le _ _))

end Holders
