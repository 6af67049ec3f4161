import Mathlib.Logic.Relation

/-! Runs of a labelled transition system whose steps are a partial function.
A guarded run is one in which every step meets a condition on the state before
it and on its action, so that a law can be stated for exactly the runs that
never take a given branch. -/

namespace GuardedRuns

variable {State Action Abs : Type*}

def GuardedStep (step : State → Action → Option State) (ok : State → Action → Prop)
    (s t : State) : Prop :=
  ∃ a, ok s a ∧ step s a = some t

abbrev GuardedRun (step : State → Action → Option State) (ok : State → Action → Prop) :=
  Relation.ReflTransGen (GuardedStep step ok)

/-- An unconditional run: any actions, in any order. -/
abbrev Run (step : State → Action → Option State) :=
  GuardedRun step (fun _ _ => True)

/-- The state after a list of actions, if each of them was enabled. -/
def exec (step : State → Action → Option State) : State → List Action → Option State
  | s, [] => some s
  | s, a :: as => (step s a).bind (fun t => exec step t as)

variable {step : State → Action → Option State} {ok : State → Action → Prop}

/-- The same step, enabled only where its condition holds. -/
def guard (step : State → Action → Option State) (ok : State → Action → Prop)
    [∀ s a, Decidable (ok s a)] (s : State) (a : Action) : Option State :=
  if ok s a then step s a else none

theorem guardedRun_of_exec [∀ s a, Decidable (ok s a)] {s t : State} {as : List Action}
    (h : exec (guard step ok) s as = some t) : GuardedRun step ok s t := by
  induction as generalizing s with
  | nil =>
    have he : s = t := Option.some.inj h
    exact he ▸ .refl
  | cons a as ih =>
    obtain ⟨u, hu, ht⟩ := Option.bind_eq_some_iff.mp h
    unfold guard at hu
    split at hu
    · rename_i hok
      exact .head ⟨a, hok, hu⟩ (ih ht)
    · cases hu

theorem run_of_exec {s t : State} {as : List Action} (h : exec step s as = some t) :
    Run step s t := by
  induction as generalizing s with
  | nil =>
    have he : s = t := Option.some.inj h
    exact he ▸ .refl
  | cons a as ih =>
    obtain ⟨u, hu, ht⟩ := Option.bind_eq_some_iff.mp h
    exact .head ⟨a, trivial, hu⟩ (ih ht)

/-- Actions that meet the condition in every state make a guarded run. -/
theorem guardedRun_of_forall {s t : State} {as : List Action} (h : exec step s as = some t)
    (hok : ∀ a ∈ as, ∀ s, ok s a) : GuardedRun step ok s t := by
  induction as generalizing s with
  | nil =>
    have he : s = t := Option.some.inj h
    exact he ▸ .refl
  | cons a as ih =>
    obtain ⟨u, hu, ht⟩ := Option.bind_eq_some_iff.mp h
    rw [List.forall_mem_cons] at hok
    exact .head ⟨a, hok.1 s, hu⟩ (ih ht hok.2)

theorem GuardedRun.run {s t : State} (h : GuardedRun step ok s t) : Run step s t :=
  Relation.ReflTransGen.mono (fun _ _ ⟨a, _, ha⟩ => ⟨a, trivial, ha⟩) _ _ h

/-- The invariant rule: a property of the first state that every step meeting
the condition preserves holds in every state the run reaches. -/
theorem GuardedRun.invariant {I : State → Prop} {s t : State} (h : GuardedRun step ok s t)
    (hs : I s) (hstep : ∀ s a t, I s → ok s a → step s a = some t → I t) : I t := by
  induction h with
  | refl => exact hs
  | tail _ hu ih =>
    obtain ⟨a, ha, he⟩ := hu
    exact hstep _ a _ ih ha he

/-- Forward simulation along an abstraction function: where every step from a
state of the invariant is an abstract run (possibly empty), so is the whole run. -/
theorem GuardedRun.simulates {I : State → Prop} {absStep : Abs → Abs → Prop} (f : State → Abs)
    {s t : State} (h : GuardedRun step ok s t) (hs : I s)
    (hinv : ∀ s a t, I s → ok s a → step s a = some t → I t)
    (hsim : ∀ s a t, I s → ok s a → step s a = some t →
      Relation.ReflTransGen absStep (f s) (f t)) :
    Relation.ReflTransGen absStep (f s) (f t) := by
  induction h with
  | refl => exact .refl
  | tail hr hu ih =>
    obtain ⟨a, ha, he⟩ := hu
    exact ih.trans (hsim _ a _ (GuardedRun.invariant hr hs hinv) ha he)

/-- Every step of a list of actions meets the condition. -/
def AllSteps (step : State → Action → Option State) (ok : State → Action → Prop) :
    State → List Action → Prop
  | _, [] => True
  | s, a :: as => ok s a ∧ ∀ t, step s a = some t → AllSteps step ok t as

/-- What a condition implies of the steps from an invariant's states holds of every step of a
list of actions that meets the condition throughout. -/
theorem AllSteps.mono_of_invariant {I : State → Prop} {ok' : State → Action → Prop} {s t : State}
    {as : List Action} (he : exec step s as = some t) (hs : I s)
    (hinv : ∀ s a t, I s → ok s a → step s a = some t → I t)
    (hmono : ∀ s a t, I s → ok s a → step s a = some t → ok' s a) (h : AllSteps step ok s as) :
    AllSteps step ok' s as := by
  induction as generalizing s with
  | nil => trivial
  | cons a as ih =>
    obtain ⟨u, hu, ht⟩ := Option.bind_eq_some_iff.mp he
    refine ⟨hmono s a u hs h.1 hu, fun v hv => ?_⟩
    obtain rfl : u = v := Option.some.inj (hu.symm.trans hv)
    exact ih ht (hinv s a u hs h.1 hu) (h.2 u hu)

/-- A list of actions that the guard lets pass meets the condition and ends where it would. -/
theorem allSteps_of_exec [∀ s a, Decidable (ok s a)] {s t : State} {as : List Action}
    (h : exec (guard step ok) s as = some t) :
    AllSteps step ok s as ∧ exec step s as = some t := by
  induction as generalizing s with
  | nil => exact ⟨trivial, h⟩
  | cons a as ih =>
    obtain ⟨u, hu, ht⟩ := Option.bind_eq_some_iff.mp h
    obtain ⟨hall, hexec⟩ := ih ht
    unfold guard at hu
    split at hu
    · rename_i hok
      refine ⟨⟨hok, fun v hv => ?_⟩, by rw [exec, hu, Option.bind_some, hexec]⟩
      obtain rfl : u = v := Option.some.inj (hu.symm.trans hv)
      exact hall
    · cases hu

theorem allSteps_congr {ok' : State → Action → Prop} (h : ∀ s a, ok s a ↔ ok' s a) (s : State)
    (as : List Action) : AllSteps step ok s as ↔ AllSteps step ok' s as := by
  induction as generalizing s with
  | nil => exact Iff.rfl
  | cons a as ih => exact and_congr (h s a) (forall_congr' fun t => imp_congr_right fun _ => ih t)

theorem AllSteps.and {ok' : State → Action → Prop} {s : State} {as : List Action}
    (h : AllSteps step ok s as) (h' : AllSteps step ok' s as) :
    AllSteps step (fun s a => ok s a ∧ ok' s a) s as := by
  induction as generalizing s with
  | nil => trivial
  | cons a as ih => exact ⟨⟨h.1, h'.1⟩, fun t ht => ih (h.2 t ht) (h'.2 t ht)⟩

theorem guardedRun_of_allSteps {s t : State} {as : List Action} (h : exec step s as = some t)
    (hall : AllSteps step ok s as) : GuardedRun step ok s t := by
  induction as generalizing s with
  | nil =>
    have he : s = t := Option.some.inj h
    exact he ▸ .refl
  | cons a as ih =>
    obtain ⟨u, hu, ht⟩ := Option.bind_eq_some_iff.mp h
    exact .head ⟨a, hall.1, hu⟩ (ih ht (hall.2 u hu))

theorem allSteps_concat_iff {s t : State} {as : List Action} {a : Action}
    (he : exec step s as = some t) :
    AllSteps step ok s (as ++ [a]) ↔ AllSteps step ok s as ∧ ok t a := by
  induction as generalizing s with
  | nil =>
    obtain rfl : s = t := Option.some.inj he
    simp [AllSteps]
  | cons b bs ih =>
    obtain ⟨u, hu, ht⟩ := Option.bind_eq_some_iff.mp he
    have honly : ∀ v, step s b = some v → v = u := fun v hv => Option.some.inj (hv.symm.trans hu)
    simp only [List.cons_append, AllSteps]
    constructor
    · intro h
      obtain ⟨hbs, ha⟩ := (ih ht).mp (h.2 u hu)
      exact ⟨⟨h.1, fun v hv => honly v hv ▸ hbs⟩, ha⟩
    · intro h
      exact ⟨h.1.1, fun v hv => honly v hv ▸ (ih ht).mpr ⟨h.1.2 u hu, h.2⟩⟩

/-- A list of actions goes through exactly where each of them is enabled. -/
theorem exec_succeeds_iff (h : ∀ s a, (∃ t, step s a = some t) ↔ ok s a) {s : State}
    {as : List Action} : (∃ t, exec step s as = some t) ↔ AllSteps step ok s as := by
  induction as generalizing s with
  | nil => exact iff_of_true ⟨s, rfl⟩ trivial
  | cons a as ih =>
    constructor
    · rintro ⟨t, ht⟩
      obtain ⟨u, hu, ht⟩ := Option.bind_eq_some_iff.mp ht
      refine ⟨(h s a).mp ⟨u, hu⟩, fun v hv => ?_⟩
      obtain rfl : u = v := Option.some.inj (hu.symm.trans hv)
      exact ih.mp ⟨t, ht⟩
    · rintro ⟨hok, hrest⟩
      obtain ⟨u, hu⟩ := (h s a).mpr hok
      obtain ⟨t, ht⟩ := ih.mpr (hrest u hu)
      exact ⟨t, Option.bind_eq_some_iff.mpr ⟨u, hu, ht⟩⟩

theorem exec_append {s t : State} {as bs : List Action} (h : exec step s as = some t) :
    exec step s (as ++ bs) = exec step t bs := by
  induction as generalizing s with
  | nil =>
    obtain rfl : s = t := Option.some.inj h
    rfl
  | cons a as ih =>
    obtain ⟨u, hu, ht⟩ := Option.bind_eq_some_iff.mp h
    rw [List.cons_append, exec, hu]
    exact ih ht

theorem exec_concat {s t : State} {as : List Action} {a : Action} :
    exec step s (as ++ [a]) = some t ↔ ∃ u, exec step s as = some u ∧ step u a = some t := by
  induction as generalizing s with
  | nil => simp [exec]
  | cons b bs ih =>
    simp only [List.cons_append, exec, Option.bind_eq_some_iff, ih]
    constructor
    · rintro ⟨v, hv, u, hu, ha⟩
      exact ⟨u, ⟨v, hv, hu⟩, ha⟩
    · rintro ⟨u, ⟨v, hv, hu⟩, ha⟩
      exact ⟨v, hv, u, hu, ha⟩

/-- The exactness rule: where a step leads to a good state exactly from a good
state and under the condition, so does a list of actions. -/
theorem exec_good_iff {I Good : State → Prop} {s t : State} {as : List Action}
    (h : exec step s as = some t) (hs : I s) (hinv : ∀ s a t, I s → step s a = some t → I t)
    (hstep : ∀ s a t, I s → step s a = some t → (Good t ↔ Good s ∧ ok s a)) :
    Good t ↔ Good s ∧ AllSteps step ok s as := by
  induction as generalizing s with
  | nil =>
    have he : s = t := Option.some.inj h
    simp [he, AllSteps]
  | cons a as ih =>
    obtain ⟨u, hu, ht⟩ := Option.bind_eq_some_iff.mp h
    rw [ih ht (hinv s a u hs hu), hstep s a u hs hu, and_assoc]
    refine and_congr_right fun _ => and_congr_right fun _ => ⟨fun hrest v hv => ?_, ?_⟩
    · obtain rfl : u = v := Option.some.inj (hu.symm.trans hv)
      exact hrest
    · exact fun hrest => hrest u hu

/-- A property of every state a list of actions goes through. -/
def Always (step : State → Action → Option State) (P : State → Prop) : State → List Action → Prop
  | s, [] => P s
  | s, a :: as => P s ∧ ∀ t, step s a = some t → Always step P t as

/-- What a property implies in the states of an invariant holds wherever the property does. -/
theorem Always.mono_of_invariant {I P Q : State → Prop}
    (hinv : ∀ s a t, I s → step s a = some t → I t) (hPQ : ∀ s, I s → P s → Q s) {s : State}
    (hs : I s) {as : List Action} (h : Always step P s as) : Always step Q s as := by
  induction as generalizing s with
  | nil => exact hPQ s hs h
  | cons a as ih => exact ⟨hPQ s hs h.1, fun t ht => ih (hinv s a t hs ht) (h.2 t ht)⟩

theorem Always.mono {P Q : State → Prop} (hPQ : ∀ s, P s → Q s) {s : State} {as : List Action}
    (h : Always step P s as) : Always step Q s as :=
  h.mono_of_invariant (I := fun _ => True) (fun _ _ _ _ _ => trivial) (fun s _ => hPQ s) trivial

/-- Where a step from a good state leads to a good state exactly under the condition, a list
of actions stays in good states exactly where all its steps meet the condition. -/
theorem always_iff {I Good : State → Prop} {s t : State} {as : List Action}
    (h : exec step s as = some t) (hs : I s) (hgood : Good s)
    (hinv : ∀ s a t, I s → step s a = some t → I t)
    (hstep : ∀ s a t, I s → Good s → step s a = some t → (Good t ↔ ok s a)) :
    Always step Good s as ↔ AllSteps step ok s as := by
  induction as generalizing s with
  | nil => simp [Always, AllSteps, hgood]
  | cons a as ih =>
    obtain ⟨u, hu, ht⟩ := Option.bind_eq_some_iff.mp h
    have honly : ∀ v, step s a = some v → u = v := fun v hv => Option.some.inj (hu.symm.trans hv)
    have hiff := hstep s a u hs hgood hu
    constructor
    · rintro ⟨-, hrest⟩
      have hgoodu : Good u := by
        cases as with
        | nil => exact hrest u hu
        | cons b bs => exact (hrest u hu).1
      refine ⟨hiff.mp hgoodu, fun v hv => ?_⟩
      obtain rfl := honly v hv
      exact (ih ht (hinv s a u hs hu) hgoodu).mp (hrest u hu)
    · rintro ⟨hok, hrest⟩
      refine ⟨hgood, fun v hv => ?_⟩
      obtain rfl := honly v hv
      exact (ih ht (hinv s a u hs hu) (hiff.mpr hok)).mpr (hrest u hu)

end GuardedRuns
