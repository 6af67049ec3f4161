/-! Computations on a store that keep what they did before they fail. -/

def Effect (σ ε α : Type) : Type := σ → Except ε α × σ

namespace Effect

variable {σ ε α β : Type}

instance : Monad (Effect σ ε) where
  pure a := fun s => (.ok a, s)
  bind x f := fun s =>
    match x s with
    | (.ok a, s') => f a s'
    | (.error e, s') => (.error e, s')

def lift (x : Except ε α) : Effect σ ε α := fun s => (x, s)

def fail (e : ε) : Effect σ ε α := lift (.error e)

def modify (f : σ → σ) : Effect σ ε Unit := fun s => (.ok (), f s)

theorem bind_ok {x : Effect σ ε α} {s s' : σ} {a : α} (h : x s = (.ok a, s'))
    (f : α → Effect σ ε β) : (x >>= f) s = f a s' := by
  change (match x s with | (.ok a, s') => f a s' | (.error e, s') => (.error e, s')) = f a s'
  rw [h]

theorem bind_error {x : Effect σ ε α} {s s' : σ} {e : ε} (h : x s = (.error e, s'))
    (f : α → Effect σ ε β) : (x >>= f) s = (.error e, s') := by
  change (match x s with | (.ok a, s') => f a s' | (.error e, s') => (.error e, s')) = _
  rw [h]

theorem bind_congr_ok {x : Effect σ ε α} {f g : α → Effect σ ε β} {s : σ}
    (h : ∀ a s', x s = (.ok a, s') → f a s' = g a s') : (x >>= f) s = (x >>= g) s := by
  rcases hx : x s with ⟨_ | a, s'⟩
  · rw [bind_error hx, bind_error hx]
  · rw [bind_ok hx, bind_ok hx, h a s' hx]

/-- A bind that fails: in its first part, or after it. -/
theorem bind_eq_error {x : Effect σ ε α} {f : α → Effect σ ε β} {s s' : σ} {e : ε}
    (h : (x >>= f) s = (.error e, s')) :
    x s = (.error e, s') ∨ ∃ a s₁, x s = (.ok a, s₁) ∧ f a s₁ = (.error e, s') := by
  rcases hx : x s with ⟨e' | a, s₁⟩
  · rw [bind_error hx] at h
    exact .inl (by rw [← (Prod.mk.inj h).2, Except.error.inj (Prod.mk.inj h).1])
  · rw [bind_ok hx] at h
    exact .inr ⟨a, s₁, rfl, h⟩

/-- A bind that succeeds does so in both parts. -/
theorem bind_eq_ok {x : Effect σ ε α} {f : α → Effect σ ε β} {s s' : σ} {b : β}
    (h : (x >>= f) s = (.ok b, s')) : ∃ a s₁, x s = (.ok a, s₁) ∧ f a s₁ = (.ok b, s') := by
  rcases hx : x s with ⟨e | a, s₁⟩
  · rw [bind_error hx] at h
    cases (Prod.mk.inj h).1
  · rw [bind_ok hx] at h
    exact ⟨a, s₁, rfl, h⟩

theorem lift_eq_ok {x : Except ε α} {s s' : σ} {a : α} (h : lift x s = (.ok a, s')) :
    x = .ok a ∧ s = s' := Prod.mk.inj h

theorem lift_bind_ok {x : Except ε α} {a : α} (h : x = .ok a) (f : α → Effect σ ε β) (s : σ) :
    (lift x >>= f) s = f a s := bind_ok (by rw [h]; rfl) f

theorem lift_bind_error {x : Except ε α} {e : ε} (h : x = .error e) (f : α → Effect σ ε β) (s : σ) :
    (lift x >>= f) s = (.error e, s) := bind_error (by rw [h]; rfl) f

/-- Performs the records one after the other, up to the first that fails. -/
def forEach (act : α → Effect σ ε Unit) : List α → Effect σ ε Unit
  | [] => pure ()
  | a :: as => do
    act a
    forEach act as

/-- A computation that begins with the first record fails as the loop does, if it does so after it. -/
theorem forEach_cons_error {act : α → Effect σ ε Unit} {a : α} {as : List α}
    {f : Unit → Effect σ ε β} {s s' : σ} {e : ε} (h : (act a >>= f) s = (.error e, s'))
    (hrest : ∀ u s₁, f u s₁ = (.error e, s') → forEach act as s₁ = (.error e, s')) :
    forEach act (a :: as) s = (.error e, s') := by
  rcases bind_eq_error h with hact | ⟨u, s₁, hact, h⟩
  · exact bind_error hact _
  · rw [forEach, bind_ok hact]
    exact hrest u s₁ h

theorem forEach_cons_ok {act : α → Effect σ ε Unit} {a : α} {as : List α} {s s₁ s' : σ}
    (hact : act a s = (.ok (), s₁)) (hrest : forEach act as s₁ = (.ok (), s')) :
    forEach act (a :: as) s = (.ok (), s') := by
  rw [forEach, bind_ok hact]
  exact hrest

/-- A loop that fails has performed the records before the one that failed. -/
theorem forEach_eq_error {act : α → Effect σ ε Unit} {as : List α} {s s' : σ} {e : ε}
    (h : forEach act as s = (.error e, s')) :
    ∃ front bad back s₁, as = front ++ bad :: back ∧ forEach act front s = (.ok (), s₁) ∧
      act bad s₁ = (.error e, s') := by
  induction as generalizing s with
  | nil => cases (Prod.mk.inj h).1
  | cons a as ih =>
    rcases bind_eq_error h with hact | ⟨u, s₁, hact, hrest⟩
    · exact ⟨[], a, as, s, rfl, rfl, hact⟩
    · obtain ⟨front, bad, back, s₂, rfl, hfront, hbad⟩ := ih hrest
      refine ⟨a :: front, bad, back, s₂, rfl, ?_, hbad⟩
      rw [forEach, bind_ok hact]
      exact hfront

/-- A loop whose records all act as a plain update is the fold of these. -/
theorem forEach_modify {act : α → Effect σ ε Unit} {f : σ → α → σ} {as : List α} {s s' : σ}
    (hact : ∀ a ∈ as, ∀ s s', act a s = (.ok (), s') → s' = f s a)
    (h : forEach act as s = (.ok (), s')) : s' = as.foldl f s := by
  induction as generalizing s with
  | nil => exact (Prod.mk.inj h).2.symm
  | cons a as ih =>
    rcases hstep : act a s with ⟨e | u, s₁⟩
    · rw [forEach, bind_error hstep] at h
      cases (Prod.mk.inj h).1
    · rw [forEach, bind_ok hstep] at h
      have hs₁ := hact a List.mem_cons_self s s₁ hstep
      rw [List.foldl_cons, ← hs₁]
      exact ih (fun b hb => hact b (List.mem_cons_of_mem _ hb)) h

end Effect
