import DemoService.Effects

/-! Pre- and postconditions of computations on a store: one postcondition for those that return,
one for the store that a failed one leaves. -/

namespace Effect

variable {σ ε α β : Type}

def tryCatch (x : Effect σ ε α) (handler : ε → Effect σ ε α) : Effect σ ε α := fun s =>
  match x s with
  | (.ok a, s') => (.ok a, s')
  | (.error e, s') => handler e s'

def read : Effect σ ε σ := fun s => (.ok s, s)

/-- How one computation ended. -/
structure Ends (r : Except ε α × σ) (Q : α → σ → Prop) (E : σ → Prop) : Prop where
  returned : ∀ a s, r = (.ok a, s) → Q a s
  failed : ∀ e s, r = (.error e, s) → E s

theorem Ends.of_ok {Q : α → σ → Prop} {E : σ → Prop} {a : α} {s : σ} (h : Q a s) :
    Ends ((.ok a, s) : Except ε α × σ) Q E where
  returned b t heq := by
    obtain ⟨hb, rfl⟩ := Prod.mk.inj heq
    exact Except.ok.inj hb ▸ h
  failed e t heq := by
    cases (Prod.mk.inj heq).1

theorem Ends.of_error {Q : α → σ → Prop} {E : σ → Prop} {e : ε} {s : σ} (h : E s) :
    Ends ((.error e, s) : Except ε α × σ) Q E where
  returned a t heq := by
    cases (Prod.mk.inj heq).1
  failed e' t heq := (Prod.mk.inj heq).2 ▸ h

def Triple (P : σ → Prop) (x : Effect σ ε α) (Q : α → σ → Prop) (E : σ → Prop) : Prop :=
  ∀ s, P s → Ends (x s) Q E

namespace Triple

variable {P P' : σ → Prop} {Q Q' : α → σ → Prop} {R : β → σ → Prop} {E : σ → Prop}
  {x : Effect σ ε α}

theorem pure {a : α} (h : ∀ s, P s → Q a s) : Triple P (Pure.pure a : Effect σ ε α) Q E :=
  fun s hs => .of_ok (h s hs)

theorem lift {r : Except ε α} (hok : ∀ a s, r = .ok a → P s → Q a s) (herror : ∀ s, P s → E s) :
    Triple P (Effect.lift r) Q E := by
  intro s hs
  cases r with
  | ok a => exact .of_ok (hok a s rfl hs)
  | error e => exact .of_error (herror s hs)

theorem fail {e : ε} (h : ∀ s, P s → E s) : Triple P (Effect.fail e : Effect σ ε α) Q E :=
  fun s hs => .of_error (h s hs)

theorem modify {f : σ → σ} {Q : Unit → σ → Prop} (h : ∀ s, P s → Q () (f s)) :
    Triple P (Effect.modify f : Effect σ ε Unit) Q E :=
  fun s hs => .of_ok (h s hs)

theorem read {Q : σ → σ → Prop} (h : ∀ s, P s → Q s s) :
    Triple P (Effect.read : Effect σ ε σ) Q E :=
  fun s hs => .of_ok (h s hs)

theorem bind {f : α → Effect σ ε β} (hx : Triple P x Q E) (hf : ∀ a, Triple (Q a) (f a) R E) :
    Triple P (x >>= f) R E := by
  intro s hs
  refine ⟨fun b s' heq => ?_, fun e s' heq => ?_⟩
  · obtain ⟨a, s₁, hx₁, hf₁⟩ := bind_eq_ok heq
    exact (hf a s₁ ((hx s hs).1 a s₁ hx₁)).1 b s' hf₁
  · rcases bind_eq_error heq with hx₁ | ⟨a, s₁, hx₁, hf₁⟩
    · exact (hx s hs).2 e s' hx₁
    · exact (hf a s₁ ((hx s hs).1 a s₁ hx₁)).2 e s' hf₁

theorem weaken (h : Triple P x Q E) (hpre : ∀ s, P' s → P s) (hpost : ∀ a s, Q a s → Q' a s) :
    Triple P' x Q' E := fun s hs =>
  ⟨fun a s' heq => hpost a s' ((h s (hpre s hs)).1 a s' heq), (h s (hpre s hs)).2⟩

/-- From one known store, the postcondition may name what the computation does there. -/
theorem exact {s : σ} (h : Triple P x Q E) (hs : P s) :
    Triple (· = s) x (fun a s' => x s = (.ok a, s') ∧ Q a s') E := by
  rintro s' rfl
  exact ⟨fun a t hx => ⟨hx, (h s' hs).1 a t hx⟩, (h s' hs).2⟩

/-- A precondition's part that does not speak of the store. -/
theorem assuming {φ : Prop} (h : φ → Triple P x Q E) : Triple (fun s => φ ∧ P s) x Q E :=
  fun s hs => h hs.1 s hs.2

theorem tryCatch {handler : ε → Effect σ ε α} (hx : Triple P x Q P')
    (hh : ∀ e, Triple P' (handler e) Q E) : Triple P (Effect.tryCatch x handler) Q E := by
  intro s hs
  rw [Effect.tryCatch]
  rcases hxs : x s with ⟨e | a, s₁⟩
  · exact hh e s₁ ((hx s hs).failed e s₁ hxs)
  · exact .of_ok ((hx s hs).returned a s₁ hxs)

/-- A loop whose invariant speaks of the records performed so far. -/
theorem forEach {act : β → Effect σ ε Unit} {I : List β → σ → Prop} {bs : List β}
    (hact : ∀ b ∈ bs, ∀ done, Triple (I done) (act b) (fun _ => I (done ++ [b])) E)
    (done : List β) : Triple (I done) (Effect.forEach act bs) (fun _ => I (done ++ bs)) E := by
  induction bs generalizing done with
  | nil => exact pure fun s hs => by rwa [List.append_nil]
  | cons b bs ih =>
    refine bind (hact b List.mem_cons_self done) fun _ => ?_
    have hrest := ih (fun b' hb' => hact b' (List.mem_cons_of_mem _ hb')) (done ++ [b])
    rwa [List.append_assoc] at hrest

end Triple

end Effect
