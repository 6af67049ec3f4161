/-! Rules for computations that succeed or stop with an error. -/

namespace Fallible

universe u v

variable {ε : Type u} {α β : Type v}

theorem bind_eq_ok {x : Except ε α} {f : α → Except ε β} {r : β} :
    (x >>= f) = .ok r ↔ ∃ a, x = .ok a ∧ f a = .ok r := by
  cases x with
  | error e => exact ⟨nofun, nofun⟩
  | ok a =>
    refine ⟨fun h => ⟨a, rfl, h⟩, ?_⟩
    rintro ⟨b, hb, h⟩
    cases hb
    exact h

theorem map_eq_ok {x : Except ε α} {f : α → β} {r : β} :
    x.map f = .ok r ↔ ∃ a, x = .ok a ∧ f a = r := by
  cases x with
  | error e => exact ⟨nofun, nofun⟩
  | ok a =>
    refine ⟨fun h => ⟨a, rfl, Except.ok.inj h⟩, ?_⟩
    rintro ⟨b, hb, h⟩
    cases hb
    exact congrArg _ h

/-- Only what the first part can return counts for what follows it. -/
theorem bind_congr_ok {x : Except ε α} {f g : α → Except ε β} (h : ∀ a, x = .ok a → f a = g a) :
    (x >>= f) = (x >>= g) := by
  cases x with
  | error e => rfl
  | ok a => exact h a rfl

theorem ok_of_toOption {x : Except ε α} {a : α} (h : x.toOption = some a) : x = .ok a := by
  cases x with
  | error e => cases h
  | ok b => rw [Option.some.inj h]

theorem pure_eq_ok {a b : α} : (pure a : Except ε α) = .ok b ↔ a = b :=
  ⟨Except.ok.inj, congrArg _⟩

def Succeeds (x : Except ε α) : Prop := ∃ a, x = .ok a

theorem succeeds_pure (a : α) : Succeeds (pure a : Except ε α) := ⟨a, rfl⟩

theorem succeeds_bind {x : Except ε α} {f : α → Except ε β} :
    Succeeds (x >>= f) ↔ ∃ a, x = .ok a ∧ Succeeds (f a) := by
  unfold Succeeds
  constructor
  · rintro ⟨r, h⟩
    obtain ⟨a, ha, hr⟩ := bind_eq_ok.mp h
    exact ⟨a, ha, r, hr⟩
  · rintro ⟨a, ha, r, hr⟩
    exact ⟨r, bind_eq_ok.mpr ⟨a, ha, hr⟩⟩

/-- Where the continuation always succeeds, only the first part can fail. -/
theorem succeeds_bind_total {x : Except ε α} {f : α → Except ε β} (h : ∀ a, Succeeds (f a)) :
    Succeeds (x >>= f) ↔ Succeeds x := by
  rw [succeeds_bind]
  exact ⟨fun ⟨a, ha, _⟩ => ⟨a, ha⟩, fun ⟨a, ha⟩ => ⟨a, ha, h a⟩⟩

/-- Where the success of the continuation does not hang on the result, both parts must succeed. -/
theorem succeeds_bind_and {x : Except ε α} {f : α → Except ε β} {Q : Prop}
    (h : ∀ a, Succeeds (f a) ↔ Q) : Succeeds (x >>= f) ↔ Succeeds x ∧ Q := by
  rw [succeeds_bind]
  constructor
  · rintro ⟨a, ha, hf⟩
    exact ⟨⟨a, ha⟩, (h a).mp hf⟩
  · rintro ⟨⟨a, ha⟩, hq⟩
    exact ⟨a, ha, (h a).mpr hq⟩

/-- The computation stops with an error of a kind. -/
def Fails (P : ε → Prop) (x : Except ε α) : Prop := ∃ e, x = .error e ∧ P e

variable {P : ε → Prop}

theorem not_fails_ok (a : α) : ¬ Fails P (.ok a : Except ε α) := by
  rintro ⟨e, he, -⟩
  cases he

theorem fails_error {e : ε} : Fails P (.error e : Except ε α) ↔ P e := by
  constructor
  · rintro ⟨e', he, h⟩
    obtain rfl := Except.error.inj he
    exact h
  · exact fun h => ⟨e, rfl, h⟩

theorem fails_bind {x : Except ε α} {f : α → Except ε β} :
    Fails P (x >>= f) ↔ Fails P x ∨ ∃ a, x = .ok a ∧ Fails P (f a) := by
  cases x with
  | error e =>
    refine ⟨fun h => .inl (fails_error.mpr (fails_error.mp h)), ?_⟩
    rintro (h | ⟨a, ha, -⟩)
    · exact fails_error.mpr (fails_error.mp h)
    · cases ha
  | ok a =>
    refine ⟨fun h => .inr ⟨a, rfl, h⟩, ?_⟩
    rintro (h | ⟨b, hb, h⟩)
    · exact absurd h (not_fails_ok a)
    · obtain rfl := Except.ok.inj hb
      exact h

/-- Where the continuation does not look at the result, it runs after a success. -/
theorem fails_bind_const {x : Except ε α} {y : Except ε β} :
    Fails P (x >>= fun _ => y) ↔ Fails P x ∨ (Succeeds x ∧ Fails P y) := by
  rw [fails_bind]
  refine or_congr_right ⟨?_, ?_⟩
  · rintro ⟨a, ha, h⟩
    exact ⟨⟨a, ha⟩, h⟩
  · rintro ⟨⟨a, ha⟩, h⟩
    exact ⟨a, ha, h⟩

/-- Runs a check on each element, up to the first one that fails. -/
def inOrder {α : Type u} {ε : Type u} (check : α → Except ε PUnit.{u + 1}) : List α → Except ε PUnit
  | [] => .ok ⟨⟩
  | a :: as => check a >>= fun _ => inOrder check as

/-- The first failing check decides. -/
theorem fails_inOrder {α : Type u} {ε : Type u} {P : ε → Prop} {check : α → Except ε PUnit.{u + 1}}
    {as : List α} : Fails P (inOrder check as) ↔ ∃ before a after, as = before ++ a :: after ∧
      (∀ b ∈ before, Succeeds (check b)) ∧ Fails P (check a) := by
  induction as with
  | nil =>
    refine iff_of_false (not_fails_ok _) ?_
    rintro ⟨before, a, after, h, -⟩
    simp at h
  | cons first as ih =>
    rw [inOrder, fails_bind_const, ih]
    constructor
    · rintro (h | ⟨hfirst, before, a, after, rfl, hbefore, ha⟩)
      · exact ⟨[], first, as, rfl, by simp, h⟩
      · exact ⟨first :: before, a, after, rfl, List.forall_mem_cons.mpr ⟨hfirst, hbefore⟩, ha⟩
    · rintro ⟨before, a, after, h, hbefore, ha⟩
      cases before with
      | nil =>
        obtain ⟨rfl, rfl⟩ := List.cons.inj h
        exact .inl ha
      | cons b before =>
        obtain ⟨rfl, rfl⟩ := List.cons.inj h
        rw [List.forall_mem_cons] at hbefore
        exact .inr ⟨hbefore.1, before, a, after, rfl, hbefore.2, ha⟩

/-- A sequence of computations fails as the list of its checks does. -/
theorem fails_bind_inOrder {ι α β ε : Type u} {P : ε → Prop} {check : ι → Except ε PUnit.{u + 1}}
    {first : ι} {rest : List ι} {x : Except ε α} {f : α → Except ε β}
    (hfirst : check first = x >>= fun _ => .ok ⟨⟩)
    (hrest : ∀ a, Fails P (f a) ↔ Fails P (inOrder check rest)) :
    Fails P (x >>= f) ↔ Fails P (inOrder check (first :: rest)) := by
  have hsucceeds : Succeeds (check first) ↔ Succeeds x := by
    rw [hfirst]
    exact succeeds_bind_total fun _ => succeeds_pure _
  have hend : ¬ Fails P (.ok ⟨⟩ : Except ε PUnit.{u + 1}) := not_fails_ok _
  rw [inOrder, fails_bind_const, hsucceeds, hfirst, fails_bind_const, fails_bind]
  simp only [hend, and_false, or_false]
  refine or_congr_right ⟨?_, ?_⟩
  · rintro ⟨a, ha, h⟩
    exact ⟨⟨a, ha⟩, (hrest a).mp h⟩
  · rintro ⟨⟨a, ha⟩, h⟩
    exact ⟨a, ha, (hrest a).mpr h⟩

/-- Maps a list, up to the first element that fails. -/
def mapAll (f : α → Except ε β) : List α → Except ε (List β)
  | [] => .ok []
  | a :: as => do
    let b ← f a
    let bs ← mapAll f as
    pure (b :: bs)

theorem mapAll_cons_eq_ok {f : α → Except ε β} {a : α} {as : List α} {r : List β} :
    mapAll f (a :: as) = .ok r ↔ ∃ b bs, f a = .ok b ∧ mapAll f as = .ok bs ∧ r = b :: bs := by
  constructor
  · intro h
    obtain ⟨b, hb, h⟩ := bind_eq_ok.mp h
    obtain ⟨bs, hbs, h⟩ := bind_eq_ok.mp h
    exact ⟨b, bs, hb, hbs, (pure_eq_ok.mp h).symm⟩
  · rintro ⟨b, bs, hb, hbs, rfl⟩
    exact bind_eq_ok.mpr ⟨b, hb, bind_eq_ok.mpr ⟨bs, hbs, rfl⟩⟩

/-- A property of the results is one of the arguments where each result has it as its argument does. -/
theorem mapAll_forall_iff {f : α → Except ε β} {P : α → Prop} {Q : β → Prop}
    (hf : ∀ a b, f a = .ok b → (Q b ↔ P a)) {as : List α} {bs : List β}
    (h : mapAll f as = .ok bs) : (∀ b ∈ bs, Q b) ↔ ∀ a ∈ as, P a := by
  induction as generalizing bs with
  | nil =>
    obtain rfl := Except.ok.inj h
    exact ⟨fun _ _ hmem => (nomatch hmem), fun _ _ hmem => (nomatch hmem)⟩
  | cons a as ih =>
    obtain ⟨b, bs, hb, hbs, rfl⟩ := mapAll_cons_eq_ok.mp h
    rw [List.forall_mem_cons, List.forall_mem_cons, hf a b hb, ih hbs]

theorem mapAll_never {f : α → Except ε β} (hf : ∀ a b, f a ≠ .ok b) {as : List α} {bs : List β}
    (h : mapAll f as = .ok bs) : bs = [] := by
  cases as with
  | nil => exact (Except.ok.inj h).symm
  | cons a as =>
    obtain ⟨b, -, hb, -⟩ := mapAll_cons_eq_ok.mp h
    exact absurd hb (hf a b)

theorem length_mapAll {f : α → Except ε β} {as : List α} {bs : List β}
    (h : mapAll f as = .ok bs) : bs.length = as.length := by
  induction as generalizing bs with
  | nil =>
    obtain rfl := Except.ok.inj h
    rfl
  | cons a as ih =>
    obtain ⟨b, bs, -, hbs, rfl⟩ := mapAll_cons_eq_ok.mp h
    rw [List.length_cons, List.length_cons, ih hbs]

theorem mapAll_exists {f : α → Except ε β} {as : List α} {bs : List β} (h : mapAll f as = .ok bs)
    {a : α} (ha : a ∈ as) : ∃ b ∈ bs, f a = .ok b := by
  induction as generalizing bs with
  | nil => cases ha
  | cons x as ih =>
    obtain ⟨b, bs, hb, hbs, rfl⟩ := mapAll_cons_eq_ok.mp h
    rcases List.mem_cons.mp ha with rfl | ha
    · exact ⟨b, List.mem_cons_self, hb⟩
    · obtain ⟨found, hmem, hfound⟩ := ih hbs ha
      exact ⟨found, List.mem_cons_of_mem _ hmem, hfound⟩

theorem mapAll_succeeds {f : α → Except ε β} {as : List α} (h : ∀ a ∈ as, Succeeds (f a)) :
    Succeeds (mapAll f as) := by
  induction as with
  | nil => exact ⟨[], rfl⟩
  | cons a as ih =>
    obtain ⟨b, hb⟩ := h a List.mem_cons_self
    obtain ⟨bs, hbs⟩ := ih fun x hx => h x (List.mem_cons_of_mem _ hx)
    exact ⟨b :: bs, mapAll_cons_eq_ok.mpr ⟨b, bs, hb, hbs, rfl⟩⟩

theorem mapAll_succeeds_iff {f : α → Except ε β} {as : List α} :
    Succeeds (mapAll f as) ↔ ∀ a ∈ as, Succeeds (f a) := by
  refine ⟨fun ⟨bs, hbs⟩ a ha => ?_, mapAll_succeeds⟩
  obtain ⟨b, -, hb⟩ := mapAll_exists hbs ha
  exact ⟨b, hb⟩

theorem mapAll_forall {f : α → Except ε β} {Q : β → Prop} (hf : ∀ a b, f a = .ok b → Q b)
    {as : List α} {bs : List β} (h : mapAll f as = .ok bs) : ∀ b ∈ bs, Q b :=
  (mapAll_forall_iff (P := fun _ => True) (fun a b hb => iff_of_true (hf a b hb) trivial) h).mpr
    fun _ _ => trivial

/-- The computation succeeds, and its value is as `Q` says. -/
def Yields (Q : α → Prop) (x : Except ε α) : Prop := ∃ a, x = .ok a ∧ Q a

theorem Yields.pure {Q : α → Prop} {a : α} (h : Q a) : Yields Q (Pure.pure a : Except ε α) :=
  ⟨a, rfl, h⟩

theorem Yields.bind {x : Except ε α} {f : α → Except ε β} {P : α → Prop} {Q : β → Prop}
    (hx : Yields P x) (hf : ∀ a, P a → Yields Q (f a)) : Yields Q (x >>= f) := by
  obtain ⟨a, ha, hp⟩ := hx
  obtain ⟨b, hb, hq⟩ := hf a hp
  exact ⟨b, bind_eq_ok.mpr ⟨a, ha, hb⟩, hq⟩

theorem Yields.mapAll {f : α → Except ε β} {as : List α} {Q : β → Prop}
    (h : ∀ a ∈ as, Yields Q (f a)) :
    Yields (fun bs => (∀ b ∈ bs, Q b) ∧ bs.length = as.length) (Fallible.mapAll f as) := by
  have hsucceeds : Succeeds (Fallible.mapAll f as) := mapAll_succeeds fun a ha => by
    obtain ⟨b, hb, -⟩ := h a ha
    exact ⟨b, hb⟩
  obtain ⟨bs, hbs⟩ := hsucceeds
  refine ⟨bs, hbs, ?_, length_mapAll hbs⟩
  induction as generalizing bs with
  | nil =>
    obtain rfl := Except.ok.inj hbs
    exact fun _ hmem => nomatch hmem
  | cons a as ih =>
    obtain ⟨b, rest, hb, hrest, rfl⟩ := mapAll_cons_eq_ok.mp hbs
    obtain ⟨b', hb', hq⟩ := h a List.mem_cons_self
    obtain rfl := Except.ok.inj (hb.symm.trans hb')
    refine List.forall_mem_cons.mpr ⟨hq, ?_⟩
    exact ih (fun x hx => h x (List.mem_cons_of_mem _ hx)) rest hrest

end Fallible
