/-! Python dictionaries as lists of items in insertion order. -/

abbrev Dict (κ α : Type) := List (κ × α)

namespace Dict

variable {κ α : Type} [DecidableEq κ]

def get? : Dict κ α → κ → Option α
  | [], _ => none
  | item :: items, k => if item.1 = k then some item.2 else get? items k

/-- `d[k] = v`: a new key goes to the end, a known one keeps its place. -/
def set : Dict κ α → κ → α → Dict κ α
  | [], k, v => [(k, v)]
  | item :: items, k, v => if item.1 = k then (k, v) :: items else item :: set items k v

/-- `d.setdefault(k, v)`. -/
def setdefault (d : Dict κ α) (k : κ) (v : α) : Dict κ α :=
  if (get? d k).isSome then d else set d k v

/-- A dictionary display or comprehension: of equal keys the last value counts. -/
def ofList (items : List (κ × α)) : Dict κ α := items.foldl (fun d item => set d item.1 item.2) []

/-- `{**d, **e}`. -/
def merge (d e : Dict κ α) : Dict κ α := e.foldl (fun d item => set d item.1 item.2) d

theorem get?_set_self (d : Dict κ α) (k : κ) (v : α) : get? (set d k v) k = some v := by
  induction d with
  | nil => simp [set, get?]
  | cons item items ih =>
    by_cases hk : item.1 = k
    · simp [set, get?, hk]
    · simpa [set, get?, hk] using ih

theorem get?_set_ne {k k' : κ} (hne : k ≠ k') (d : Dict κ α) (v : α) :
    get? (set d k v) k' = get? d k' := by
  induction d with
  | nil => simp [set, get?, hne]
  | cons item items ih =>
    by_cases hk : item.1 = k
    · have hk' : item.1 ≠ k' := fun h => hne (hk.symm.trans h)
      simp [set, get?, hk, hne]
    · rw [set, if_neg hk, get?, get?, ih]

/-- `d.pop(k', None)` keeps every other key. -/
theorem get?_filter_ne {k k' : κ} (hne : k ≠ k') (d : Dict κ α) :
    get? (d.filter fun item => item.1 ≠ k') k = get? d k := by
  induction d with
  | nil => rfl
  | cons item items ih =>
    by_cases hk : item.1 = k'
    · have hother : item.1 ≠ k := fun h => hne (h.symm.trans hk)
      rw [List.filter_cons_of_neg (by simp [hk]), ih, get?, if_neg hother]
    · rw [List.filter_cons_of_pos (by simp [hk]), get?, get?, ih]

theorem set_fresh {d : Dict κ α} {k : κ} (h : ∀ item ∈ d, item.1 ≠ k) (v : α) :
    set d k v = d ++ [(k, v)] := by
  induction d with
  | nil => rfl
  | cons item items ih =>
    rw [List.forall_mem_cons] at h
    rw [set, if_neg h.1, ih h.2, List.cons_append]

theorem setdefault_of_isSome {d : Dict κ α} {k : κ} (h : (get? d k).isSome = true) (v : α) :
    setdefault d k v = d := if_pos h

theorem get?_setdefault_ne {k k' : κ} (hne : k ≠ k') (d : Dict κ α) (v : α) :
    get? (setdefault d k v) k' = get? d k' := by
  by_cases h : (get? d k).isSome = true
  · rw [setdefault, if_pos h]
  · rw [setdefault, if_neg h, get?_set_ne hne]

theorem get?_map {β : Type} (d : Dict κ α) (f : α → β) (k : κ) :
    get? (d.map fun item => (item.1, f item.2)) k = (get? d k).map f := by
  induction d with
  | nil => rfl
  | cons item items ih =>
    by_cases hk : item.1 = k
    · simp [get?, hk]
    · simpa [get?, hk] using ih

theorem mem_set {d : Dict κ α} {k : κ} {v : α} {item : κ × α} (h : item ∈ set d k v) :
    item = (k, v) ∨ item ∈ d := by
  induction d with
  | nil => exact .inl (by simpa [set] using h)
  | cons first items ih =>
    by_cases hk : first.1 = k
    · rw [set, if_pos hk] at h
      rcases List.mem_cons.mp h with rfl | h
      · exact .inl rfl
      · exact .inr (List.mem_cons_of_mem _ h)
    · rw [set, if_neg hk] at h
      rcases List.mem_cons.mp h with rfl | h
      · exact .inr List.mem_cons_self
      · exact (ih h).imp_right (List.mem_cons_of_mem _)

theorem mem_of_get?_eq_some {d : Dict κ α} {k : κ} {v : α} (h : get? d k = some v) :
    (k, v) ∈ d := by
  induction d with
  | nil => cases h
  | cons item items ih =>
    rw [get?] at h
    by_cases hk : item.1 = k
    · rw [if_pos hk] at h
      rw [← hk, ← Option.some.inj h]
      exact List.mem_cons_self
    · rw [if_neg hk] at h
      exact List.mem_cons_of_mem _ (ih h)

theorem isSome_get?_set (d : Dict κ α) (k k' : κ) (v : α) :
    (get? (set d k v) k').isSome = true ↔ k = k' ∨ (get? d k').isSome = true := by
  by_cases hk : k = k'
  · subst hk
    simp [get?_set_self]
  · simp [get?_set_ne hk, hk]

theorem isSome_get?_merge (d e : Dict κ α) (k : κ) :
    (get? (merge d e) k).isSome = true ↔ (get? d k).isSome = true ∨ ∃ item ∈ e, item.1 = k := by
  induction e generalizing d with
  | nil => simp [merge]
  | cons item e ih =>
    have hstep := ih (set d item.1 item.2)
    rw [isSome_get?_set] at hstep
    simp only [List.mem_cons, or_and_right, exists_or, exists_eq_left]
    rw [← or_assoc, or_comm (a := (get? d k).isSome = true)]
    exact hstep

theorem isSome_get?_ofList (items : List (κ × α)) (k : κ) :
    (get? (ofList items) k).isSome = true ↔ ∃ item ∈ items, item.1 = k := by
  exact (isSome_get?_merge [] items k).trans (by simp [get?])

theorem mem_ofList {items : List (κ × α)} {item : κ × α} (h : item ∈ ofList items) :
    item ∈ items := by
  have key : ∀ (items : List (κ × α)) (d : Dict κ α),
      item ∈ items.foldl (fun d item => set d item.1 item.2) d → item ∈ d ∨ item ∈ items := by
    intro items
    induction items with
    | nil => exact fun d h => .inl h
    | cons first items ih =>
      intro d h
      rcases ih _ h with h | h
      · rcases mem_set h with rfl | h
        · exact .inr List.mem_cons_self
        · exact .inl h
      · exact .inr (List.mem_cons_of_mem _ h)
  exact (key items [] h).resolve_left List.not_mem_nil

theorem map_fst_set (d : Dict κ α) (k : κ) (v : α) :
    (set d k v).map Prod.fst =
      if k ∈ d.map Prod.fst then d.map Prod.fst else d.map Prod.fst ++ [k] := by
  induction d with
  | nil => rfl
  | cons item items ih =>
    by_cases hk : item.1 = k
    · simp [set, hk]
    · rw [set, if_neg hk, List.map_cons, ih, List.map_cons]
      by_cases hmem : k ∈ items.map Prod.fst
      · rw [if_pos hmem, if_pos (List.mem_cons_of_mem _ hmem)]
      · rw [if_neg hmem, if_neg (List.not_mem_cons_of_ne_of_not_mem (Ne.symm hk) hmem)]
        rfl

theorem nodup_keys_set {d : Dict κ α} (h : (d.map Prod.fst).Nodup) (k : κ) (v : α) :
    ((set d k v).map Prod.fst).Nodup := by
  rw [map_fst_set]
  split
  · exact h
  · rename_i hk
    simpa [List.nodup_append, h] using fun a b hab => fun heq : a = k => hk (by
      simpa using ⟨b, heq ▸ hab⟩)

theorem get?_of_mem {d : Dict κ α} (h : (d.map Prod.fst).Nodup) {k : κ} {v : α}
    (hmem : (k, v) ∈ d) : get? d k = some v := by
  induction d with
  | nil => cases hmem
  | cons item items ih =>
    rw [List.map_cons, List.nodup_cons] at h
    rcases List.mem_cons.mp hmem with rfl | hmem
    · simp [get?]
    · have hne : item.1 ≠ k := fun heq => h.1 (heq ▸ List.mem_map_of_mem hmem)
      rw [get?, if_neg hne, ih h.2 hmem]

theorem nodup_keys_ofList (items : List (κ × α)) : ((ofList items).map Prod.fst).Nodup := by
  have key : ∀ (items : List (κ × α)) (d : Dict κ α), (d.map Prod.fst).Nodup →
      ((items.foldl (fun d item => set d item.1 item.2) d).map Prod.fst).Nodup := by
    intro items
    induction items with
    | nil => exact fun d h => h
    | cons item items ih => exact fun d h => ih _ (nodup_keys_set h item.1 item.2)
  exact key items [] List.nodup_nil

/-- Items of different keys are what a comprehension over them holds. -/
theorem get?_ofList_iff {items : List (κ × α)} (h : (items.map Prod.fst).Nodup) {k : κ} {v : α} :
    get? (ofList items) k = some v ↔ (k, v) ∈ items := by
  constructor
  · intro hget
    exact mem_ofList (mem_of_get?_eq_some hget)
  · intro hmem
    have hsome : (get? (ofList items) k).isSome = true :=
      (isSome_get?_ofList items k).mpr ⟨(k, v), hmem, rfl⟩
    obtain ⟨v', hv'⟩ := Option.isSome_iff_exists.mp hsome
    have hmem' := mem_ofList (mem_of_get?_eq_some hv')
    rw [hv', ← get?_of_mem h hmem', get?_of_mem h hmem]

theorem get?_append (d e : Dict κ α) (k : κ) : get? (d ++ e) k = (get? d k).or (get? e k) := by
  induction d with
  | nil => rfl
  | cons item items ih =>
    by_cases hk : item.1 = k
    · simp [get?, hk]
    · rw [List.cons_append, get?, get?, if_neg hk, if_neg hk, ih]

theorem get?_of_prefix {d e : Dict κ α} (h : d <+: e) {k : κ} {v : α} (hget : get? d k = some v) :
    get? e k = some v := by
  obtain ⟨more, rfl⟩ := h
  rw [get?_append, hget]
  rfl

theorem get?_eq_none {d : Dict κ α} {k : κ} (h : get? d k = none) : ∀ item ∈ d, item.1 ≠ k := by
  induction d with
  | nil => simp
  | cons item items ih =>
    by_cases hk : item.1 = k
    · simp [get?, hk] at h
    · rw [get?, if_neg hk] at h
      exact List.forall_mem_cons.mpr ⟨hk, ih h⟩

/-- An index of items by their key. -/
def index {β : Type} (key : β → κ) (items : List β) : Dict κ β :=
  ofList (items.map fun item => (key item, item))

theorem get?_index {β : Type} {key : β → κ} {items : List β} {k : κ} {item : β}
    (h : get? (index key items) k = some item) : item ∈ items ∧ key item = k := by
  obtain ⟨found, hfound, heq⟩ := List.mem_map.mp (mem_ofList (mem_of_get?_eq_some h))
  obtain ⟨rfl, rfl⟩ := Prod.mk.inj heq
  exact ⟨hfound, rfl⟩

/-- What an index holds is found under its key. -/
theorem get?_index_of_mem {β : Type} {key : β → κ} {items : List β} {item : β}
    (h : item ∈ (index key items).map Prod.snd) : get? (index key items) (key item) = some item := by
  obtain ⟨⟨k, found⟩, hmem, rfl⟩ := List.mem_map.mp h
  obtain ⟨source, _, heq⟩ := List.mem_map.mp (mem_ofList hmem)
  obtain ⟨rfl, rfl⟩ := Prod.mk.inj heq
  exact get?_of_mem (nodup_keys_ofList _) hmem

theorem isSome_get?_index {β : Type} {key : β → κ} {items : List β} {k : κ} :
    (get? (index key items) k).isSome = true ↔ k ∈ items.map key := by
  rw [index, isSome_get?_ofList]
  simp

end Dict
