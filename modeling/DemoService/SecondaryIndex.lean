import DemoService.PyDict
import Mathlib.Data.List.Nodup
import Mathlib.Data.List.Perm.Basic

/-! Records kept by their key, beside an index from owners to keys, and the rows of owned records
that the two stand for. -/

namespace SecondaryIndex

open Dict

variable {κ ι α : Type} [DecidableEq ι] {key : α → κ}

/-- `index[owner]` of a `defaultdict(list)`. -/
def entries (index : Dict ι (List κ)) (owner : ι) : List κ := (get? index owner).getD []

/-- `index[owner].extend(keys)`. -/
def extend (index : Dict ι (List κ)) (owner : ι) (keys : List κ) : Dict ι (List κ) :=
  set index owner (entries index owner ++ keys)

def rowsOf (rows : List (ι × α)) (owner : ι) : List α :=
  (rows.filter fun row => row.1 = owner).map Prod.snd

theorem rowsOf_append (rows added : List (ι × α)) (owner : ι) :
    rowsOf (rows ++ added) owner = rowsOf rows owner ++ rowsOf added owner := by
  simp [rowsOf]

theorem rowsOf_singleton (owner o : ι) (a : α) :
    rowsOf [(owner, a)] o = if owner = o then [a] else [] := by
  by_cases h : owner = o <;> simp [rowsOf, h]

theorem mem_rowsOf {rows : List (ι × α)} {owner : ι} {a : α} :
    a ∈ rowsOf rows owner ↔ (owner, a) ∈ rows := by
  simp [rowsOf]

theorem rowsOf_tagged (owner o : ι) (as : List α) :
    rowsOf (as.map fun a => (owner, a)) o = if owner = o then as else [] := by
  induction as with
  | nil => simp [rowsOf]
  | cons a as ih =>
    rw [List.map_cons, ← List.singleton_append, rowsOf_append, rowsOf_singleton, ih]
    by_cases ho : owner = o <;> simp [ho]

/-- The rows of records that are owned by groups, of one owner: the records of its groups. -/
theorem rowsOf_flatMap {γ : Type} (groups : List γ) (ownerOf : γ → ι) (records : γ → List α)
    (owner : ι) :
    rowsOf (groups.flatMap fun g => (records g).map fun a => (ownerOf g, a)) owner =
      (groups.filter fun g => ownerOf g = owner).flatMap records := by
  induction groups with
  | nil => rfl
  | cons g groups ih =>
    rw [List.flatMap_cons, rowsOf_append, ih, rowsOf_tagged, List.filter_cons]
    by_cases h : ownerOf g = owner <;> simp [h]

theorem entries_extend (index : Dict ι (List κ)) (owner o : ι) (keys : List κ) :
    entries (extend index owner keys) o =
      entries index o ++ if owner = o then keys else [] := by
  by_cases h : owner = o
  · subst h
    simp [entries, extend, get?_set_self]
  · simp [entries, extend, get?_set_ne h, h]

/-- The dictionary has the records under their keys, which are distinct. -/
structure Holds (key : α → κ) (d : Dict κ α) (records : List α) : Prop where
  eq_map : d = records.map fun a => (key a, a)
  nodup : (records.map key).Nodup

theorem Holds.values {d : Dict κ α} {records : List α} (h : Holds key d records) :
    d.map Prod.snd = records := by
  rw [h.eq_map, List.map_map]
  exact List.map_id records

/-- The index has the keys of every owner's rows, in their order. -/
def Indexes (key : α → κ) (index : Dict ι (List κ)) (rows : List (ι × α)) : Prop :=
  ∀ owner, entries index owner = (rowsOf rows owner).map key

theorem Indexes.extend {index : Dict ι (List κ)} {rows : List (ι × α)} (h : Indexes key index rows)
    (owner : ι) (a : α) :
    Indexes key (SecondaryIndex.extend index owner [key a]) (rows ++ [(owner, a)]) := by
  intro o
  rw [entries_extend, h o, rowsOf_append, rowsOf_singleton, List.map_append]
  by_cases ho : owner = o <;> simp [ho]

theorem mem_records_of_rowsOf {rows : List (ι × α)} {owner : ι} {a : α}
    (h : a ∈ rowsOf rows owner) : a ∈ rows.map Prod.snd :=
  List.mem_map.mpr ⟨_, mem_rowsOf.mp h, rfl⟩

theorem Indexes.extend_all {index : Dict ι (List κ)} {rows : List (ι × α)}
    (h : Indexes key index rows) (owner : ι) (as : List α) :
    Indexes key (SecondaryIndex.extend index owner (as.map key))
      (rows ++ as.map fun a => (owner, a)) := by
  intro o
  rw [entries_extend, h o, rowsOf_append, rowsOf_tagged, List.map_append]
  by_cases ho : owner = o <;> simp [ho]

theorem Indexes.extend_each {index : Dict ι (List κ)} {rows : List (ι × α)}
    (h : Indexes key index rows) (owner : ι) (as : List α) :
    Indexes key (as.foldl (fun index a => SecondaryIndex.extend index owner [key a]) index)
      (rows ++ as.map fun a => (owner, a)) := by
  induction as generalizing index rows with
  | nil => simpa using h
  | cons a as ih =>
    have hstep := ih (h.extend owner a)
    rwa [List.append_assoc] at hstep

/-- The index has keys of every owner's rows, each once, and perhaps not yet all of them. -/
def Covers (key : α → κ) (index : Dict ι (List κ)) (rows : List (ι × α)) : Prop :=
  ∀ owner, (entries index owner).Nodup ∧
    ∀ k ∈ entries index owner, ∃ a, (owner, a) ∈ rows ∧ key a = k

theorem Covers.append {index : Dict ι (List κ)} {rows : List (ι × α)} (h : Covers key index rows)
    (added : List (ι × α)) : Covers key index (rows ++ added) := by
  intro owner
  refine ⟨(h owner).1, fun k hk => ?_⟩
  obtain ⟨a, ha, hkey⟩ := (h owner).2 k hk
  exact ⟨a, List.mem_append_left _ ha, hkey⟩

theorem Covers.extend {index : Dict ι (List κ)} {rows : List (ι × α)} (h : Covers key index rows)
    {owner : ι} {as : List α} (hnodup : (as.map key).Nodup)
    (has : ∀ a ∈ as, (owner, a) ∈ rows ∧ key a ∉ entries index owner) :
    Covers key (SecondaryIndex.extend index owner (as.map key)) rows := by
  intro o
  rw [entries_extend]
  by_cases ho : owner = o
  · subst ho
    rw [if_pos rfl]
    refine ⟨List.nodup_append.mpr ⟨(h owner).1, hnodup, ?_⟩, fun k hk => ?_⟩
    · intro k hk l hl heq
      obtain ⟨a, ha, rfl⟩ := List.mem_map.mp hl
      exact (has a ha).2 (heq ▸ hk)
    · rcases List.mem_append.mp hk with hk | hk
      · exact (h owner).2 k hk
      · obtain ⟨a, ha, rfl⟩ := List.mem_map.mp hk
        exact ⟨a, (has a ha).1, rfl⟩
  · rw [if_neg ho, List.append_nil]
    exact h o

section Lookup

variable [DecidableEq κ]

/-- `[d[k] for k in keys]`, which raises on an unknown key. -/
def getAll (d : Dict κ α) : List κ → Option (List α)
  | [] => some []
  | k :: keys => (get? d k).bind fun a => (getAll d keys).map (a :: ·)

theorem Holds.set {d : Dict κ α} {records : List α} (h : Holds key d records) {a : α}
    (hfresh : key a ∉ records.map key) : Holds key (d.set (key a) a) (records ++ [a]) := by
  refine ⟨?_, ?_⟩
  · rw [set_fresh ?_ a, h.eq_map, List.map_append, List.map_singleton]
    rw [h.eq_map]
    intro item hitem heq
    obtain ⟨b, hb, rfl⟩ := List.mem_map.mp hitem
    exact hfresh (List.mem_map.mpr ⟨b, hb, heq⟩)
  · rw [List.map_append, List.map_singleton]
    exact List.nodup_append.mpr ⟨h.nodup, List.nodup_singleton _, by simpa using hfresh⟩

theorem Holds.set_each {d : Dict κ α} {records : List α} (h : Holds key d records) {as : List α}
    (hnodup : ((records ++ as).map key).Nodup) :
    Holds key (as.foldl (fun d a => d.set (key a) a) d) (records ++ as) := by
  induction as generalizing d records with
  | nil => simpa using h
  | cons a as ih =>
    have hfresh : key a ∉ records.map key := by
      rw [List.map_append, List.nodup_append] at hnodup
      exact fun hmem => hnodup.2.2 _ hmem _ List.mem_cons_self rfl
    have hstep := ih (h.set hfresh) (by rwa [List.append_assoc])
    rwa [List.append_assoc] at hstep

theorem Holds.get?_eq_find? {d : Dict κ α} {records : List α} (h : Holds key d records) (k : κ) :
    d.get? k = records.find? fun a => key a = k := by
  obtain ⟨rfl, -⟩ := h
  induction records with
  | nil => rfl
  | cons a records ih =>
    rw [List.map_cons, Dict.get?, List.find?_cons, ih]
    by_cases hkey : key a = k <;> simp [hkey]

theorem Holds.get? {d : Dict κ α} {records : List α} (h : Holds key d records) {a : α}
    (ha : a ∈ records) : d.get? (key a) = some a := by
  obtain ⟨rfl, hnodup⟩ := h
  induction records with
  | nil => cases ha
  | cons b records ih =>
    rw [List.map_cons, List.nodup_cons] at hnodup
    rw [List.map_cons, Dict.get?]
    rcases List.mem_cons.mp ha with rfl | ha
    · rw [if_pos rfl]
    · have hne : key b ≠ key a := fun heq => hnodup.1 (heq ▸ List.mem_map_of_mem ha)
      rw [if_neg hne, ih ha hnodup.2]

theorem Holds.getAll {d : Dict κ α} {records : List α} (h : Holds key d records) {as : List α}
    (has : ∀ a ∈ as, a ∈ records) : getAll d (as.map key) = some as := by
  induction as with
  | nil => rfl
  | cons a as ih =>
    rw [List.forall_mem_cons] at has
    rw [List.map_cons, SecondaryIndex.getAll, h.get? has.1, ih has.2]
    rfl

theorem Indexes.getAll {d : Dict κ α} {index : Dict ι (List κ)} {rows : List (ι × α)}
    (h : Indexes key index rows) (hd : Holds key d (rows.map Prod.snd)) (owner : ι) :
    getAll d (entries index owner) = some (rowsOf rows owner) := by
  rw [h owner]
  exact hd.getAll fun a => mem_records_of_rowsOf

/-- The records that the owner's index lacks. -/
def missing (key : α → κ) (index : Dict ι (List κ)) (owner : ι) (records : List α) : List α :=
  records.filter fun a => key a ∉ entries index owner

/-- What is listed through the index and what is not indexed yet are together an owner's rows. -/
theorem Covers.getAll {d : Dict κ α} {index : Dict ι (List κ)} {rows : List (ι × α)}
    (h : Covers key index rows) (hd : Holds key d (rows.map Prod.snd)) (owner : ι) :
    ∃ listed, getAll d (entries index owner) = some listed ∧
      (listed ++ missing key index owner (rowsOf rows owner)).Perm (rowsOf rows owner) := by
  obtain ⟨hnodup, hrows⟩ := h owner
  have hkeys : ∃ listed : List α, (∀ a ∈ listed, a ∈ rowsOf rows owner) ∧
      listed.map key = entries index owner := by
    generalize entries index owner = keys at hrows
    clear hnodup
    induction keys with
    | nil => exact ⟨[], by simp, rfl⟩
    | cons k keys ih =>
      rw [List.forall_mem_cons] at hrows
      obtain ⟨a, ha, hkey⟩ := hrows.1
      obtain ⟨listed, hlisted, hmap⟩ := ih hrows.2
      refine ⟨a :: listed, List.forall_mem_cons.mpr ⟨mem_rowsOf.mpr ha, hlisted⟩, ?_⟩
      rw [List.map_cons, hkey, hmap]
  obtain ⟨listed, hlisted, hmap⟩ := hkeys
  refine ⟨listed, ?_, ?_⟩
  · rw [← hmap]
    exact hd.getAll fun a ha => mem_records_of_rowsOf (hlisted a ha)
  · have hinj : ∀ a ∈ rowsOf rows owner, ∀ b ∈ rowsOf rows owner, key a = key b → a = b :=
      fun a ha b hb => List.inj_on_of_nodup_map hd.nodup (mem_records_of_rowsOf ha)
        (mem_records_of_rowsOf hb)
    have hrowsNodup : (rowsOf rows owner).Nodup :=
      (hd.nodup.of_map).sublist (List.filter_sublist.map _)
    have hlistedPerm :
        listed.Perm ((rowsOf rows owner).filter fun a => key a ∈ entries index owner) := by
      rw [← hmap] at hnodup
      refine (List.perm_ext_iff_of_nodup (List.Nodup.of_map _ hnodup)
        (hrowsNodup.sublist List.filter_sublist)).mpr fun a => ?_
      rw [List.mem_filter, ← hmap, decide_eq_true_iff]
      constructor
      · exact fun ha => ⟨hlisted a ha, List.mem_map_of_mem ha⟩
      · rintro ⟨ha, hkey⟩
        obtain ⟨b, hb, heq⟩ := List.mem_map.mp hkey
        exact hinj b (hlisted b hb) a ha heq ▸ hb
    refine (hlistedPerm.append_right _).trans ?_
    simpa [missing] using List.filter_append_perm (fun a => key a ∈ entries index owner) (rowsOf rows owner)

end Lookup

end SecondaryIndex
