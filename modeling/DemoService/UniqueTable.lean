import Mathlib.Data.List.Nodup

/-! Tables whose rows are numbered in the order of their insertion, under a
uniqueness constraint over some of their columns. The constraint is checked on
the rows as they would be stored, so that a write succeeds or changes nothing. -/

namespace UniqueTable

universe u v

structure Row (α : Type u) where
  id : Nat
  columns : α
  deriving DecidableEq, Repr

structure Table {α : Type u} {κ : Type v} (key : α → κ) where
  rows : List (Row α)
  nextId : Nat
  id_nodup : (rows.map Row.id).Nodup
  id_lt : ∀ r ∈ rows, r.id < nextId
  key_nodup : (rows.map fun r => key r.columns).Nodup

variable {α : Type u} {κ : Type v} {key : α → κ}

def Table.empty (key : α → κ) : Table key where
  rows := []
  nextId := 1
  id_nodup := List.nodup_nil
  id_lt := by simp
  key_nodup := List.nodup_nil

theorem Table.eq_of_id {t : Table key} {r s : Row α} (hr : r ∈ t.rows) (hs : s ∈ t.rows)
    (h : r.id = s.id) : r = s := List.inj_on_of_nodup_map t.id_nodup hr hs h

theorem Table.eq_of_key {t : Table key} {r s : Row α} (hr : r ∈ t.rows) (hs : s ∈ t.rows)
    (h : key r.columns = key s.columns) : r = s := List.inj_on_of_nodup_map t.key_nodup hr hs h

theorem Table.rows_nodup (t : Table key) : t.rows.Nodup := t.id_nodup.of_map _

/-- A search that can only meet one number finds its row. -/
theorem Table.find?_of_mem {t : Table key} {r : Row α} (hr : r ∈ t.rows) {p : Row α → Bool}
    (hp : p r = true) (honly : ∀ q, p q = true → q.id = r.id) : t.rows.find? p = some r := by
  cases hfound : t.rows.find? p with
  | none => exact absurd hp (List.find?_eq_none.mp hfound r hr)
  | some q =>
    have hq : q ∈ t.rows := List.mem_of_find?_eq_some hfound
    rw [Table.eq_of_id hq hr (honly q (List.find?_some hfound))]

theorem nodup_append_fresh {rows : List (Row α)} {n : Nat} {a : α}
    (hnodup : (rows.map Row.id).Nodup) (hlt : ∀ r ∈ rows, r.id < n) :
    ((rows ++ [Row.mk n a]).map Row.id).Nodup := by
  have hfresh : n ∉ rows.map Row.id := by
    intro hmem
    obtain ⟨r, hr, hn⟩ := List.mem_map.mp hmem
    have := hlt r hr
    omega
  rw [List.map_append, List.map_singleton, ← List.concat_eq_append]
  exact hnodup.concat hfresh

def setColumns (rows : List (Row α)) (id : Nat) (a : α) : List (Row α) :=
  rows.map fun r => if r.id = id then ⟨id, a⟩ else r

theorem map_id_setColumns (rows : List (Row α)) (id : Nat) (a : α) :
    (setColumns rows id a).map Row.id = rows.map Row.id := by
  rw [setColumns, List.map_map]
  refine List.map_congr_left fun r _ => ?_
  by_cases h : r.id = id
  · simp [h]
  · simp [h]

theorem mem_setColumns {rows : List (Row α)} {id : Nat} {a : α} {q : Row α} :
    q ∈ setColumns rows id a ↔ (q = ⟨id, a⟩ ∧ ∃ r ∈ rows, r.id = id) ∨ (q ∈ rows ∧ q.id ≠ id) := by
  rw [setColumns, List.mem_map]
  constructor
  · intro h
    obtain ⟨r, hr, hq⟩ := h
    by_cases hid : r.id = id
    · rw [if_pos hid] at hq
      exact .inl ⟨hq.symm, r, hr, hid⟩
    · rw [if_neg hid] at hq
      exact .inr ⟨hq ▸ hr, hq ▸ hid⟩
  · intro h
    cases h with
    | inl h =>
      obtain ⟨hq, r, hr, hid⟩ := h
      exact ⟨r, hr, by rw [if_pos hid, hq]⟩
    | inr h => exact ⟨q, h.1, if_neg h.2⟩

section Writes

variable [DecidableEq κ]

/-- `INSERT`: the row takes the next number. -/
def Table.insert (t : Table key) (a : α) : Option (Table key) :=
  if h : ((t.rows ++ [Row.mk t.nextId a]).map fun r => key r.columns).Nodup then
    some {
      rows := t.rows ++ [Row.mk t.nextId a]
      nextId := t.nextId + 1
      id_nodup := nodup_append_fresh t.id_nodup t.id_lt
      id_lt := by
        intro r hr
        cases List.mem_append.mp hr with
        | inl hr => exact Nat.lt_succ_of_lt (t.id_lt r hr)
        | inr hr => simp [List.mem_singleton.mp hr]
      key_nodup := h }
  else none

/-- `UPDATE` of the row with the given number. -/
def Table.update (t : Table key) (id : Nat) (a : α) : Option (Table key) :=
  if h : ((setColumns t.rows id a).map fun r => key r.columns).Nodup then
    some {
      rows := setColumns t.rows id a
      nextId := t.nextId
      id_nodup := by rw [map_id_setColumns]; exact t.id_nodup
      id_lt := by
        intro r hr
        cases mem_setColumns.mp hr with
        | inl hr =>
          obtain ⟨hr, s, hs, hid⟩ := hr
          have := t.id_lt s hs
          simp only [hr]
          omega
        | inr hr => exact t.id_lt r hr.1
      key_nodup := h }
  else none

theorem Table.insert_rows {t u : Table key} {a : α} (h : t.insert a = some u) :
    u.rows = t.rows ++ [Row.mk t.nextId a] := by
  rw [Table.insert] at h
  split at h
  · rw [← Option.some.inj h]
  · cases h

theorem Table.mem_insert {t u : Table key} {a : α} (h : t.insert a = some u) {q : Row α} :
    q ∈ u.rows ↔ q ∈ t.rows ∨ q = ⟨t.nextId, a⟩ := by
  rw [Table.insert_rows h, List.mem_append, List.mem_singleton]

theorem Table.update_rows {t u : Table key} {id : Nat} {a : α} (h : t.update id a = some u) :
    u.rows = setColumns t.rows id a := by
  rw [Table.update] at h
  split at h
  · rw [← Option.some.inj h]
  · cases h

theorem Table.mem_update {t u : Table key} {r : Row α} (hr : r ∈ t.rows) {a : α}
    (h : t.update r.id a = some u) {q : Row α} :
    q ∈ u.rows ↔ q = ⟨r.id, a⟩ ∨ (q ∈ t.rows ∧ q ≠ r) := by
  have hother : ∀ q ∈ t.rows, (q.id ≠ r.id ↔ q ≠ r) := by
    intro q hq
    exact not_congr ⟨Table.eq_of_id hq hr, fun he => he ▸ rfl⟩
  rw [Table.update_rows h, mem_setColumns]
  constructor
  · intro hq
    cases hq with
    | inl hq => exact .inl hq.1
    | inr hq => exact .inr ⟨hq.1, (hother q hq.1).mp hq.2⟩
  · intro hq
    cases hq with
    | inl hq => exact .inl ⟨hq, r, hr, rfl⟩
    | inr hq => exact .inr ⟨hq.1, (hother q hq.1).mpr hq.2⟩

/-- An update succeeds exactly where no other row has the new key. -/
theorem Table.update_isSome_iff {t : Table key} {r : Row α} (hr : r ∈ t.rows) {a : α} :
    (t.update r.id a).isSome ↔ ∀ q ∈ t.rows, q ≠ r → key q.columns ≠ key a := by
  have hother : ∀ q ∈ t.rows, q ≠ r → q.id ≠ r.id := by
    intro q hq hne hid
    exact hne (Table.eq_of_id hq hr hid)
  have hnodup : ((setColumns t.rows r.id a).map fun q => key q.columns).Nodup ↔
      ∀ q ∈ t.rows, q ≠ r → key q.columns ≠ key a := by
    rw [setColumns, List.map_map, List.nodup_map_iff_inj_on t.rows_nodup]
    constructor
    · intro hinj q hq hne hkey
      refine hne (hinj q hq r hr ?_)
      simpa [hother q hq hne] using hkey
    · intro hfree p hp q hq hpq
      by_cases hpr : p = r
      · by_cases hqr : q = r
        · rw [hpr, hqr]
        · have hkey : key q.columns = key a := by simpa [hpr, hother q hq hqr] using hpq.symm
          exact absurd hkey (hfree q hq hqr)
      · by_cases hqr : q = r
        · have hkey : key p.columns = key a := by simpa [hqr, hother p hp hpr] using hpq
          exact absurd hkey (hfree p hp hpr)
        · exact Table.eq_of_key hp hq (by simpa [hother p hp hpr, hother q hq hqr] using hpq)
  rw [← hnodup, Table.update, Option.isSome_dite]

end Writes

end UniqueTable
