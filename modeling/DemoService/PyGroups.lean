import DemoService.PyDict
import Mathlib.Data.List.Induction

/-! Items grouped by a key in a Python dictionary. -/

namespace Dict

variable {κ α : Type} [DecidableEq κ]

/-- `d.setdefault(key(item), []).append(item)` for each of the items. -/
def groupBy (key : α → κ) (items : List α) : Dict κ (List α) :=
  items.foldl (fun d item => set d (key item) ((get? d (key item)).getD [] ++ [item])) []

variable {key : α → κ} {items : List α}

theorem groupBy_concat (item : α) : groupBy key (items ++ [item]) =
    set (groupBy key items) (key item) ((get? (groupBy key items) (key item)).getD [] ++ [item]) := by
  simp only [groupBy, List.foldl_append, List.foldl_cons, List.foldl_nil]

theorem nodup_keys_groupBy : ((groupBy key items).map Prod.fst).Nodup := by
  induction items using List.reverseRecOn with
  | nil => exact List.nodup_nil
  | append_singleton items item ih =>
    rw [groupBy_concat]
    exact nodup_keys_set ih _ _

/-- A key's group holds the items of that key, in order. -/
theorem get?_groupBy (k : κ) : get? (groupBy key items) k =
    if ∃ item ∈ items, key item = k then some (items.filter fun item => key item = k)
    else none := by
  induction items using List.reverseRecOn with
  | nil => rfl
  | append_singleton items item ih =>
    rw [groupBy_concat]
    by_cases hk : key item = k
    · subst hk
      have hsingle : [item].filter (fun other => key other = key item) = [item] := by simp
      have hmem : ∃ other ∈ items ++ [item], key other = key item := ⟨item, by simp, rfl⟩
      rw [get?_set_self, ih, if_pos hmem, List.filter_append, hsingle]
      by_cases hfound : ∃ other ∈ items, key other = key item
      · simp [hfound]
      · have hnone : items.filter (fun other => key other = key item) = [] := by
          simpa [List.filter_eq_nil_iff] using hfound
        simp [hfound, hnone]
    · have hsingle : [item].filter (fun other => key other = k) = [] := by simp [hk]
      rw [get?_set_ne hk, ih, List.filter_append, hsingle, List.append_nil]
      simp [hk, or_and_right, exists_or]

theorem mem_groupBy {k : κ} {group : List α} : (k, group) ∈ groupBy key items ↔
    (∃ item ∈ items, key item = k) ∧ group = items.filter fun item => key item = k := by
  have hget : (k, group) ∈ groupBy key items ↔ get? (groupBy key items) k = some group :=
    ⟨get?_of_mem nodup_keys_groupBy, mem_of_get?_eq_some⟩
  rw [hget, get?_groupBy]
  split
  · rename_i hfound
    rw [Option.some.injEq, eq_comm]
    exact (and_iff_right hfound).symm
  · rename_i hnone
    simp [hnone]

end Dict
