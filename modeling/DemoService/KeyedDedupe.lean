import Mathlib.Data.List.Nodup

/-! Lists without a second item of the same key, in the order of the first ones. -/

namespace KeyedDedupe

variable {α κ : Type} [DecidableEq κ] (key : α → κ)

/-- Keeps the items whose key was not seen before. -/
def dedupeFrom (seen : List κ) : List α → List α
  | [] => []
  | x :: xs =>
    if key x ∈ seen then dedupeFrom seen xs else x :: dedupeFrom (key x :: seen) xs

def dedupe (xs : List α) : List α := dedupeFrom key [] xs

variable {key} {seen : List κ} {xs ys : List α}

theorem dedupeFrom_sublist (seen : List κ) (xs : List α) :
    (dedupeFrom key seen xs).Sublist xs := by
  induction xs generalizing seen with
  | nil => exact List.Sublist.refl []
  | cons x xs ih =>
    rw [dedupeFrom]
    split
    · exact (ih seen).cons x
    · exact (ih (key x :: seen)).cons_cons x

theorem notMem_of_mem_dedupeFrom {x : α} (h : x ∈ dedupeFrom key seen xs) : key x ∉ seen := by
  induction xs generalizing seen with
  | nil => cases h
  | cons y ys ih =>
    rw [dedupeFrom] at h
    split at h
    · exact ih h
    · rcases List.mem_cons.mp h with rfl | h
      · assumption
      · exact fun hseen => ih h (List.mem_cons_of_mem _ hseen)

theorem dedupeFrom_nodup (seen : List κ) (xs : List α) :
    ((dedupeFrom key seen xs).map key).Nodup := by
  induction xs generalizing seen with
  | nil => exact List.nodup_nil
  | cons x xs ih =>
    rw [dedupeFrom]
    split
    · exact ih seen
    · refine List.nodup_cons.mpr ⟨fun hx => ?_, ih _⟩
      obtain ⟨y, hy, hkey⟩ := List.mem_map.mp hx
      exact notMem_of_mem_dedupeFrom hy (hkey ▸ List.mem_cons_self)

/-- The keys that are left are the first occurrences of the unseen ones. -/
theorem keys_dedupeFrom [BEq κ] [LawfulBEq κ] (seen : List κ) (xs : List α) :
    (dedupeFrom key seen xs).map key = ((xs.map key).filter fun k => k ∉ seen).eraseDups := by
  induction xs generalizing seen with
  | nil => rfl
  | cons x xs ih =>
    rw [dedupeFrom, List.map_cons]
    by_cases hx : key x ∈ seen
    · rw [if_pos hx, ih, List.filter_cons_of_neg (by simpa using hx)]
    · rw [if_neg hx, List.map_cons, ih, List.filter_cons_of_pos (by simpa using hx),
        List.eraseDups_cons, List.filter_filter]
      refine congrArg (key x :: List.eraseDups ·) (List.filter_congr fun k _ => ?_)
      by_cases hk : k = key x
      · simp [hk]
      · simp [hk]

theorem keys_dedupe [BEq κ] [LawfulBEq κ] (xs : List α) :
    (dedupe key xs).map key = (xs.map key).eraseDups := by
  rw [dedupe, keys_dedupeFrom]
  simp

theorem dedupeFrom_append (seen : List κ) (xs ys : List α) : ∃ later,
    dedupeFrom key seen (xs ++ ys) = dedupeFrom key seen xs ++ dedupeFrom key later ys := by
  induction xs generalizing seen with
  | nil => exact ⟨seen, rfl⟩
  | cons x xs ih =>
    rw [List.cons_append, dedupeFrom, dedupeFrom]
    split
    · exact ih seen
    · obtain ⟨later, hlater⟩ := ih (key x :: seen)
      exact ⟨later, by rw [hlater, List.cons_append]⟩

theorem dedupeFrom_of_nodup (h : (xs.map key).Nodup) (hseen : ∀ x ∈ xs, key x ∉ seen) :
    dedupeFrom key seen xs = xs := by
  induction xs generalizing seen with
  | nil => rfl
  | cons x xs ih =>
    obtain ⟨hx, hxs⟩ := List.nodup_cons.mp h
    rw [List.forall_mem_cons] at hseen
    have hrest : dedupeFrom key (key x :: seen) xs = xs := by
      refine ih hxs fun y hy hmem => ?_
      rcases List.mem_cons.mp hmem with heq | hmem
      · exact hx (List.mem_map.mpr ⟨y, hy, heq⟩)
      · exact hseen.2 y hy hmem
    rw [dedupeFrom, if_neg hseen.1, hrest]

/-- Items of different keys stay as they are, and what follows them comes in its order. -/
theorem dedupe_append_of_nodup (h : (xs.map key).Nodup) (ys : List α) :
    ∃ more, dedupe key (xs ++ ys) = xs ++ more ∧ more.Sublist ys := by
  obtain ⟨later, hlater⟩ : ∃ later, dedupeFrom key [] (xs ++ ys) =
      dedupeFrom key [] xs ++ dedupeFrom key later ys := dedupeFrom_append [] xs ys
  rw [dedupeFrom_of_nodup h fun _ _ => List.not_mem_nil] at hlater
  exact ⟨dedupeFrom key later ys, hlater, dedupeFrom_sublist later ys⟩

theorem dedupe_of_nodup (h : (xs.map key).Nodup) : dedupe key xs = xs :=
  dedupeFrom_of_nodup h fun _ _ => List.not_mem_nil

end KeyedDedupe
