import DemoService.RustBounds

/-! ASCII texts, where the byte offsets of a Rust string count its characters. -/

namespace RustText

def IsAscii (s : Str) : Prop := ∀ c ∈ s, c.toNat < 128

theorem isAscii_cons {c : Char} {s : Str} : IsAscii (c :: s) ↔ c.toNat < 128 ∧ IsAscii s :=
  List.forall_mem_cons

theorem isAscii_append {s t : Str} : IsAscii (s ++ t) ↔ IsAscii s ∧ IsAscii t :=
  List.forall_mem_append

theorem IsAscii.subset {s t : Str} (h : IsAscii t) (hst : s ⊆ t) : IsAscii s :=
  fun c hc => h c (hst hc)

theorem utf8Size_of_ascii {c : Char} (h : c.toNat < 128) : c.utf8Size = 1 := by
  have hval : c.val ≤ 0x7F := by
    rw [UInt32.le_iff_toNat_le]
    exact Nat.le_of_lt_succ h
  exact Char.utf8Size_eq_one_iff.mpr hval

theorem utf8Len_of_ascii {s : Str} (h : IsAscii s) : utf8Len s = s.length := by
  induction s with
  | nil => rfl
  | cons c s ih =>
    have hcs := isAscii_cons.mp h
    rw [utf8Len_cons, utf8Size_of_ascii hcs.1, ih hcs.2, List.length_cons]
    omega

theorem boundary_of_ascii {s : Str} (h : IsAscii s) {i : Nat} (hi : i ≤ s.length) :
    Boundary s i := by
  have htake : IsAscii (s.take i) := h.subset (List.take_subset i s)
  refine ⟨s.take i, s.drop i, (List.take_append_drop i s).symm, ?_⟩
  rw [utf8Len_of_ascii htake, List.length_take]
  omega

theorem slice_of_ascii {s : Str} (h : IsAscii s) {i j : Nat} (hij : i ≤ j) (hj : j ≤ s.length) :
    slice s i j = .ok ((s.take j).drop i) := by
  obtain ⟨front, mid, back, rfl, hfront, hmid, hslice⟩ :=
    slice_of_boundaries (boundary_of_ascii h (hij.trans hj)) (boundary_of_ascii h hj) hij
  have hparts := isAscii_append.mp h
  rw [isAscii_append] at hparts
  rw [utf8Len_of_ascii hparts.1.1] at hfront hmid
  rw [utf8Len_of_ascii hparts.1.2] at hmid
  have hlen : (front ++ mid).length = j := by simpa using hmid
  rw [hslice, List.take_left' hlen, List.drop_left' hfront]

theorem floorBoundary_of_ascii {s : Str} (h : IsAscii s) {i : Nat} (hi : i ≤ s.length) :
    floorBoundary s i = i :=
  le_antisymm (floorBoundary_le s i) (le_floorBoundary (boundary_of_ascii h hi) le_rfl)

theorem ceilBoundary_of_ascii {s : Str} (h : IsAscii s) (n : Nat) {i : Nat} (hi : i ≤ s.length) :
    ceilBoundary s n i = i :=
  le_antisymm (ceilBoundary_le (boundary_of_ascii h hi) n le_rfl) (le_ceilBoundary s n i)

end RustText
