import DemoService.RustText
import DemoService.Fallible

/-! Character boundaries of a Rust string: the offsets between which slicing succeeds. -/

namespace RustText

open Fallible (Succeeds)

def Boundary (s : Str) (i : Nat) : Prop := ∃ front back, s = front ++ back ∧ utf8Len front = i

def isCharBoundary (s : Str) (i : Nat) : Bool := (dropBytes i s).isSome

theorem dropBytes_eq_some {s rest : Str} {n : Nat} :
    dropBytes n s = some rest ↔ ∃ front, s = front ++ rest ∧ utf8Len front = n := by
  constructor
  · intro h
    induction s generalizing n with
    | nil =>
      cases n with
      | zero => exact ⟨[], by simpa [dropBytes] using h, rfl⟩
      | succ n => simp [dropBytes] at h
    | cons c s ih =>
      cases n with
      | zero => exact ⟨[], by simpa [dropBytes] using h, rfl⟩
      | succ n =>
        by_cases hsize : c.utf8Size ≤ n + 1
        · rw [dropBytes, if_pos hsize] at h
          obtain ⟨front, rfl, hlen⟩ := ih h
          exact ⟨c :: front, rfl, by rw [utf8Len_cons, hlen]; omega⟩
        · simp [dropBytes, hsize] at h
  · rintro ⟨front, rfl, rfl⟩
    exact dropBytes_append front rest

theorem isCharBoundary_iff {s : Str} {i : Nat} : isCharBoundary s i = true ↔ Boundary s i := by
  rw [isCharBoundary, Option.isSome_iff_exists]
  constructor
  · rintro ⟨rest, h⟩
    obtain ⟨front, hs, hlen⟩ := dropBytes_eq_some.mp h
    exact ⟨front, rest, hs, hlen⟩
  · rintro ⟨front, rest, hs, hlen⟩
    exact ⟨rest, dropBytes_eq_some.mpr ⟨front, hs, hlen⟩⟩

theorem boundary_zero (s : Str) : Boundary s 0 := ⟨[], s, rfl, rfl⟩

theorem boundary_length (s : Str) : Boundary s (utf8Len s) := ⟨s, [], by simp, rfl⟩

theorem Boundary.le {s : Str} {i : Nat} (h : Boundary s i) : i ≤ utf8Len s := by
  obtain ⟨front, back, rfl, rfl⟩ := h
  simp

/-- Between a boundary that is not the end and the next one there is one character. -/
theorem Boundary.next {s : Str} {i : Nat} (h : Boundary s i) (hi : i < utf8Len s) :
    ∃ j, Boundary s j ∧ i < j ∧ j ≤ i + 4 := by
  obtain ⟨front, back, rfl, rfl⟩ := h
  cases back with
  | nil => simp at hi
  | cons c back =>
    have hpos := Char.utf8Size_pos c
    have hle := Char.utf8Size_le_four c
    refine ⟨utf8Len (front ++ [c]), ⟨front ++ [c], back, by simp, rfl⟩, ?_, ?_⟩ <;>
    · simp only [utf8Len_append, utf8Len_cons, utf8Len_nil]
      omega

/-- The text between two boundaries in order, cut out without a panic. -/
theorem slice_of_boundaries {s : Str} {i j : Nat} (hi : Boundary s i) (hj : Boundary s j)
    (hij : i ≤ j) :
    ∃ front mid back, s = front ++ mid ++ back ∧ utf8Len front = i ∧
      utf8Len front + utf8Len mid = j ∧ slice s i j = .ok mid := by
  obtain ⟨front, rest, rfl, rfl⟩ := hi
  obtain ⟨front', back, hs, rfl⟩ := hj
  rcases List.append_eq_append_iff.mp hs with ⟨mid, rfl, rfl⟩ | ⟨extra, rfl, rfl⟩
  · refine ⟨front, mid, back, by simp, rfl, by simp, ?_⟩
    have h := slice_append front mid back
    rwa [List.append_assoc, ← utf8Len_append] at h
  · have hextra : utf8Len extra = 0 := by
      simp only [utf8Len_append] at hij
      omega
    cases extra with
    | nil =>
      refine ⟨front', [], rest, by simp, by simp, by simp, ?_⟩
      have h := slice_append front' [] rest
      simpa using h
    | cons c extra =>
      have hpos := Char.utf8Size_pos c
      rw [utf8Len_cons] at hextra
      omega

theorem takeBytes_eq_some {s mid : Str} {n : Nat} (h : takeBytes n s = some mid) :
    ∃ back, s = mid ++ back ∧ utf8Len mid = n := by
  induction s generalizing n mid with
  | nil =>
    cases n with
    | zero =>
      obtain rfl : [] = mid := by simpa [takeBytes] using h
      exact ⟨[], rfl, rfl⟩
    | succ n => simp [takeBytes] at h
  | cons c s ih =>
    cases n with
    | zero =>
      obtain rfl : [] = mid := by simpa [takeBytes] using h
      exact ⟨c :: s, rfl, rfl⟩
    | succ n =>
      by_cases hsize : c.utf8Size ≤ n + 1
      · rw [takeBytes, if_pos hsize] at h
        obtain ⟨rest, hrest, rfl⟩ := Option.map_eq_some_iff.mp h
        obtain ⟨back, rfl, hlen⟩ := ih hrest
        exact ⟨back, rfl, by rw [utf8Len_cons, hlen]; omega⟩
      · simp [takeBytes, hsize] at h

/-- What a slice that succeeds has before it and after it. -/
theorem slice_eq_ok {s mid : Str} {i j : Nat} (h : slice s i j = .ok mid) :
    ∃ front back, s = front ++ mid ++ back ∧ utf8Len front = i ∧ utf8Len front + utf8Len mid = j := by
  unfold slice at h
  split at h
  · cases h
  · split at h
    · cases h
    · rename_i hle
      cases hdrop : dropBytes i s with
      | none => simp [hdrop] at h
      | some rest =>
        cases htake : takeBytes (j - i) rest with
        | none => simp [hdrop, htake] at h
        | some taken =>
          obtain rfl : taken = mid := by simpa [hdrop, htake] using h
          obtain ⟨front, rfl, hfront⟩ := dropBytes_eq_some.mp hdrop
          obtain ⟨back, rfl, hlen⟩ := takeBytes_eq_some htake
          exact ⟨front, back, by simp, hfront, by omega⟩

/-- Of two ways to divide a text the one with the shorter front has its front inside the other's. -/
theorem front_of_utf8Len_le {s t front back : Str} (h : s ++ t = front ++ back)
    (hle : utf8Len s ≤ utf8Len front) : ∃ mid, front = s ++ mid ∧ t = mid ++ back := by
  rcases List.append_eq_append_iff.mp h with ⟨mid, rfl, rfl⟩ | ⟨extra, rfl, rfl⟩
  · exact ⟨mid, rfl, rfl⟩
  · cases extra with
    | nil => exact ⟨[], by simp, by simp⟩
    | cons c extra =>
      have hpos := Char.utf8Size_pos c
      simp only [utf8Len_append, utf8Len_cons] at hle
      omega

/-- Walks down to a character boundary, at worst to the start. -/
def floorBoundary (s : Str) : Nat → Nat
  | 0 => 0
  | i + 1 => if isCharBoundary s (i + 1) then i + 1 else floorBoundary s i

/-- Walks up to a character boundary, for a number of steps at most. -/
def ceilBoundary (s : Str) : Nat → Nat → Nat
  | 0, i => i
  | n + 1, i => if isCharBoundary s i then i else ceilBoundary s n (i + 1)

theorem floorBoundary_boundary (s : Str) (i : Nat) : Boundary s (floorBoundary s i) := by
  induction i with
  | zero => exact boundary_zero s
  | succ i ih =>
    by_cases h : isCharBoundary s (i + 1) = true
    · rw [floorBoundary, if_pos h]
      exact isCharBoundary_iff.mp h
    · rw [floorBoundary, if_neg h]
      exact ih

theorem le_floorBoundary {s : Str} {i j : Nat} (hj : Boundary s j) (hji : j ≤ i) :
    j ≤ floorBoundary s i := by
  induction i with
  | zero => exact hji
  | succ i ih =>
    by_cases h : isCharBoundary s (i + 1) = true
    · rw [floorBoundary, if_pos h]
      exact hji
    · rw [floorBoundary, if_neg h]
      have hne : j ≠ i + 1 := fun heq => h (isCharBoundary_iff.mpr (heq ▸ hj))
      exact ih (by omega)

theorem floorBoundary_le (s : Str) (i : Nat) : floorBoundary s i ≤ i := by
  induction i with
  | zero => exact Nat.le_refl 0
  | succ i ih =>
    by_cases h : isCharBoundary s (i + 1) = true
    · rw [floorBoundary, if_pos h]
    · rw [floorBoundary, if_neg h]
      exact ih.trans (Nat.le_succ i)

theorem le_ceilBoundary (s : Str) (n i : Nat) : i ≤ ceilBoundary s n i := by
  induction n generalizing i with
  | zero => exact Nat.le_refl i
  | succ n ih =>
    by_cases h : isCharBoundary s i = true
    · rw [ceilBoundary, if_pos h]
    · rw [ceilBoundary, if_neg h]
      exact (Nat.le_succ i).trans (ih (i + 1))

theorem ceilBoundary_boundary {s : Str} {n i : Nat} (h : i + n = utf8Len s) :
    Boundary s (ceilBoundary s n i) := by
  induction n generalizing i with
  | zero =>
    have hi : i = utf8Len s := by omega
    rw [ceilBoundary, hi]
    exact boundary_length s
  | succ n ih =>
    by_cases hb : isCharBoundary s i = true
    · rw [ceilBoundary, if_pos hb]
      exact isCharBoundary_iff.mp hb
    · rw [ceilBoundary, if_neg hb]
      exact ih (by omega)

theorem ceilBoundary_le {s : Str} {j : Nat} (hj : Boundary s j) (n : Nat) {i : Nat} (hij : i ≤ j) :
    ceilBoundary s n i ≤ j := by
  induction n generalizing i with
  | zero => exact hij
  | succ n ih =>
    by_cases h : isCharBoundary s i = true
    · rw [ceilBoundary, if_pos h]
      exact hij
    · rw [ceilBoundary, if_neg h]
      have hne : i ≠ j := fun heq => h (isCharBoundary_iff.mpr (heq ▸ hj))
      exact ih (by omega)

/-- `str::rfind` on a pattern text: the byte offset of its last occurrence. -/
def rfind (pattern : Str) : Str → Option Nat
  | [] => if pattern = [] then some 0 else none
  | c :: cs =>
    match rfind pattern cs with
    | some i => some (i + c.utf8Size)
    | none => if pattern.isPrefixOf (c :: cs) then some 0 else none

theorem rfind_eq_some {pattern s : Str} {i : Nat} (h : rfind pattern s = some i) :
    ∃ front back, s = front ++ pattern ++ back ∧ utf8Len front = i := by
  induction s generalizing i with
  | nil =>
    by_cases hp : pattern = []
    · simp only [rfind, if_pos hp, Option.some.injEq] at h
      exact ⟨[], [], by simp [hp], h⟩
    · simp [rfind, hp] at h
  | cons c cs ih =>
    rw [rfind] at h
    cases hrest : rfind pattern cs with
    | some j =>
      simp only [hrest, Option.some.injEq] at h
      obtain ⟨front, back, rfl, rfl⟩ := ih hrest
      exact ⟨c :: front, back, by simp, by rw [utf8Len_cons, ← h, Nat.add_comm]⟩
    | none =>
      rw [hrest] at h
      by_cases hp : pattern.isPrefixOf (c :: cs) = true
      · simp only [if_pos hp, Option.some.injEq] at h
        obtain ⟨back, hback⟩ := List.isPrefixOf_iff_prefix.mp hp
        exact ⟨[], back, by simpa using hback.symm, h⟩
      · simp [hp] at h

end RustText
