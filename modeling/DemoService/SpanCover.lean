import Mathlib.Data.List.Chain
import Mathlib.Data.List.Dedup
import Mathlib.Data.List.Forall2

/-! Spans of offsets that cover a range: each starts after the one before it and no
later than its end. The pieces cut at such spans overlay the whole, and stay overlays when a
piece is cut further or entries are dropped throughout. -/

namespace SpanCover

abbrev Span := Nat × Nat

structure Covers (lo hi : Nat) (spans : List Span) : Prop where
  first : spans.head?.map Prod.fst = some lo
  last : spans.getLast?.map Prod.snd = some hi
  noGap : spans.IsChain fun a b => a.1 < b.1 ∧ b.1 ≤ a.2

theorem covers_one (lo hi : Nat) : Covers lo hi [(lo, hi)] :=
  ⟨rfl, rfl, List.isChain_singleton _⟩

theorem Covers.cons {lo mid stop hi : Nat} {spans : List Span} (h : Covers mid hi spans)
    (hlt : lo < mid) (hle : mid ≤ stop) : Covers lo hi ((lo, stop) :: spans) := by
  cases spans with
  | nil =>
    have hfirst := h.first
    simp at hfirst
  | cons span spans =>
    have hmid : span.1 = mid := by simpa using h.first
    refine ⟨rfl, ?_, ?_⟩
    · rw [List.getLast?_cons_cons]
      exact h.last
    · exact List.IsChain.cons_cons (by simp only [hmid]; omega) h.noGap

theorem Covers.exists_mem {lo hi p : Nat} {spans : List Span} (h : Covers lo hi spans)
    (hlo : lo ≤ p) (hhi : p < hi) : ∃ span ∈ spans, span.1 ≤ p ∧ p < span.2 := by
  induction spans generalizing lo with
  | nil =>
    have hfirst := h.first
    simp at hfirst
  | cons span spans ih =>
    have hspan : span.1 = lo := by simpa using h.first
    by_cases hp : p < span.2
    · exact ⟨span, List.mem_cons_self, by omega, hp⟩
    · cases spans with
      | nil =>
        have hlast : span.2 = hi := by simpa using h.last
        omega
      | cons next spans =>
        have hnext := (List.isChain_cons_cons.mp h.noGap).1
        have hrest : Covers next.1 hi (next :: spans) := by
          refine ⟨rfl, ?_, (List.isChain_cons_cons.mp h.noGap).2⟩
          simpa only [List.getLast?_cons_cons] using h.last
        obtain ⟨found, hmem, hle⟩ := ih hrest (by omega)
        exact ⟨found, List.mem_cons_of_mem _ hmem, hle⟩

/-- Each span ends behind those before it, so that none lies within the one before it, and there are
as many ends as spans. -/
structure Advancing (spans : List Span) : Prop where
  ends : (spans.map Prod.snd).Pairwise (· < ·)
  notWithin : spans.IsChain fun previous span => ¬ (previous.1 ≤ span.1 ∧ span.2 ≤ previous.2)
  distinct : spans.length = (spans.map Prod.snd).dedup.length

theorem advancing_of_isChain {spans : List Span} (h : spans.IsChain fun a b => a.2 < b.2) :
    Advancing spans := by
  have hends : (spans.map Prod.snd).Pairwise (· < ·) :=
    List.isChain_iff_pairwise.mp (List.isChain_map_of_isChain Prod.snd (fun _ _ hlt => hlt) h)
  refine ⟨hends, h.imp fun _ _ hlt hwithin => ?_, ?_⟩
  · exact absurd hwithin.2 (Nat.not_le_of_lt hlt)
  · rw [List.dedup_eq_self.mpr (hends.imp fun hlt => Nat.ne_of_lt hlt), List.length_map]

theorem not_advancing_of_same_end {a b stop : Nat} {spans : List Span} :
    ¬ Advancing ((a, stop) :: (b, stop) :: spans) := fun h =>
  Nat.lt_irrefl _ (List.rel_of_pairwise_cons h.ends List.mem_cons_self)

section Pieces

variable {α : Type*}

def cut (whole : List α) (span : Span) : List α := (whole.take span.2).drop span.1

/-- The pieces have places in the whole that leave no entry out. -/
def Overlays (whole : List α) (pieces : List (List α)) : Prop :=
  ∃ spans : List Span, pieces = spans.map (cut whole) ∧
    ∀ p < whole.length, ∃ span ∈ spans, span.1 ≤ p ∧ p < span.2

theorem length_cut (whole : List α) (span : Span) :
    (cut whole span).length = min span.2 whole.length - span.1 := by
  rw [cut, List.length_drop, List.length_take]

theorem cut_all (whole : List α) : cut whole (0, whole.length) = whole := by
  rw [cut, List.take_length, List.drop_zero]

theorem cut_cut (whole : List α) (span inner : Span) :
    cut (cut whole span) inner = cut whole (span.1 + inner.1, min span.2 (span.1 + inner.2)) := by
  simp only [cut, List.take_drop, List.drop_drop, List.take_take]
  rw [Nat.min_comm]

theorem Covers.overlays {whole : List α} {spans : List Span}
    (h : Covers 0 whole.length spans) : Overlays whole (spans.map (cut whole)) :=
  ⟨spans, rfl, fun _ hp => h.exists_mem (Nat.zero_le _) hp⟩

theorem overlays_self (whole : List α) : Overlays whole [whole] := by
  refine ⟨[(0, whole.length)], ?_, fun p hp => ⟨_, List.mem_cons_self, Nat.zero_le p, hp⟩⟩
  rw [List.map_singleton, cut_all]

/-- A piece that is cut further is overlaid by its pieces. -/
theorem Overlays.trans {whole : List α} {pieces : List (List α)} {groups : List (List (List α))}
    (h : Overlays whole pieces) (hgroups : List.Forall₂ Overlays pieces groups) :
    Overlays whole groups.flatten := by
  obtain ⟨spans, rfl, hspans⟩ := h
  have hinner : ∃ inner : List Span, groups.flatten = inner.map (cut whole) ∧
      ∀ p < whole.length, (∃ span ∈ spans, span.1 ≤ p ∧ p < span.2) →
        ∃ span ∈ inner, span.1 ≤ p ∧ p < span.2 := by
    clear hspans
    induction spans generalizing groups with
    | nil =>
      cases hgroups
      exact ⟨[], rfl, fun p _ h => by simp at h⟩
    | cons span spans ih =>
      cases hgroups with
      | cons hfirst hrest =>
        rename_i group groups
        obtain ⟨within, hwithin, hall⟩ := hfirst
        obtain ⟨inner, hflat, hinner⟩ := ih hrest
        let shift := fun sub : Span => (span.1 + sub.1, min span.2 (span.1 + sub.2))
        refine ⟨within.map shift ++ inner, ?_, ?_⟩
        · rw [List.flatten_cons, hflat, hwithin, List.map_append, List.map_map]
          congr 1
          exact List.map_congr_left fun sub _ => cut_cut whole span sub
        · intro p hp hin
          obtain ⟨found, hmem, hlo, hhi⟩ := hin
          rcases List.mem_cons.mp hmem with rfl | hmem
          · have hlen := length_cut whole found
            obtain ⟨sub, hsub, hsublo, hsubhi⟩ := hall (p - found.1) (by omega)
            refine ⟨shift sub, List.mem_append_left _ (List.mem_map_of_mem hsub), ?_⟩
            show found.1 + sub.1 ≤ p ∧ p < min found.2 (found.1 + sub.2)
            omega
          · obtain ⟨sub, hsub, hin⟩ := hinner p hp ⟨found, hmem, hlo, hhi⟩
            exact ⟨sub, List.mem_append_right _ hsub, hin⟩
  obtain ⟨inner, hflat, hinner⟩ := hinner
  exact ⟨inner, hflat, fun p hp => hinner p hp (hspans p hp)⟩

/-- Pieces without entries can be left out. -/
theorem Overlays.nonempty [DecidableEq α] {whole : List α} {pieces : List (List α)}
    (h : Overlays whole pieces) : Overlays whole (pieces.filter (· ≠ [])) := by
  obtain ⟨spans, rfl, hspans⟩ := h
  refine ⟨spans.filter fun span => cut whole span ≠ [], List.filter_map, fun p hp => ?_⟩
  obtain ⟨span, hmem, hlo, hhi⟩ := hspans p hp
  have hne : cut whole span ≠ [] := by
    intro hempty
    have hlen := length_cut whole span
    rw [hempty, List.length_nil] at hlen
    omega
  exact ⟨span, List.mem_filter.mpr ⟨hmem, decide_eq_true hne⟩, hlo, hhi⟩

section Filter

variable (keep : α → Bool)

/-- How many entries before an offset are kept. -/
def kept (whole : List α) (offset : Nat) : Nat := ((whole.take offset).filter keep).length

theorem kept_mono (whole : List α) {a b : Nat} (h : a ≤ b) : kept keep whole a ≤ kept keep whole b :=
  ((List.take_prefix_take_left h).filter keep).length_le

theorem take_kept (whole : List α) (offset : Nat) :
    (whole.filter keep).take (kept keep whole offset) = (whole.take offset).filter keep := by
  have hsplit : whole.filter keep =
      (whole.take offset).filter keep ++ (whole.drop offset).filter keep := by
    rw [← List.filter_append, List.take_append_drop]
  rw [hsplit, kept, List.take_left]

theorem cut_filter (whole : List α) (span : Span) :
    (cut whole span).filter keep =
      cut (whole.filter keep) (kept keep whole span.1, kept keep whole span.2) := by
  rw [cut, cut, take_kept]
  by_cases hle : span.1 ≤ span.2
  · have htake : whole.take span.1 = (whole.take span.2).take span.1 := by
      rw [List.take_take, Nat.min_eq_left hle]
    have hsplit : (whole.take span.2).filter keep = (whole.take span.1).filter keep ++
        ((whole.take span.2).drop span.1).filter keep := by
      rw [← List.filter_append, htake, List.take_append_drop]
    rw [hsplit, kept, List.drop_left]
  · have hshort : (whole.take span.2).length ≤ span.1 := by
      rw [List.length_take]
      omega
    rw [List.drop_of_length_le hshort, List.filter_nil]
    exact (List.drop_of_length_le (kept_mono keep whole (by omega))).symm

/-- Where an entry that is kept stands. -/
theorem exists_kept {whole : List α} {p : Nat} (h : p < (whole.filter keep).length) :
    ∃ i < whole.length, kept keep whole i = p ∧ kept keep whole (i + 1) = p + 1 := by
  induction whole generalizing p with
  | nil => simp at h
  | cons c cs ih =>
    by_cases hc : keep c = true
    · cases p with
      | zero => exact ⟨0, by simp, by simp [kept], by simp [kept, hc]⟩
      | succ p =>
        rw [List.filter_cons_of_pos hc, List.length_cons] at h
        obtain ⟨i, hi, hp, hnext⟩ := ih (by omega : p < (cs.filter keep).length)
        refine ⟨i + 1, by simpa using hi, ?_, ?_⟩
        · simpa [kept, hc] using hp
        · simpa [kept, hc] using hnext
    · rw [List.filter_cons_of_neg hc] at h
      obtain ⟨i, hi, hp, hnext⟩ := ih h
      refine ⟨i + 1, by simpa using hi, ?_, ?_⟩
      · simpa [kept, hc] using hp
      · simpa [kept, hc] using hnext

/-- Dropping the same entries from the whole and from its pieces keeps them overlays. -/
theorem Overlays.filter {whole : List α} {pieces : List (List α)} (h : Overlays whole pieces) :
    Overlays (whole.filter keep) (pieces.map (List.filter keep)) := by
  obtain ⟨spans, rfl, hspans⟩ := h
  refine ⟨spans.map fun span => (kept keep whole span.1, kept keep whole span.2), ?_, ?_⟩
  · rw [List.map_map, List.map_map]
    exact List.map_congr_left fun span _ => cut_filter keep whole span
  · intro p hp
    obtain ⟨i, hi, hkept, hnext⟩ := exists_kept keep hp
    obtain ⟨span, hmem, hlo, hhi⟩ := hspans i hi
    refine ⟨_, List.mem_map_of_mem hmem, ?_, ?_⟩
    · exact (kept_mono keep whole hlo).trans hkept.le
    · have hmono := kept_mono keep whole (by omega : i + 1 ≤ span.2)
      show p < kept keep whole span.2
      omega

end Filter

end Pieces

end SpanCover
