import DemoService.RagChunking
import DemoService.SpanCover

/-! The Python chunker on any text. The spans of one run of its loop overlap from one end of
the text to the other and none is longer than the chunk size, so the chunks hold every
character of the text that is no whitespace. -/

namespace DemoService.RagChunking

open PyText SpanCover

/-! ### The characters that are no whitespace -/

def ink (text : Text) : Text := text.filter fun c => !isSpace c

theorem ink_eq_nil_iff {text : Text} : ink text = [] ↔ ∀ c ∈ text, isSpace c = true := by
  simp [ink, List.filter_eq_nil_iff]

theorem ink_lstrip (text : Text) : ink (lstrip text) = ink text := by
  have hblank : ink (text.takeWhile isSpace) = [] :=
    ink_eq_nil_iff.mpr fun c hc => List.mem_takeWhile_imp hc
  calc ink (lstrip text) = ink (text.takeWhile isSpace) ++ ink (text.dropWhile isSpace) := by
        rw [hblank, List.nil_append, lstrip]
    _ = ink text := by rw [ink, ink, ← List.filter_append, List.takeWhile_append_dropWhile, ink]

theorem ink_rstrip (text : Text) : ink (rstrip text) = ink text := by
  have hback : ink (rstrip text) = (ink (lstrip text.reverse)).reverse := by
    rw [rstrip, List.rdropWhile, ink, List.filter_reverse, ink, lstrip]
  rw [hback, ink_lstrip, ink, List.filter_reverse, List.reverse_reverse, ink]

theorem ink_strip (text : Text) : ink (strip text) = ink text := by
  rw [strip, ink_rstrip, ink_lstrip]

theorem strip_eq_nil_iff {text : Text} : strip text = [] ↔ ink text = [] := by
  constructor
  · intro h
    rw [← ink_strip, h, ink, List.filter_nil]
  · intro h
    cases hstrip : strip text with
    | nil => rfl
    | cons c cs =>
      have hspace : isSpace c = false := strip_head text c (by rw [hstrip]; rfl)
      have hblank : isSpace c = true := by
        refine ink_eq_nil_iff.mp h c (mem_of_mem_strip ?_)
        rw [hstrip]
        exact List.mem_cons_self
      rw [hspace] at hblank
      cases hblank

theorem ink_squeeze (text : Text) : ink (TextLayout.squeeze isSpace text) = ink text :=
  TextLayout.filter_squeeze (by decide) text

theorem length_strip_le (text : Text) : (strip text).length ≤ text.length :=
  ((List.rdropWhile_prefix _ _).length_le).trans (List.dropWhile_suffix _).length_le

/-! ### One turn of the loop -/

theorem rfind_bound {pattern s : Text} {i : Nat} (h : rfind pattern s = some i) :
    i + pattern.length ≤ s.length := by
  induction s generalizing i with
  | nil =>
    rw [rfind] at h
    split at h
    · rename_i hempty
      cases h
      simp [hempty]
    · cases h
  | cons c cs ih =>
    rw [rfind] at h
    split at h
    · rename_i j hj
      cases h
      have hrest := ih hj
      rw [List.length_cons]
      omega
    · split at h
      · rename_i hprefix
        cases h
        simpa using (List.isPrefixOf_iff_prefix.mp hprefix).length_le
      · cases h

theorem lastSplit_bounds {window : Text} {minimum offset : Nat} {patterns : List Text}
    (h : lastSplit window minimum patterns = some offset) :
    minimum ≤ offset ∧ offset ≤ window.length := by
  induction patterns with
  | nil => cases h
  | cons pattern patterns ih =>
    rw [lastSplit] at h
    split at h
    · rename_i index hindex
      split at h
      · cases h
        have hbound := rfind_bound hindex
        omega
      · exact ih h
    · exact ih h

theorem splitPoint_bounds (value : Text) {start hardEnd : Nat} (h : start < hardEnd) :
    start < findSplitPoint value start hardEnd ∧ findSplitPoint value start hardEnd ≤ hardEnd := by
  rw [findSplitPoint]
  split
  · exact ⟨h, le_rfl⟩
  · have hlen : (slice value start hardEnd).length = hardEnd - start := by
      rw [slice, List.length_drop, List.length_take]
      omega
    simp only
    split
    · rename_i offset hoffset
      have hbounds := lastSplit_bounds hoffset
      omega
    · exact ⟨h, le_rfl⟩

theorem splitLoop_step {normalized : Text} {start : Nat} (h : start < normalized.length)
    (chunkSize chunkOverlap : Nat) (chunks : List Text) :
    splitLoop normalized chunkSize chunkOverlap start chunks =
      if normalized.length ≤
          findSplitPoint normalized start (min (start + chunkSize) normalized.length) then
        appendChunk chunks (strip (slice normalized start
          (findSplitPoint normalized start (min (start + chunkSize) normalized.length))))
      else
        splitLoop normalized chunkSize chunkOverlap
          (max (findSplitPoint normalized start (min (start + chunkSize) normalized.length) -
            chunkOverlap) (start + 1))
          (appendChunk chunks (strip (slice normalized start
            (findSplitPoint normalized start (min (start + chunkSize) normalized.length))))) := by
  rw [splitLoop, if_pos h]

/-! ### The run of the loop -/

/-- The chunks cut at spans. -/
def chunksAt (normalized : Text) (spans : List Span) : List Text :=
  (spans.map fun span => strip (cut normalized span)).filter (· ≠ [])

theorem appendChunk_append (chunks : List Text) (normalized : Text) (start stop : Nat)
    (spans : List Span) : appendChunk chunks (strip (slice normalized start stop)) ++
      chunksAt normalized spans = chunks ++ chunksAt normalized ((start, stop) :: spans) := by
  rw [appendChunk, chunksAt, chunksAt, List.map_cons]
  show _ = chunks ++ (strip (slice normalized start stop) :: _).filter _
  by_cases hempty : strip (slice normalized start stop) = []
  · simp [hempty]
  · simp [hempty]

section Spans

variable (normalized : Text) (chunkSize chunkOverlap : Nat)

/-- Where the turn of the loop that begins at `start` ends its span. -/
def spanEnd (start : Nat) : Nat :=
  findSplitPoint normalized start (min (start + chunkSize) normalized.length)

/-- The spans that `split_text_into_chunks` cuts in its loop. -/
def spansFrom (start : Nat) : List Span :=
  if start < normalized.length then
    let stop := spanEnd normalized chunkSize start
    if normalized.length ≤ stop then [(start, stop)]
    else (start, stop) :: spansFrom (max (stop - chunkOverlap) (start + 1))
  else []
termination_by normalized.length - start

theorem splitLoop_spans (start : Nat) (chunks : List Text) :
    splitLoop normalized chunkSize chunkOverlap start chunks =
      chunks ++ chunksAt normalized (spansFrom normalized chunkSize chunkOverlap start) := by
  induction hn : normalized.length - start using Nat.strong_induction_on
    generalizing start chunks with
  | _ n ih =>
    rw [spansFrom]
    by_cases hlt : start < normalized.length
    · rw [splitLoop_step hlt, if_pos hlt, ← spanEnd]
      generalize spanEnd normalized chunkSize start = stop
      have happend := appendChunk_append chunks normalized start stop
      by_cases hdone : normalized.length ≤ stop
      · rw [if_pos hdone, if_pos hdone, ← happend]
        simp [chunksAt]
      · rw [if_neg hdone, if_neg hdone, ih _ (by omega) _ _ rfl, happend]
    · rw [splitLoop, if_neg hlt, if_neg hlt]
      simp [chunksAt]

variable {normalized chunkSize}

theorem spanEnd_bounds (hsize : 0 < chunkSize) {start : Nat} (h : start < normalized.length) :
    start < spanEnd normalized chunkSize start ∧
      spanEnd normalized chunkSize start ≤ min (start + chunkSize) normalized.length :=
  splitPoint_bounds normalized
    (show start < min (start + chunkSize) normalized.length by omega)

theorem spansFrom_covers (hsize : 0 < chunkSize) {start : Nat} (h : start < normalized.length) :
    Covers start normalized.length (spansFrom normalized chunkSize chunkOverlap start) ∧
      ∀ span ∈ spansFrom normalized chunkSize chunkOverlap start,
        span.2 ≤ span.1 + chunkSize := by
  induction hn : normalized.length - start using Nat.strong_induction_on generalizing start with
  | _ n ih =>
    obtain ⟨hpos, hle⟩ := spanEnd_bounds hsize h
    rw [spansFrom, if_pos h]
    generalize spanEnd normalized chunkSize start = stop at hpos hle
    have hsized : stop ≤ start + chunkSize := by omega
    by_cases hdone : normalized.length ≤ stop
    · have hend : stop = normalized.length := by omega
      rw [if_pos hdone, ← hend]
      exact ⟨covers_one start stop, List.forall_mem_singleton.mpr hsized⟩
    · obtain ⟨hcovers, hrest⟩ := ih _ (by omega)
        (show max (stop - chunkOverlap) (start + 1) < normalized.length by omega) rfl
      rw [if_neg hdone]
      exact ⟨hcovers.cons (by omega) (by omega), List.forall_mem_cons.mpr ⟨hsized, hrest⟩⟩

end Spans

theorem splitLoop_covers {normalized : Text} {chunkSize : Nat} (hsize : 0 < chunkSize)
    (chunkOverlap : Nat) {start : Nat} (h : start < normalized.length) (chunks : List Text) :
    ∃ spans, Covers start normalized.length spans ∧
      (∀ span ∈ spans, span.2 ≤ span.1 + chunkSize) ∧
      splitLoop normalized chunkSize chunkOverlap start chunks =
        chunks ++ chunksAt normalized spans := by
  obtain ⟨hcovers, hsized⟩ := spansFrom_covers chunkOverlap hsize h
  exact ⟨_, hcovers, hsized, splitLoop_spans normalized chunkSize chunkOverlap start chunks⟩

/-! ### All the chunks of a text -/

theorem overlays_chunksAt {normalized : Text} {spans : List Span}
    (h : Covers 0 normalized.length spans) :
    Overlays (ink normalized) ((chunksAt normalized spans).map ink) := by
  have hpieces : (chunksAt normalized spans).map ink =
      ((spans.map (cut normalized)).map ink).filter (· ≠ []) := by
    rw [chunksAt, List.map_map, List.filter_map, List.filter_map, List.map_map]
    have hkept : (fun span => decide (strip (cut normalized span) ≠ [])) =
        fun span => decide (ink (cut normalized span) ≠ []) := by
      funext span
      exact decide_eq_decide.mpr (not_congr strip_eq_nil_iff)
    show List.map (fun span => ink (strip (cut normalized span)))
      (spans.filter fun span => decide (strip (cut normalized span) ≠ [])) = _
    rw [hkept]
    exact List.map_congr_left fun span _ => ink_strip _
  rw [hpieces]
  exact (h.overlays.filter fun c => !isSpace c).nonempty

theorem length_chunksAt {normalized : Text} {spans : List Span} {chunkSize : Nat}
    (h : ∀ span ∈ spans, span.2 ≤ span.1 + chunkSize) :
    ∀ chunk ∈ chunksAt normalized spans, chunk.length ≤ chunkSize := by
  intro chunk hchunk
  obtain ⟨span, hspan, rfl⟩ := List.mem_map.mp (List.mem_of_mem_filter hchunk)
  have hstrip := length_strip_le (cut normalized span)
  have hcut := length_cut normalized span
  have hsized := h span hspan
  omega

theorem normalizeText_ink (value : Text) :
    (normalizeText (some value) = none ∧ ink value = []) ∨
      ∃ normalized, normalizeText (some value) = some normalized ∧ ink normalized = ink value := by
  have hink : ink (strip (TextLayout.squeeze isSpace value)) = ink value := by
    rw [ink_strip, ink_squeeze]
  by_cases hempty : strip (TextLayout.squeeze isSpace value) = []
  · rw [hempty] at hink
    exact .inl ⟨if_pos hempty, hink.symm⟩
  · exact .inr ⟨_, if_neg hempty, hink⟩

/-- The chunks hold all of the text but whitespace, and none is over the size. -/
theorem splitTextIntoChunks_holds {value : Text} {chunkSize chunkOverlap : Int}
    {texts : List Text} (h : splitTextIntoChunks value chunkSize chunkOverlap = .ok texts) :
    Overlays (ink value) (texts.map ink) ∧ ∀ text ∈ texts, (text.length : Int) ≤ chunkSize := by
  rw [splitTextIntoChunks] at h
  split at h
  · cases h
  · rename_i hsize
    split at h
    · cases h
    · rcases normalizeText_ink value with ⟨hnone, hink⟩ | ⟨normalized, hsome, hink⟩
      · simp only [hnone, Except.ok.injEq] at h
        subst h
        rw [hink]
        exact ⟨⟨[], rfl, by simp⟩, by simp⟩
      · simp only [hsome] at h
        rw [← hink]
        split at h
        · rename_i hshort
          cases h
          exact ⟨overlays_self _, by simpa using hshort⟩
        · cases h
          obtain ⟨spans, hcovers, hsized, hloop⟩ := splitLoop_covers
            (show 0 < chunkSize.toNat by omega) chunkOverlap.toNat
            (show 0 < normalized.length by omega) []
          rw [hloop, List.nil_append]
          refine ⟨overlays_chunksAt hcovers, fun text htext => ?_⟩
          have hlen := length_chunksAt hsized text htext
          omega

end DemoService.RagChunking
