import DemoService.ChunkersAgree
import DemoService.RustLines

/-! The spans that the Python chunker cuts its chunks from, and when each of them ends behind the
one before it. -/

namespace DemoService.RagChunking

open PyText SpanCover

/-! ### The spans of a text -/

/-- The spans of a text: one for all of it where it is no longer than a chunk. -/
def spansOf (chunkSize chunkOverlap : Nat) (value : Text) : List Span :=
  match normalizeText (some value) with
  | none => []
  | some normalized =>
    if normalized.length ≤ chunkSize then [(0, normalized.length)]
    else spansFrom normalized chunkSize chunkOverlap 0

def normalizedText (value : Text) : Text := (normalizeText (some value)).getD []

theorem normalizeText_strip {value normalized : Text}
    (h : normalizeText (some value) = some normalized) :
    strip normalized = normalized ∧ normalized ≠ [] := by
  rw [normalizeText, Option.bind_some, orNone] at h
  split at h
  · cases h
  · rename_i hne
    obtain rfl := Option.some.inj h
    exact ⟨strip_strip _, hne⟩

theorem splitTextIntoChunks_spans {chunkSize chunkOverlap : Nat} (hsize : 100 ≤ chunkSize)
    (hoverlap : chunkOverlap < chunkSize) (value : Text) :
    splitTextIntoChunks value chunkSize chunkOverlap =
      .ok (chunksAt (normalizedText value) (spansOf chunkSize chunkOverlap value)) := by
  rw [splitTextIntoChunks_accepted hsize hoverlap, spansOf, normalizedText]
  cases hnormalized : normalizeText (some value) with
  | none => rfl
  | some normalized =>
    by_cases hshort : normalized.length ≤ chunkSize
    · simp only [if_pos hshort, Option.getD_some]
      obtain ⟨hstrip, hne⟩ := normalizeText_strip hnormalized
      rw [chunksAt, List.map_singleton, cut_all, hstrip]
      simp [hne]
    · simp only [if_neg hshort, Option.getD_some, splitLoop_spans, List.nil_append]

/-! ### Ends that move on -/

section Progress

variable {normalized : Text} {chunkSize chunkOverlap : Nat}

theorem lastSplit_gt {window : Text} {minimum offset : Nat} {patterns : List Text}
    (hne : [] ∉ patterns) (h : lastSplit window minimum patterns = some offset) :
    minimum < offset := by
  induction patterns with
  | nil => cases h
  | cons pattern patterns ih =>
    rw [List.mem_cons, not_or] at hne
    have hpos : 0 < pattern.length := List.length_pos_iff.mpr (Ne.symm hne.1)
    rw [lastSplit] at h
    split at h
    · split at h
      · cases h
        omega
      · exact ih hne.2 h
    · exact ih hne.2 h

/-- A span that does not reach the end of the text goes beyond the middle of its window. -/
theorem half_lt_spanEnd (hsize : 0 < chunkSize) {start : Nat}
    (h : spanEnd normalized chunkSize start < normalized.length) :
    start + chunkSize / 2 < spanEnd normalized chunkSize start := by
  rw [spanEnd, findSplitPoint] at h ⊢
  by_cases hend : normalized.length ≤ min (start + chunkSize) normalized.length
  · rw [if_pos hend] at h
    omega
  · rw [if_neg hend]
    have hlen : (slice normalized start (min (start + chunkSize) normalized.length)).length =
        chunkSize := by
      rw [slice, List.length_drop, List.length_take]
      omega
    simp only [hlen]
    split
    · rename_i offset hoffset
      have hgt := lastSplit_gt (by decide) hoffset
      omega
    · omega

theorem spansFrom_cons (chunkSize chunkOverlap : Nat) {start : Nat}
    (h : start < normalized.length) :
    ∃ spans, spansFrom normalized chunkSize chunkOverlap start =
      (start, spanEnd normalized chunkSize start) :: spans := by
  rw [spansFrom, if_pos h]
  by_cases hdone : normalized.length ≤ spanEnd normalized chunkSize start
  · exact ⟨[], if_pos hdone⟩
  · exact ⟨_, if_neg hdone⟩

/-- The next span is ahead by half a window, which an overlap of no more than that half does not
take back. -/
theorem spansFrom_isChain (hsize : 0 < chunkSize) (hoverlap : 2 * chunkOverlap ≤ chunkSize)
    (start : Nat) :
    (spansFrom normalized chunkSize chunkOverlap start).IsChain fun a b => a.2 < b.2 := by
  induction hn : normalized.length - start using Nat.strong_induction_on generalizing start with
  | _ n ih =>
    rw [spansFrom]
    by_cases hlt : start < normalized.length
    · rw [if_pos hlt]
      obtain ⟨hpos, hle⟩ := spanEnd_bounds hsize hlt
      by_cases hdone : normalized.length ≤ spanEnd normalized chunkSize start
      · simp only [if_pos hdone]
        exact List.isChain_singleton _
      · simp only [if_neg hdone]
        generalize spanEnd normalized chunkSize start = stop at hpos hle hdone
        have hnext : max (stop - chunkOverlap) (start + 1) < normalized.length := by omega
        obtain ⟨spans, hspans⟩ := spansFrom_cons chunkSize chunkOverlap hnext
        have hrest := ih _ (by omega) (max (stop - chunkOverlap) (start + 1)) rfl
        rw [hspans] at hrest ⊢
        refine List.IsChain.cons_cons ?_ hrest
        show stop < spanEnd normalized chunkSize (max (stop - chunkOverlap) (start + 1))
        by_cases hlast : spanEnd normalized chunkSize (max (stop - chunkOverlap) (start + 1)) <
            normalized.length
        · have hhalf := half_lt_spanEnd hsize hlast
          omega
        · omega
    · rw [if_neg hlt]
      exact List.isChain_nil

end Progress

/-! ### A blank that ends two spans -/

section Stale

/-- A word as long as the overlap, and behind a blank one that has no place to split. -/
def twoWords (overlap : Nat) (tail : Text) : Text := List.replicate overlap 'a' ++ ' ' :: tail

/-- Nothing in the text makes a split point. -/
def Unsplit (tail : Text) : Prop := ∀ c ∈ tail, c ≠ '\n' ∧ c ≠ '.' ∧ c ≠ ' '

theorem rfind_eq_none {c : Char} {pattern s : Text} (h : c ∉ s) : rfind (c :: pattern) s = none := by
  induction s with
  | nil => rfl
  | cons d s ih =>
    rw [List.mem_cons, not_or] at h
    have hprefix : ¬ (c :: pattern).isPrefixOf (d :: s) = true := by
      simp [List.isPrefixOf, h.1]
    rw [rfind, ih h.2]
    exact if_neg hprefix

theorem rfind_blank {s : Text} (h : ' ' ∉ s) (front : Text) :
    rfind [' '] (front ++ ' ' :: s) = some front.length := by
  induction front with
  | nil =>
    rw [List.nil_append, rfind, rfind_eq_none h]
    rfl
  | cons c front ih =>
    rw [List.cons_append, rfind, ih]
    rfl

theorem lastSplit_blank {n minimum : Nat} {tail : Text} (h : Unsplit tail) (hle : minimum ≤ n) :
    lastSplit (List.replicate n 'a' ++ ' ' :: tail) minimum splitPatterns = some (n + 1) := by
  have hnewline : '\n' ∉ List.replicate n 'a' ++ ' ' :: tail := by
    simpa [List.mem_replicate] using fun hmem => (h _ hmem).1 rfl
  have hdot : '.' ∉ List.replicate n 'a' ++ ' ' :: tail := by
    simpa [List.mem_replicate] using fun hmem => (h _ hmem).2.1 rfl
  have hblank := rfind_blank (fun hmem => (h _ hmem).2.2 rfl) (List.replicate n 'a')
  rw [List.length_replicate] at hblank
  simp only [splitPatterns, lastSplit, rfind_eq_none hnewline, rfind_eq_none hdot, hblank,
    if_pos hle, List.length_singleton]

theorem slice_twoWords {overlap start stop : Nat} (hstart : start ≤ overlap) (hstop : overlap < stop)
    (tail : Text) : slice (twoWords overlap tail) start stop =
      List.replicate (overlap - start) 'a' ++ ' ' :: tail.take (stop - (overlap + 1)) := by
  obtain ⟨more, rfl⟩ : ∃ more, stop = overlap + (more + 1) := ⟨stop - overlap - 1, by omega⟩
  have htake : (twoWords overlap tail).take (overlap + (more + 1)) =
      List.replicate overlap 'a' ++ ' ' :: tail.take more := by
    rw [twoWords, List.take_append, List.length_replicate]
    simp
  have hmore : overlap + (more + 1) - (overlap + 1) = more := by omega
  have hstart : start - overlap = 0 := by omega
  rw [slice, htake, hmore, List.drop_append, List.length_replicate, List.drop_replicate, hstart,
    List.drop_zero]

theorem length_twoWords (overlap : Nat) (tail : Text) :
    (twoWords overlap tail).length = overlap + (tail.length + 1) := by
  rw [twoWords, List.length_append, List.length_replicate, List.length_cons]

variable {overlap chunkSize : Nat} {tail : Text}

theorem spanEnd_twoWords (h : Unsplit tail) {start : Nat} (hinside : overlap < start + chunkSize)
    (hhalf : start + max 1 (chunkSize / 2) ≤ overlap)
    (hlong : start + chunkSize < (twoWords overlap tail).length) :
    spanEnd (twoWords overlap tail) chunkSize start = overlap + 1 := by
  have hmin : min (start + chunkSize) (twoWords overlap tail).length = start + chunkSize := by omega
  have hwindow : (slice (twoWords overlap tail) start (start + chunkSize)).length = chunkSize := by
    rw [slice, List.length_drop, List.length_take]
    omega
  have hunsplit : Unsplit (tail.take (start + chunkSize - (overlap + 1))) := fun c hc =>
    h c (List.take_subset _ _ hc)
  have hsplit := lastSplit_blank hunsplit
    (show max 1 (chunkSize / 2) ≤ overlap - start by omega)
  rw [spanEnd, hmin, findSplitPoint, if_neg (by omega)]
  simp only [hwindow]
  rw [slice_twoWords (by omega) hinside, hsplit]
  show start + (overlap - start + 1) = overlap + 1
  omega

/-- An overlap over half the size takes the loop back so far that it splits at the same blank. -/
theorem spansFrom_twoWords (h : Unsplit tail) (hsize : 2 ≤ chunkSize)
    (hoverlap : overlap < chunkSize) (hover : chunkSize < 2 * overlap)
    (hlong : 2 * chunkSize ≤ tail.length) :
    ∃ spans, spansFrom (twoWords overlap tail) chunkSize overlap 0 =
      (0, overlap + 1) :: (1, overlap + 1) :: spans := by
  have hlen := length_twoWords overlap tail
  have hfirst := spanEnd_twoWords h (show overlap < 0 + chunkSize by omega) (by omega) (by omega)
  have hsecond := spanEnd_twoWords h (show overlap < 1 + chunkSize by omega) (by omega) (by omega)
  have hnext : max (overlap + 1 - overlap) (0 + 1) = 1 := by omega
  obtain ⟨spans, hspans⟩ := spansFrom_cons chunkSize overlap
    (show 1 < (twoWords overlap tail).length by omega)
  rw [spansFrom, if_pos (by omega)]
  simp only [hfirst]
  rw [if_neg (by omega), hnext, hspans, hsecond]
  exact ⟨spans, rfl⟩

theorem normalizeText_twoWords (hoverlap : 0 < overlap) (htail : 0 < tail.length)
    (h : ∀ c ∈ tail, ¬ RustText.isWhitespace c = true) :
    (TextTools.normalizeText (twoWords overlap tail)).text = twoWords overlap tail := by
  have hfirst : RustText.IsWord (List.replicate overlap 'a') := by
    refine ⟨List.ne_nil_of_length_pos (by rwa [List.length_replicate]), fun c hc => ?_⟩
    rw [List.eq_of_mem_replicate hc]
    decide
  have hsecond : RustText.IsWord tail := ⟨List.ne_nil_of_length_pos htail, h⟩
  have hjoin : twoWords overlap tail = RustText.join [' '] [List.replicate overlap 'a', tail] := by
    simp [twoWords, RustText.join]
  rw [TextTools.normalizeText, hjoin, RustText.splitWhitespace_join]
  exact List.forall_mem_cons.mpr ⟨hfirst, List.forall_mem_singleton.mpr hsecond⟩

end Stale

/-! ### Every text -/

section Texts

variable {chunkSize chunkOverlap : Nat}

/-- Of the spans of a text each ends behind the one before it, and there are no more chunks than
ends. -/
structure NoRedundantChunk (chunkSize chunkOverlap : Nat) (value : Text) : Prop where
  advancing : Advancing (spansOf chunkSize chunkOverlap value)
  bounded : ∀ texts, splitTextIntoChunks value chunkSize chunkOverlap = .ok texts →
    texts.length ≤ ((spansOf chunkSize chunkOverlap value).map Prod.snd).dedup.length

theorem length_chunksAt_le (normalized : Text) (spans : List Span) :
    (chunksAt normalized spans).length ≤ spans.length := by
  have hfilter := List.length_filter_le (fun chunk : Text => decide (chunk ≠ []))
    (spans.map fun span => strip (cut normalized span))
  rwa [List.length_map] at hfilter

theorem noRedundantChunk (hsize : 100 ≤ chunkSize) (hoverlap : chunkOverlap < chunkSize)
    (hhalf : 2 * chunkOverlap ≤ chunkSize) (value : Text) :
    NoRedundantChunk chunkSize chunkOverlap value := by
  have hchain : (spansOf chunkSize chunkOverlap value).IsChain fun a b => a.2 < b.2 := by
    rw [spansOf]
    cases normalizeText (some value) with
    | none => exact List.isChain_nil
    | some normalized =>
      by_cases hshort : normalized.length ≤ chunkSize
      · simp only [if_pos hshort]
        exact List.isChain_singleton _
      · simp only [if_neg hshort]
        exact spansFrom_isChain (by omega) hhalf 0
  have hadvancing := advancing_of_isChain hchain
  refine ⟨hadvancing, fun texts htexts => ?_⟩
  obtain rfl := Except.ok.inj ((splitTextIntoChunks_spans hsize hoverlap value).symm.trans htexts)
  rw [← hadvancing.distinct]
  exact length_chunksAt_le _ _

def staleText (chunkSize overlap : Nat) : Text :=
  twoWords overlap (List.replicate (2 * chunkSize) 'b')

theorem staleText_plain (chunkSize overlap : Nat) : Plain (staleText chunkSize overlap) := by
  intro c hc
  rcases List.mem_append.mp hc with hc | hc
  · rw [List.eq_of_mem_replicate hc]
    decide
  · rcases List.mem_cons.mp hc with rfl | hc
    · decide
    · rw [List.eq_of_mem_replicate hc]
      decide

theorem spansOf_staleText (hsize : 100 ≤ chunkSize) (hoverlap : chunkOverlap < chunkSize)
    (hover : chunkSize < 2 * chunkOverlap) :
    ∃ spans, spansOf chunkSize chunkOverlap (staleText chunkSize chunkOverlap) =
      (0, chunkOverlap + 1) :: (1, chunkOverlap + 1) :: spans := by
  have htail : (List.replicate (2 * chunkSize) 'b').length = 2 * chunkSize := List.length_replicate
  have hunsplit : Unsplit (List.replicate (2 * chunkSize) 'b') := by
    intro c hc
    rw [List.eq_of_mem_replicate hc]
    decide
  have hword : ∀ c ∈ List.replicate (2 * chunkSize) 'b', ¬ RustText.isWhitespace c = true := by
    intro c hc
    rw [List.eq_of_mem_replicate hc]
    decide
  have hlen := length_twoWords chunkOverlap (List.replicate (2 * chunkSize) 'b')
  have hnormalized : normalizeText (some (staleText chunkSize chunkOverlap)) =
      some (staleText chunkSize chunkOverlap) := by
    rw [normalizeText, Option.bind_some, ← normalizeText_agrees (staleText_plain _ _), staleText,
      normalizeText_twoWords (by omega) (by omega) hword]
    exact if_neg (List.ne_nil_of_length_pos (by omega))
  obtain ⟨spans, hspans⟩ := spansFrom_twoWords hunsplit (by omega) hoverlap hover (by omega)
  have hlong : ¬ (staleText chunkSize chunkOverlap).length ≤ chunkSize := by
    rw [staleText, hlen, htail]
    omega
  refine ⟨spans, ?_⟩
  rw [spansOf, hnormalized]
  exact (if_neg hlong).trans hspans

theorem not_noRedundantChunk (hsize : 100 ≤ chunkSize) (hoverlap : chunkOverlap < chunkSize)
    (hover : chunkSize < 2 * chunkOverlap) :
    ¬ NoRedundantChunk chunkSize chunkOverlap (staleText chunkSize chunkOverlap) := by
  obtain ⟨spans, hspans⟩ := spansOf_staleText hsize hoverlap hover
  intro h
  have hadvancing := h.advancing
  rw [hspans] at hadvancing
  exact not_advancing_of_same_end hadvancing

end Texts

end DemoService.RagChunking
