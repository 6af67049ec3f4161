import DemoService.RustLines
import DemoService.SpanCover
import DemoService.TextToolsCalls

/-! The chunks of a text and the spans they are cut from. The spans of one run of
the chunking loop overlap from one end of the text to the other, and trimming a
span drops only whitespace. -/

namespace DemoService.TextTools

open RustText Fallible TextLayout SpanCover

/-! ### One turn of the loop -/

theorem findSplitPoint_le {value : Str} {start hardEnd stop : Nat} (hs : Boundary value start)
    (hh : Boundary value hardEnd) (hlt : start < hardEnd)
    (h : findSplitPoint value start hardEnd = .ok stop) : stop ≤ hardEnd := by
  by_cases hend : utf8Len value ≤ hardEnd
  · rw [findSplitPoint, if_pos hend] at h
    obtain rfl := Except.ok.inj h
    exact hend
  · rw [findSplitPoint, if_neg hend] at h
    obtain ⟨front, window, back, -, hfront, hlen, hslice⟩ := slice_of_boundaries hs hh hlt.le
    obtain ⟨cut, hcut, h⟩ := bind_eq_ok.mp h
    obtain rfl := Except.ok.inj (hslice.symm.trans hcut)
    cases hsplit : splitInWindow window (utf8Len window / 2) splitPatterns with
    | none =>
      rw [hsplit] at h
      exact (pure_eq_ok.mp h).ge
    | some offset =>
      rw [hsplit] at h
      have hoffset := (splitInWindow_boundary (by decide) hsplit).1.le
      have hstop := pure_eq_ok.mp h
      omega

theorem nextBoundaryAtOrBefore_le (value : Str) (index : Nat) :
    nextBoundaryAtOrBefore value index ≤ index := by
  have hle := floorBoundary_le value (min index (utf8Len value))
  rw [nextBoundaryAtOrBefore]
  omega

theorem nextStart_le {normalized : Str} {start stop : Nat} (h : Boundary normalized stop)
    (hlt : start < stop) (chunkOverlap : Nat) :
    nextStart normalized chunkOverlap start stop ≤ stop := by
  have hstop := h.le
  exact ceilBoundary_le h _ (by omega)

/-! ### Chunks -/

structure Pushed (chunkSize : Nat) (texts : List Str) (chunks : List TextChunk) : Prop where
  text : chunks.map TextChunk.text = texts.filter (· ≠ [])
  numbered : chunks.map TextChunk.index = List.range chunks.length
  sized : ∀ chunk ∈ chunks, chunk.text ≠ [] ∧ chunk.bytes = utf8Len chunk.text ∧
    chunk.bytes ≤ chunkSize

theorem pushed_nil (chunkSize : Nat) : Pushed chunkSize [] [] := ⟨rfl, rfl, by simp⟩

theorem Pushed.push {chunkSize : Nat} {texts : List Str} {chunks : List TextChunk}
    (h : Pushed chunkSize texts chunks) {text : Str} (hlen : utf8Len text ≤ chunkSize) :
    Pushed chunkSize (texts ++ [text]) (pushChunk chunks text) := by
  by_cases hempty : text = []
  · have hskip : pushChunk chunks text = chunks := if_pos hempty
    have htext : (texts ++ [text]).filter (· ≠ []) = texts.filter (· ≠ []) := by simp [hempty]
    rw [hskip]
    exact ⟨h.text.trans htext.symm, h.numbered, h.sized⟩
  · have hpush : pushChunk chunks text = chunks ++ [⟨chunks.length, text, utf8Len text⟩] :=
      if_neg hempty
    rw [hpush]
    refine ⟨?_, ?_, ?_⟩
    · simp [h.text, hempty]
    · simp [h.numbered, List.range_succ]
    · intro chunk hchunk
      rcases List.mem_append.mp hchunk with hchunk | hchunk
      · exact h.sized chunk hchunk
      · obtain rfl := List.mem_singleton.mp hchunk
        exact ⟨hempty, rfl, hlen⟩

/-! ### The run of the loop -/

/-- The texts of spans, each cut between two character boundaries. -/
def cutAt (normalized : Str) (spans : List Span) : Except Panic (List Str) :=
  mapAll (fun span => slice normalized span.1 span.2) spans

theorem chunkLoop_covers {normalized : Str} {chunkSize : Nat} (hsize : 4 ≤ chunkSize)
    (chunkOverlap : Nat) {start : Nat} (hs : Boundary normalized start)
    (hlt : start < utf8Len normalized) {texts : List Str} {chunks : List TextChunk}
    (hpushed : Pushed chunkSize texts chunks) :
    ∃ spans cuts result, cutAt normalized spans = .ok cuts ∧
      chunkLoop normalized chunkSize chunkOverlap start chunks = .ok result ∧
      Pushed chunkSize (texts ++ cuts.map trim) result ∧
      Covers start (utf8Len normalized) spans := by
  induction hn : utf8Len normalized - start using Nat.strong_induction_on
    generalizing start texts chunks with
  | _ n ih =>
    have hhard := boundary_nextBoundaryAtOrBefore normalized (start + chunkSize)
    have hgt := lt_hardEnd hs hlt hsize
    obtain ⟨stop, hstop, hboundary, hpos⟩ := findSplitPoint_boundary hs hhard hgt
    obtain ⟨front, span, -, -, hfront, hlen, hspan⟩ := slice_of_boundaries hs hboundary hpos.le
    have hbound : stop ≤ start + chunkSize :=
      (findSplitPoint_le hs hhard hgt hstop).trans (nextBoundaryAtOrBefore_le _ _)
    have htrim : utf8Len (trim span) ≤ chunkSize := by
      have hle : utf8Len (trim span) ≤ utf8Len span := utf8Len_sublist (trim_sublist span)
      omega
    have hpush := hpushed.push htrim
    have hloop : chunkLoop normalized chunkSize chunkOverlap start chunks =
        if utf8Len normalized ≤ stop then pure (pushChunk chunks (trim span))
        else chunkLoop normalized chunkSize chunkOverlap
          (nextStart normalized chunkOverlap start stop) (pushChunk chunks (trim span)) := by
      rw [chunkLoop, dif_pos hlt]
      simp only [hstop, hspan, bind, Except.bind]
    by_cases hdone : utf8Len normalized ≤ stop
    · have hend : stop = utf8Len normalized := le_antisymm hboundary.le hdone
      refine ⟨[(start, stop)], [span], _,
        mapAll_cons_eq_ok.mpr ⟨span, [], hspan, rfl, rfl⟩, ?_, hpush, ?_⟩
      · rw [hloop, if_pos hdone]
        rfl
      · rw [hend]
        exact covers_one start _
    · have hnext := lt_nextStart hlt chunkOverlap stop
      have hnogap := nextStart_le hboundary hpos chunkOverlap
      obtain ⟨spans, cuts, result, hcuts, hresult, hrest, hcovers⟩ :=
        ih _ (by omega) (boundary_nextStart normalized chunkOverlap start stop) (by omega) hpush rfl
      refine ⟨(start, stop) :: spans, span :: cuts, result,
        mapAll_cons_eq_ok.mpr ⟨span, cuts, hspan, hcuts, rfl⟩, ?_, ?_, hcovers.cons hnext hnogap⟩
      · rw [hloop, if_neg hdone]
        exact hresult
      · simpa using hrest

/-! ### Every word is in a chunk -/

/-- A text that holds the character between `front` and `back` at its place. -/
def HoldsAt (front : Str) (c : Char) (back text : Str) : Prop :=
  ∃ pre left right post, front = pre ++ left ∧ text = left ++ c :: right ∧ back = right ++ post

theorem holdsAt_cut {normalized front back cut : Str} {c : Char} {span : Span}
    (hcut : slice normalized span.1 span.2 = .ok cut) (hat : normalized = front ++ c :: back)
    (hlo : span.1 ≤ utf8Len front) (hhi : utf8Len front < span.2) : HoldsAt front c back cut := by
  obtain ⟨pre, post, hsplit, hpre, hlen⟩ := slice_eq_ok hcut
  have hwhole : pre ++ (cut ++ post) = front ++ c :: back := by
    rw [← hat, hsplit, List.append_assoc]
  obtain ⟨left, rfl, hrest⟩ := front_of_utf8Len_le hwhole (by omega)
  have hleft : utf8Len left ≤ utf8Len cut := by
    rw [utf8Len_append] at hhi
    omega
  obtain ⟨inside, rfl, hinside⟩ := front_of_utf8Len_le hrest.symm hleft
  cases inside with
  | nil =>
    rw [List.append_nil] at hlen
    rw [utf8Len_append] at hhi
    omega
  | cons d right =>
    obtain ⟨rfl, rfl⟩ := List.cons.inj hinside
    exact ⟨pre, left, right, post, rfl, rfl, rfl⟩

theorem HoldsAt.trim {front back text : Str} {c : Char} (h : HoldsAt front c back text)
    (hc : ¬ isWhitespace c = true) : HoldsAt front c back (trim text) := by
  obtain ⟨pre, left, right, post, rfl, rfl, rfl⟩ := h
  obtain ⟨blank, hblank⟩ := List.rdropWhile_prefix isWhitespace right
  refine ⟨pre ++ left.takeWhile isWhitespace, left.dropWhile isWhitespace,
    right.rdropWhile isWhitespace, blank ++ post, ?_, trim_around hc left right, ?_⟩
  · rw [List.append_assoc, List.takeWhile_append_dropWhile]
  · rw [← List.append_assoc, hblank]

theorem holdsAt_chunk {normalized : Str} {chunkSize : Nat} {spans : List Span} {cuts : List Str}
    {chunks : List TextChunk} (hcuts : cutAt normalized spans = .ok cuts)
    (hpushed : Pushed chunkSize (cuts.map trim) chunks)
    (hcovers : Covers 0 (utf8Len normalized) spans) {front back : Str} {c : Char}
    (hat : normalized = front ++ c :: back) (hc : ¬ isWhitespace c = true) :
    ∃ chunk ∈ chunks, HoldsAt front c back chunk.text := by
  have hpos := Char.utf8Size_pos c
  have hlt : utf8Len front < utf8Len normalized := by
    rw [hat, utf8Len_append, utf8Len_cons]
    omega
  obtain ⟨span, hspan, hlo, hhi⟩ := hcovers.exists_mem (Nat.zero_le _) hlt
  obtain ⟨cut, hcut, hslice⟩ := mapAll_exists hcuts hspan
  have hholds := (holdsAt_cut hslice hat hlo hhi).trim hc
  have hne : RustText.trim cut ≠ [] := by
    obtain ⟨pre, left, right, post, -, htext, -⟩ := hholds
    rw [htext]
    simp
  have hmem : RustText.trim cut ∈ chunks.map TextChunk.text := by
    rw [hpushed.text, List.mem_filter]
    exact ⟨List.mem_map_of_mem hcut, by simpa using hne⟩
  obtain ⟨chunk, hchunk, htext⟩ := List.mem_map.mp hmem
  exact ⟨chunk, hchunk, htext ▸ hholds⟩

/-- The chunks of a normalized text: numbered, of words, within the size, cut from
overlapping spans, and with every character that is no whitespace in one of them. -/
structure Chunked (normalized : Str) (chunkSize : Nat) (chunks : List TextChunk) : Prop where
  numbered : chunks.map TextChunk.index = List.range chunks.length
  sized : ∀ chunk ∈ chunks, chunk.text ≠ [] ∧ chunk.bytes = utf8Len chunk.text ∧
    chunk.bytes ≤ chunkSize
  spans : ∃ spans cuts, cutAt normalized spans = .ok cuts ∧
    chunks.map TextChunk.text = (cuts.map trim).filter (· ≠ []) ∧
    (normalized ≠ [] → Covers 0 (utf8Len normalized) spans)
  complete : ∀ front c back, normalized = front ++ c :: back → ¬ isWhitespace c = true →
    ∃ chunk ∈ chunks, HoldsAt front c back chunk.text

theorem chunked_of_covers {normalized : Str} {chunkSize : Nat} {spans : List Span}
    {cuts : List Str} {chunks : List TextChunk} (hcuts : cutAt normalized spans = .ok cuts)
    (hpushed : Pushed chunkSize (cuts.map trim) chunks)
    (hcovers : Covers 0 (utf8Len normalized) spans) : Chunked normalized chunkSize chunks :=
  ⟨hpushed.numbered, hpushed.sized, ⟨spans, cuts, hcuts, hpushed.text, fun _ => hcovers⟩,
    fun _ _ _ hat hc => holdsAt_chunk hcuts hpushed hcovers hat hc⟩

theorem chunked_nil (chunkSize : Nat) : Chunked [] chunkSize [] := by
  refine ⟨rfl, by simp, ⟨[], [], rfl, rfl, fun hne => absurd rfl hne⟩, ?_⟩
  intro front c back hat
  simp at hat

theorem chunked_one {normalized : Str} (htrim : trim normalized = normalized)
    (hne : normalized ≠ []) {chunkSize : Nat} (hlen : utf8Len normalized ≤ chunkSize) :
    Chunked normalized chunkSize [⟨0, normalized, utf8Len normalized⟩] := by
  have hslice : slice normalized 0 (utf8Len normalized) = .ok normalized := by
    simpa using slice_append [] normalized []
  have hcuts : cutAt normalized [(0, utf8Len normalized)] = .ok [normalized] :=
    mapAll_cons_eq_ok.mpr ⟨normalized, [], hslice, rfl, rfl⟩
  refine chunked_of_covers hcuts ⟨?_, rfl, ?_⟩ (covers_one 0 _)
  · simp [htrim, hne]
  · simpa using ⟨hne, hlen⟩

theorem trim_normalizeText (value : Str) :
    trim (normalizeText value).text = (normalizeText value).text := by
  have hstrip : (normalizeText value).text = trim (squeeze isWhitespace value) := by
    rw [normalizeText_text, ← strip_squeeze (by decide)]
    rfl
  rw [hstrip]
  exact trim_of_trimmed (trimmed_trim _)

/-- Every text is chunked without a panic, and the chunks cover it. -/
theorem chunkText_covers (value : Str) {chunkSize chunkOverlap : Nat} (hsize : 100 ≤ chunkSize)
    (hoverlap : chunkOverlap < chunkSize) :
    ∃ chunks, chunkText value chunkSize chunkOverlap = .ok chunks ∧
      Chunked (normalizeText value).text chunkSize chunks := by
  have htrim := trim_normalizeText value
  rw [chunkText, if_neg (by omega), if_neg (by omega)]
  generalize (normalizeText value).text = normalized at htrim
  by_cases hempty : normalized = []
  · subst hempty
    exact ⟨[], if_pos rfl, chunked_nil chunkSize⟩
  · by_cases hshort : utf8Len normalized ≤ chunkSize
    · refine ⟨_, ?_, chunked_one htrim hempty hshort⟩
      simp only [if_neg hempty, if_pos hshort]
    · obtain ⟨spans, cuts, chunks, hcuts, hchunks, hpushed, hcovers⟩ :=
        chunkLoop_covers (show 4 ≤ chunkSize by omega) chunkOverlap (boundary_zero normalized)
          (show 0 < utf8Len normalized by omega) (pushed_nil chunkSize)
      refine ⟨chunks, ?_, chunked_of_covers hcuts hpushed hcovers⟩
      simp only [if_neg hempty, if_neg hshort, hchunks, orPanic]

/-- Two spans of one word longer than a chunk. -/
theorem long_word_is_covered : ∃ chunks,
    chunkText (List.replicate 130 'x') 100 10 = .ok chunks ∧
      Chunked (normalizeText (List.replicate 130 'x')).text 100 chunks :=
  chunkText_covers (List.replicate 130 'x') (by decide) (by decide)

end DemoService.TextTools
