import DemoService.ChunkCover
import DemoService.RedundantChunks

/-! The spans that the sidecar's chunker cuts its chunks from, and when each of them ends behind the
one before it. A window ends at a character boundary, so it can be three bytes short. -/

namespace DemoService.TextTools

open RustText Fallible SpanCover
open RagChunking (twoWords Unsplit)

/-! ### The spans of a run -/

/-- Where the turn of the loop that begins at `start` ends its span. -/
def spanEnd (normalized : Str) (chunkSize start : Nat) : Except Panic Nat :=
  findSplitPoint normalized start (nextBoundaryAtOrBefore normalized (start + chunkSize))

/-- The spans that `chunk_text` cuts in its loop. -/
def spansFrom (normalized : Str) (chunkSize chunkOverlap start : Nat) :
    Except Panic (List Span) :=
  if _hstart : start < utf8Len normalized then do
    let stop ← spanEnd normalized chunkSize start
    if utf8Len normalized ≤ stop then pure [(start, stop)]
    else do
      let spans ← spansFrom normalized chunkSize chunkOverlap
        (nextStart normalized chunkOverlap start stop)
      pure ((start, stop) :: spans)
  else pure []
termination_by utf8Len normalized - start
decreasing_by
  have hnext := lt_nextStart _hstart chunkOverlap stop
  omega

/-- The spans of a text: one for all of it where it is no longer than a chunk. -/
def spansOf (chunkSize chunkOverlap : Nat) (value : Str) : Except Panic (List Span) :=
  let normalized := (normalizeText value).text
  if normalized = [] then .ok []
  else if utf8Len normalized ≤ chunkSize then .ok [(0, utf8Len normalized)]
  else spansFrom normalized chunkSize chunkOverlap 0

section Run

variable {normalized : Str} {chunkSize chunkOverlap : Nat}

theorem pushChunk_text (chunks : List TextChunk) (chunk : Str) :
    (pushChunk chunks chunk).map TextChunk.text =
      chunks.map TextChunk.text ++ [chunk].filter (· ≠ []) := by
  by_cases hempty : chunk = []
  · simp [pushChunk, hempty]
  · simp [pushChunk, hempty]

theorem chunkLoop_spans {start : Nat} {chunks result : List TextChunk}
    (h : chunkLoop normalized chunkSize chunkOverlap start chunks = .ok result) :
    ∃ spans cuts, spansFrom normalized chunkSize chunkOverlap start = .ok spans ∧
      cutAt normalized spans = .ok cuts ∧
      result.map TextChunk.text =
        chunks.map TextChunk.text ++ (cuts.map trim).filter (· ≠ []) := by
  induction hn : utf8Len normalized - start using Nat.strong_induction_on
    generalizing start chunks with
  | _ n ih =>
    rw [chunkLoop] at h
    rw [spansFrom]
    by_cases hlt : start < utf8Len normalized
    · rw [dif_pos hlt] at h ⊢
      obtain ⟨stop, hstop, h⟩ := bind_eq_ok.mp h
      obtain ⟨span, hspan, h⟩ := bind_eq_ok.mp h
      have hpush := pushChunk_text chunks (trim span)
      rw [← spanEnd] at hstop
      simp only [hstop, bind, Except.bind]
      by_cases hdone : utf8Len normalized ≤ stop
      · rw [if_pos hdone] at h ⊢
        obtain rfl := pure_eq_ok.mp h
        exact ⟨_, [span], rfl, mapAll_cons_eq_ok.mpr ⟨span, [], hspan, rfl, rfl⟩, hpush⟩
      · rw [if_neg hdone] at h ⊢
        have hnext := lt_nextStart hlt chunkOverlap stop
        obtain ⟨spans, cuts, hspans, hcuts, htexts⟩ := ih _ (by omega) h rfl
        rw [hspans]
        refine ⟨_, span :: cuts, rfl, mapAll_cons_eq_ok.mpr ⟨span, cuts, hspan, hcuts, rfl⟩, ?_⟩
        rw [htexts, hpush, List.append_assoc, ← List.filter_append]
        rfl
    · rw [dif_neg hlt] at h ⊢
      obtain rfl := pure_eq_ok.mp h
      exact ⟨[], [], rfl, rfl, by simp⟩

end Run

theorem chunkText_spans {chunkSize chunkOverlap : Nat} {value : Str} {chunks : List TextChunk}
    (h : chunkText value chunkSize chunkOverlap = .ok chunks) :
    ∃ spans cuts, spansOf chunkSize chunkOverlap value = .ok spans ∧
      cutAt (normalizeText value).text spans = .ok cuts ∧
      chunks.map TextChunk.text = (cuts.map trim).filter (· ≠ []) := by
  have htrim := trim_normalizeText value
  rw [chunkText] at h
  split at h
  · cases h
  · split at h
    · cases h
    · rw [spansOf]
      generalize (normalizeText value).text = normalized at h htrim ⊢
      by_cases hempty : normalized = []
      · simp only [if_pos hempty] at h ⊢
        cases h
        exact ⟨[], [], rfl, rfl, rfl⟩
      · simp only [if_neg hempty] at h ⊢
        by_cases hshort : utf8Len normalized ≤ chunkSize
        · rw [if_pos hshort] at h ⊢
          cases h
          have hslice : slice normalized 0 (utf8Len normalized) = .ok normalized := by
            simpa using slice_append [] normalized []
          refine ⟨_, [normalized], rfl, mapAll_cons_eq_ok.mpr ⟨_, [], hslice, rfl, rfl⟩, ?_⟩
          simp [htrim, hempty]
        · rw [if_neg hshort] at h ⊢
          cases hloop : chunkLoop normalized chunkSize chunkOverlap 0 [] with
          | error cause =>
            rw [hloop] at h
            cases h
          | ok result =>
            rw [hloop] at h
            cases h
            exact chunkLoop_spans hloop

/-! ### Ends that move on -/

section Progress

variable {normalized : Str} {chunkSize chunkOverlap : Nat}

theorem splitInWindow_gt {window : Str} {minimum offset : Nat} {patterns : List Str}
    (hne : [] ∉ patterns) (h : splitInWindow window minimum patterns = some offset) :
    minimum < offset := by
  induction patterns with
  | nil => cases h
  | cons pattern patterns ih =>
    rw [List.mem_cons, not_or] at hne
    have hpos : 0 < utf8Len pattern := by
      obtain ⟨c, rest, rfl⟩ := List.exists_cons_of_ne_nil (Ne.symm hne.1)
      have hc := Char.utf8Size_pos c
      rw [utf8Len_cons]
      omega
    rw [splitInWindow] at h
    split at h
    · split at h
      · cases h
        omega
      · exact ih hne.2 h
    · exact ih hne.2 h

/-- At most three bytes lie between an offset and the boundary before it. -/
theorem floorBoundary_near {s : Str} {index : Nat} (h : index ≤ utf8Len s) :
    index ≤ floorBoundary s index + 3 := by
  have hboundary := floorBoundary_boundary s index
  by_cases hend : floorBoundary s index < utf8Len s
  · obtain ⟨next, hnext, hgt, hle⟩ := hboundary.next hend
    by_cases hbelow : next ≤ index
    · have hfloor := le_floorBoundary hnext hbelow
      omega
    · omega
  · omega

theorem nextBoundaryAtOrBefore_near (value : Str) (index : Nat) :
    index ≤ nextBoundaryAtOrBefore value index + 3 ∨
      nextBoundaryAtOrBefore value index = utf8Len value := by
  rw [nextBoundaryAtOrBefore]
  by_cases hinside : index ≤ utf8Len value
  · rw [min_eq_left hinside]
    exact .inl (floorBoundary_near hinside)
  · rw [min_eq_right (by omega)]
    exact .inr (le_antisymm (floorBoundary_le _ _) (le_floorBoundary (boundary_length value) le_rfl))

theorem half_lt_spanEnd (hsize : 4 ≤ chunkSize) {start stop : Nat} (hs : Boundary normalized start)
    (h : spanEnd normalized chunkSize start = .ok stop) (hlt : stop < utf8Len normalized) :
    start + (chunkSize - 3) / 2 < stop := by
  have hhard := boundary_nextBoundaryAtOrBefore normalized (start + chunkSize)
  have hnear := nextBoundaryAtOrBefore_near normalized (start + chunkSize)
  rw [spanEnd, findSplitPoint] at h
  generalize nextBoundaryAtOrBefore normalized (start + chunkSize) = hardEnd at hhard hnear h
  by_cases hend : utf8Len normalized ≤ hardEnd
  · rw [if_pos hend] at h
    obtain rfl := Except.ok.inj h
    exact absurd hlt (lt_irrefl _)
  · rw [if_neg hend] at h
    have hwide : start + chunkSize ≤ hardEnd + 3 := by omega
    obtain ⟨front, window, back, -, hfront, hlen, hslice⟩ :=
      slice_of_boundaries hs hhard (by omega)
    rw [hslice] at h
    obtain ⟨cut, hcut, h⟩ := bind_eq_ok.mp h
    obtain rfl := Except.ok.inj hcut
    cases hsplit : splitInWindow window (utf8Len window / 2) splitPatterns with
    | none =>
      rw [hsplit] at h
      have hstop := pure_eq_ok.mp h
      omega
    | some offset =>
      rw [hsplit] at h
      have hstop := pure_eq_ok.mp h
      have hgt := splitInWindow_gt (by decide) hsplit
      omega

theorem sub_le_nextStart {stop : Nat} (h : stop ≤ utf8Len normalized) (chunkOverlap start : Nat) :
    stop - chunkOverlap ≤ nextStart normalized chunkOverlap start stop := by
  have hle := le_ceilBoundary normalized
    (utf8Len normalized - min (max (stop - chunkOverlap) (start + 1)) (utf8Len normalized))
    (min (max (stop - chunkOverlap) (start + 1)) (utf8Len normalized))
  rw [nextStart, nextBoundaryAtOrAfter]
  omega

theorem spansFrom_cons {start : Nat} {spans : List Span} (h : start < utf8Len normalized)
    (hspans : spansFrom normalized chunkSize chunkOverlap start = .ok spans) :
    ∃ stop more, spanEnd normalized chunkSize start = .ok stop ∧ spans = (start, stop) :: more ∧
      (utf8Len normalized ≤ stop ∧ more = [] ∨ stop < utf8Len normalized ∧
        spansFrom normalized chunkSize chunkOverlap (nextStart normalized chunkOverlap start stop) =
          .ok more) := by
  rw [spansFrom, dif_pos h] at hspans
  obtain ⟨stop, hstop, hspans⟩ := bind_eq_ok.mp hspans
  by_cases hdone : utf8Len normalized ≤ stop
  · rw [if_pos hdone] at hspans
    exact ⟨stop, [], hstop, (pure_eq_ok.mp hspans).symm, .inl ⟨hdone, rfl⟩⟩
  · rw [if_neg hdone] at hspans
    obtain ⟨more, hmore, hspans⟩ := bind_eq_ok.mp hspans
    exact ⟨stop, more, hstop, (pure_eq_ok.mp hspans).symm, .inr ⟨Nat.lt_of_not_le hdone, hmore⟩⟩

/-- The next span is ahead by half of the shortest window, which an overlap of no more than that does
not take back. -/
theorem spansFrom_isChain (hsize : 4 ≤ chunkSize) (hoverlap : 2 * chunkOverlap + 3 ≤ chunkSize)
    {start : Nat} (hs : Boundary normalized start) {spans : List Span}
    (h : spansFrom normalized chunkSize chunkOverlap start = .ok spans) :
    spans.IsChain fun a b => a.2 < b.2 := by
  induction hn : utf8Len normalized - start using Nat.strong_induction_on
    generalizing start spans with
  | _ n ih =>
    by_cases hlt : start < utf8Len normalized
    · obtain ⟨stop, more, hstop, rfl, ⟨-, rfl⟩ | ⟨hinside, hmore⟩⟩ := spansFrom_cons hlt h
      · exact List.isChain_singleton _
      · have hgt := lt_nextStart hlt chunkOverlap stop
        have hback := sub_le_nextStart hinside.le chunkOverlap start
        have hnext := boundary_nextStart normalized chunkOverlap start stop
        generalize nextStart normalized chunkOverlap start stop = next at hgt hback hnext hmore
        have hrest := ih _ (by omega) hnext hmore rfl
        by_cases hend : next < utf8Len normalized
        · obtain ⟨stop', more', hstop', rfl, -⟩ := spansFrom_cons hend hmore
          refine List.IsChain.cons_cons ?_ hrest
          show stop < stop'
          by_cases hlast : stop' < utf8Len normalized
          · have hhalf := half_lt_spanEnd hsize hnext hstop' hlast
            omega
          · omega
        · rw [spansFrom, dif_neg hend] at hmore
          obtain rfl := pure_eq_ok.mp hmore
          exact List.isChain_singleton _
    · rw [spansFrom, dif_neg hlt] at h
      obtain rfl := pure_eq_ok.mp h
      exact List.isChain_nil

end Progress

/-! ### A blank that ends two spans -/

section Stale

theorem floorBoundary_before {front back : Str} {c : Char} {index : Nat}
    (hle : utf8Len front ≤ index) (hlt : index < utf8Len front + c.utf8Size) :
    floorBoundary (front ++ c :: back) index = utf8Len front := by
  have hfront : Boundary (front ++ c :: back) (utf8Len front) := ⟨front, _, rfl, rfl⟩
  refine le_antisymm (Nat.le_of_not_lt fun hgt => ?_) (le_floorBoundary hfront hle)
  obtain ⟨before, after, hsplit, hlen⟩ := floorBoundary_boundary (front ++ c :: back) index
  have hbelow := floorBoundary_le (front ++ c :: back) index
  rw [← hlen] at hgt hbelow
  obtain ⟨mid, rfl, hmid⟩ := front_of_utf8Len_le hsplit hgt.le
  cases mid with
  | nil =>
    rw [List.append_nil] at hgt
    exact lt_irrefl _ hgt
  | cons d mid =>
    obtain ⟨rfl, -⟩ := List.cons.inj hmid
    rw [utf8Len_append, utf8Len_cons] at hbelow
    omega

theorem twoWords_ascii (overlap : Nat) {tail : Str} (h : IsAscii tail) :
    IsAscii (twoWords overlap tail) := by
  intro c hc
  rcases List.mem_append.mp hc with hc | hc
  · rw [List.eq_of_mem_replicate hc]
    decide
  · rcases List.mem_cons.mp hc with rfl | hc
    · decide
    · exact h c hc

variable {overlap chunkSize : Nat} {inside back : Str} {c : Char}

theorem twoWords_append (overlap : Nat) (inside back : Str) :
    twoWords overlap (inside ++ back) = twoWords overlap inside ++ back := by
  simp [twoWords]

theorem replicate_ascii (n : Nat) : IsAscii (List.replicate n 'a') := by
  intro c hc
  rw [List.eq_of_mem_replicate hc]
  decide

theorem utf8Len_twoWords (overlap : Nat) {tail : Str} (h : IsAscii tail) :
    utf8Len (twoWords overlap tail) = overlap + 1 + tail.length := by
  rw [utf8Len_of_ascii (twoWords_ascii overlap h), RagChunking.length_twoWords]
  omega

theorem slice_window (hascii : IsAscii inside) {start : Nat} (h : start ≤ overlap) (back : Str) :
    slice (twoWords overlap inside ++ back) start (overlap + 1 + inside.length) =
      .ok (twoWords (overlap - start) inside) := by
  have hword : twoWords overlap inside =
      List.replicate start 'a' ++ twoWords (overlap - start) inside := by
    rw [twoWords, twoWords, ← List.append_assoc, ← List.replicate_add, Nat.add_sub_cancel' h]
  have hstart : utf8Len (List.replicate start 'a') = start := by
    rw [utf8Len_of_ascii (replicate_ascii start), List.length_replicate]
  have hslice := slice_append (List.replicate start 'a') (twoWords (overlap - start) inside) back
  rw [hstart, utf8Len_twoWords _ hascii, ← hword] at hslice
  have hstop : start + (overlap - start + 1 + inside.length) = overlap + 1 + inside.length := by omega
  rwa [hstop] at hslice

theorem spanEnd_twoWords (hascii : IsAscii inside) (h : Unsplit inside) {start : Nat}
    (hle : overlap + 1 + inside.length ≤ start + chunkSize)
    (hlt : start + chunkSize < overlap + 1 + inside.length + c.utf8Size)
    (hhalf : (overlap - start + 1 + inside.length) / 2 ≤ overlap - start)
    (hinside : start ≤ overlap) (back : Str) :
    spanEnd (twoWords overlap (inside ++ c :: back)) chunkSize start = .ok (overlap + 1) := by
  have hlen := utf8Len_twoWords overlap hascii
  have hwhole : utf8Len (twoWords overlap inside ++ c :: back) =
      overlap + 1 + inside.length + (c.utf8Size + utf8Len back) := by
    rw [utf8Len_append, hlen, utf8Len_cons]
  have hpos := Char.utf8Size_pos c
  have hhard : nextBoundaryAtOrBefore (twoWords overlap inside ++ c :: back) (start + chunkSize) =
      overlap + 1 + inside.length := by
    rw [nextBoundaryAtOrBefore, min_eq_left (by omega),
      floorBoundary_before (by omega) (by omega), hlen]
  have hsplit : splitInWindow (twoWords (overlap - start) inside)
      (utf8Len (twoWords (overlap - start) inside) / 2) splitPatterns =
        some (overlap - start + 1) :=
    (RagChunking.splitInWindow_agrees (twoWords_ascii (overlap - start) hascii) _
      RagChunking.splitPatterns_ascii).trans
        (RagChunking.lastSplit_blank h (by rwa [utf8Len_twoWords _ hascii]))
  rw [twoWords_append, spanEnd, hhard, findSplitPoint, if_neg (by omega),
    slice_window hascii hinside]
  simp only [bind, Except.bind, hsplit]
  have hstop : start + (overlap - start + 1) = overlap + 1 := by omega
  exact congrArg Except.ok hstop

/-- Where the loop begins at the second character again and ends its span at the same place, the
ends of the spans do not move on. -/
theorem not_advancing {value : Str} (hnormalized : (normalizeText value).text = value)
    (hlong : chunkSize < utf8Len value) (hoverlap : overlap < chunkSize)
    (hsecond : Boundary value 1) (hfirst : spanEnd value chunkSize 0 = .ok (overlap + 1))
    (hagain : spanEnd value chunkSize 1 = .ok (overlap + 1)) {spans : List Span}
    (h : spansOf chunkSize overlap value = .ok spans) : ¬ Advancing spans := by
  have hne : value ≠ [] := by
    rintro rfl
    simp at hlong
  rw [spansOf, hnormalized] at h
  simp only [if_neg hne, if_neg (Nat.not_le_of_lt hlong)] at h
  obtain ⟨stop, more, hstop, rfl, hmore⟩ := spansFrom_cons (by omega) h
  obtain rfl := Except.ok.inj (hfirst.symm.trans hstop)
  have hnext : nextStart value overlap 0 (overlap + 1) = 1 := by
    have hgt := lt_nextStart (show 0 < utf8Len value by omega) overlap (overlap + 1)
    have hle : nextStart value overlap 0 (overlap + 1) ≤ 1 := ceilBoundary_le hsecond _ (by omega)
    omega
  rcases hmore with ⟨hend, -⟩ | ⟨-, hmore⟩
  · omega
  · rw [hnext] at hmore
    obtain ⟨stop', more', hstop', rfl, -⟩ := spansFrom_cons (by omega) hmore
    obtain rfl := Except.ok.inj (hagain.symm.trans hstop')
    exact not_advancing_of_same_end

/-- A character of four bytes. -/
def wideChar : Char := Char.ofNat 0x1F600

/-- The window ends in a character of four bytes where the overlap is within a byte of half the
size, and in one of a single byte where it is over half. -/
def staleText (chunkSize overlap : Nat) : Str :=
  if chunkSize < 2 * overlap then RagChunking.staleText chunkSize overlap
  else twoWords overlap
    (List.replicate (chunkSize - (overlap + 3)) 'b' ++ wideChar :: List.replicate chunkSize 'b')

theorem plain_bs {n : Nat} {p : Char → Prop} (h : p 'b') : ∀ c ∈ List.replicate n 'b', p c := by
  intro c hc
  rwa [List.eq_of_mem_replicate hc]

theorem boundary_twoWords (h : 0 < overlap) (tail : Str) : Boundary (twoWords overlap tail) 1 := by
  obtain ⟨n, rfl⟩ := Nat.exists_eq_succ_of_ne_zero (Nat.ne_of_gt h)
  exact ⟨['a'], twoWords n tail, rfl, by decide⟩

theorem spanEnd_staleText (hoverlap : overlap < chunkSize) (hover : chunkSize < 2 * overlap)
    {start : Nat} (hstart : start ≤ 1) :
    spanEnd (RagChunking.staleText chunkSize overlap) chunkSize start = .ok (overlap + 1) := by
  have hbs : List.replicate (2 * chunkSize) 'b' =
      List.replicate (start + chunkSize - (overlap + 1)) 'b' ++
        'b' :: List.replicate (2 * chunkSize - (start + chunkSize - overlap)) 'b' := by
    rw [← List.replicate_succ, ← List.replicate_add]
    congr 1
    omega
  have hsize : 'b'.utf8Size = 1 := by decide
  rw [RagChunking.staleText, hbs]
  refine spanEnd_twoWords (plain_bs (by decide)) (plain_bs (by decide)) ?_ ?_ ?_ (by omega) _
  all_goals
    simp only [List.length_replicate, hsize]
    omega

/-- With less than half of the shortest window before the overlap, one text has a span that ends
where the one before it does. -/
theorem not_advancing_staleText (hsize : 100 ≤ chunkSize) (hoverlap : overlap < chunkSize)
    (hover : chunkSize < 2 * overlap + 3) {spans : List Span}
    (h : spansOf chunkSize overlap (staleText chunkSize overlap) = .ok spans) :
    ¬ Advancing spans := by
  rw [staleText] at h
  by_cases hhalf : chunkSize < 2 * overlap
  · rw [if_pos hhalf] at h
    have htail : (List.replicate (2 * chunkSize) 'b').length = 2 * chunkSize :=
      List.length_replicate
    have hascii : IsAscii (List.replicate (2 * chunkSize) 'b') := plain_bs (by decide)
    have hlen := utf8Len_twoWords overlap hascii
    refine not_advancing ?_ ?_ hoverlap (boundary_twoWords (by omega) _)
      (spanEnd_staleText hoverlap hhalf (Nat.zero_le 1))
      (spanEnd_staleText hoverlap hhalf (le_refl 1)) h
    · exact RagChunking.normalizeText_twoWords (by omega) (by omega) (plain_bs (by decide))
    · omega
  · rw [if_neg hhalf] at h
    have hinside : IsAscii (List.replicate (chunkSize - (overlap + 3)) 'b') :=
      plain_bs (by decide)
    have hlen := utf8Len_twoWords overlap hinside
    have hwide : wideChar.utf8Size = 4 := by decide
    have htail : (List.replicate (chunkSize - (overlap + 3)) 'b').length =
        chunkSize - (overlap + 3) := List.length_replicate
    refine not_advancing ?_ ?_ hoverlap (boundary_twoWords (by omega) _)
      (spanEnd_twoWords hinside (plain_bs (by decide)) ?_ ?_ ?_ (Nat.zero_le _) _)
      (spanEnd_twoWords hinside (plain_bs (by decide)) ?_ ?_ ?_ (by omega) _) h
    · refine RagChunking.normalizeText_twoWords (by omega) (by simp) ?_
      refine List.forall_mem_append.mpr ⟨plain_bs (by decide), ?_⟩
      exact List.forall_mem_cons.mpr ⟨by decide, plain_bs (by decide)⟩
    · have hback : IsAscii (List.replicate chunkSize 'b') := plain_bs (by decide)
      rw [twoWords_append, utf8Len_append, hlen, utf8Len_cons, utf8Len_of_ascii hback,
        List.length_replicate]
      omega
    all_goals
      simp only [htail, hwide]
      omega

end Stale

/-! ### Every text -/

section Texts

/-- Of the spans of a text each ends behind the one before it, and there are no more chunks than
ends. -/
def NoRedundantChunk (chunkSize chunkOverlap : Nat) (value : Str) : Prop :=
  ∃ spans chunks, spansOf chunkSize chunkOverlap value = .ok spans ∧
    chunkText value chunkSize chunkOverlap = .ok chunks ∧ Advancing spans ∧
      chunks.length ≤ (spans.map Prod.snd).dedup.length

variable {chunkSize chunkOverlap : Nat}

theorem noRedundantChunk (hsize : 100 ≤ chunkSize) (hoverlap : chunkOverlap < chunkSize)
    (hhalf : 2 * chunkOverlap + 3 ≤ chunkSize) (value : Str) :
    NoRedundantChunk chunkSize chunkOverlap value := by
  have hsucceeds : Succeeds (chunkText value chunkSize chunkOverlap) :=
    chunkText_succeeds_iff.mpr ⟨hsize, hoverlap⟩
  obtain ⟨chunks, hchunks⟩ := hsucceeds
  obtain ⟨spans, cuts, hspans, hcuts, htexts⟩ := chunkText_spans hchunks
  have hchain : spans.IsChain fun a b => a.2 < b.2 := by
    rw [spansOf] at hspans
    split at hspans
    · obtain rfl := Except.ok.inj hspans
      exact List.isChain_nil
    · split at hspans
      · obtain rfl := Except.ok.inj hspans
        exact List.isChain_singleton _
      · exact spansFrom_isChain (by omega) hhalf (boundary_zero _) hspans
  have hadvancing := advancing_of_isChain hchain
  refine ⟨spans, chunks, hspans, hchunks, hadvancing, ?_⟩
  have hfilter := List.length_filter_le (fun text : Str => decide (text ≠ [])) (cuts.map trim)
  rw [← htexts, List.length_map, List.length_map, length_mapAll hcuts] at hfilter
  rwa [← hadvancing.distinct]

end Texts

end DemoService.TextTools

namespace DemoService.RagChunking

/-- No chunk is redundant with an overlap of up to half of the size, for the sidecar of half of a size
three bytes shorter. With any larger overlap there is a text with two spans that end at one place. -/
theorem no_redundant_chunk_iff {chunkSize chunkOverlap : Nat} (hsize : 100 ≤ chunkSize)
    (hoverlap : chunkOverlap < chunkSize) :
    (∀ value, splitTextIntoChunks value chunkSize chunkOverlap =
      .ok (chunksAt (normalizedText value) (spansOf chunkSize chunkOverlap value))) ∧
    ((∀ value, NoRedundantChunk chunkSize chunkOverlap value) ↔ 2 * chunkOverlap ≤ chunkSize) ∧
    ((∀ value, TextTools.NoRedundantChunk chunkSize chunkOverlap value) ↔
      2 * chunkOverlap + 3 ≤ chunkSize) := by
  refine ⟨splitTextIntoChunks_spans hsize hoverlap, ⟨fun h => ?_, noRedundantChunk hsize hoverlap⟩,
    ⟨fun h => ?_, TextTools.noRedundantChunk hsize hoverlap⟩⟩
  · by_contra hover
    exact not_noRedundantChunk hsize hoverlap (by omega) (h _)
  · by_contra hover
    obtain ⟨spans, chunks, hspans, -, hadvancing, -⟩ :=
      h (TextTools.staleText chunkSize chunkOverlap)
    exact TextTools.not_advancing_staleText hsize hoverlap (by omega) hspans hadvancing

theorem no_redundant_chunk_at_default_size :
    NoRedundantChunk 600 60 (staleText 600 60) ∧
      TextTools.NoRedundantChunk 600 60 (TextTools.staleText 600 60) := by
  have h := no_redundant_chunk_iff (show 100 ≤ 600 by omega) (show 60 < 600 by omega)
  exact ⟨h.2.1.mpr (by omega) _, h.2.2.mpr (by omega) _⟩

theorem two_spans_end_at_one_blank :
    (∃ spans, spansOf 100 60 (staleText 100 60) = (0, 61) :: (1, 61) :: spans) ∧
      ¬ NoRedundantChunk 100 60 (staleText 100 60) :=
  ⟨spansOf_staleText (by omega) (by omega) (by omega),
    not_noRedundantChunk (by omega) (by omega) (by omega)⟩

end DemoService.RagChunking
