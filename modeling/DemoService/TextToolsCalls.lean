import DemoService.TextTools
import DemoService.TextLayout

/-! Which calls of the sidecar succeed: chunking stays on character boundaries, so an
accepted configuration is answered for every text. -/

namespace DemoService.TextTools

open RustText Fallible TextLayout

theorem boundary_inside {s front mid back : Str} {k : Nat} (hs : s = front ++ mid ++ back)
    (hk : Boundary mid k) : Boundary s (utf8Len front + k) := by
  obtain ⟨left, right, rfl, rfl⟩ := hk
  exact ⟨front ++ left, right ++ back, by simp [hs], by simp⟩

theorem splitInWindow_boundary {window : Str} {minimum offset : Nat} {patterns : List Str}
    (hne : [] ∉ patterns) (h : splitInWindow window minimum patterns = some offset) :
    Boundary window offset ∧ 0 < offset := by
  induction patterns with
  | nil => simp [splitInWindow] at h
  | cons pattern patterns ih =>
    have hrest : [] ∉ patterns := fun hmem => hne (List.mem_cons_of_mem _ hmem)
    rw [splitInWindow] at h
    cases hfind : rfind pattern window with
    | none =>
      rw [hfind] at h
      exact ih hrest h
    | some index =>
      by_cases hmin : minimum ≤ index
      · simp only [hfind, if_pos hmin, Option.some.injEq] at h
        obtain ⟨front, back, rfl, rfl⟩ := rfind_eq_some hfind
        have hpos : 0 < utf8Len pattern := by
          cases pattern with
          | nil => simp at hne
          | cons c pattern =>
            have hc := Char.utf8Size_pos c
            rw [utf8Len_cons]
            omega
        exact ⟨⟨front ++ pattern, back, rfl, by simp [h]⟩, by omega⟩
      · simp only [hfind, if_neg hmin] at h
        exact ih hrest h

theorem findSplitPoint_boundary {value : Str} {start hardEnd : Nat} (hs : Boundary value start)
    (hh : Boundary value hardEnd) (hlt : start < hardEnd) :
    ∃ stop, findSplitPoint value start hardEnd = .ok stop ∧ Boundary value stop ∧ start < stop := by
  by_cases hend : utf8Len value ≤ hardEnd
  · have hle := hh.le
    exact ⟨utf8Len value, by rw [findSplitPoint, if_pos hend], boundary_length value, by omega⟩
  · obtain ⟨front, window, back, hvalue, hfront, -, hslice⟩ := slice_of_boundaries hs hh hlt.le
    cases hsplit : splitInWindow window (utf8Len window / 2) splitPatterns with
    | none =>
      refine ⟨hardEnd, ?_, hh, hlt⟩
      rw [findSplitPoint, if_neg hend]
      exact bind_eq_ok.mpr ⟨window, hslice, by rw [hsplit]; rfl⟩
    | some offset =>
      obtain ⟨hboundary, hpos⟩ := splitInWindow_boundary (by decide) hsplit
      refine ⟨start + offset, ?_, hfront ▸ boundary_inside hvalue hboundary, by omega⟩
      rw [findSplitPoint, if_neg hend]
      exact bind_eq_ok.mpr ⟨window, hslice, by rw [hsplit]; rfl⟩

theorem boundary_nextBoundaryAtOrBefore (value : Str) (index : Nat) :
    Boundary value (nextBoundaryAtOrBefore value index) := floorBoundary_boundary value _

theorem boundary_nextStart (normalized : Str) (chunkOverlap start stop : Nat) :
    Boundary normalized (nextStart normalized chunkOverlap start stop) :=
  ceilBoundary_boundary (by omega)

theorem lt_hardEnd {value : Str} {start chunkSize : Nat} (hs : Boundary value start)
    (hlt : start < utf8Len value) (hsize : 4 ≤ chunkSize) :
    start < nextBoundaryAtOrBefore value (start + chunkSize) := by
  obtain ⟨next, hnext, hgt, hle⟩ := hs.next hlt
  have hbelow : next ≤ min (start + chunkSize) (utf8Len value) := by
    have := hnext.le
    omega
  exact hgt.trans_le (le_floorBoundary hnext hbelow)

theorem chunkLoop_succeeds {normalized : Str} {chunkSize : Nat} (hsize : 4 ≤ chunkSize)
    (chunkOverlap : Nat) {start : Nat} (hs : Boundary normalized start) (chunks : List TextChunk) :
    Succeeds (chunkLoop normalized chunkSize chunkOverlap start chunks) := by
  induction hn : utf8Len normalized - start using Nat.strong_induction_on
    generalizing start chunks with
  | _ n ih =>
    rw [chunkLoop]
    by_cases hlt : start < utf8Len normalized
    · rw [dif_pos hlt]
      obtain ⟨stop, hstop, hboundary, hgt⟩ := findSplitPoint_boundary hs
        (boundary_nextBoundaryAtOrBefore normalized (start + chunkSize)) (lt_hardEnd hs hlt hsize)
      obtain ⟨-, span, -, -, -, -, hspan⟩ := slice_of_boundaries hs hboundary hgt.le
      refine succeeds_bind.mpr ⟨stop, hstop, succeeds_bind.mpr ⟨span, hspan, ?_⟩⟩
      by_cases hdone : utf8Len normalized ≤ stop
      · rw [if_pos hdone]
        exact succeeds_pure _
      · rw [if_neg hdone]
        have hnext := lt_nextStart hlt chunkOverlap stop
        exact ih _ (by omega) (boundary_nextStart normalized chunkOverlap start stop) _ rfl
    · rw [dif_neg hlt]
      exact succeeds_pure chunks

theorem chunkText_succeeds_iff {value : Str} {chunkSize chunkOverlap : Nat} :
    Succeeds (chunkText value chunkSize chunkOverlap) ↔
      100 ≤ chunkSize ∧ chunkOverlap < chunkSize := by
  by_cases hsize : chunkSize < 100
  · rw [chunkText, if_pos hsize]
    exact ⟨fun ⟨_, h⟩ => (nomatch h), fun h => absurd h.1 (by omega)⟩
  · by_cases hoverlap : chunkSize ≤ chunkOverlap
    · rw [chunkText, if_neg hsize, if_pos hoverlap]
      exact ⟨fun ⟨_, h⟩ => (nomatch h), fun h => absurd h.2 (by omega)⟩
    · refine ⟨fun _ => ⟨by omega, by omega⟩, fun _ => ?_⟩
      rw [chunkText, if_neg hsize, if_neg hoverlap]
      generalize (normalizeText value).text = normalized
      by_cases hempty : normalized = []
      · exact ⟨_, if_pos hempty⟩
      · by_cases hshort : utf8Len normalized ≤ chunkSize
        · exact ⟨_, by simp only [if_neg hempty, if_pos hshort]; rfl⟩
        · obtain ⟨chunks, hchunks⟩ := chunkLoop_succeeds (show 4 ≤ chunkSize by omega)
            chunkOverlap (boundary_zero normalized) []
          exact ⟨chunks, by simp only [if_neg hempty, if_neg hshort, hchunks, orPanic]⟩

theorem trimToUtf8Boundary_succeeds (value : Str) (maxBytes : Nat) :
    Succeeds (trimToUtf8Boundary value maxBytes) := by
  by_cases hfits : utf8Len value ≤ maxBytes
  · exact ⟨_, if_pos hfits⟩
  · rw [trimToUtf8Boundary, if_neg hfits]
    obtain ⟨-, kept, -, -, -, -, hkept⟩ := slice_of_boundaries (boundary_zero value)
      (floorBoundary_boundary value maxBytes) (Nat.zero_le _)
    exact succeeds_bind.mpr ⟨kept, hkept, succeeds_pure _⟩

theorem normalizeText_text (value : Str) :
    (normalizeText value).text = unwords (words isWhitespace value) := by
  rw [normalizeText, splitWhitespace, filter_splitBy]
  rfl

theorem utf8Len_sublist {s t : Str} (h : s.Sublist t) : utf8Len s ≤ utf8Len t := by
  induction h with
  | slnil => exact Nat.le_refl _
  | cons c _ ih =>
    rw [utf8Len_cons]
    omega
  | cons_cons c _ ih =>
    rw [utf8Len_cons, utf8Len_cons]
    omega

theorem utf8Len_squeeze_le (space : Char → Bool) (s : Str) :
    utf8Len (squeeze space s) ≤ utf8Len s := by
  induction s with
  | nil => exact Nat.le_refl _
  | cons c cs ih =>
    rw [utf8Len_cons]
    have hpos := Char.utf8Size_pos c
    have hblank : (' ' : Char).utf8Size = 1 := rfl
    by_cases hc : space c = true
    · by_cases hhead : ∀ d ∈ cs.head?, ¬ space d = true
      · rw [squeeze_cons_last hc hhead, utf8Len_cons]
        omega
      · cases cs with
        | nil => simp at hhead
        | cons d ds =>
          rw [squeeze_cons_inside hc (by simpa using hhead)]
          omega
    · rw [squeeze_cons_word hc, utf8Len_cons]
      omega

theorem utf8Len_normalizeText_le (value : Str) :
    utf8Len (normalizeText value).text ≤ utf8Len value := by
  rw [normalizeText_text, ← strip_squeeze (by decide)]
  have hsub := (List.rdropWhile_prefix isWhitespace _).sublist.trans
    (List.dropWhile_sublist isWhitespace (l := squeeze isWhitespace value))
  exact (utf8Len_sublist hsub).trans (utf8Len_squeeze_le isWhitespace value)

/-- The limits that the route reads and `analyze_text` does not refuse. -/
def LimitsAccepted (maxBytes maxChunkSize chunkOverlap : Int) : Prop :=
  (0 < maxBytes ∧ maxBytes < 2 ^ 64) ∧ (100 ≤ maxChunkSize ∧ maxChunkSize < 2 ^ 64) ∧
    0 ≤ chunkOverlap ∧ chunkOverlap < maxChunkSize

instance (maxBytes maxChunkSize chunkOverlap : Int) :
    Decidable (LimitsAccepted maxBytes maxChunkSize chunkOverlap) :=
  inferInstanceAs (Decidable (_ ∧ _))

theorem toUsize_eq_some {n : Int} {m : Nat} :
    toUsize n = some m ↔ (0 ≤ n ∧ n < 2 ^ 64) ∧ n.toNat = m := by
  rw [toUsize]
  by_cases h : 0 ≤ n ∧ n < 2 ^ 64 <;> simp [h]

theorem readLimits_eq_some {maxBytes maxChunkSize chunkOverlap : Int} {limits : AnalyzeLimits} :
    readLimits maxBytes maxChunkSize chunkOverlap = some limits ↔
      toUsize maxBytes = some limits.maxBytes ∧ toUsize maxChunkSize = some limits.maxChunkSize ∧
        toUsize chunkOverlap = some limits.chunkOverlap := by
  obtain ⟨bytes, size, overlap⟩ := limits
  cases hbytes : toUsize maxBytes <;> cases hsize : toUsize maxChunkSize <;>
    cases hoverlap : toUsize chunkOverlap <;>
    simp [readLimits, hbytes, hsize, hoverlap]

theorem analyzeText_eq_ok {request : AnalyzeRequest} {response : AnalyzeResponse} :
    analyzeText request = .ok response → request.limits.maxBytes ≠ 0 ∧
      trimToUtf8Boundary (normalizeText request.text).text request.limits.maxBytes =
        .ok (response.normalizedText, response.trimmed) ∧
      Succeeds (chunkText response.normalizedText request.limits.maxChunkSize
        request.limits.chunkOverlap) := by
  intro h
  rw [analyzeText] at h
  by_cases hzero : request.limits.maxBytes = 0
  · rw [if_pos hzero] at h
    cases h
  · rw [if_neg hzero] at h
    obtain ⟨⟨bounded, trimmed⟩, htrim, h⟩ := bind_eq_ok.mp h
    obtain ⟨chunks, hchunks, h⟩ := bind_eq_ok.mp h
    cases hcut : trimToUtf8Boundary (normalizeText request.text).text request.limits.maxBytes with
    | error cause =>
      rw [hcut] at htrim
      cases htrim
    | ok result =>
      rw [hcut] at htrim
      obtain rfl := Except.ok.inj htrim
      obtain rfl := pure_eq_ok.mp h
      exact ⟨hzero, rfl, chunks, hchunks⟩

theorem analyzeText_succeeds_iff {request : AnalyzeRequest} :
    Succeeds (analyzeText request) ↔ request.limits.maxBytes ≠ 0 ∧
      100 ≤ request.limits.maxChunkSize ∧
      request.limits.chunkOverlap < request.limits.maxChunkSize := by
  constructor
  · rintro ⟨response, h⟩
    obtain ⟨hzero, -, hchunks⟩ := analyzeText_eq_ok h
    exact ⟨hzero, chunkText_succeeds_iff.mp hchunks⟩
  · rintro ⟨hzero, hlimits⟩
    obtain ⟨⟨bounded, trimmed⟩, htrim⟩ :=
      trimToUtf8Boundary_succeeds (normalizeText request.text).text request.limits.maxBytes
    rw [analyzeText, if_neg hzero]
    refine succeeds_bind.mpr ⟨(bounded, trimmed), by rw [htrim]; rfl, ?_⟩
    obtain ⟨chunks, hchunks⟩ := chunkText_succeeds_iff.mpr hlimits
    exact succeeds_bind.mpr ⟨chunks, hchunks, succeeds_pure _⟩

theorem clientAnalyzeText_eq_ok {delivers : Transport} {text : Str}
    {maxBytes maxChunkSize chunkOverlap : Int} {analysis : TextToolsAnalysis}
    (h : clientAnalyzeText delivers text maxBytes maxChunkSize chunkOverlap = .ok analysis) :
    ∃ limits response, delivers text = true ∧
      readLimits maxBytes maxChunkSize chunkOverlap = some limits ∧
      analyzeText ⟨text, limits⟩ = .ok response ∧
      analysis.normalizedText = response.normalizedText ∧ analysis.trimmed = response.trimmed := by
  rw [clientAnalyzeText] at h
  by_cases hdelivers : delivers text = true
  · rw [if_pos hdelivers] at h
    cases hlimits : readLimits maxBytes maxChunkSize chunkOverlap with
    | none => simp [hlimits] at h
    | some limits =>
      cases hresponse : analyzeText ⟨text, limits⟩ with
      | error failure => simp [hlimits, hresponse] at h
      | ok response =>
        simp only [hlimits, hresponse, Except.ok.injEq] at h
        exact ⟨limits, response, hdelivers, rfl, hresponse, by rw [← h], by rw [← h]⟩
  · rw [if_neg hdelivers] at h
    cases h

theorem clientAnalyzeText_succeeds_iff {delivers : Transport} {text : Str}
    {maxBytes maxChunkSize chunkOverlap : Int} :
    Succeeds (clientAnalyzeText delivers text maxBytes maxChunkSize chunkOverlap) ↔
      delivers text = true ∧ LimitsAccepted maxBytes maxChunkSize chunkOverlap := by
  constructor
  · rintro ⟨analysis, h⟩
    obtain ⟨limits, response, hdelivers, hlimits, hresponse, -, -⟩ := clientAnalyzeText_eq_ok h
    have haccepted := analyzeText_succeeds_iff.mp ⟨response, hresponse⟩
    obtain ⟨hbytes, hsize, hoverlap⟩ := readLimits_eq_some.mp hlimits
    rw [toUsize_eq_some] at hbytes hsize hoverlap
    dsimp only at haccepted
    refine ⟨hdelivers, ⟨?_, ?_⟩, ⟨?_, ?_⟩, ?_, ?_⟩ <;> omega
  · rintro ⟨hdelivers, hbytes, hsize, hoverlap⟩
    have hlimits : readLimits maxBytes maxChunkSize chunkOverlap =
        some ⟨maxBytes.toNat, maxChunkSize.toNat, chunkOverlap.toNat⟩ := by
      refine readLimits_eq_some.mpr ⟨?_, ?_, ?_⟩ <;>
      · rw [toUsize_eq_some]
        dsimp only
        omega
    have hanswer : Succeeds (analyzeText ⟨text, maxBytes.toNat, maxChunkSize.toNat,
        chunkOverlap.toNat⟩) := by
      rw [analyzeText_succeeds_iff]
      dsimp only
      omega
    obtain ⟨response, hresponse⟩ := hanswer
    rw [clientAnalyzeText, if_pos hdelivers]
    simp only [hlimits, hresponse]
    exact ⟨_, rfl⟩

/-- A text that fits the budget comes back as its words, one blank between two. -/
theorem clientAnalyzeText_fits {delivers : Transport} {text : Str}
    {maxBytes maxChunkSize chunkOverlap : Int} {analysis : TextToolsAnalysis}
    (h : clientAnalyzeText delivers text maxBytes maxChunkSize chunkOverlap = .ok analysis)
    (hfits : (utf8Len text : Int) ≤ maxBytes) :
    analysis.normalizedText = unwords (words isWhitespace text) ∧ analysis.trimmed = false := by
  obtain ⟨limits, response, -, hlimits, hresponse, htext, htrimmed⟩ := clientAnalyzeText_eq_ok h
  obtain ⟨-, htrim, -⟩ := analyzeText_eq_ok hresponse
  have hbytes := (readLimits_eq_some.mp hlimits).1
  rw [toUsize_eq_some] at hbytes
  have hle := utf8Len_normalizeText_le text
  rw [trimToUtf8Boundary, if_pos (by dsimp only; omega)] at htrim
  obtain ⟨hnorm, hfalse⟩ := Prod.mk.inj (Except.ok.inj htrim)
  exact ⟨by rw [htext, ← hnorm, normalizeText_text], by rw [htrimmed, hfalse]⟩

/-- An answer for a text that begins with a one-byte character of a word is not empty. -/
theorem clientAnalyzeText_ne_nil {delivers : Transport} {c : Char} {cs : Str}
    {maxBytes maxChunkSize chunkOverlap : Int} {analysis : TextToolsAnalysis}
    (h : clientAnalyzeText delivers (c :: cs) maxBytes maxChunkSize chunkOverlap = .ok analysis)
    (hc : ¬ isWhitespace c = true) (hsize : c.utf8Size = 1) : analysis.normalizedText ≠ [] := by
  obtain ⟨limits, response, -, -, hresponse, htext, -⟩ := clientAnalyzeText_eq_ok h
  obtain ⟨hzero, htrim, -⟩ := analyzeText_eq_ok hresponse
  obtain ⟨rest, hnormalized⟩ : ∃ rest, (normalizeText (c :: cs)).text = c :: rest := by
    rw [normalizeText_text, ← strip_squeeze (by decide), squeeze_cons_word hc,
      List.dropWhile_cons_of_neg hc, rdropWhile_cons_neg hc]
    exact ⟨_, rfl⟩
  rw [htext]
  rw [hnormalized, trimToUtf8Boundary] at htrim
  by_cases hfits : utf8Len (c :: rest) ≤ limits.maxBytes
  · rw [if_pos hfits] at htrim
    rw [← (Prod.mk.inj (Except.ok.inj htrim)).1]
    exact List.cons_ne_nil _ _
  · rw [if_neg hfits] at htrim
    obtain ⟨kept, hkept, htrim⟩ := bind_eq_ok.mp htrim
    have hboundary : Boundary (c :: rest) 1 := ⟨[c], rest, rfl, by simp [hsize]⟩
    have hone : 1 ≤ floorBoundary (c :: rest) limits.maxBytes :=
      le_floorBoundary hboundary (by dsimp only at hzero; omega)
    obtain ⟨front, mid, back, hsplit, hfront, hlen, hslice⟩ := slice_of_boundaries
      (boundary_zero (c :: rest)) (floorBoundary_boundary (c :: rest) limits.maxBytes)
      (Nat.zero_le _)
    obtain rfl := Except.ok.inj (hslice.symm.trans hkept)
    rw [← (Prod.mk.inj (pure_eq_ok.mp htrim)).1]
    cases front with
    | cons d front =>
      have hpos := Char.utf8Size_pos d
      rw [utf8Len_cons] at hfront
      omega
    | nil =>
      cases mid with
      | nil => simp at hlen; omega
      | cons d mid =>
        obtain rfl : d = c := by simpa using (List.cons.inj hsplit).1.symm
        rw [trimEnd, rdropWhile_cons_neg hc]
        exact List.cons_ne_nil _ _

end DemoService.TextTools
