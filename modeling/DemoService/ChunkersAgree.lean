import DemoService.AsciiText
import DemoService.RagSplits
import DemoService.TextToolsCalls

/-! The sidecar's chunker against the Python one. On ASCII text the byte offsets of the
first are the character offsets of the second, and away from the four information
separators both take the same characters for whitespace. -/

namespace DemoService.RagChunking

open PyText Fallible TextLayout
open RustText (IsAscii isWhitespace trim utf8Len)
open TextTools (TextChunk)

def isPlain (c : Char) : Bool :=
  c.toNat < 128 && !(0x1C ≤ c.toNat && c.toNat ≤ 0x1F)

/-- ASCII text without the control characters U+001C to U+001F. -/
def Plain (text : Text) : Prop := ∀ c ∈ text, isPlain c = true

instance (text : Text) : Decidable (Plain text) :=
  decidable_of_iff (text.all isPlain = true) List.all_eq_true

theorem Plain.ascii {text : Text} (h : Plain text) : IsAscii text := by
  intro c hc
  have hplain := h c hc
  simp only [isPlain, Bool.and_eq_true, decide_eq_true_eq] at hplain
  exact hplain.1

theorem Plain.subset {text other : Text} (h : Plain other) (hsub : text ⊆ other) : Plain text :=
  fun c hc => h c (hsub hc)

theorem isWhitespace_eq_isSpace {c : Char} (h : isPlain c = true) :
    isWhitespace c = isSpace c := by
  rw [Bool.eq_iff_iff]
  simp only [isPlain, isWhitespace, isSpace, Bool.and_eq_true, Bool.or_eq_true, Bool.not_eq_true',
    Bool.and_eq_false_iff, decide_eq_true_eq, decide_eq_false_iff_not, beq_iff_eq] at h ⊢
  omega

/-! ### Whitespace -/

theorem trim_eq_strip {text : Text} (h : Plain text) : trim text = strip text := by
  have hfront : text.dropWhile isWhitespace = text.dropWhile isSpace :=
    dropWhile_congr fun c hc => isWhitespace_eq_isSpace (h c hc)
  have hback : ∀ c ∈ (text.dropWhile isSpace).reverse, isWhitespace c = isSpace c := by
    intro c hc
    have hmem : c ∈ text := (List.dropWhile_suffix isSpace).subset (List.mem_reverse.mp hc)
    exact isWhitespace_eq_isSpace (h c hmem)
  rw [trim, hfront, List.rdropWhile, dropWhile_congr hback]
  rfl

theorem squeeze_congr {p q : Char → Bool} {s : Text} (h : ∀ c ∈ s, p c = q c) :
    squeeze p s = squeeze q s := by
  induction s with
  | nil => rfl
  | cons c s ih =>
    have hs := ih fun d hd => h d (List.mem_cons_of_mem c hd)
    cases s with
    | nil => simp only [squeeze, h c List.mem_cons_self]
    | cons d ds =>
      have hd : p d = q d := h d (List.mem_cons_of_mem c List.mem_cons_self)
      rw [squeeze, squeeze, hs]
      simp only [h c List.mem_cons_self, hd]

theorem Plain.squeeze {text : Text} (h : Plain text) (space : Char → Bool) :
    Plain (squeeze space text) := by
  intro c hc
  rcases mem_squeeze hc with rfl | ⟨hc, -⟩
  · rfl
  · exact h c hc

theorem plain_strip {text : Text} (h : Plain text) : Plain (strip text) :=
  h.subset fun _ => mem_of_mem_strip

theorem normalizeText_agrees {value : Text} (h : Plain value) :
    (TextTools.normalizeText value).text = strip (squeeze isSpace value) := by
  have hsqueeze : squeeze isWhitespace value = squeeze isSpace value :=
    squeeze_congr fun c hc => isWhitespace_eq_isSpace (h c hc)
  calc (TextTools.normalizeText value).text
      = unwords (words isWhitespace value) := TextTools.normalizeText_text value
    _ = trim (squeeze isWhitespace value) := (strip_squeeze (by decide) value).symm
    _ = trim (squeeze isSpace value) := by rw [hsqueeze]
    _ = strip (squeeze isSpace value) := trim_eq_strip (h.squeeze isSpace)

/-! ### Split points -/

theorem rfind_agrees (pattern : Text) {s : Text} (h : IsAscii s) :
    RustText.rfind pattern s = rfind pattern s := by
  induction s with
  | nil => rfl
  | cons c s ih =>
    have hcs := RustText.isAscii_cons.mp h
    have hrest := ih hcs.2
    have hsize := RustText.utf8Size_of_ascii hcs.1
    cases hfind : rfind pattern s with
    | none => simp only [RustText.rfind, rfind, hrest, hfind]
    | some i => simp only [RustText.rfind, rfind, hrest, hfind, hsize]

theorem splitInWindow_agrees {window : Text} (h : IsAscii window) (minimum : Nat)
    {patterns : List Text} (hpatterns : ∀ pattern ∈ patterns, IsAscii pattern) :
    TextTools.splitInWindow window minimum patterns = lastSplit window minimum patterns := by
  induction patterns with
  | nil => rfl
  | cons pattern patterns ih =>
    have hlen : utf8Len pattern = pattern.length :=
      RustText.utf8Len_of_ascii (hpatterns pattern List.mem_cons_self)
    have hrest := ih fun other hother => hpatterns other (List.mem_cons_of_mem pattern hother)
    have hthis := rfind_agrees pattern h
    cases hfind : rfind pattern window with
    | none => simp only [TextTools.splitInWindow, lastSplit, hthis, hfind, hrest]
    | some i => simp only [TextTools.splitInWindow, lastSplit, hthis, hfind, hlen, hrest]

theorem splitPatterns_ascii : ∀ pattern ∈ splitPatterns, IsAscii pattern := by
  simp [splitPatterns, IsAscii]

theorem slice_agrees {value : Text} (h : IsAscii value) {start stop : Nat} (hle : start ≤ stop)
    (hstop : stop ≤ value.length) :
    RustText.slice value start stop = .ok (slice value start stop) :=
  RustText.slice_of_ascii h hle hstop

/-- With a window of two characters or more its middle is not its start, so Python's
`max(1, …)` changes nothing. -/
theorem findSplitPoint_agrees {value : Text} (h : IsAscii value) {start hardEnd : Nat}
    (hwide : start + 2 ≤ hardEnd ∨ value.length ≤ hardEnd) (hhard : hardEnd ≤ value.length) :
    TextTools.findSplitPoint value start hardEnd = .ok (findSplitPoint value start hardEnd) := by
  rw [TextTools.findSplitPoint, findSplitPoint, RustText.utf8Len_of_ascii h]
  by_cases hend : value.length ≤ hardEnd
  · rw [if_pos hend, if_pos hend, le_antisymm hhard hend]
  · have hslice := slice_agrees h (by omega : start ≤ hardEnd) hhard
    have hwindow : IsAscii (slice value start hardEnd) := h.subset fun c hc =>
      List.take_subset _ _ (List.drop_subset _ _ hc)
    have hlen : (slice value start hardEnd).length = hardEnd - start := by
      rw [slice, List.length_drop, List.length_take]
      omega
    have hminimum : max 1 ((slice value start hardEnd).length / 2) =
        (slice value start hardEnd).length / 2 := by omega
    have hsplit : TextTools.splitInWindow (slice value start hardEnd)
        ((slice value start hardEnd).length / 2) TextTools.splitPatterns =
          lastSplit (slice value start hardEnd) ((slice value start hardEnd).length / 2)
            splitPatterns := splitInWindow_agrees hwindow _ splitPatterns_ascii
    rw [if_neg hend, if_neg hend]
    simp only [hslice, hminimum, RustText.utf8Len_of_ascii hwindow, hsplit, bind, Except.bind]
    cases lastSplit (slice value start hardEnd) ((slice value start hardEnd).length / 2)
      splitPatterns <;> rfl

/-! ### The loops -/

theorem pushChunk_agrees (chunks : List TextChunk) (chunk : Text) :
    (TextTools.pushChunk chunks chunk).map TextChunk.text =
      appendChunk (chunks.map TextChunk.text) chunk := by
  by_cases hempty : chunk = []
  · simp [TextTools.pushChunk, appendChunk, hempty]
  · simp [TextTools.pushChunk, appendChunk, hempty]

theorem nextBoundaryAtOrBefore_agrees {value : Text} (h : IsAscii value) (index : Nat) :
    TextTools.nextBoundaryAtOrBefore value index = min index value.length := by
  rw [TextTools.nextBoundaryAtOrBefore, RustText.utf8Len_of_ascii h]
  exact RustText.floorBoundary_of_ascii h (min_le_right _ _)

theorem nextStart_agrees {value : Text} (h : IsAscii value) {start stop : Nat}
    (hstart : start < stop) (hstop : stop ≤ value.length) (chunkOverlap : Nat) :
    TextTools.nextStart value chunkOverlap start stop = max (stop - chunkOverlap) (start + 1) := by
  have hle : max (stop - chunkOverlap) (start + 1) ≤ value.length := by omega
  rw [TextTools.nextStart, TextTools.nextBoundaryAtOrAfter, RustText.utf8Len_of_ascii h,
    min_eq_left hle]
  exact RustText.ceilBoundary_of_ascii h _ hle

theorem chunkLoop_agrees {normalized : Text} (h : Plain normalized) {chunkSize : Nat}
    (hsize : 2 ≤ chunkSize) (chunkOverlap start : Nat) (chunks : List TextChunk) :
    ∃ result, TextTools.chunkLoop normalized chunkSize chunkOverlap start chunks = .ok result ∧
      result.map TextChunk.text =
        splitLoop normalized chunkSize chunkOverlap start (chunks.map TextChunk.text) := by
  induction hn : normalized.length - start using Nat.strong_induction_on
    generalizing start chunks with
  | _ n ih =>
    have hlen := RustText.utf8Len_of_ascii h.ascii
    by_cases hlt : start < normalized.length
    · have hhard : min (start + chunkSize) normalized.length ≤ normalized.length :=
        min_le_right _ _
      have hwide : start + 2 ≤ min (start + chunkSize) normalized.length ∨
          normalized.length ≤ min (start + chunkSize) normalized.length := by omega
      have hfind := findSplitPoint_agrees h.ascii hwide hhard
      obtain ⟨hpos, hend⟩ := splitPoint_bounds normalized
        (show start < min (start + chunkSize) normalized.length by omega)
      have hstop := hend.trans hhard
      rw [TextTools.chunkLoop, dif_pos (hlen.symm ▸ hlt), splitLoop_step hlt,
        nextBoundaryAtOrBefore_agrees h.ascii]
      generalize findSplitPoint normalized start (min (start + chunkSize) normalized.length) =
        stop at hfind hpos hstop
      have hslice := slice_agrees h.ascii hpos.le hstop
      have hspan : Plain (slice normalized start stop) := h.subset fun c hc =>
        List.take_subset _ _ (List.drop_subset _ _ hc)
      have hpush := pushChunk_agrees chunks (strip (slice normalized start stop))
      simp only [hfind, hslice, hlen, trim_eq_strip hspan, bind, Except.bind, ← hpush]
      by_cases hdone : normalized.length ≤ stop
      · simp only [if_pos hdone]
        exact ⟨_, rfl, rfl⟩
      · simp only [if_neg hdone, nextStart_agrees h.ascii hpos hstop chunkOverlap]
        exact ih _ (by omega) _ _ rfl
    · rw [TextTools.chunkLoop, dif_neg (hlen.symm ▸ hlt), splitLoop, if_neg hlt]
      exact ⟨chunks, rfl, rfl⟩

theorem splitTextIntoChunks_accepted {chunkSize chunkOverlap : Nat} (hsize : 100 ≤ chunkSize)
    (hoverlap : chunkOverlap < chunkSize) (value : Text) :
    splitTextIntoChunks value chunkSize chunkOverlap = .ok (
      match normalizeText (some value) with
      | none => []
      | some normalized =>
        if normalized.length ≤ chunkSize then [normalized]
        else splitLoop normalized chunkSize chunkOverlap 0 []) := by
  have hsmall : ¬ (chunkSize : Int) < 100 := by omega
  have hrange : ¬ ((chunkOverlap : Int) < 0 ∨ (chunkSize : Int) ≤ chunkOverlap) := by omega
  rw [splitTextIntoChunks, if_neg hsmall, if_neg hrange]
  cases normalizeText (some value) with
  | none => rfl
  | some normalized =>
    by_cases hshort : normalized.length ≤ chunkSize
    · have hint : (normalized.length : Int) ≤ chunkSize := by omega
      simp only [if_pos hshort, if_pos hint]
    · have hint : ¬ (normalized.length : Int) ≤ chunkSize := by omega
      simp only [if_neg hshort, if_neg hint, Int.toNat_natCast]

theorem chunkText_agrees {value : Text} (h : Plain value) {chunkSize chunkOverlap : Nat}
    (hsize : 100 ≤ chunkSize) (hoverlap : chunkOverlap < chunkSize) :
    ∃ chunks, TextTools.chunkText value chunkSize chunkOverlap = .ok chunks ∧
      splitTextIntoChunks value chunkSize chunkOverlap = .ok (chunks.map TextChunk.text) := by
  have hnormalized : Plain (strip (squeeze isSpace value)) := plain_strip (h.squeeze isSpace)
  rw [splitTextIntoChunks_accepted hsize hoverlap, TextTools.chunkText, if_neg (by omega),
    if_neg (by omega), normalizeText_agrees h, normalizeText, Option.bind_some, orNone]
  generalize strip (squeeze isSpace value) = normalized at hnormalized
  have hlen := RustText.utf8Len_of_ascii hnormalized.ascii
  by_cases hempty : normalized = []
  · simp only [if_pos hempty]
    exact ⟨[], rfl, rfl⟩
  · by_cases hshort : normalized.length ≤ chunkSize
    · simp only [if_neg hempty, hlen, if_pos hshort]
      exact ⟨_, rfl, rfl⟩
    · obtain ⟨chunks, hchunks, htexts⟩ :=
        chunkLoop_agrees hnormalized (show 2 ≤ chunkSize by omega) chunkOverlap 0 []
      simp only [if_neg hempty, hlen, if_neg hshort, hchunks]
      exact ⟨chunks, rfl, congrArg Except.ok htexts.symm⟩

/-! ### Documents -/

theorem sidecarTexts_eq_ok {delivers : Nat → TextTools.Transport} {chunkSize chunkOverlap call : Nat}
    {text : Text} {texts : List Text}
    (h : sidecarTexts delivers chunkSize chunkOverlap call text = .ok texts) :
    ∃ chunks, TextTools.chunkText text chunkSize chunkOverlap = .ok chunks ∧
      texts = chunks.map TextChunk.text := by
  obtain ⟨chunks, hchunks, htexts⟩ := bind_eq_ok.mp h
  refine ⟨chunks, ?_, (pure_eq_ok.mp htexts).symm⟩
  by_cases hdelivers : delivers call text = true
  · rw [clientChunkText, if_pos hdelivers] at hchunks
    cases hsize : TextTools.toUsize chunkSize with
    | none => simp [hsize] at hchunks
    | some size =>
      cases hoverlap : TextTools.toUsize chunkOverlap with
      | none => simp [hsize, hoverlap] at hchunks
      | some overlap =>
        obtain rfl : size = chunkSize := by
          have hread := TextTools.toUsize_eq_some.mp hsize
          omega
        obtain rfl : overlap = chunkOverlap := by
          have hread := TextTools.toUsize_eq_some.mp hoverlap
          omega
        rw [hsize, hoverlap] at hchunks
        cases hchunk : TextTools.chunkText text size overlap with
        | error failure => simp [hchunk] at hchunks
        | ok found => simpa [hchunk] using hchunks
  · rw [clientChunkText, if_neg hdelivers] at hchunks
    cases hchunks

/-- A chunker that answers like another one wherever it answers collects the same chunks. -/
theorem collectChunks_eq_ok {ε ε' : Type} {chunker : Nat → Text → Except ε (List Text)}
    {chunker' : Nat → Text → Except ε' (List Text)} {sections : List ExtractedSection}
    (hsame : ∀ extracted ∈ sections, ∀ call texts, chunker call extracted.text = .ok texts →
      chunker' call extracted.text = .ok texts) {call : Nat} {chunks result : List PreparedRagChunk}
    (h : collectChunks chunker call chunks sections = .ok result) :
    collectChunks chunker' call chunks sections = .ok result := by
  induction sections generalizing call chunks with
  | nil => exact congrArg Except.ok (Except.ok.inj h)
  | cons extracted sections ih =>
    obtain ⟨texts, htexts, hrest⟩ := bind_eq_ok.mp h
    have hthis := hsame extracted List.mem_cons_self call texts htexts
    exact bind_eq_ok.mpr ⟨texts, hthis,
      ih (fun other hother => hsame other (List.mem_cons_of_mem extracted hother)) hrest⟩

theorem buildRagChunks_accepted {chunkSize chunkOverlap : Nat} (hsize : 100 ≤ chunkSize)
    (hoverlap : chunkOverlap < chunkSize) (sections : List ExtractedSection) :
    buildRagChunks sections chunkSize chunkOverlap =
      collectChunks (fun _ text => splitTextIntoChunks text chunkSize chunkOverlap) 0 []
        sections := by
  have hsmall : ¬ (chunkSize : Int) < 100 := by omega
  have hrange : ¬ ((chunkOverlap : Int) < 0 ∨ (chunkSize : Int) ≤ chunkOverlap) := by omega
  rw [buildRagChunks, if_neg hsmall, if_neg hrange]

theorem collectChunks_sidecar {delivers : Nat → TextTools.Transport} {chunkSize chunkOverlap : Nat}
    (hsize : 100 ≤ chunkSize) (hoverlap : chunkOverlap < chunkSize)
    {sections : List ExtractedSection} (hplain : ∀ extracted ∈ sections, Plain extracted.text)
    {chunks : List PreparedRagChunk}
    (h : collectChunks (sidecarTexts delivers chunkSize chunkOverlap) 0 [] sections = .ok chunks) :
    buildRagChunks sections chunkSize chunkOverlap = .ok chunks := by
  rw [buildRagChunks_accepted hsize hoverlap]
  refine collectChunks_eq_ok (fun extracted hextracted call texts htexts => ?_) h
  obtain ⟨found, hfound, rfl⟩ := sidecarTexts_eq_ok htexts
  obtain ⟨same, hsame, hpython⟩ := chunkText_agrees (hplain extracted hextracted) hsize hoverlap
  obtain rfl := Except.ok.inj (hsame.symm.trans hfound)
  exact hpython

/-- The chunkers give one list of texts for every plain text, so a document of plain texts is
chunked alike with the sidecar and with the fallback. -/
theorem chunkers_agree {chunkSize chunkOverlap : Nat} (hsize : 100 ≤ chunkSize)
    (hoverlap : chunkOverlap < chunkSize) :
    (∀ value, Plain value → ∃ chunks,
      TextTools.chunkText value chunkSize chunkOverlap = .ok chunks ∧
        splitTextIntoChunks value chunkSize chunkOverlap = .ok (chunks.map TextChunk.text)) ∧
    (∀ (delivers : Nat → TextTools.Transport) (settings : Runs.Settings)
      (sections : List ExtractedSection), settings.ragChunkSize = chunkSize →
        settings.ragChunkOverlap = chunkOverlap →
        (∀ extracted ∈ sections, Plain extracted.text) →
          buildRagChunksWithOptionalTextTools delivers settings sections =
            buildRagChunks sections chunkSize chunkOverlap) := by
  refine ⟨fun value hvalue => chunkText_agrees hvalue hsize hoverlap, ?_⟩
  intro delivers settings sections hchunkSize hchunkOverlap hplain
  rw [buildRagChunksWithOptionalTextTools, hchunkSize, hchunkOverlap]
  by_cases henabled : settings.textToolsEnabled = true
  · rw [if_pos henabled]
    cases hchunks : collectChunks (sidecarTexts delivers chunkSize chunkOverlap) 0 [] sections with
    | error failure => rfl
    | ok chunks => exact (collectChunks_sidecar hsize hoverlap hplain hchunks).symm
  · rw [if_neg henabled]

/-- Two sections in which runs of blanks are squeezed, the second cut into two chunks. -/
theorem sections_agree_on_default_size :
    buildRagChunksWithOptionalTextTools (fun _ _ => true) ⟨[], 0, 0, 0, 0, 0, true, 600, 60⟩
        [⟨['a', ' ', '\t', 'b'], some 1, none⟩, ⟨List.replicate 700 'x', some 2, none⟩] =
      buildRagChunks [⟨['a', ' ', '\t', 'b'], some 1, none⟩, ⟨List.replicate 700 'x', some 2, none⟩]
        (600 : Nat) (60 : Nat) := by
  have hblank : Plain ['a', ' ', '\t', 'b'] := by decide
  have hlong : Plain (List.replicate 700 'x') := by
    intro c hc
    rw [List.eq_of_mem_replicate hc]
    rfl
  refine (chunkers_agree (show 100 ≤ 600 by omega) (show 60 < 600 by omega)).2 _ _ _ rfl rfl ?_
  exact List.forall_mem_cons.mpr ⟨hblank, List.forall_mem_singleton.mpr hlong⟩

end DemoService.RagChunking
