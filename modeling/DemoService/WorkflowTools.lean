import DemoService.PyText
import DemoService.TextLayoutBreaks

/-! The first tools of the messy-notes workflow, `normalize_input` and
`split_into_sections`: their sections are the lines of the input's words. -/

namespace DemoService.Workflow

open PyText TextLayout

structure NormalizedInputOutput where
  text : Text
  lineCount : Nat
  deriving DecidableEq, Repr

structure NoteSection where
  sectionId : Text
  heading : Text
  text : Text
  deriving DecidableEq, Repr

def keptLines (text : Text) : List Text :=
  ((splitlines text).map (fun line => strip (squeeze isSpace line))).filter (· ≠ [])

def normalizeInput (text : Text) : NormalizedInputOutput :=
  ⟨join ['\n'] (keptLines text), (keptLines text).length⟩

/-- `re.split(r"\n{2,}|(?<=\n)", text)`: a run of line feeds separates pieces and is followed by
an empty match, a single one ends the piece it stands in. -/
def splitPieces (inRun : Bool) (piece : Text) : Text → List Text
  | [] => if inRun then [[], []] else [piece]
  | c :: cs =>
    if c = '\n' then
      if inRun then splitPieces true [] cs
      else if cs.head? = some '\n' then piece :: splitPieces true [] cs
      else (piece ++ ['\n']) :: splitPieces false [] cs
    else if inRun then [] :: splitPieces false [c] cs
    else splitPieces false (piece ++ [c]) cs

def pushSection (sections : List NoteSection) (rawSection : Text) : List NoteSection :=
  let text := strip rawSection
  if text = [] then sections
  else
    sections ++ [⟨'s' :: Nat.toDigits 10 (sections.length + 1),
      ((splitlines text).headD []).take 80, text⟩]

def splitIntoSections (text : Text) : List NoteSection :=
  let sections := (splitPieces false [] text).foldl pushSection []
  if sections = [] ∧ strip text ≠ [] then [⟨['s', '1'], "Notes".toList, strip text⟩] else sections

theorem filter_map_splitlines {α : Type} [DecidableEq α] (f : Text → List α) (hf : f [] = [])
    (text : Text) :
    ∃ line later, RustText.splitBy isLineBoundary text = line :: later ∧
      ((splitlines text = [] ∧ line = [] ∧ later = []) ∨ ∃ later', splitlines text = line :: later' ∧
        (later'.map f).filter (· ≠ []) = (later.map f).filter (· ≠ [])) := by
  induction text using splitlines.induct with
  | case1 => exact ⟨[], [], rfl, .inl ⟨rfl, rfl, rfl⟩⟩
  | case2 cs ih =>
    obtain ⟨line, later, hsplit, hcase⟩ := ih
    have hcr : isLineBoundary '\r' = true := by decide
    have hlf : isLineBoundary '\n' = true := by decide
    refine ⟨[], [] :: line :: later, ?_, .inr ⟨splitlines cs, by rw [splitlines], ?_⟩⟩
    · rw [splitBy_cons_pos hcr, splitBy_cons_pos hlf, hsplit]
    · rcases hcase with ⟨hnil, rfl, rfl⟩ | ⟨later', hlines, hlater⟩
      · simp [hnil, hf]
      · rw [hlines]
        simp only [List.map_cons, hf, List.filter_cons, hlater]
        simp
  | case3 c cs hne hbreak ih =>
    obtain ⟨line, later, hsplit, hcase⟩ := ih
    refine ⟨[], line :: later, by rw [splitBy_cons_pos hbreak, hsplit],
      .inr ⟨splitlines cs, by rw [splitlines.eq_3 _ _ hne, if_pos hbreak], ?_⟩⟩
    rcases hcase with ⟨hnil, rfl, rfl⟩ | ⟨later', hlines, hlater⟩
    · simp [hnil, hf]
    · rw [hlines]
      simp only [List.map_cons, List.filter_cons, hlater]
  | case4 c cs hne hbreak hnil ih =>
    obtain ⟨line, later, hsplit, hcase⟩ := ih
    refine ⟨c :: line, later, splitBy_cons_neg hbreak hsplit, .inr ?_⟩
    rcases hcase with ⟨-, rfl, rfl⟩ | ⟨later', hlines, -⟩
    · exact ⟨[], by rw [splitlines.eq_3 _ _ hne, if_neg hbreak, hnil], rfl⟩
    · exact absurd (hnil.symm.trans hlines) (List.cons_ne_nil _ _).symm
  | case5 c cs hne hbreak line' later' hlines ih =>
    obtain ⟨line, later, hsplit, hcase⟩ := ih
    refine ⟨c :: line, later, splitBy_cons_neg hbreak hsplit, .inr ?_⟩
    rcases hcase with ⟨hnil, -, -⟩ | ⟨later'', hlines', hlater⟩
    · exact absurd (hnil.symm.trans hlines) (List.cons_ne_nil _ _).symm
    · obtain ⟨rfl, rfl⟩ := List.cons.inj (hlines'.symm.trans hlines)
      exact ⟨later'', by rw [splitlines.eq_3 _ _ hne, if_neg hbreak, hlines], hlater⟩

theorem words_splitlines (text : Text) :
    ((splitlines text).map (words isSpace)).filter (· ≠ []) =
      linesOf isLineBoundary (tokens isSpace text).2 := by
  have hsub : ∀ c, isLineBoundary c = true → isSpace c = true := by
    intro c hc
    simp only [isLineBoundary, isSpace, Bool.or_eq_true, Bool.and_eq_true, decide_eq_true_eq,
      beq_iff_eq] at hc ⊢
    omega
  rw [← filter_words_splitBy hsub]
  obtain ⟨line, later, hsplit, ⟨hnil, rfl, rfl⟩ | ⟨later', hlines, hlater⟩⟩ :=
    filter_map_splitlines (words isSpace) rfl text
  · rw [hsplit, hnil]
    rfl
  · rw [hsplit, hlines]
    simp only [List.map_cons, List.filter_cons, hlater]

theorem filter_map_unwords (lines : List Text) :
    (lines.map (fun line => unwords (words isSpace line))).filter (· ≠ []) =
      ((lines.map (words isSpace)).filter (· ≠ [])).map unwords := by
  induction lines with
  | nil => rfl
  | cons line lines ih =>
    by_cases hline : words isSpace line = []
    · simpa [hline, unwords, RustText.join] using ih
    · have hne : unwords (words isSpace line) ≠ [] := unwords_words_ne_nil hline
      simpa [hline, hne] using ih

/-- The kept lines hold the words of the text, line by line, one blank between two. -/
theorem keptLines_eq (text : Text) :
    keptLines text = (linesOf isLineBoundary (tokens isSpace text).2).map unwords := by
  have hblank : isSpace ' ' = true := by decide
  have hstrip : ∀ line, strip (squeeze isSpace line) = unwords (words isSpace line) :=
    fun line => strip_squeeze hblank line
  rw [keptLines, List.map_congr_left fun line _ => hstrip line, filter_map_unwords,
    words_splitlines]

theorem splitPieces_append {line : Text} (h : '\n' ∉ line) (piece rest : Text) :
    splitPieces false piece (line ++ rest) = splitPieces false (piece ++ line) rest := by
  induction line generalizing piece with
  | nil => simp
  | cons c cs ih =>
    have hc : c ≠ '\n' := fun heq => h (heq ▸ List.mem_cons_self)
    have hcs : '\n' ∉ cs := fun hmem => h (List.mem_cons_of_mem _ hmem)
    rw [List.cons_append, splitPieces, if_neg hc, if_neg Bool.false_ne_true, ih hcs]
    simp

/-- What `normalize_input` makes of a line: no line feed, nothing to strip, not empty. -/
structure Clean (line : Text) : Prop where
  single : '\n' ∉ line
  stripped : strip line = line
  nonempty : line ≠ []

theorem keptLines_clean (text : Text) : ∀ line ∈ keptLines text, Clean line := by
  intro line hline
  obtain ⟨hmem, hne⟩ := List.mem_filter.mp hline
  obtain ⟨raw, -, rfl⟩ := List.mem_map.mp hmem
  refine ⟨fun h => ?_, strip_strip _, by simpa using hne⟩
  rcases mem_squeeze (mem_of_mem_strip h) with hblank | ⟨-, hspace⟩
  · exact absurd hblank (by decide)
  · exact hspace (by decide)

theorem strip_splitPieces_join {lines : List Text} (h : ∀ line ∈ lines, Clean line) :
    ((splitPieces false [] (join ['\n'] lines)).map strip).filter (· ≠ []) = lines := by
  induction lines with
  | nil => decide
  | cons line lines ih =>
    have hline := h line List.mem_cons_self
    have hrest := ih fun l hl => h l (List.mem_cons_of_mem _ hl)
    cases lines with
    | nil =>
      have hpieces := splitPieces_append hline.single [] []
      rw [List.append_nil, List.nil_append] at hpieces
      simp [join, hpieces, splitPieces, hline.stripped, hline.nonempty]
    | cons next lines =>
      have hnext := h next (List.mem_cons_of_mem _ List.mem_cons_self)
      have hhead : (join ['\n'] (next :: lines)).head? ≠ some '\n' := by
        obtain ⟨c, cs, rfl⟩ := List.exists_cons_of_ne_nil hnext.nonempty
        have hc : c ≠ '\n' := fun heq => hnext.single (heq ▸ List.mem_cons_self)
        cases lines <;> simpa [join, List.intercalate] using hc
      have hjoin : join ['\n'] (line :: next :: lines) =
          line ++ '\n' :: join ['\n'] (next :: lines) := by
        simp [join, List.intercalate]
      rw [hjoin, splitPieces_append hline.single, List.nil_append, splitPieces, if_pos rfl,
        if_neg Bool.false_ne_true, if_neg hhead, List.map_cons,
        strip_append_space (by decide) hline.stripped hline.nonempty,
        List.filter_cons_of_pos (by simpa using hline.nonempty), hrest]

theorem foldl_pushSection (pieces : List Text) (sections : List NoteSection) :
    (pieces.foldl pushSection sections).map NoteSection.text =
      sections.map NoteSection.text ++ (pieces.map strip).filter (· ≠ []) := by
  induction pieces generalizing sections with
  | nil => simp
  | cons piece pieces ih =>
    rw [List.foldl_cons, ih, List.map_cons]
    by_cases hpiece : strip piece = []
    · simp [pushSection, hpiece]
    · simp [pushSection, hpiece]

/-- The sections of a normalized text are its kept lines, in order. -/
theorem sections_normalizeInput (text : Text) :
    (splitIntoSections (normalizeInput text).text).map NoteSection.text =
      (linesOf isLineBoundary (tokens isSpace text).2).map unwords := by
  rw [← keptLines_eq]
  have hpieces := strip_splitPieces_join (keptLines_clean text)
  have htexts := foldl_pushSection (splitPieces false [] (normalizeInput text).text) []
  rw [List.map_nil, List.nil_append, normalizeInput, hpieces] at htexts
  rw [splitIntoSections, normalizeInput]
  by_cases hkept : keptLines text = []
  · rw [hkept]
    decide
  · rw [if_neg, htexts]
    rintro ⟨hnil, -⟩
    rw [hnil] at htexts
    exact hkept htexts.symm

end DemoService.Workflow
