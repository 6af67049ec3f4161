import DemoService.WorkflowTools

/-! The extraction tools of the messy-notes workflow: claims, decisions and action items picked
from the sections by keywords. How letters fold to lower case is a parameter. -/

namespace DemoService.Workflow

open PyText TextLayout

/-- The confidence is in hundredths. -/
structure ExtractedItem where
  text : Text
  sourceSectionId : Text
  confidence : Nat
  deriving DecidableEq, Repr

def itemFromSection (note : NoteSection) : ExtractedItem := ⟨note.text, note.sectionId, 72⟩

/-- `any(marker in lowered for marker in markers)`. -/
def containsAny (markers : List String) (lowered : Text) : Bool :=
  markers.any fun marker => lowered.tails.any marker.toList.isPrefixOf

section Extract

variable (lower : Text → Text)

def looksLikeDecision (text : Text) : Bool :=
  containsAny ["decided", "decision", "approved", "will ", "we will"] (lower text)

def looksLikeAction (text : Text) : Bool :=
  containsAny ["todo", "action", "need ", "needs ", "ask ", "owner", "follow up"] (lower text)

def extractClaims (sections : List NoteSection) : List ExtractedItem :=
  (sections.filter fun note =>
    !looksLikeAction lower note.text && !looksLikeDecision lower note.text).map itemFromSection

def extractDecisions (sections : List NoteSection) : List ExtractedItem :=
  (sections.filter fun note => looksLikeDecision lower note.text).map itemFromSection

def extractActionItems (sections : List NoteSection) : List ExtractedItem :=
  (sections.filter fun note => looksLikeAction lower note.text).map itemFromSection

variable {lower} {sections : List NoteSection} {item : ExtractedItem}

theorem mem_extractClaims : item ∈ extractClaims lower sections ↔
    ∃ note ∈ sections, looksLikeAction lower note.text = false ∧
      looksLikeDecision lower note.text = false ∧ itemFromSection note = item := by
  simp [extractClaims, and_assoc]

theorem mem_extractDecisions : item ∈ extractDecisions lower sections ↔
    ∃ note ∈ sections, looksLikeDecision lower note.text = true ∧ itemFromSection note = item := by
  simp [extractDecisions, and_assoc]

theorem mem_extractActionItems : item ∈ extractActionItems lower sections ↔
    ∃ note ∈ sections, looksLikeAction lower note.text = true ∧ itemFromSection note = item := by
  simp [extractActionItems, and_assoc]

/-- Each section is picked by one of the tools. -/
theorem section_extracted {note : NoteSection} (hnote : note ∈ sections) :
    itemFromSection note ∈ extractClaims lower sections ∨
      itemFromSection note ∈ extractDecisions lower sections ∨
      itemFromSection note ∈ extractActionItems lower sections := by
  cases haction : looksLikeAction lower note.text with
  | true => exact .inr (.inr (mem_extractActionItems.mpr ⟨note, hnote, haction, rfl⟩))
  | false =>
    cases hdecision : looksLikeDecision lower note.text with
    | true => exact .inr (.inl (mem_extractDecisions.mpr ⟨note, hnote, hdecision, rfl⟩))
    | false => exact .inl (mem_extractClaims.mpr ⟨note, hnote, haction, hdecision, rfl⟩)

theorem claims_disjoint {claim : ExtractedItem} (hclaim : claim ∈ extractClaims lower sections)
    (hitem : item ∈ extractDecisions lower sections ++ extractActionItems lower sections) :
    claim.text ≠ item.text := by
  obtain ⟨note, -, haction, hdecision, rfl⟩ := mem_extractClaims.mp hclaim
  intro heq
  rcases List.mem_append.mp hitem with hitem | hitem
  · obtain ⟨other, -, hyes, rfl⟩ := mem_extractDecisions.mp hitem
    rw [show note.text = other.text from heq, hyes] at hdecision
    exact Bool.noConfusion hdecision
  · obtain ⟨other, -, hyes, rfl⟩ := mem_extractActionItems.mp hitem
    rw [show note.text = other.text from heq, hyes] at haction
    exact Bool.noConfusion haction

end Extract

/-- The ids `s1` to `sn`. -/
def sectionIds (n : Nat) : List Text := (List.range n).map fun i => 's' :: Nat.toDigits 10 (i + 1)

theorem foldl_pushSection_ids (pieces : List Text) {sections : List NoteSection}
    (h : sections.map NoteSection.sectionId = sectionIds sections.length) :
    (pieces.foldl pushSection sections).map NoteSection.sectionId =
      sectionIds (pieces.foldl pushSection sections).length := by
  induction pieces generalizing sections with
  | nil => exact h
  | cons piece pieces ih =>
    rw [List.foldl_cons]
    apply ih
    rw [pushSection]
    split
    · exact h
    · rw [List.map_append, h, List.length_append, sectionIds, sectionIds, List.length_singleton,
        List.range_succ, List.map_append]
      rfl

theorem splitIntoSections_ids (text : Text) :
    (splitIntoSections text).map NoteSection.sectionId =
      sectionIds (splitIntoSections text).length := by
  rw [splitIntoSections]
  split
  · rfl
  · exact foldl_pushSection_ids _ rfl

theorem words_eq_nil_iff {space : Char → Bool} {s : Text} :
    words space s = [] ↔ ∀ c ∈ s, space c = true := by
  induction s with
  | nil => simp [words, tokens]
  | cons c cs ih =>
    by_cases hc : space c = true
    · rw [words_cons_space hc, ih]
      simp [hc]
    · simp [words_cons_ne_nil hc cs, hc]

/-- The lines that are kept are those that hold more than whitespace. -/
theorem keptLines_eq_filter (text : Text) :
    keptLines text = ((splitlines text).filter fun line => line.any fun c => !isSpace c).map
      fun line => strip (squeeze isSpace line) := by
  rw [keptLines, List.filter_map]
  congr 1
  apply List.filter_congr
  intro line _
  have hstrip : strip (squeeze isSpace line) = unwords (words isSpace line) :=
    strip_squeeze (by decide) line
  have hnil : strip (squeeze isSpace line) = [] ↔ ∀ c ∈ line, isSpace c = true := by
    rw [hstrip, ← words_eq_nil_iff]
    constructor
    · intro h
      by_contra hne
      exact unwords_words_ne_nil hne h
    · intro h
      rw [h]
      rfl
  rw [Bool.eq_iff_iff]
  simp [hnil]

/-- No line of the notes is lost: the sections are the lines that are not blank, in order, and
each of them is picked by the claims or else by the decisions or the action items. -/
theorem notes_kept (lower : Text → Text) (text : Text) :
    let normalized := normalizeInput text
    let sections := splitIntoSections normalized.text
    sections.map NoteSection.text =
        ((splitlines text).filter fun line => line.any fun c => !isSpace c).map
          (fun line => strip (squeeze isSpace line)) ∧
      sections.map NoteSection.sectionId = sectionIds normalized.lineCount ∧
      (∀ note ∈ sections, itemFromSection note ∈ extractClaims lower sections ∨
        itemFromSection note ∈ extractDecisions lower sections ∨
        itemFromSection note ∈ extractActionItems lower sections) ∧
      ∀ claim ∈ extractClaims lower sections,
        ∀ item ∈ extractDecisions lower sections ++ extractActionItems lower sections,
          claim.text ≠ item.text := by
  intro normalized sections
  have htexts : sections.map NoteSection.text = keptLines text := by
    rw [keptLines_eq]
    exact sections_normalizeInput text
  have hcount : sections.length = normalized.lineCount := by
    rw [← List.length_map NoteSection.text, htexts]
    rfl
  refine ⟨htexts.trans (keptLines_eq_filter text), ?_, fun note => section_extracted,
    fun claim hclaim item => claims_disjoint hclaim⟩
  rw [← hcount]
  exact splitIntoSections_ids _

end DemoService.Workflow
