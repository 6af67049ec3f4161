import DemoService.PyGroups
import DemoService.WorkflowExtraction
import Mathlib.Data.List.Dedup
import Mathlib.Data.List.Sort

/-! Duplicates among the extracted items. Items are grouped by their words of unaccented letters
and digits; one section that reads both as a decision and as an action gives two items. -/

namespace DemoService.Workflow

open PyText TextLayout

structure ReconciliationInput where
  claims : List ExtractedItem
  decisions : List ExtractedItem
  actionItems : List ExtractedItem
  deriving DecidableEq, Repr

def ReconciliationInput.items (payload : ReconciliationInput) : List ExtractedItem :=
  payload.claims ++ payload.decisions ++ payload.actionItems

structure DuplicateFinding where
  text : Text
  sourceSectionIds : List Text
  deriving DecidableEq, Repr

/-- What `[^a-z0-9]` matches. -/
def isSeparator (c : Char) : Bool :=
  let n := c.toNat
  !((0x61 ≤ n && n ≤ 0x7A) || (0x30 ≤ n && n ≤ 0x39))

/-- `sorted` of a set of texts, by code points. -/
def sortedSet (texts : List Text) : List Text :=
  texts.dedup.insertionSort fun s t => List.lex t s (fun c d => decide (c.toNat < d.toNat)) = false

def namedDuplicate : List ExtractedItem → Option DuplicateFinding
  | first :: second :: rest =>
    some ⟨first.text, sortedSet ((first :: second :: rest).map ExtractedItem.sourceSectionId)⟩
  | _ => none

section Duplicates

variable (lower : Text → Text)

def duplicateKey (item : ExtractedItem) : Text := strip (squeeze isSeparator (lower item.text))

def buckets (payload : ReconciliationInput) : Dict Text (List ExtractedItem) :=
  Dict.groupBy (duplicateKey lower) payload.items

def findDuplicates (payload : ReconciliationInput) : List DuplicateFinding :=
  (buckets lower payload).filterMap fun bucket => namedDuplicate bucket.2

/-- The maximal runs of `a` to `z` and `0` to `9` in the folded text. -/
def keyWords (text : Text) : List Text := words isSeparator (lower text)

end Duplicates

variable {lower : Text → Text}

theorem isSeparator_of_isSpace {c : Char} (h : isSpace c = true) : isSeparator c = true := by
  simp only [isSpace, isSeparator, Bool.or_eq_true, Bool.and_eq_true, decide_eq_true_eq, beq_iff_eq,
    Bool.not_eq_true', Bool.or_eq_false_iff, Bool.and_eq_false_iff, decide_eq_false_iff_not] at h ⊢
  omega

/-- In a squeezed text the separators are blanks, so stripping blanks strips separators. -/
theorem strip_squeeze_isSeparator (s : Text) :
    strip (squeeze isSeparator s) = unwords (words isSeparator s) := by
  have hagree : ∀ c ∈ squeeze isSeparator s, isSpace c = isSeparator c := by
    intro c hc
    cases hsep : isSeparator c with
    | true =>
      rcases mem_squeeze hc with rfl | ⟨-, hword⟩
      · decide
      · exact absurd hsep hword
    | false =>
      by_contra hspace
      rw [isSeparator_of_isSpace (by simpa using hspace)] at hsep
      exact Bool.noConfusion hsep
  have hleft : lstrip (squeeze isSeparator s) = (squeeze isSeparator s).dropWhile isSeparator :=
    dropWhile_congr hagree
  rw [← strip_squeeze (by decide), strip, hleft, rstrip, List.rdropWhile, List.rdropWhile]
  congr 1
  apply dropWhile_congr
  intro c hc
  exact hagree c ((List.dropWhile_suffix _).subset (List.mem_reverse.mp hc))

theorem duplicateKey_eq (item : ExtractedItem) :
    duplicateKey lower item = unwords (keyWords lower item.text) := strip_squeeze_isSeparator _

theorem duplicateKey_eq_iff {a b : ExtractedItem} :
    duplicateKey lower a = duplicateKey lower b ↔ keyWords lower a.text = keyWords lower b.text := by
  rw [duplicateKey_eq, duplicateKey_eq]
  constructor
  · intro h
    have hwords := congrArg (words isSeparator) h
    rwa [keyWords, keyWords, words_unwords_words (by decide), words_unwords_words (by decide)]
      at hwords
  · intro h
    rw [h]

/-- Two items share a bucket exactly when they have the same words. -/
theorem bucket_iff_same_words {payload : ReconciliationInput} {a b : ExtractedItem}
    (ha : a ∈ payload.items) (hb : b ∈ payload.items) :
    (∃ bucket ∈ buckets lower payload, a ∈ bucket.2 ∧ b ∈ bucket.2) ↔
      keyWords lower a.text = keyWords lower b.text := by
  rw [← duplicateKey_eq_iff]
  constructor
  · rintro ⟨⟨key, group⟩, hbucket, hina, hinb⟩
    obtain ⟨-, rfl⟩ := Dict.mem_groupBy.mp hbucket
    simp only [List.mem_filter, decide_eq_true_eq] at hina hinb
    exact hina.2.trans hinb.2.symm
  · intro heq
    refine ⟨(duplicateKey lower a, _), Dict.mem_groupBy.mpr ⟨⟨a, ha, rfl⟩, rfl⟩, ?_, ?_⟩
    · simp [ha]
    · simp [hb, heq]

def thanks : ReconciliationInput :=
  ⟨[⟨"Thank you".toList, ['s', '1'], 72⟩, ⟨"thank - you!".toList, ['s', '2'], 72⟩],
    [], []⟩

theorem thanks_share_bucket :
    let lower : Text → Text := fun text => text.map Char.toLower
    let a : ExtractedItem := ⟨"Thank you".toList, ['s', '1'], 72⟩
    let b : ExtractedItem := ⟨"thank - you!".toList, ['s', '2'], 72⟩
    (∃ bucket ∈ buckets lower thanks, a ∈ bucket.2 ∧ b ∈ bucket.2) ↔
      keyWords lower a.text = keyWords lower b.text :=
  bucket_iff_same_words (by decide) (by decide)

/-- The letters and digits of the Latin and the Cyrillic script. -/
def isLetterOrDigit (c : Char) : Bool :=
  c.isAlphanum || (0x400 ≤ c.toNat && c.toNat < 0x482)

def yesAndNo : ReconciliationInput :=
  ⟨[⟨"да".toList, ['s', '1'], 72⟩, ⟨"нет".toList, ['s', '2'], 72⟩], [], []⟩

/-- Two different Cyrillic words have no key characters and share a bucket. -/
theorem yes_and_no_share_bucket :
    let lower : Text → Text := fun text => text.map Char.toLower
    ¬ ∀ a ∈ yesAndNo.items, ∀ b ∈ yesAndNo.items,
      ((∃ bucket ∈ buckets lower yesAndNo, a ∈ bucket.2 ∧ b ∈ bucket.2) ↔
        words (fun c => !isLetterOrDigit c) (lower a.text) =
          words (fun c => !isLetterOrDigit c) (lower b.text)) := by
  decide

theorem mem_sortedSet {texts : List Text} {text : Text} : text ∈ sortedSet texts ↔ text ∈ texts := by
  rw [sortedSet, (List.perm_insertionSort _ _).mem_iff, List.mem_dedup]

theorem namedDuplicate_isSome {items : List ExtractedItem} (h : 2 ≤ items.length) :
    ∃ finding, namedDuplicate items = some finding := by
  match items, h with
  | first :: second :: rest, _ => exact ⟨_, rfl⟩

theorem namedDuplicate_eq_some {items : List ExtractedItem} {finding : DuplicateFinding}
    (h : namedDuplicate items = some finding) : 2 ≤ items.length ∧
      ∀ id, id ∈ finding.sourceSectionIds ↔ ∃ item ∈ items, item.sourceSectionId = id := by
  match items, h with
  | first :: second :: rest, h =>
    obtain rfl := Option.some.inj h
    refine ⟨by simp, fun id => ?_⟩
    rw [mem_sortedSet, List.mem_map]

section Extracted

variable (lower) (sections : List NoteSection)

/-- What the three extractors make of the sections. -/
def extracted : ReconciliationInput :=
  ⟨extractClaims lower sections, extractDecisions lower sections,
    extractActionItems lower sections⟩

/-- The section is picked twice, as a decision and as an action item. -/
def readsTwice (note : NoteSection) : Bool :=
  looksLikeDecision lower note.text && looksLikeAction lower note.text

/-- How many items have the words of the section: one for each section that has them, and one
more for each that reads twice. -/
def itemsLike (note : NoteSection) : Nat :=
  (sections.countP fun other => keyWords lower other.text = keyWords lower note.text) +
    sections.countP fun other =>
      keyWords lower other.text = keyWords lower note.text && readsTwice lower other

variable {lower} {sections}

theorem mem_items_extracted {item : ExtractedItem} : item ∈ (extracted lower sections).items ↔
    ∃ note ∈ sections, itemFromSection note = item := by
  rw [ReconciliationInput.items, extracted, List.mem_append, List.mem_append, mem_extractClaims,
    mem_extractDecisions, mem_extractActionItems]
  constructor
  · rintro ((⟨note, hnote, -, -, rfl⟩ | ⟨note, hnote, -, rfl⟩) | ⟨note, hnote, -, rfl⟩)
    · exact ⟨note, hnote, rfl⟩
    · exact ⟨note, hnote, rfl⟩
    · exact ⟨note, hnote, rfl⟩
  · rintro ⟨note, hnote, rfl⟩
    cases haction : looksLikeAction lower note.text with
    | true => exact .inr ⟨note, hnote, haction, rfl⟩
    | false =>
      cases hdecision : looksLikeDecision lower note.text with
      | true => exact .inl (.inr ⟨note, hnote, hdecision, rfl⟩)
      | false => exact .inl (.inl ⟨note, hnote, haction, hdecision, rfl⟩)

theorem countP_items_extracted (p : ExtractedItem → Bool) :
    (extracted lower sections).items.countP p =
      (sections.countP fun note => p (itemFromSection note)) +
        sections.countP fun note => p (itemFromSection note) && readsTwice lower note := by
  simp only [ReconciliationInput.items, extracted, extractClaims, extractDecisions,
    extractActionItems, List.countP_append, List.countP_map, List.countP_filter]
  induction sections with
  | nil => rfl
  | cons note sections ih =>
    simp only [List.countP_cons, Function.comp, readsTwice] at ih ⊢
    cases p (itemFromSection note) <;> cases looksLikeDecision lower note.text <;>
      cases looksLikeAction lower note.text <;> simp <;> omega

theorem length_group (note : NoteSection) :
    ((extracted lower sections).items.filter fun item =>
      duplicateKey lower item = duplicateKey lower (itemFromSection note)).length =
      itemsLike lower sections note := by
  rw [← List.countP_eq_length_filter, countP_items_extracted, itemsLike]
  simp only [duplicateKey_eq_iff]
  rfl

/-- The bucket of a section's words, if it is reported, names the sections of these words. -/
theorem group_names {note : NoteSection} {finding : DuplicateFinding}
    (h : namedDuplicate ((extracted lower sections).items.filter fun item =>
      duplicateKey lower item = duplicateKey lower (itemFromSection note)) = some finding)
    (id : Text) : id ∈ finding.sourceSectionIds ↔ ∃ other ∈ sections,
      keyWords lower other.text = keyWords lower note.text ∧ other.sectionId = id := by
  rw [(namedDuplicate_eq_some h).2 id]
  constructor
  · rintro ⟨item, hitem, rfl⟩
    simp only [List.mem_filter, decide_eq_true_eq, duplicateKey_eq_iff] at hitem
    obtain ⟨other, hother, rfl⟩ := mem_items_extracted.mp hitem.1
    exact ⟨other, hother, hitem.2, rfl⟩
  · rintro ⟨other, hother, hwords, rfl⟩
    refine ⟨itemFromSection other, ?_, rfl⟩
    simp only [List.mem_filter, decide_eq_true_eq, duplicateKey_eq_iff]
    exact ⟨mem_items_extracted.mpr ⟨other, hother, rfl⟩, hwords⟩

theorem mem_findDuplicates {finding : DuplicateFinding} :
    finding ∈ findDuplicates lower (extracted lower sections) ↔
      ∃ note ∈ sections, namedDuplicate ((extracted lower sections).items.filter fun item =>
        duplicateKey lower item = duplicateKey lower (itemFromSection note)) = some finding := by
  rw [findDuplicates, List.mem_filterMap]
  constructor
  · rintro ⟨⟨key, group⟩, hbucket, hnamed⟩
    obtain ⟨⟨item, hitem, rfl⟩, rfl⟩ := Dict.mem_groupBy.mp hbucket
    obtain ⟨note, hnote, rfl⟩ := mem_items_extracted.mp hitem
    exact ⟨note, hnote, hnamed⟩
  · rintro ⟨note, hnote, hnamed⟩
    have hitem : itemFromSection note ∈ (extracted lower sections).items :=
      mem_items_extracted.mpr ⟨note, hnote, rfl⟩
    exact ⟨_, Dict.mem_groupBy.mpr ⟨⟨_, hitem, rfl⟩, rfl⟩, hnamed⟩

/-- Every reported duplicate names two sections exactly when no section that reads twice, and no
section whose words occur again, has the only id among the sections of these words. -/
theorem duplicates_differ_iff :
    (∀ finding ∈ findDuplicates lower (extracted lower sections),
      ∃ note ∈ sections, ∃ other ∈ sections, note.sectionId ≠ other.sectionId ∧
        note.sectionId ∈ finding.sourceSectionIds ∧ other.sectionId ∈ finding.sourceSectionIds) ↔
    ∀ note ∈ sections, (readsTwice lower note = true ∨
        2 ≤ sections.countP fun other => keyWords lower other.text = keyWords lower note.text) →
      ∃ other ∈ sections, keyWords lower other.text = keyWords lower note.text ∧
        other.sectionId ≠ note.sectionId := by
  constructor
  · intro hnames note hnote hagain
    have hmany : 2 ≤ itemsLike lower sections note := by
      rcases hagain with htwice | hcount
      · have hone : 0 < sections.countP fun other =>
            decide (keyWords lower other.text = keyWords lower note.text) :=
          List.countP_pos_iff.mpr ⟨note, hnote, by simp⟩
        have hboth : 0 < sections.countP fun other =>
            decide (keyWords lower other.text = keyWords lower note.text) &&
              readsTwice lower other :=
          List.countP_pos_iff.mpr ⟨note, hnote, by simp [htwice]⟩
        rw [itemsLike]
        omega
      · rw [itemsLike]
        omega
    rw [← length_group] at hmany
    obtain ⟨finding, hfinding⟩ := namedDuplicate_isSome hmany
    obtain ⟨a, -, b, -, hne, ha, hb⟩ :=
      hnames finding (mem_findDuplicates.mpr ⟨note, hnote, hfinding⟩)
    rw [group_names hfinding] at ha hb
    obtain ⟨a', ha', hwords, hid⟩ := ha
    obtain ⟨b', hb', hwords', hid'⟩ := hb
    by_cases hsame : a'.sectionId = note.sectionId
    · exact ⟨b', hb', hwords', fun heq => hne (by rw [← hid, ← hid', hsame, heq])⟩
    · exact ⟨a', ha', hwords, hsame⟩
  · intro hcond finding hfinding
    obtain ⟨note, hnote, hnamed⟩ := mem_findDuplicates.mp hfinding
    have hmany := (namedDuplicate_eq_some hnamed).1
    rw [length_group, itemsLike] at hmany
    have hpair : ∃ a ∈ sections, keyWords lower a.text = keyWords lower note.text ∧
        ∃ b ∈ sections, keyWords lower b.text = keyWords lower a.text ∧
          b.sectionId ≠ a.sectionId := by
      by_cases hboth : 0 < sections.countP fun other =>
          decide (keyWords lower other.text = keyWords lower note.text) && readsTwice lower other
      · obtain ⟨a, ha, htwice⟩ := List.countP_pos_iff.mp hboth
        simp only [Bool.and_eq_true, decide_eq_true_eq] at htwice
        exact ⟨a, ha, htwice.1, hcond a ha (.inl htwice.2)⟩
      · exact ⟨note, hnote, rfl, hcond note hnote (.inr (by omega))⟩
    obtain ⟨a, ha, hwords, b, hb, hwords', hne⟩ := hpair
    refine ⟨a, ha, b, hb, Ne.symm hne, ?_, ?_⟩
    · exact (group_names hnamed _).mpr ⟨a, ha, hwords, rfl⟩
    · exact (group_names hnamed _).mpr ⟨b, hb, hwords'.trans hwords, rfl⟩

end Extracted

/-- A note that reads as a decision and as an action item. -/
def promise : NoteSection :=
  ⟨['s', '1'], "we will follow up".toList, "we will follow up".toList⟩

theorem promise_duplicates_itself :
    let lower : Text → Text := fun text => text.map Char.toLower
    ¬ ∀ finding ∈ findDuplicates lower (extracted lower [promise]),
      ∃ note ∈ [promise], ∃ other ∈ [promise], note.sectionId ≠ other.sectionId ∧
        note.sectionId ∈ finding.sourceSectionIds ∧
        other.sectionId ∈ finding.sourceSectionIds := by
  decide

end DemoService.Workflow
