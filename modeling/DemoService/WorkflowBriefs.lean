import DemoService.WorkflowAudit

/-! The brief of a run, from its notes: what contradicts what among the extracted items, what the
pipeline's last tool reports of the lines, and that the brief a run stores, through failures and
repetitions, is the report of the notes one of its executions started from. -/

namespace DemoService.Workflow

open PyText TextLayout Effect Runs GuardedRuns

section Contradictions

variable (lower : Text → Text) (isWord : Char → Bool)

/-- `\b` between two characters, or at an end of the text. -/
def atBoundary (left right : Option Char) : Bool := left.any isWord != right.any isWord

/-- `re.search(r"\b(..|..)\b", text)`, where `before` stands in front of the text. -/
def searchWord (signals : List String) (before : Option Char) : Text → Bool
  | [] => false
  | c :: cs =>
    atBoundary isWord before (some c) && signals.any (fun signal =>
      signal.toList.isPrefixOf (c :: cs) &&
        atBoundary isWord signal.toList.getLast? ((c :: cs).drop signal.length).head?) ||
      searchWord signals (some c) cs

def containsNegativeSignal (text : Text) : Bool :=
  searchWord isWord ["no", "not", "blocked", "cancel", "delay", "risk", "cannot", "won't"] none
    (lower text)

def containsPositiveSignal (text : Text) : Bool :=
  searchWord isWord ["yes", "approved", "will", "go", "ready", "can", "confirmed"] none (lower text)

def stopwords : List Text :=
  ["the", "and", "for", "with", "that", "this", "will", "not", "need"].map String.toList

/-- `re.findall(r"[a-z0-9]{4,}", ..)` is greedy: it finds the whole runs of these characters. -/
def meaningfulTerms (text : Text) : List Text :=
  (keyWords lower text).filter fun term => 4 ≤ term.length && !stopwords.contains term

def shareTerms (s t : Text) : Bool :=
  (meaningfulTerms lower s).any (meaningfulTerms lower t).contains

/-- The positive item that the inner loop breaks at. -/
def contradictedBy (positives : List ExtractedItem) (negative : ExtractedItem) :
    Option ExtractedItem :=
  positives.find? fun positive =>
    negative.sourceSectionId ≠ positive.sourceSectionId &&
      shareTerms lower negative.text positive.text

def findContradictions (payload : ReconciliationInput) : List ContradictionFinding :=
  let negatives := payload.items.filter fun item => containsNegativeSignal lower isWord item.text
  let positives := payload.items.filter fun item => containsPositiveSignal lower isWord item.text
  negatives.filterMap fun negative =>
    (contradictedBy lower positives negative).map fun positive =>
      ⟨positive.text, negative.text, [positive.sourceSectionId, negative.sourceSectionId]⟩

/-- The second text says no to what the first says yes to. -/
def Opposes (positive negative : Text) : Prop :=
  containsPositiveSignal lower isWord positive = true ∧
    containsNegativeSignal lower isWord negative = true ∧ shareTerms lower negative positive = true

/-- What the workflow makes of a text, with the tools it is shipped with. -/
def briefOf (title : Option Text) (notes : Text) : BriefOutput :=
  let findings := extracted lower (splitIntoSections (normalizeInput notes).text)
  formatBrief ⟨findings, title, findDuplicates lower findings,
    findContradictions lower isWord findings⟩

end Contradictions

section Report

variable (lower : Text → Text) (isWord : Char → Bool)

/-- The lines of a text that are not blank, with single blanks between their words. -/
def noteLines (notes : Text) : List Text :=
  ((splitlines notes).filter fun line => line.any fun c => !isSpace c).map
    fun line => strip (squeeze isSpace line)

/-- The id of a line by its place among the lines. -/
def lineId (i : Nat) : Text := 's' :: Nat.toDigits 10 (i + 1)

/-- A section of the brief: the first eight of the lines it is about. -/
def listing (heading fallback : String) (lines : List Text) : BriefSection :=
  ⟨heading.toList, if lines = [] then fallback.toList
    else join ['\n'] ((lines.take 8).map fun line => "- ".toList ++ line)⟩

def resolveQuestion : Text :=
  "Resolve duplicate or overlapping notes before treating them as separate facts.".toList

def confirmQuestion : Text := "Confirm contradictory notes before acting on the brief.".toList

/-- Two lines of the notes, by their places, of which one contradicts the other. -/
def Conflict (lines : List Text) (i j : Nat) : Prop :=
  i ≠ j ∧ ∃ positive ∈ lines[i]?, ∃ negative ∈ lines[j]?, Opposes lower isWord positive negative

/-- The line says the same as another one, or reads both as a decision and as an action item. -/
def Repeated (lines : List Text) (line : Text) : Prop :=
  2 ≤ lines.countP (fun other => keyWords lower other = keyWords lower line) ∨
    (looksLikeDecision lower line && looksLikeAction lower line) = true

/-- What a brief says of the lines of the notes. -/
structure Reports (title : Option Text) (lines : List Text) (brief : BriefOutput) : Prop where
  title : brief.title = orText title "Messy notes brief".toList
  sections : brief.sections = [
    listing "Key observations" "No clear factual claims were found."
      (lines.filter fun line => !looksLikeAction lower line && !looksLikeDecision lower line),
    listing "Decisions" "No explicit decisions were found."
      (lines.filter fun line => looksLikeDecision lower line),
    listing "Action items" "No explicit action items were found."
      (lines.filter fun line => looksLikeAction lower line)]
  duplicates : resolveQuestion ∈ brief.openQuestions ↔ ∃ line ∈ lines, Repeated lower lines line
  conflicts : confirmQuestion ∈ brief.openQuestions ↔ ∃ i j, Conflict lower isWord lines i j
  counted : ∃ (duplicates : List DuplicateFinding) (conflicts : List ContradictionFinding),
    brief.auditNotes = ["Duplicate findings: ".toList ++ Nat.toDigits 10 duplicates.length,
      "Potential contradictions: ".toList ++ Nat.toDigits 10 conflicts.length] ∧
    (∀ finding ∈ duplicates, ∃ line ∈ lines, Repeated lower lines line ∧
      ∀ id, id ∈ finding.sourceSectionIds ↔ ∃ i, ∃ other ∈ lines[i]?,
        keyWords lower other = keyWords lower line ∧ lineId i = id) ∧
    (∀ finding ∈ conflicts, ∃ i j, Conflict lower isWord lines i j ∧
      lines[i]? = some finding.positive ∧ lines[j]? = some finding.negative ∧
        finding.sourceSectionIds = [lineId i, lineId j]) ∧
    ∀ i j, Conflict lower isWord lines i j → ∃ finding ∈ conflicts, ∃ i',
      lines[j]? = some finding.negative ∧ finding.sourceSectionIds = [lineId i', lineId j]

end Report

section Numbered

variable {lower : Text → Text} {isWord : Char → Bool} {sections : List NoteSection}

theorem lineId_inj {i j : Nat} : lineId i = lineId j ↔ i = j := by
  constructor
  · intro h
    have hdigits : Nat.toDigits 10 (i + 1) = Nat.toDigits 10 (j + 1) := (List.cons.inj h).2
    have hvalue := congrArg (Nat.ofDigitChars 10 · 0) hdigits
    simp only [Nat.ofDigitChars_ten_toDigits] at hvalue
    omega
  · intro h
    rw [h]

/-- The sections of the notes, in order, are their lines under the ids of their places. -/
theorem sections_of_notes (notes : Text) :
    let sections := splitIntoSections (normalizeInput notes).text
    sections.map NoteSection.text = noteLines notes ∧
      sections.map NoteSection.sectionId = (List.range sections.length).map lineId := by
  obtain ⟨htexts, -, -, -⟩ := notes_kept id notes
  exact ⟨htexts, splitIntoSections_ids _⟩

variable (hids : sections.map NoteSection.sectionId = (List.range sections.length).map lineId)

include hids in
theorem sectionId_of_get {i : Nat} {note : NoteSection} (h : sections[i]? = some note) :
    note.sectionId = lineId i := by
  have hi : i < sections.length := (List.getElem?_eq_some_iff.mp h).1
  have hget := congrArg (·[i]?) hids
  simp only [List.getElem?_map, h, List.getElem?_range hi, Option.map_some] at hget
  exact Option.some.inj hget

include hids in
/-- A line at its place is the section that has the id of the place. -/
theorem line_at_iff {i : Nat} {line : Text} :
    (sections.map NoteSection.text)[i]? = some line ↔
      ∃ note ∈ sections, note.text = line ∧ note.sectionId = lineId i := by
  rw [List.getElem?_map, Option.map_eq_some_iff]
  constructor
  · rintro ⟨note, hnote, rfl⟩
    exact ⟨note, List.mem_of_getElem? hnote, rfl, sectionId_of_get hids hnote⟩
  · rintro ⟨note, hnote, rfl, hid⟩
    obtain ⟨k, hk, rfl⟩ := List.mem_iff_getElem.mp hnote
    have hget : sections[k]? = some sections[k] := List.getElem?_eq_getElem hk
    have hki : k = i := lineId_inj.mp ((sectionId_of_get hids hget).symm.trans hid)
    rw [← hki]
    exact ⟨sections[k], hget, rfl⟩

include hids in
theorem exists_place {note : NoteSection} (hnote : note ∈ sections) :
    ∃ i, (sections.map NoteSection.text)[i]? = some note.text ∧ note.sectionId = lineId i := by
  obtain ⟨i, hi, rfl⟩ := List.mem_iff_getElem.mp hnote
  have hget : sections[i]? = some sections[i] := List.getElem?_eq_getElem hi
  exact ⟨i, by simp [hi], sectionId_of_get hids hget⟩

theorem keyWords_countP (note : NoteSection) :
    (sections.map NoteSection.text).countP
        (fun other => keyWords lower other = keyWords lower note.text) =
      sections.countP fun other => keyWords lower other.text = keyWords lower note.text := by
  rw [List.countP_map]
  rfl

/-- The items of a section's words are at least two when a section of these words is repeated. -/
theorem repeated_of_itemsLike {note : NoteSection} (hnote : note ∈ sections)
    (hmany : 2 ≤ itemsLike lower sections note) :
    ∃ other ∈ sections, keyWords lower other.text = keyWords lower note.text ∧
      Repeated lower (sections.map NoteSection.text) other.text := by
  by_cases htwice : 0 < sections.countP fun other =>
      decide (keyWords lower other.text = keyWords lower note.text) && readsTwice lower other
  · obtain ⟨other, hother, hreads⟩ := List.countP_pos_iff.mp htwice
    simp only [Bool.and_eq_true, decide_eq_true_eq] at hreads
    exact ⟨other, hother, hreads.1, .inr hreads.2⟩
  · refine ⟨note, hnote, rfl, .inl ?_⟩
    rw [keyWords_countP]
    rw [itemsLike] at hmany
    omega

theorem itemsLike_of_repeated {note : NoteSection} (hnote : note ∈ sections)
    (h : Repeated lower (sections.map NoteSection.text) note.text) :
    2 ≤ itemsLike lower sections note := by
  rw [itemsLike]
  rcases h with h | h
  · rw [keyWords_countP] at h
    omega
  · have hone : 0 < sections.countP fun other =>
        decide (keyWords lower other.text = keyWords lower note.text) :=
      List.countP_pos_iff.mpr ⟨note, hnote, by simp⟩
    have hboth : 0 < sections.countP fun other =>
        decide (keyWords lower other.text = keyWords lower note.text) && readsTwice lower other :=
      List.countP_pos_iff.mpr ⟨note, hnote, by simpa [readsTwice] using h⟩
    omega

include hids in
/-- A reported duplicate is of a repeated line, and names the places of the lines that have its
words. -/
theorem duplicate_names {finding : DuplicateFinding}
    (h : finding ∈ findDuplicates lower (extracted lower sections)) :
    ∃ line ∈ sections.map NoteSection.text, Repeated lower (sections.map NoteSection.text) line ∧
      ∀ id, id ∈ finding.sourceSectionIds ↔ ∃ i, ∃ other ∈ (sections.map NoteSection.text)[i]?,
        keyWords lower other = keyWords lower line ∧ lineId i = id := by
  obtain ⟨note, hnote, hnamed⟩ := mem_findDuplicates.mp h
  have hmany : 2 ≤ itemsLike lower sections note :=
    length_group note ▸ (namedDuplicate_eq_some hnamed).1
  obtain ⟨line, hline, hwords, hrepeated⟩ := repeated_of_itemsLike hnote hmany
  refine ⟨line.text, List.mem_map_of_mem hline, hrepeated, fun id => ?_⟩
  rw [group_names hnamed, hwords]
  constructor
  · rintro ⟨other, hother, hsame, rfl⟩
    obtain ⟨i, hi, hid⟩ := exists_place hids hother
    exact ⟨i, other.text, hi, hsame, hid.symm⟩
  · rintro ⟨i, other, hi, hsame, rfl⟩
    obtain ⟨found, hfound, rfl, hid⟩ := (line_at_iff hids).mp hi
    exact ⟨found, hfound, hsame, hid⟩

theorem findDuplicates_ne_nil_iff : findDuplicates lower (extracted lower sections) ≠ [] ↔
    ∃ line ∈ sections.map NoteSection.text,
      Repeated lower (sections.map NoteSection.text) line := by
  constructor
  · intro hne
    obtain ⟨finding, hfinding⟩ := List.exists_mem_of_ne_nil _ hne
    obtain ⟨note, hnote, hnamed⟩ := mem_findDuplicates.mp hfinding
    have hmany : 2 ≤ itemsLike lower sections note :=
      length_group note ▸ (namedDuplicate_eq_some hnamed).1
    obtain ⟨line, hline, -, hrepeated⟩ := repeated_of_itemsLike hnote hmany
    exact ⟨line.text, List.mem_map_of_mem hline, hrepeated⟩
  · rintro ⟨line, hline, hrepeated⟩
    obtain ⟨note, hnote, rfl⟩ := List.mem_map.mp hline
    have hmany := itemsLike_of_repeated hnote hrepeated
    rw [← length_group] at hmany
    obtain ⟨finding, hfinding⟩ := namedDuplicate_isSome hmany
    exact List.ne_nil_of_mem (mem_findDuplicates.mpr ⟨note, hnote, hfinding⟩)

theorem contradictedBy_eq_some {positives : List ExtractedItem} {negative positive : ExtractedItem}
    (h : contradictedBy lower positives negative = some positive) : positive ∈ positives ∧
      negative.sourceSectionId ≠ positive.sourceSectionId ∧
      shareTerms lower negative.text positive.text = true := by
  have hfound := List.find?_some h
  simp only [Bool.and_eq_true, decide_eq_true_eq] at hfound
  exact ⟨List.mem_of_find?_eq_some h, hfound⟩

theorem contradictedBy_isSome {positives : List ExtractedItem} {negative positive : ExtractedItem}
    (hmem : positive ∈ positives) (hid : negative.sourceSectionId ≠ positive.sourceSectionId)
    (hshare : shareTerms lower negative.text positive.text = true) :
    ∃ found, contradictedBy lower positives negative = some found := by
  apply Option.isSome_iff_exists.mp
  rw [contradictedBy, List.find?_isSome]
  exact ⟨positive, hmem, by simp [hid, hshare]⟩

/-- The findings are the pairs that the loops over the items of the sections break at. -/
theorem mem_findContradictions {finding : ContradictionFinding} :
    finding ∈ findContradictions lower isWord (extracted lower sections) ↔
      ∃ negative ∈ sections, containsNegativeSignal lower isWord negative.text = true ∧
        ∃ positive, contradictedBy lower ((extracted lower sections).items.filter fun item =>
            containsPositiveSignal lower isWord item.text) (itemFromSection negative) =
              some positive ∧
          finding = ⟨positive.text, negative.text,
            [positive.sourceSectionId, negative.sectionId]⟩ := by
  rw [findContradictions, List.mem_filterMap]
  constructor
  · rintro ⟨item, hitem, hfound⟩
    obtain ⟨hmem, hnegative⟩ := List.mem_filter.mp hitem
    obtain ⟨negative, hsection, rfl⟩ := mem_items_extracted.mp hmem
    obtain ⟨positive, hpositive, rfl⟩ := Option.map_eq_some_iff.mp hfound
    exact ⟨negative, hsection, hnegative, positive, hpositive, rfl⟩
  · rintro ⟨negative, hsection, hnegative, positive, hpositive, rfl⟩
    refine ⟨itemFromSection negative, List.mem_filter.mpr ⟨?_, hnegative⟩, ?_⟩
    · exact mem_items_extracted.mpr ⟨negative, hsection, rfl⟩
    · rw [hpositive]
      rfl

include hids in
theorem contradiction_sound {finding : ContradictionFinding}
    (h : finding ∈ findContradictions lower isWord (extracted lower sections)) :
    ∃ i j, Conflict lower isWord (sections.map NoteSection.text) i j ∧
      (sections.map NoteSection.text)[i]? = some finding.positive ∧
      (sections.map NoteSection.text)[j]? = some finding.negative ∧
      finding.sourceSectionIds = [lineId i, lineId j] := by
  obtain ⟨negative, hnegative, hsignal, item, hfound, rfl⟩ := mem_findContradictions.mp h
  obtain ⟨hitem, hne, hshare⟩ := contradictedBy_eq_some hfound
  obtain ⟨hitems, hpositive⟩ := List.mem_filter.mp hitem
  obtain ⟨positive, hmem, rfl⟩ := mem_items_extracted.mp hitems
  obtain ⟨i, hi, hidi⟩ := exists_place hids hmem
  obtain ⟨j, hj, hidj⟩ := exists_place hids hnegative
  have hij : i ≠ j := by
    rintro rfl
    exact hne (hidj.trans hidi.symm)
  refine ⟨i, j, ⟨hij, positive.text, hi, negative.text, hj, hpositive, hsignal, hshare⟩, hi, hj, ?_⟩
  simp only [itemFromSection, hidi, hidj]

include hids in
theorem contradiction_complete {i j : Nat}
    (h : Conflict lower isWord (sections.map NoteSection.text) i j) :
    ∃ finding ∈ findContradictions lower isWord (extracted lower sections), ∃ i',
      (sections.map NoteSection.text)[j]? = some finding.negative ∧
      finding.sourceSectionIds = [lineId i', lineId j] := by
  obtain ⟨hij, _, hi, _, hj, hpositive, hnegative, hshare⟩ := h
  obtain ⟨positive, hmem, rfl, hidi⟩ := (line_at_iff hids).mp hi
  obtain ⟨negative, hmem', rfl, hidj⟩ := (line_at_iff hids).mp hj
  have hne : negative.sectionId ≠ positive.sectionId := by
    rw [hidi, hidj]
    exact fun heq => hij (lineId_inj.mp heq).symm
  have hcandidate : itemFromSection positive ∈ (extracted lower sections).items.filter
      fun item => containsPositiveSignal lower isWord item.text :=
    List.mem_filter.mpr ⟨mem_items_extracted.mpr ⟨positive, hmem, rfl⟩, hpositive⟩
  obtain ⟨found, hfound⟩ : ∃ found,
      contradictedBy lower _ (itemFromSection negative) = some found :=
    contradictedBy_isSome hcandidate hne hshare
  obtain ⟨hitem, -, -⟩ := contradictedBy_eq_some hfound
  obtain ⟨other, hother, rfl⟩ := mem_items_extracted.mp (List.mem_filter.mp hitem).1
  obtain ⟨i', -, hid⟩ := exists_place hids hother
  refine ⟨_, mem_findContradictions.mpr ⟨negative, hmem', hnegative, _, hfound, rfl⟩, i', hj, ?_⟩
  simp only [itemFromSection, hid, hidj]

include hids in
theorem findContradictions_ne_nil_iff :
    findContradictions lower isWord (extracted lower sections) ≠ [] ↔
      ∃ i j, Conflict lower isWord (sections.map NoteSection.text) i j := by
  constructor
  · intro hne
    obtain ⟨finding, hfinding⟩ := List.exists_mem_of_ne_nil _ hne
    obtain ⟨i, j, hconflict, -⟩ := contradiction_sound hids hfinding
    exact ⟨i, j, hconflict⟩
  · rintro ⟨i, j, hconflict⟩
    obtain ⟨finding, hfinding, -⟩ := contradiction_complete hids hconflict
    exact List.ne_nil_of_mem hfinding

end Numbered

section Format

variable {lower : Text → Text} {isWord : Char → Bool}

/-- The content of a section of the brief, from the lines its items were made of. -/
theorem listing_items (heading fallback : String) (sections : List NoteSection)
    (p : Text → Bool) :
    (⟨heading.toList, orText (joinItems ((sections.filter fun note => p note.text).map
        itemFromSection)) fallback.toList⟩ : BriefSection) =
      listing heading fallback ((sections.map NoteSection.text).filter p) := by
  have htexts : ((sections.filter fun note => p note.text).map itemFromSection).map
      ExtractedItem.text = (sections.map NoteSection.text).filter p := by
    rw [List.map_map, List.filter_map]
    rfl
  rw [listing, ← htexts]
  generalize (sections.filter fun note => p note.text).map itemFromSection = items
  cases items with
  | nil => rfl
  | cons item items =>
    rw [if_neg (by simp), joinItems, ← List.map_take, List.map_map]
    cases items <;> rfl

theorem mem_questions {duplicates : List DuplicateFinding} {conflicts : List ContradictionFinding}
    {resolve confirm : Text} (hne : resolve ≠ confirm) :
    let questions := (duplicates.take 1).map (fun _ => resolve) ++
      (conflicts.take 1).map (fun _ => confirm)
    (resolve ∈ questions ↔ duplicates ≠ []) ∧ (confirm ∈ questions ↔ conflicts ≠ []) := by
  cases duplicates <;> cases conflicts <;> simp [hne, hne.symm]

/-- The pipeline reports the lines of the notes. -/
theorem briefOf_reports (title : Option Text) (notes : Text) :
    Reports lower isWord title (noteLines notes) (briefOf lower isWord title notes) := by
  obtain ⟨htexts, hids⟩ := sections_of_notes notes
  rw [briefOf]
  generalize splitIntoSections (normalizeInput notes).text = sections at htexts hids
  rw [← htexts]
  have hquestions := @mem_questions (findDuplicates lower (extracted lower sections))
    (findContradictions lower isWord (extracted lower sections))
    resolveQuestion confirmQuestion (by decide)
  exact {
    title := rfl
    sections := by
      rw [← listing_items, ← listing_items, ← listing_items]
      rfl
    duplicates := hquestions.1.trans findDuplicates_ne_nil_iff
    conflicts := hquestions.2.trans (findContradictions_ne_nil_iff hids)
    counted := ⟨_, _, rfl, fun _ => duplicate_names hids, fun _ => contradiction_sound hids,
      fun _ _ => contradiction_complete hids⟩ }

end Format

section Row

variable {x : Executor} {P R : Runs.Run → Prop} {E : World → Prop}

/-- A commit that may change the row, which is as before where the commit is lost. -/
theorem commit_row {change : World → World} (hchange : ∀ w, P w.run → R (change w).run)
    (hlost : ∀ w, P w.run → E w) (hlate : ∀ w, R w.run → E w) :
    Triple (fun w => P w.run) (commit x change) (fun _ w => R w.run) E := by
  refine .bind (nextOutcome_triple fun _ _ _ hw => hw) fun outcome => ?_
  split
  · exact .modify hchange
  · exact .fail hlost
  · exact .bind (.modify hchange) fun _ => .fail hlate

variable (hfails : ∀ w, P w.run → E w)

include hfails in
theorem recordRunEvent_row (payload : RunEventPayload) :
    Triple (fun w => P w.run) (recordRunEvent x payload) (fun _ w => P w.run) E :=
  commit_row (fun _ hw => hw) hfails hfails

include hfails in
theorem callOut_row : Triple (fun w => P w.run) (callOut x) (fun _ w => P w.run) E := by
  refine .bind (nextOutcome_triple fun _ _ _ hw => hw) fun outcome => ?_
  split
  · exact .pure fun w hw => hw
  · exact .fail hfails
  · exact .fail hfails

include hfails in
theorem agentStarted_row (workflow : WorkflowRuntime) (role : Text) (touchAgent : Bool) :
    Triple (fun w => P w.run) (agentStarted x workflow role touchAgent) (fun _ w => P w.run) E := by
  have hsame : Triple (fun w => P w.run) (pure () : Execution Unit) (fun _ w => P w.run) E :=
    .pure fun w hw => hw
  refine .bind (.lift (fun _ _ _ hw => hw) hfails) fun _ =>
    .bind (recordRunEvent_row hfails _) fun _ => ?_
  split
  · rw [touchPydanticAgent]
    split
    · exact hsame
    · split
      · exact .fail hfails
      · split
        · exact .bind (callOut_row hfails) fun _ => hsame
        · exact hsame
  · exact hsame

include hfails in
theorem tool_row {α : Type} (role : Text) (name : String) (value : α) :
    Triple (fun w => P w.run) (tool x role name (.ok value)) (fun a w => a = value ∧ P w.run)
      E := by
  refine .bind (recordRunEvent_row hfails _) fun _ =>
    .bind (Q := fun _ w => P w.run) (.modify fun _ hw => hw) fun _ =>
      .bind (Q := fun a w => a = value ∧ P w.run) (.lift (fun a w ha hw => ?_) hfails) fun a =>
        .assuming fun ha => .bind (recordRunEvent_row hfails _) fun _ => .pure fun w hw => ⟨ha, hw⟩
  exact ⟨(Except.ok.inj ha).symm, hw⟩

include hfails in
theorem handoff_row (workflow : WorkflowRuntime) (source target : Text) :
    Triple (fun w => P w.run) (handoff x workflow source target) (fun _ w => P w.run) E := by
  refine .bind (.lift (fun _ _ _ hw => hw) hfails) fun agent =>
    .bind (.lift (fun _ _ _ hw => hw) hfails) fun _ => ?_
  split
  · exact .fail hfails
  · exact .bind (recordRunEvent_row hfails _) fun _ => .modify fun _ hw => hw

variable {lower : Text → Text} {isWord : Char → Bool}
  (htools : x.tools = registeredTools lower (findContradictions lower isWord))

include hfails htools in
/-- Queued and pooled or one after the other: the findings are the same. -/
theorem runExtractionParallel_row (workflow : WorkflowRuntime) (sections : List NoteSection) :
    Triple (fun w => P w.run) (runExtractionParallel x workflow sections)
      (fun findings w => findings = extracted lower sections ∧ P w.run) E := by
  have hlift : ∀ items : List ExtractedItem, Triple (fun w => P w.run)
      (lift (.ok items) : Execution _) (fun found w => found = items ∧ P w.run) E :=
    fun items => .lift (fun found w hfound hw => ⟨(Except.ok.inj hfound).symm, hw⟩) hfails
  have hevent : ∀ (act : String → Execution Unit),
      (∀ name, Triple (fun w => P w.run) (act name) (fun _ w => P w.run) E) →
        Triple (fun w => P w.run) (forEach act extractionTools) (fun _ w => P w.run) E :=
    fun act hact => .forEach (I := fun _ (w : World) => P w.run) (fun name _ _ => hact name) []
  refine .bind (.lift (fun _ _ _ hw => hw) hfails) fun agent => ?_
  rw [htools]
  split
  · refine .bind (hevent _ fun name => recordRunEvent_row hfails _) fun _ =>
      .bind (hevent _ fun name => .bind (callOut_row hfails) fun _ => .modify fun _ hw => hw)
        fun _ => .bind (hlift _) fun claims => .assuming fun hclaims => .bind (hlift _)
          fun decisions => .assuming fun hdecisions => .bind (hlift _) fun actionItems =>
            .assuming fun hactions => .bind (hevent _ fun name => recordRunEvent_row hfails _)
              fun _ => .pure fun w hw => ⟨?_, hw⟩
    rw [hclaims, hdecisions, hactions]
    rfl
  · refine .bind (tool_row hfails _ _ _) fun claims => .assuming fun hclaims =>
      .bind (tool_row hfails _ _ _) fun decisions => .assuming fun hdecisions =>
        .bind (tool_row hfails _ _ _) fun actionItems => .assuming fun hactions =>
          .pure fun w hw => ⟨?_, hw⟩
    rw [hclaims, hdecisions, hactions]
    rfl

include hfails htools in
/-- An execution that gets through has stored the brief of the notes it has read. -/
theorem executeMessyNotesV1_row {title : Option Text} {notes : Text}
    (hread : ∀ run, P run → run.title = title ∧
      sourceText run.normalizedInputText run.inputText = notes)
    (hstore : ∀ run, P run → R { run with
      outputBrief := some (x.serializeBrief (briefOf lower isWord title notes)) })
    (hfails' : ∀ w, R w.run → E w) (workflow : WorkflowRuntime) :
    Triple (fun w => P w.run) (executeMessyNotesV1 x workflow) (fun _ w => R w.run) E := by
  refine .bind (agentStarted_row hfails workflow _ true) fun _ =>
    .bind (Q := fun seen w => P seen.run ∧ P w.run) (.read fun w hw => ⟨hw, hw⟩) fun seen =>
      .assuming fun hseen => ?_
  obtain ⟨htitle, hsource⟩ := hread seen.run hseen
  rw [htools, htitle, hsource]
  refine .bind (tool_row hfails _ _ _) fun normalized => .assuming fun hnormalized =>
    .bind (recordRunEvent_row hfails _) fun _ => .bind (handoff_row hfails _ _ _) fun _ =>
      .bind (agentStarted_row hfails workflow _ true) fun _ => ?_
  refine .bind (tool_row hfails _ _ _) fun sections => .assuming fun hsections =>
    .bind (runExtractionParallel_row hfails htools workflow sections) fun findings =>
      .assuming fun hfindings => .bind (recordRunEvent_row hfails _) fun _ =>
        .bind (handoff_row hfails _ _ _) fun _ =>
          .bind (agentStarted_row hfails workflow _ true) fun _ => ?_
  refine .bind (tool_row hfails _ _ _) fun duplicates => .assuming fun hduplicates =>
    .bind (tool_row hfails _ _ _) fun contradictions => .assuming fun hcontradictions =>
      .bind (recordRunEvent_row hfails _) fun _ => .bind (handoff_row hfails _ _ _) fun _ =>
        .bind (agentStarted_row hfails workflow _ true) fun _ => ?_
  refine .bind (tool_row hfails _ _ _) fun brief => .assuming fun hbrief =>
    .bind (commit_row (fun (w : World) hw => ?_) hfails hfails') fun _ =>
      recordRunEvent_row hfails' _
  have hreport : brief = briefOf lower isWord title notes := by
    rw [hbrief, hduplicates, hcontradictions, hfindings, hsections, hnormalized]
    rfl
  rw [hreport]
  exact hstore w.run hw

include hfails in
theorem runPostProcessors_row
    (hresults : ∀ run results, P run → P { run with postProcessorResults := results })
    (workflow : WorkflowRuntime) (keys : List Text) (results : Results) :
    Triple (fun w => P w.run) (runPostProcessors x workflow results keys) (fun _ w => P w.run)
      E := by
  induction keys generalizing results with
  | nil => exact .pure fun w hw => hw
  | cons key keys ih =>
    refine .bind (Q := fun _ w => P w.run) ?_ fun stored => ih stored
    rw [runPostProcessor]
    split
    · exact .fail hfails
    · exact .bind (recordRunEvent_row hfails _) fun _ =>
        .bind (.bind (Q := fun _ w => P w.run) (.modify fun _ hw => hw) fun _ =>
            .bind (Q := fun _ w => P w.run) (.read fun _ hw => hw) fun _ => .pure fun _ hw => hw)
          fun events => .bind (commit_row (fun (w : World) hw => hresults w.run _ hw) hfails hfails)
            fun _ => .bind (recordRunEvent_row hfails _) fun _ => .pure fun _ hw => hw

end Row

section Runs

variable {x : Executor} {env : Env} {workflow : WorkflowRuntime} {lower : Text → Text}
  {isWord : Char → Bool}

variable (x lower isWord) in
/-- The brief that an execution makes of a run as it finds it. -/
def briefOfRun (run : Runs.Run) : Text :=
  x.serializeBrief
    (briefOf lower isWord run.title (sourceText run.normalizedInputText run.inputText))

/-- A row that an execution of `origin` works on, with the brief it holds. -/
structure Row (origin : Runs.Run) (brief : Option Text) (run : Runs.Run) : Prop where
  key : run.workflowKey = messyNotesKey
  title : run.title = origin.title
  source : sourceText run.normalizedInputText run.inputText =
    sourceText origin.normalizedInputText origin.inputText
  stored : run.outputBrief = brief
  reported : run.status = .completed → brief.isSome = true

variable (x lower isWord) in
/-- What any end of an execution leaves: the brief there was, or that of the notes it read. -/
def Settled (origin run : Runs.Run) : Prop :=
  Row origin origin.outputBrief run ∨ Row origin (some (briefOfRun x lower isWord origin)) run

/-- No execution and no failure of one touches more of the row than its status. -/
theorem Row.status {origin run : Runs.Run} {brief : Option Text} (h : Row origin brief run)
    {status : RunStatus} (hstatus : status = .completed → brief.isSome = true)
    (completedAt failedAt : Option Nat) (message : Option String) (reason : Option Text) :
    Row origin brief { run with
      status := status
      completedAt := completedAt
      failedAt := failedAt
      failureMessage := message
      failureInternalReason := reason } :=
  ⟨h.key, h.title, h.source, h.stored, hstatus⟩

theorem attemptRun_settled (hget : getWorkflow x.registry messyNotesKey = some workflow)
    (hkey : workflow.config.key = messyNotesKey)
    (htools : x.tools = registeredTools lower (findContradictions lower isWord))
    (origin : Runs.Run) (now : Nat) :
    Triple (fun w => Row origin origin.outputBrief w.run) (attemptRun x now)
      (fun _ w => Settled x lower isWord origin w.run)
      (fun w => Settled x lower isWord origin w.run) := by
  have hold : ∀ w : World, Row origin origin.outputBrief w.run →
      Settled x lower isWord origin w.run := fun w hw => .inl hw
  have hnew : ∀ w : World, Row origin (some (briefOfRun x lower isWord origin)) w.run →
      Settled x lower isWord origin w.run := fun w hw => .inr hw
  refine .bind (Q := fun seen w => seen.run.workflowKey = messyNotesKey ∧
    Row origin origin.outputBrief w.run) (.read fun w hw => ⟨hw.key, hw⟩) fun seen =>
      .assuming fun hseen => ?_
  refine .bind (Q := fun found w => found = workflow ∧ Row origin origin.outputBrief w.run)
    (.lift (fun found w hfound hw => ⟨?_, hw⟩) hold) fun found => .assuming fun hfound => ?_
  · rw [workflowOf, hseen, hget] at hfound
    exact (Except.ok.inj hfound).symm
  obtain rfl := hfound
  refine .bind (commit_row (R := Row origin origin.outputBrief)
    (fun (w : World) hw => hw.status (by simp) _ _ _ _) hold hold) fun _ =>
      .bind (recordRunEvent_row hold _) fun _ => ?_
  have hlocal : found.config.key ≠ localSlmKey := by
    rw [hkey]
    decide
  rw [executeMessyNotes, if_neg hlocal, if_pos hkey]
  refine .bind (executeMessyNotesV1_row hold htools (fun run hrun => ⟨hrun.title, hrun.source⟩)
    (fun run hrun => ⟨hrun.key, hrun.title, hrun.source, rfl, fun _ => rfl⟩) hnew found)
      fun _ => ?_
  refine .bind (commit_row (R := Row origin (some (briefOfRun x lower isWord origin)))
    (fun (w : World) hw => hw.status (fun _ => rfl) _ _ _ _) hnew hnew) fun _ =>
      .bind (recordRunEvent_row hnew _) fun _ => ?_
  refine .weaken (runPostProcessors_row hnew (fun run results hrun => ?_) found _ _)
    (fun w hw => hw) fun _ w hw => hnew w hw
  exact ⟨hrun.key, hrun.title, hrun.source, hrun.stored, hrun.reported⟩

theorem recordFailure_settled {α : Type} (origin : Runs.Run) (now : Nat) (reason : Text) :
    Triple (fun w => Settled x lower isWord origin w.run) (recordFailure x now reason : Execution α)
      (fun _ w => Settled x lower isWord origin w.run)
      (fun w => Settled x lower isWord origin w.run) := by
  refine .bind (commit_row (R := Settled x lower isWord origin) (fun (w : World) hw => ?_)
    (fun _ hw => hw) fun _ hw => hw) fun _ =>
      .bind (recordRunEvent_row (fun _ hw => hw) _) fun _ => .fail fun _ hw => hw
  rcases hw with hw | hw
  · exact .inl (hw.status (by simp) _ _ _ _)
  · exact .inr (hw.status (by simp) _ _ _ _)

/-- However an execution ends, the row holds the brief it held, or that of the notes it holds. -/
theorem executeRunWorkflow_settled (hget : getWorkflow x.registry messyNotesKey = some workflow)
    (hkey : workflow.config.key = messyNotesKey)
    (htools : x.tools = registeredTools lower (findContradictions lower isWord)) {w : World}
    (hmessy : w.run.workflowKey = messyNotesKey) (hexecutable : w.run.Executable) (now : Nat) :
    Settled x lower isWord w.run (executeRunWorkflow x now w).2.run := by
  have hstart : Row w.run w.run.outputBrief w.run := by
    refine ⟨hmessy, rfl, rfl, rfl, fun hcompleted => ?_⟩
    rw [Runs.Run.Executable, hcompleted] at hexecutable
    simp at hexecutable
  have hends := Triple.tryCatch (attemptRun_settled hget hkey htools w.run now)
    (fun reason => recordFailure_settled w.run now reason) w hstart
  have hrun : executeRunWorkflow x now w =
      tryCatch (attemptRun x now) (recordFailure x now) w := by
    change (if w.run.Executable then _ else _ : Execution Unit) w = _
    rw [if_pos hexecutable]
  rw [hrun]
  rcases hresult : tryCatch (attemptRun x now) (recordFailure x now) w with ⟨e | u, t⟩
  · exact hends.failed e t hresult
  · exact hends.returned u t hresult

theorem executeRunWorkflow_refused (x : Executor) {w : World} (h : ¬w.run.Executable) (now : Nat) :
    (executeRunWorkflow x now w).2 = w := by
  change ((if w.run.Executable then _ else _ : Execution Unit) w).2 = w
  rw [if_neg h]
  rfl

/-- No request but an execution writes a brief or completes a run. -/
theorem after_keeps_brief (env : Env) (run : Runs.Run) {op : Op} (hop : ∀ now, op ≠ .execute now) :
    (after env run op).outputBrief = run.outputBrief ∧
      ((after env run op).status = .completed → run.status = .completed) := by
  by_cases he : run.Editable
  · cases op with
    | execute now => exact absurd rfl (hop now)
    | update payload => exact ⟨rfl, id⟩
    | sample key =>
      cases hs : getSampleChaosSet key <;>
        simp [after, Runs.perform, applySampleChaosToRun, he, hs, bind, Except.bind, pure,
          Except.pure]
    | ingest title pastedText files =>
      cases hi : ingestRunInput env.delivers env.readPdf env.settings pastedText files <;>
        simp [after, Runs.perform, ingestRunDraft, he, hi]
    | submit payload now =>
      cases payload <;> simp [after, Runs.perform, submitRun, he, applySubmitPayload]
  · cases op with
    | execute now => exact absurd rfl (hop now)
    | update payload => exact ⟨rfl, id⟩
    | sample key => simp [after, Runs.perform, applySampleChaosToRun, he]
    | ingest title pastedText files => simp [after, Runs.perform, ingestRunDraft, he]
    | submit payload now => simp [after, Runs.perform, submitRun, he]

variable (x env lower isWord) in
/-- What holds of the row in every state of a history. -/
structure Traced (start w : World) : Prop where
  key : w.run.workflowKey = messyNotesKey
  reported : w.run.status = .completed → w.run.outputBrief.isSome = true
  traced : ∀ text, w.run.outputBrief = some text → ∃ origin now script executed,
    GuardedRuns.Run (step x env) start origin ∧ origin.run.Executable ∧
      step x env origin (.execute now script) = some executed ∧
      GuardedRuns.Run (step x env) executed w ∧ text = briefOfRun x lower isWord origin.run

/-- A step that leaves the brief and completes no run. -/
theorem Traced.keep {start w t : World} (hw : Traced x env lower isWord start w)
    (hstep : GuardedStep (step x env) (fun _ _ => True) w t)
    (hkey : t.run.workflowKey = w.run.workflowKey) (hbrief : t.run.outputBrief = w.run.outputBrief)
    (hstatus : t.run.status = .completed → w.run.outputBrief.isSome = true) :
    Traced x env lower isWord start t where
  key := hkey.trans hw.key
  reported hcompleted := by
    rw [hbrief]
    exact hstatus hcompleted
  traced text htext := by
    rw [hbrief] at htext
    obtain ⟨origin, now, script, executed, hbefore, hexecutable, hexecuted, hafter, heq⟩ :=
      hw.traced text htext
    exact ⟨origin, now, script, executed, hbefore, hexecutable, hexecuted, hafter.tail hstep, heq⟩

theorem Traced.step (hget : getWorkflow x.registry messyNotesKey = some workflow)
    (hkey : workflow.config.key = messyNotesKey)
    (htools : x.tools = registeredTools lower (findContradictions lower isWord))
    {start w t : World} (hbefore : GuardedRuns.Run (step x env) start w)
    (hw : Traced x env lower isWord start w)
    (hstep : GuardedStep (step x env) (fun _ _ => True) w t) :
    Traced x env lower isWord start t := by
  obtain ⟨a, -, ha⟩ := id hstep
  cases a with
  | request op =>
    have hrequest : ∀ op, (∀ now, op ≠ .execute now) → t = { w with run := after env w.run op } →
        Traced x env lower isWord start t := by
      intro op hop ht
      obtain ⟨hbrief, hstatus⟩ := after_keeps_brief env w.run hop
      subst ht
      exact hw.keep hstep (after_keeps env w.run hop).1 hbrief fun h => hw.reported (hstatus h)
    cases op with
    | execute now => cases ha
    | update payload | sample sampleKey | ingest title pastedText files | submit payload now =>
      exact hrequest _ (by simp) (Option.some.inj ha).symm
  | execute now script =>
    have ht : (executeRunWorkflow x now { w with script := script }).2 = t := Option.some.inj ha
    by_cases hexecutable : w.run.Executable
    · have hsettled := executeRunWorkflow_settled hget hkey htools
        (w := { w with script := script }) hw.key hexecutable now
      rw [ht] at hsettled
      rcases hsettled with hrow | hrow
      · exact hw.keep hstep (hrow.key.trans hw.key.symm) hrow.stored hrow.reported
      · refine ⟨hrow.key, fun _ => by rw [hrow.stored]; rfl, fun text htext => ?_⟩
        rw [hrow.stored] at htext
        exact ⟨w, now, script, t, hbefore, hexecutable, ha, .refl, (Option.some.inj htext).symm⟩
    · have hrefused := @executeRunWorkflow_refused x { w with script := script } hexecutable now
      rw [hrefused] at ht
      subst ht
      exact hw.keep hstep rfl rfl hw.reported

/-- In every state of a run's history, whatever failed on the way: a completed run has a brief, and
a stored brief is the report of the notes that an execution of the run found in its row. -/
theorem stored_brief_reports_notes {buildAgent : AgentWorkflowConfig → Except Text Bool}
    {defaultWorkflowKey : Text} {postProcessors : PostProcessors} {configs : List WorkflowConfig}
    (hload : loadWorkflowRegistry buildAgent defaultWorkflowKey postProcessors configs =
      .ok x.registry)
    (hget : getWorkflow x.registry messyNotesKey = some workflow)
    (htools : x.tools = registeredTools lower (findContradictions lower isWord)) {run : Runs.Run}
    (hkey : run.workflowKey = messyNotesKey) (hdraft : run.status = .draft)
    (hnew : run.outputBrief = none) (events : List RunEvent) {w : World}
    (hrun : GuardedRuns.Run (step x env) (World.create x run events) w) :
    (w.run.status = .completed → w.run.outputBrief.isSome = true) ∧
    ∀ text, w.run.outputBrief = some text →
      ∃ (origin executed : World) (now : Nat) (script : List Outcome) (brief : BriefOutput),
      GuardedRuns.Run (step x env) (World.create x run events) origin ∧ origin.run.Executable ∧
      step x env origin (.execute now script) = some executed ∧
      GuardedRuns.Run (step x env) executed w ∧ text = x.serializeBrief brief ∧
      Reports lower isWord origin.run.title
        (noteLines (sourceText origin.run.normalizedInputText origin.run.inputText)) brief := by
  have hownKey : workflow.config.key = messyNotesKey :=
    (loaded_sound hload _ (Dict.mem_of_get?_eq_some hget)).1
  have htraced : Traced x env lower isWord (World.create x run events) w := by
    induction hrun with
    | refl =>
      refine ⟨hkey, fun hcompleted => ?_, fun text htext => ?_⟩
      · rw [show (World.create x run events).run.status = .draft from hdraft] at hcompleted
        cases hcompleted
      · rw [show (World.create x run events).run.outputBrief = none from hnew] at htext
        cases htext
    | tail hbefore hstep ih => exact ih.step hget hownKey htools hbefore hstep
  refine ⟨htraced.reported, fun text htext => ?_⟩
  obtain ⟨origin, now, script, executed, hbefore, hexecutable, hexecuted, hafter, rfl⟩ :=
    htraced.traced text htext
  exact ⟨origin, executed, now, script, _, hbefore, hexecutable, hexecuted, hafter, rfl,
    briefOf_reports _ _⟩

/-- The shipped tools on texts of lower-case letters, with the questions of a brief for its text. -/
def questionsExecutor : Executor :=
  { shippedExecutor with
    tools := registeredTools id (findContradictions id Char.isAlphanum)
    serializeBrief := fun brief => brief.openQuestions.flatten }

/-- The first execution is cut off at the last of its tools, the second gets through. -/
def contradictoryNotes : List Action :=
  [.request (.update ⟨none, some "launch is confirmed\nlaunch is blocked".toList, none⟩),
    .execute 1 (List.replicate 40 ⟨[], [], none⟩ ++
      [⟨[], [], some (.lost "lost connection".toList)⟩]),
    .execute 2 []]

/-- The stored brief asks to confirm what one line of the notes contradicts in the other. -/
theorem contradictory_notes_questioned :
    ∃ w, exec (step questionsExecutor defaultEnv) (World.create questionsExecutor newRun [])
        contradictoryNotes = some w ∧ w.run.status = .completed ∧
      ∃ text, w.run.outputBrief = some text ∧
        text = "Confirm contradictory notes before acting on the brief.".toList ∧
        ∃ (origin executed : World) (now : Nat) (script : List Outcome) (brief : BriefOutput),
          step questionsExecutor defaultEnv origin (.execute now script) = some executed ∧
          text = questionsExecutor.serializeBrief brief ∧
          Reports id Char.isAlphanum origin.run.title
            (noteLines (sourceText origin.run.normalizedInputText origin.run.inputText)) brief := by
  have hsome : (exec (step questionsExecutor defaultEnv) (World.create questionsExecutor newRun [])
      contradictoryNotes).any (fun w => decide (w.run.status = .completed) &&
        decide (w.run.outputBrief =
          some "Confirm contradictory notes before acting on the brief.".toList)) = true := by
    decide +kernel
  obtain ⟨w, hw, hfound⟩ := (Option.any_eq_true _ _).mp hsome
  simp only [Bool.and_eq_true, decide_eq_true_eq] at hfound
  have hrun : GuardedRuns.Run (step questionsExecutor defaultEnv)
      (World.create questionsExecutor newRun []) w := run_of_exec hw
  have hreported := stored_brief_reports_notes shipped_loads (x := questionsExecutor)
    (show getWorkflow shippedExecutor.registry messyNotesKey = some shippedWorkflow from rfl)
    rfl rfl rfl rfl [] hrun
  obtain ⟨origin, executed, now, script, brief, -, -, hexecuted, -, htext, hreports⟩ :=
    hreported.2 _ hfound.2
  exact ⟨w, hw, hfound.1, _, hfound.2, rfl, origin, executed, now, script, brief, hexecuted, htext,
    hreports⟩

end Runs

end DemoService.Workflow
