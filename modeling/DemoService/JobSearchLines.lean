import DemoService.ContextChunking
import DemoService.PyLower
import DemoService.TextLayout

/-! The lines that the job search extractors pick from an artifact's chunks, and the place that each
of them is said to stand at. A line is collapsed before it is looked up in the chunks, so a line
with a run of whitespace inside is not found and gets the link of the first chunk. -/

namespace DemoService.JobSearch

open PyText Context TextLayout

structure ExtractedValue where
  value : Text
  sourceLink : SourceLink
  deriving DecidableEq, Repr

def isEdgeMark (c : Char) : Bool := decide (c ∈ " -:\t\n\r".toList)

/-- `re.sub(r"\s+", " ", value).strip(" -:\t\n\r")`. -/
def normalizeSpace (value : Text) : Text :=
  ((squeeze isSpace value).dropWhile isEdgeMark).rdropWhile isEdgeMark

/-- `text.find(needle)`. -/
def find (needle : Text) : Text → Option Nat
  | [] => if needle = [] then some 0 else none
  | c :: cs => if needle <+: c :: cs then some 0 else (find needle cs).map (· + 1)

def firstSourceLink : List ArtifactChunk → Except Raised SourceLink
  | chunk :: _ => .ok chunk.sourceLink
  | [] => .error (valueError "At least one chunk is required for extraction.".toList)

section Lines

variable (lower : Text → Text) (chunks : List ArtifactChunk)

def matchIn (needle : Text) (label : Option Text) (chunk : ArtifactChunk) : Option SourceLink :=
  (find (lower needle) (lower chunk.text)).map fun offset => {
    artifactId := chunk.artifactId
    chunkId := some chunk.id
    startOffset := some (chunk.startOffset + offset)
    endOffset := some (chunk.startOffset + offset + needle.length)
    label := label
    excerpt := some (needle.take 500) }

def sourceForMatch (matchText : Text) (label : Option Text) : Except Raised SourceLink :=
  let needle := strip matchText
  match chunks.findSome? (matchIn lower needle label) with
  | some link => .ok link
  | none => do
    let fallback ← firstSourceLink chunks
    pure { fallback with
      label := (label.bind orNone).or fallback.label
      excerpt := (orNone (needle.take 500)).or fallback.excerpt }

/-- The two loops of `lines_containing`, over the lines of all chunks. -/
def collectLines (patterns : List (Text → Bool)) (label : Text) :
    List Text → List Text → Except Raised (List ExtractedValue)
  | [], _ => .ok []
  | line :: lines, seen =>
    let cleaned := normalizeSpace line
    if cleaned = [] ∨ lower cleaned ∈ seen then collectLines patterns label lines seen
    else if patterns.any (· cleaned) then do
      let link ← sourceForMatch lower chunks cleaned (some label)
      let values ← collectLines patterns label lines (lower cleaned :: seen)
      pure (⟨cleaned, link⟩ :: values)
    else collectLines patterns label lines seen

def linesContaining (patterns : List (Text → Bool)) (label : Text) :
    Except Raised (List ExtractedValue) :=
  collectLines lower chunks patterns label (chunks.flatMap fun chunk => splitlines chunk.text) []

end Lines

theorem find_eq_some {needle text : Text} {offset : Nat} (h : find needle text = some offset) :
    ∃ front back, text = front ++ needle ++ back ∧ front.length = offset := by
  induction text generalizing offset with
  | nil =>
    by_cases hnil : needle = []
    · rw [find, if_pos hnil] at h
      exact ⟨[], [], by rw [hnil]; rfl, Option.some.inj h⟩
    · rw [find, if_neg hnil] at h
      cases h
  | cons c cs ih =>
    by_cases hpre : needle <+: c :: cs
    · rw [find, if_pos hpre] at h
      obtain ⟨back, hback⟩ := hpre
      exact ⟨[], back, hback.symm, Option.some.inj h⟩
    · rw [find, if_neg hpre] at h
      obtain ⟨later, hlater, rfl⟩ := Option.map_eq_some_iff.mp h
      obtain ⟨front, back, rfl, rfl⟩ := ih hlater
      exact ⟨c :: front, back, rfl, rfl⟩

theorem find_of_infix {needle text : Text} (h : needle <:+: text) :
    ∃ offset, find needle text = some offset := by
  induction text with
  | nil => exact ⟨0, if_pos (List.infix_nil.mp h)⟩
  | cons c cs ih =>
    by_cases hpre : needle <+: c :: cs
    · exact ⟨0, if_pos hpre⟩
    · obtain ⟨offset, hoffset⟩ := ih ((List.infix_cons_iff.mp h).resolve_left hpre)
      exact ⟨offset + 1, by rw [find, if_neg hpre, hoffset]; rfl⟩

theorem mem_of_mem_splitlines {text line : Text} {c : Char} (hline : line ∈ splitlines text)
    (hc : c ∈ line) : c ∈ text := by
  induction text using splitlines.induct generalizing line with
  | case1 => simp [splitlines] at hline
  | case2 cs ih =>
    rw [splitlines] at hline
    rcases List.mem_cons.mp hline with rfl | hline
    · cases hc
    · exact List.mem_cons_of_mem _ (List.mem_cons_of_mem _ (ih hline hc))
  | case3 d cs hne hbreak ih =>
    rw [splitlines.eq_3 _ _ hne, if_pos hbreak] at hline
    rcases List.mem_cons.mp hline with rfl | hline
    · cases hc
    · exact List.mem_cons_of_mem _ (ih hline hc)
  | case4 d cs hne hbreak hnil ih =>
    rw [splitlines.eq_3 _ _ hne, if_neg hbreak, hnil, List.mem_singleton] at hline
    subst hline
    rw [List.mem_singleton.mp hc]
    exact List.mem_cons_self
  | case5 d cs hne hbreak first later hlines ih =>
    rw [splitlines.eq_3 _ _ hne, if_neg hbreak, hlines] at hline
    rcases List.mem_cons.mp hline with rfl | hline
    · rcases List.mem_cons.mp hc with rfl | hc
      · exact List.mem_cons_self
      · exact List.mem_cons_of_mem _ (ih (hlines ▸ List.mem_cons_self) hc)
    · exact List.mem_cons_of_mem _ (ih (hlines ▸ List.mem_cons_of_mem _ hline) hc)

theorem mem_normalizeSpace {line : Text} {c : Char} (h : c ∈ normalizeSpace line) :
    c = ' ' ∨ (c ∈ line ∧ ¬ isSpace c = true) :=
  mem_squeeze ((List.dropWhile_suffix _).subset ((List.rdropWhile_prefix _ _).subset h))

theorem head_trim {p : Char → Bool} {s : Text} :
    ∀ c ∈ ((s.dropWhile p).rdropWhile p).head?, p c = false := by
  intro c hc
  obtain ⟨back, hback⟩ := List.rdropWhile_prefix p (s.dropWhile p)
  obtain ⟨rest, hrest⟩ : ∃ rest, (s.dropWhile p).rdropWhile p = c :: rest := by
    cases htrim : (s.dropWhile p).rdropWhile p with
    | nil => simp [htrim] at hc
    | cons d ds =>
      rw [htrim] at hc
      exact ⟨ds, by rw [Option.some.inj hc]⟩
  have hhead := List.head?_dropWhile_not p s
  rw [← hback, hrest] at hhead
  exact hhead

/-- A collapsed line has no whitespace at its ends. -/
theorem strip_normalizeSpace (line : Text) : strip (normalizeSpace line) = normalizeSpace line := by
  have hedge : ∀ c ∈ normalizeSpace line, isEdgeMark c = false → isSpace c = false := by
    intro c hc hmark
    rcases mem_normalizeSpace hc with rfl | ⟨-, hspace⟩
    · exact absurd hmark (by decide)
    · simpa using hspace
  have hhead : ∀ c ∈ (normalizeSpace line).head?, isSpace c = false :=
    fun c hc => hedge c (List.mem_of_mem_head? hc) (head_trim c hc)
  rw [strip, lstrip_of_head hhead, rstrip, List.rdropWhile_eq_self_iff]
  intro hne
  have hlast : isEdgeMark ((normalizeSpace line).getLast hne) = false :=
    Bool.eq_false_iff.mpr (List.rdropWhile_last_not isEdgeMark _ hne)
  rw [hedge _ (List.getLast_mem hne) hlast]
  exact Bool.false_ne_true

theorem sourceForMatch_cases {lower : Text → Text} {chunks : List ArtifactChunk}
    {matchText : Text} {label : Option Text} {link : SourceLink}
    (h : sourceForMatch lower chunks matchText label = .ok link) :
    (∃ chunk ∈ chunks, matchIn lower (strip matchText) label chunk = some link) ∨
      (∀ chunk ∈ chunks, ¬ lower (strip matchText) <:+: lower chunk.text) ∧
        ∃ first ∈ chunks.head?, link = { first.sourceLink with
          label := (label.bind orNone).or first.sourceLink.label
          excerpt := (orNone ((strip matchText).take 500)).or first.sourceLink.excerpt } := by
  simp only [sourceForMatch] at h
  cases hfound : chunks.findSome? (matchIn lower (strip matchText) label) with
  | some found =>
    rw [hfound] at h
    obtain rfl := Except.ok.inj h
    exact .inl (List.exists_of_findSome?_eq_some hfound)
  | none =>
    right
    rw [hfound] at h
    refine ⟨fun chunk hchunk hin => ?_, ?_⟩
    · obtain ⟨offset, hoffset⟩ := find_of_infix hin
      have hnone := List.findSome?_eq_none_iff.mp hfound chunk hchunk
      rw [matchIn, hoffset] at hnone
      cases hnone
    · cases chunks with
      | nil => cases h
      | cons first chunks => exact ⟨first, rfl, (Except.ok.inj h).symm⟩

theorem sourceForMatch_isOk (lower : Text → Text) {chunks : List ArtifactChunk} (h : chunks ≠ [])
    (matchText : Text) (label : Option Text) :
    ∃ link, sourceForMatch lower chunks matchText label = .ok link := by
  obtain ⟨first, rest, rfl⟩ := List.exists_cons_of_ne_nil h
  simp only [sourceForMatch]
  split
  · exact ⟨_, rfl⟩
  · exact ⟨_, rfl⟩

theorem collectLines_spec (lower : Text → Text) {chunks : List ArtifactChunk} (h : chunks ≠ [])
    (patterns : List (Text → Bool)) (label : Text) (lines seen : List Text) :
    ∃ values, collectLines lower chunks patterns label lines seen = .ok values ∧
      ∀ found ∈ values, ∃ line ∈ lines, found.value = normalizeSpace line ∧ found.value ≠ [] ∧
        sourceForMatch lower chunks found.value (some label) = .ok found.sourceLink := by
  induction lines generalizing seen with
  | nil => exact ⟨[], rfl, by simp⟩
  | cons line lines ih =>
    have hlater : ∀ {found : ExtractedValue}, (∃ line ∈ lines, found.value = normalizeSpace line ∧
        found.value ≠ [] ∧
        sourceForMatch lower chunks found.value (some label) = .ok found.sourceLink) →
        ∃ other ∈ line :: lines, found.value = normalizeSpace other ∧ found.value ≠ [] ∧
          sourceForMatch lower chunks found.value (some label) = .ok found.sourceLink :=
      fun ⟨other, hother, hfound⟩ => ⟨other, List.mem_cons_of_mem _ hother, hfound⟩
    by_cases hskip : normalizeSpace line = [] ∨ lower (normalizeSpace line) ∈ seen
    · obtain ⟨values, hvalues, hspec⟩ := ih seen
      exact ⟨values, by simp only [collectLines]; rw [if_pos hskip, hvalues],
        fun found hfound => hlater (hspec found hfound)⟩
    · by_cases hmatch : patterns.any (· (normalizeSpace line)) = true
      · obtain ⟨link, hlink⟩ := sourceForMatch_isOk lower h (normalizeSpace line) (some label)
        obtain ⟨values, hvalues, hspec⟩ := ih (lower (normalizeSpace line) :: seen)
        refine ⟨⟨normalizeSpace line, link⟩ :: values, ?_, ?_⟩
        · simp only [collectLines]
          rw [if_neg hskip, if_pos hmatch, hlink, hvalues]
          rfl
        · intro found hfound
          rcases List.mem_cons.mp hfound with rfl | hfound
          · exact ⟨line, List.mem_cons_self, rfl, fun hnil => hskip (.inl hnil), hlink⟩
          · exact hlater (hspec found hfound)
      · obtain ⟨values, hvalues, hspec⟩ := ih seen
        exact ⟨values, by simp only [collectLines]; rw [if_neg hskip, if_neg hmatch, hvalues],
          fun found hfound => hlater (hspec found hfound)⟩

/-- The chunk is cut from the artifact's text at its offsets. -/
structure ChunkOf (artifact : Artifact) (chunk : ArtifactChunk) : Prop where
  artifactId : chunk.artifactId = artifact.id
  ordered : chunk.startOffset ≤ chunk.endOffset
  inside : chunk.endOffset ≤ artifact.text.length
  text : chunk.text = textSlice artifact.text chunk.startOffset chunk.endOffset

/-- The value's link cites a chunk that holds the value, at offsets where it stands in the
artifact's text, up to a notion of sameness. -/
def CitesValue (same : Text → Text → Prop) (artifact : Artifact) (chunks : List ArtifactChunk)
    (found : ExtractedValue) : Prop :=
  (∃ chunk ∈ chunks, found.sourceLink.chunkId = some chunk.id ∧
      ∃ part, part <:+: chunk.text ∧ same part found.value) ∧
    ∃ start stop, found.sourceLink.startOffset = some start ∧
      found.sourceLink.endOffset = some stop ∧
      same (textSlice artifact.text start stop) found.value

theorem textSlice_textSlice {text : Text} {start stop offset count : Nat}
    (h : start + offset + count ≤ stop) :
    textSlice text (start + offset) (start + offset + count) =
      ((textSlice text start stop).drop offset).take count := by
  simp only [textSlice, List.drop_drop, List.take_drop, List.take_take]
  congr 2
  omega

/-- Where a text is found in a chunk up to its case, it stands at the link's offsets. -/
theorem cites_of_match {table : CaseTable} {artifact : Artifact} {chunks : List ArtifactChunk}
    {chunk : ArtifactChunk} {found : ExtractedValue} {label : Option Text} (hchunk : chunk ∈ chunks)
    (hof : ChunkOf artifact chunk) (htext : 'İ' ∉ chunk.text) (hvalue : 'İ' ∉ found.value)
    (hmatch : matchIn table.lower found.value label chunk = some found.sourceLink) :
    CitesValue table.SameCase artifact chunks found := by
  obtain ⟨offset, hfind, hlink⟩ := Option.map_eq_some_iff.mp hmatch
  obtain ⟨front, back, hsplit, rfl⟩ := find_eq_some hfind
  obtain ⟨hfits, hsame⟩ := sameCase_of_lower htext hvalue hsplit
  let part := (chunk.text.drop front.length).take found.value.length
  have hpart : part <:+: chunk.text :=
    (List.take_prefix _ _).isInfix.trans (List.drop_suffix _ _).isInfix
  have hchunklen : chunk.text.length = chunk.endOffset - chunk.startOffset := by
    rw [hof.text, textSlice, List.length_drop, List.length_take, Nat.min_eq_left hof.inside]
  have hordered := hof.ordered
  have hslice : textSlice artifact.text (chunk.startOffset + front.length)
      (chunk.startOffset + front.length + found.value.length) = part := by
    have hinside : chunk.startOffset + front.length + found.value.length ≤ chunk.endOffset := by
      omega
    rw [textSlice_textSlice hinside, ← hof.text]
  rw [CitesValue, ← hlink]
  exact ⟨⟨chunk, hchunk, rfl, part, hpart, hsame⟩, _, _, rfl, rfl, by rw [hslice]; exact hsame⟩

/-- A value is cited where it stands, or else no chunk holds it as it was collapsed and it gets the
link of the first chunk. -/
theorem linesContaining_cites (table : CaseTable) {artifact : Artifact}
    {chunks : List ArtifactChunk} (hof : ∀ chunk ∈ chunks, ChunkOf artifact chunk)
    (htext : ∀ chunk ∈ chunks, 'İ' ∉ chunk.text)
    (patterns : List (Text → Bool)) (label : Text) :
    ∃ values, linesContaining table.lower chunks patterns label = .ok values ∧
      ∀ found ∈ values,
        (∃ chunk ∈ chunks, ∃ line ∈ splitlines chunk.text, found.value = normalizeSpace line) ∧
        (CitesValue table.SameCase artifact chunks found ∨
          (∀ chunk ∈ chunks, ¬ table.lower found.value <:+: table.lower chunk.text) ∧
            ∃ first ∈ chunks.head?, found.sourceLink = { first.sourceLink with
              label := (orNone label).or first.sourceLink.label
              excerpt := some (found.value.take 500) }) := by
  by_cases hnil : chunks = []
  · subst hnil
    exact ⟨[], rfl, by simp⟩
  · obtain ⟨values, hvalues, hspec⟩ := collectLines_spec table.lower hnil patterns label
      (chunks.flatMap fun chunk => splitlines chunk.text) []
    refine ⟨values, hvalues, fun found hfound => ?_⟩
    obtain ⟨line, hline, hvalue, hne, hsource⟩ := hspec found hfound
    obtain ⟨chunk, hchunk, hline⟩ := List.mem_flatMap.mp hline
    have hplain : 'İ' ∉ found.value := by
      intro hmem
      rw [hvalue] at hmem
      obtain ⟨hmem, -⟩ := (mem_normalizeSpace hmem).resolve_left (by decide)
      exact htext chunk hchunk (mem_of_mem_splitlines hline hmem)
    have hstrip : strip found.value = found.value := by rw [hvalue, strip_normalizeSpace]
    refine ⟨⟨chunk, hchunk, line, hline, hvalue⟩, ?_⟩
    rcases sourceForMatch_cases hsource with ⟨cited, hcited, hmatch⟩ | ⟨hnone, first, hfirst, hlink⟩
    · left
      rw [hstrip] at hmatch
      exact cites_of_match hcited (hof cited hcited) (htext cited hcited) hplain hmatch
    · right
      rw [hstrip] at hnone hlink
      refine ⟨hnone, first, hfirst, hlink.trans ?_⟩
      have htake : found.value.take 500 ≠ [] := by simpa using hne
      rw [orNone, if_neg htake]
      rfl

/-- The case properties of the characters of ASCII. -/
def asciiTable : CaseTable where
  lowerChar := Char.toLower
  isCased := Char.isAlpha
  isCaseIgnorable := fun c => c ∈ "'.:^".toList || c.toNat = 0x60

def posting (text : String) : Artifact where
  id := "art".toList
  domainId := "job_search".toList
  artifactTypeId := "job_description".toList
  ownerType := .system
  ownerId := "owner".toList
  title := none
  text := text.toList
  sourceUri := none
  metadata := []
  createdAt := 0

/-- The only chunk of a short posting. -/
def wholeChunk (text : String) : ArtifactChunk :=
  sliceChunk (fun _ => "chunk".toList) (posting text) 0 0 text.toList.length

def mentionsRemote (line : Text) : Bool := "Remote".toList.isPrefixOf line

theorem remote_role_cited :
    ∃ values, linesContaining asciiTable.lower [wholeChunk "Pay\nRemote role"] [mentionsRemote]
        "mode".toList = .ok values ∧
      ∀ found ∈ values,
        (∃ chunk ∈ [wholeChunk "Pay\nRemote role"], ∃ line ∈ splitlines chunk.text,
          found.value = normalizeSpace line) ∧
        (CitesValue asciiTable.SameCase (posting "Pay\nRemote role")
            [wholeChunk "Pay\nRemote role"] found ∨
          (∀ chunk ∈ [wholeChunk "Pay\nRemote role"],
            ¬ asciiTable.lower found.value <:+: asciiTable.lower chunk.text) ∧
            ∃ first ∈ [wholeChunk "Pay\nRemote role"].head?,
              found.sourceLink = { first.sourceLink with
                label := (orNone "mode".toList).or first.sourceLink.label
                excerpt := some (found.value.take 500) }) := by
  refine linesContaining_cites asciiTable ?_ ?_ [mentionsRemote] "mode".toList
  · simp only [List.forall_mem_singleton]
    exact ⟨rfl, by decide, by decide, rfl⟩
  · simp only [List.forall_mem_singleton]
    decide

/-- A line with two blanks inside is not found again and cites the whole text. -/
theorem wide_line_not_cited :
    ¬ ∃ values, linesContaining asciiTable.lower [wholeChunk "Pay\nRemote  role"] [mentionsRemote]
        "mode".toList = .ok values ∧
      ∀ found ∈ values, CitesValue
        (fun a b => words isSpace (asciiTable.lower a) = words isSpace (asciiTable.lower b))
        (posting "Pay\nRemote  role") [wholeChunk "Pay\nRemote  role"] found := by
  rintro ⟨values, hvalues, hcites⟩
  have hfound : linesContaining asciiTable.lower [wholeChunk "Pay\nRemote  role"] [mentionsRemote]
      "mode".toList = .ok [⟨"Remote role".toList, ⟨"art".toList, some "chunk".toList, some 0, some 16,
        some "mode".toList, some "Remote role".toList⟩⟩] := by
    rfl
  obtain rfl := Except.ok.inj (hvalues.symm.trans hfound)
  obtain ⟨-, start, stop, hstart, hstop, hsame⟩ := hcites _ List.mem_cons_self
  obtain rfl := Option.some.inj hstart
  obtain rfl := Option.some.inj hstop
  revert hsame
  decide

end DemoService.JobSearch
