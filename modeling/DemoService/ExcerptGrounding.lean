import DemoService.JobSearchOutputs

/-! Which accepted model outputs quote their source. The mapping checks that a cited chunk exists,
and copies the excerpt without looking for it in the chunk. -/

namespace DemoService.JobSearch

open PyText Context Fallible

/-- The excerpt of the link occurs in the chunk that it cites. -/
def QuotesSource (chunks : List ArtifactChunk) (link : SourceLink) : Prop :=
  ∃ chunk ∈ chunks, link.chunkId = some chunk.id ∧ ∃ excerpt ∈ link.excerpt, excerpt <:+: chunk.text

/-- The reference cites a chunk in which the part of its excerpt that is kept occurs. -/
def LLMSourceReference.Quotes (chunks : List ArtifactChunk) (reference : LLMSourceReference) :
    Prop :=
  ∃ chunk ∈ chunks, reference.chunkId = chunk.id ∧
    (strip reference.excerpt).take 1000 <:+: chunk.text

def resultLinks (result : ExtractionResult) : List SourceLink :=
  result.entities.flatMap ContextEntity.sourceLinks ++
    result.relationships.flatMap ContextRelationship.sourceLinks ++
    result.signals.flatMap ContextSignal.sourceLinks ++
    result.actionableItems.flatMap ActionableItem.sourceLinks

/-- Both endpoints of the relationship are names of entities of the output. -/
def LLMExtractionOutput.Resolves (output : LLMExtractionOutput) (runtime : Runtime)
    (item : LLMContextRelationship) : Prop :=
  (∃ entity ∈ output.entities, normalizeEntityName runtime entity.name =
    normalizeEntityName runtime item.sourceEntityName) ∧
  (∃ entity ∈ output.entities, normalizeEntityName runtime entity.name =
    normalizeEntityName runtime item.targetEntityName)

instance (output : LLMExtractionOutput) (runtime : Runtime) (item : LLMContextRelationship) :
    Decidable (output.Resolves runtime item) :=
  inferInstanceAs (Decidable (_ ∧ _))

/-- The references of the records that the mapping keeps. -/
def LLMExtractionOutput.keptReferences (output : LLMExtractionOutput) (runtime : Runtime) :
    List LLMSourceReference :=
  output.entities.flatMap (fun item => item.sourceReferences.1) ++
    (output.relationships.filter fun item => output.Resolves runtime item).flatMap
      (fun item => item.sourceReferences.1) ++
    output.signals.flatMap (fun item => item.sourceReferences.1) ++
    output.actionableItems.flatMap fun item => item.evidenceLinks.1

section Links

variable {artifact : Artifact} {chunks : List ArtifactChunk}

theorem sourceLink_quotes_iff {reference : LLMSourceReference} {link : SourceLink}
    (h : sourceLink artifact (Dict.ofList (chunks.map fun chunk => (chunk.id, chunk))) reference =
      .ok link) : QuotesSource chunks link ↔ reference.Quotes chunks := by
  obtain ⟨cited, hget, hid, hexcerpt⟩ := sourceLink_ok h
  have hcited := (Dict.get?_index hget).2
  simp only [QuotesSource, LLMSourceReference.Quotes, hid, hexcerpt, Option.mem_def,
    Option.some.injEq, hcited, exists_eq_left']

theorem sourceLinks_quotes_iff {references : List LLMSourceReference} {links : List SourceLink}
    (h : sourceLinks artifact chunks references = .ok links) :
    (∀ link ∈ links, QuotesSource chunks link) ↔
      ∀ reference ∈ references, reference.Quotes chunks := by
  obtain ⟨mapped, hmapped, h⟩ := bind_eq_ok.mp h
  by_cases hempty : mapped = []
  · simp [hempty] at h
  · rw [if_neg hempty] at h
    rw [← pure_eq_ok.mp h]
    exact mapAll_forall_iff (fun _ _ hlink => sourceLink_quotes_iff hlink) hmapped

theorem zipIdx_forall_iff {μ : Type} {P : μ → Prop} (items : List μ) :
    (∀ item ∈ items.zipIdx, P item.1) ↔ ∀ item ∈ items, P item := by
  rw [← List.forall_mem_map (P := P) (f := Prod.fst), List.zipIdx_map_fst]

/-- The records of one kind, each with the links of its own references. -/
theorem mapped_quotes_iff {ρ μ : Type} {map : μ × Nat → Except Raised ρ} {links : ρ → List SourceLink}
    (references : μ → List LLMSourceReference)
    (hmap : ∀ item record, map item = .ok record →
      sourceLinks artifact chunks (references item.1) = .ok (links record))
    {items : List μ} {records : List ρ} (h : mapAll map items.zipIdx = .ok records) :
    (∀ link ∈ records.flatMap links, QuotesSource chunks link) ↔
      ∀ reference ∈ items.flatMap references, reference.Quotes chunks := by
  have hrecords := mapAll_forall_iff
    (P := fun item => ∀ reference ∈ references item.1, reference.Quotes chunks)
    (Q := fun record => ∀ link ∈ links record, QuotesSource chunks link)
    (fun item record hrecord => sourceLinks_quotes_iff (hmap item record hrecord)) h
  simp only [List.forall_mem_flatMap]
  exact hrecords.trans (zipIdx_forall_iff
    (P := fun item => ∀ reference ∈ references item, reference.Quotes chunks) items)

end Links

section Output

variable {runtime : Runtime} {artifact : Artifact} {chunks : List ArtifactChunk}

theorem mapRelationships_quotes_iff {metadata : Metadata} {ids : Dict Text Text}
    {Kept : LLMContextRelationship → Prop} [DecidablePred Kept]
    (hkept : ∀ item, Kept item ↔
      (ids.get? (normalizeEntityName runtime item.sourceEntityName)).isSome = true ∧
      (ids.get? (normalizeEntityName runtime item.targetEntityName)).isSome = true)
    {items : List (LLMContextRelationship × Nat)} {warnings : List Text}
    {mapped : List ContextRelationship × List Text}
    (h : mapRelationships runtime artifact chunks metadata ids items warnings = .ok mapped) :
    (∀ record ∈ mapped.1, ∀ link ∈ record.sourceLinks, QuotesSource chunks link) ↔
      ∀ item ∈ items, Kept item.1 → ∀ reference ∈ item.1.sourceReferences.1,
        reference.Quotes chunks := by
  induction items generalizing warnings mapped with
  | nil =>
    obtain rfl := Except.ok.inj h
    simp
  | cons item items ih =>
    have hidentified : Kept item.1 ↔ Identified runtime ids item.1 := hkept item.1
    rw [List.forall_mem_cons, hidentified]
    rcases mapRelationships_cons_ok h with ⟨hitem, hmapped⟩ | ⟨hitem, hmapped⟩
    · obtain ⟨_, _, record, rest, -, -, hrecord, hrest, rfl⟩ := hmapped
      rw [List.forall_mem_cons, ih hrest, sourceLinks_quotes_iff (mapRelationship_ok hrecord)]
      simp [hitem]
    · rw [ih hmapped]
      simp [hitem]

/-- The names that the mapped entities are found by are those of the output's entities. -/
theorem entityIdsByName_isSome {metadata : Metadata} {items : List LLMContextEntity}
    {entities : List ContextEntity}
    (h : mapAll (mapEntity runtime artifact chunks metadata) items.zipIdx = .ok entities)
    (key : Text) :
    ((Dict.ofList (entities.map fun entity =>
        (normalizeEntityName runtime entity.name, entity.id))).get? key).isSome = true ↔
      ∃ item ∈ items, normalizeEntityName runtime item.name = key := by
  have hrecords := mapAll_forall_iff
    (P := fun item => normalizeEntityName runtime item.1.name ≠ key)
    (Q := fun record => normalizeEntityName runtime record.name ≠ key)
    (fun item record hrecord => by rw [(mapEntity_ok hrecord).2]) h
  have hnames := hrecords.trans (zipIdx_forall_iff
    (P := fun item : LLMContextEntity => normalizeEntityName runtime item.name ≠ key) items)
  rw [Dict.isSome_get?_ofList, ← not_iff_not]
  simpa using hnames

/-- An accepted output is stored with quotations of its source exactly when, for every reference
of a record that is kept, the first thousand characters of the stripped excerpt occur in a chunk
of the cited id. -/
theorem accepted_output_quotes_source_iff (runtime : Runtime) (artifact : Artifact)
    (chunks : List ArtifactChunk) (step : ResolvedContextModelStep) (output : LLMExtractionOutput)
    (result : ExtractionResult)
    (h : mapExtractionOutput runtime artifact chunks step output = .ok result) :
    (∀ link ∈ resultLinks result, QuotesSource chunks link) ↔
      ∀ reference ∈ output.keptReferences runtime, reference.Quotes chunks := by
  obtain ⟨entities, hentities, h⟩ := bind_eq_ok.mp h
  obtain ⟨signals, hsignals, h⟩ := bind_eq_ok.mp h
  obtain ⟨relationships, hrelationships, h⟩ := bind_eq_ok.mp h
  obtain ⟨items, hitems, h⟩ := bind_eq_ok.mp h
  obtain rfl := pure_eq_ok.mp h
  have hkept : ∀ item, output.Resolves runtime item ↔ _ := fun item =>
    and_congr (entityIdsByName_isSome hentities _).symm (entityIdsByName_isSome hentities _).symm
  have hlinked := (mapRelationships_quotes_iff hkept hrelationships).trans (zipIdx_forall_iff
    (P := fun item : LLMContextRelationship => output.Resolves runtime item →
      ∀ reference ∈ item.sourceReferences.1, reference.Quotes chunks) output.relationships)
  have hfiltered : (∀ link ∈ relationships.1.flatMap ContextRelationship.sourceLinks,
      QuotesSource chunks link) ↔ ∀ reference ∈
        (output.relationships.filter fun item => output.Resolves runtime item).flatMap
          (fun item => item.sourceReferences.1), reference.Quotes chunks := by
    simpa only [List.forall_mem_flatMap, List.mem_filter, decide_eq_true_eq, and_imp] using hlinked
  simp only [resultLinks, LLMExtractionOutput.keptReferences, List.forall_mem_append]
  rw [mapped_quotes_iff (fun item : LLMContextEntity => item.sourceReferences.1)
      (fun _ _ hrecord => (mapEntity_ok hrecord).1) hentities, hfiltered,
    mapped_quotes_iff (fun item : LLMContextSignal => item.sourceReferences.1)
      (fun _ _ => mapSignal_ok) hsignals,
    mapped_quotes_iff (fun item : LLMActionableItem => item.evidenceLinks.1)
      (fun _ _ => mapActionableItem_ok) hitems]

end Output

section Examples

def noteArtifact : Artifact where
  id := "art_1".toList
  domainId := "job_search".toList
  artifactTypeId := "resume".toList
  ownerType := .invitationCode
  ownerId := ['1']
  title := none
  text := "wrote docs".toList
  sourceUri := none
  metadata := []
  createdAt := 0

def noteChunk : ArtifactChunk where
  id := "chunk_1".toList
  artifactId := "art_1".toList
  chunkIndex := 0
  text := "wrote docs".toList
  startOffset := 0
  endOffset := 10
  sourceLink := ⟨"art_1".toList, none, none, none, none, none⟩
  metadata := []

def extractionStep : ResolvedContextModelStep where
  domainId := "job_search".toList
  flowId := "extraction".toList
  stepId := "artifact_extraction".toList
  purpose := "structured_extraction".toList
  mode := .llm
  modelProfileId := "fast".toList
  modelProfile := ⟨"openai".toList, "m".toList, true⟩
  promptTemplate := "artifact_extraction".toList
  promptVersion := "v1".toList

def plainRuntime : Runtime where
  now := fun _ => "2026-01-01T00:00:00+00:00".toList
  newContextId := fun kind index => kind ++ '_' :: (Nat.repr index).toList
  lower := fun text => text.map Char.toLower
  repr := quote

/-- A strength that quotes the excerpt, cited from the chunk of the note. -/
def strengthOutput (excerpt : Filled Char) : LLMExtractionOutput where
  entities := []
  signals := [{
    title := ⟨['t'], by decide⟩
    summary := ⟨['s'], by decide⟩
    signalType := ⟨['u'], by decide⟩
    explicitOrInferred := .explicit
    confidence := .high
    sourceReferences := ⟨[⟨"chunk_1".toList, excerpt, none⟩], List.cons_ne_nil _ _⟩
    rationale := ⟨['r'], by decide⟩ }]
  relationships := []
  actionableItems := []
  warnings := []

theorem copied_excerpt_quotes_source :
    ∃ result, mapExtractionOutput plainRuntime noteArtifact [noteChunk] extractionStep
        (strengthOutput ⟨" docs".toList, by decide⟩) = .ok result ∧
      ((∀ link ∈ resultLinks result, QuotesSource [noteChunk] link) ↔
        ∀ reference ∈ (strengthOutput ⟨" docs".toList, by decide⟩).keptReferences plainRuntime,
          reference.Quotes [noteChunk]) :=
  ⟨_, rfl, accepted_output_quotes_source_iff plainRuntime noteArtifact [noteChunk] extractionStep
    (strengthOutput ⟨" docs".toList, by decide⟩) _ rfl⟩

def inventedLink : SourceLink :=
  ⟨"art_1".toList, some "chunk_1".toList, some 0, some 10, some "resume".toList, some "led 9".toList⟩

theorem inventedLink_not_quoted : ¬ QuotesSource [noteChunk] inventedLink := by
  rintro ⟨chunk, hchunk, -, excerpt, hexcerpt, hoccurs⟩
  obtain rfl := List.mem_singleton.mp hchunk
  obtain rfl := Option.some.inj hexcerpt
  have hnine : '9' ∈ "led 9".toList := by decide
  exact absurd (hoccurs.subset hnine) (by decide)

/-- The invented excerpt is accepted, and stored as a quotation of the note. -/
theorem invented_excerpt_is_accepted :
    ∃ result, mapExtractionOutput plainRuntime noteArtifact [noteChunk] extractionStep
        (strengthOutput ⟨"led 9".toList, by decide⟩) = .ok result ∧
      ∃ link ∈ resultLinks result, ¬ QuotesSource [noteChunk] link :=
  ⟨_, rfl, inventedLink, List.mem_cons_self, inventedLink_not_quoted⟩

end Examples

end DemoService.JobSearch
