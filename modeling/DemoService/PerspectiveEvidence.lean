import DemoService.ExcerptGrounding
import DemoService.PerspectivePrompt

/-! What the evidence of a synthesized perspective view may cite, and the way of a chunk id into
the prompt and back. -/

namespace DemoService.JobSearch

open PyText Context
open Fallible

/-! ### Compact ids -/

namespace PromptIdMap

/-- The ids are numbered in the order in which they were added. -/
def Numbered (initial : Char) (mapping : Dict Text Text) : Prop :=
  ∀ i item, mapping[i]? = some item → item.2 = initial :: Nat.toDigits 10 (i + 1)

theorem numbered_nil (initial : Char) : Numbered initial [] := by
  intro i item h
  cases h

theorem Numbered.inj {initial : Char} {mapping : Dict Text Text} (h : Numbered initial mapping)
    {first second : Text × Text} (hfirst : first ∈ mapping) (hsecond : second ∈ mapping)
    (heq : first.2 = second.2) : first = second := by
  obtain ⟨i, hi⟩ := List.mem_iff_getElem?.mp hfirst
  obtain ⟨j, hj⟩ := List.mem_iff_getElem?.mp hsecond
  rw [h i first hi, h j second hj] at heq
  have hdigits := congrArg (Nat.ofDigitChars 10 · 0) (List.cons.inj heq).2
  simp only [Nat.ofDigitChars_ten_toDigits, Nat.add_right_cancel_iff] at hdigits
  rw [hdigits, hj] at hi
  exact (Option.some.inj hi).symm

/-- One step of the numbering: nothing known is changed, and the id is known afterwards. -/
theorem compact_spec {initial : Char} {mapping : Dict Text Text} (h : Numbered initial mapping)
    (original : Text) : Numbered initial (compact mapping original initial).2 ∧
      mapping <+: (compact mapping original initial).2 ∧
      (compact mapping original initial).2.get? original =
        some (compact mapping original initial).1 := by
  rw [compact]
  cases hget : mapping.get? original with
  | some known => exact ⟨h, List.prefix_rfl, hget⟩
  | none =>
    simp only [Dict.set_fresh (Dict.get?_eq_none hget)]
    refine ⟨?_, List.prefix_append _ _, ?_⟩
    · intro i item hi
      rcases Nat.lt_or_ge i mapping.length with hlt | hge
      · rw [List.getElem?_append_left hlt] at hi
        exact h i item hi
      · rw [List.getElem?_append_right hge] at hi
        rw [List.getElem?_singleton] at hi
        split at hi
        · obtain rfl : i = mapping.length := by omega
          rw [← Option.some.inj hi]
        · cases hi
    · rw [Dict.get?_append, hget]
      simp [Dict.get?]

/-- Chunk ids stay as they are numbered, and may be added. -/
def Adds {α : Type} (x : StateM PromptIdMap α) : Prop :=
  ∀ ids, Numbered 'c' ids.chunkIds →
    Numbered 'c' (x ids).2.chunkIds ∧ ids.chunkIds <+: (x ids).2.chunkIds

theorem Adds.pure {α : Type} (a : α) : Adds (Pure.pure a) := fun _ h => ⟨h, List.prefix_rfl⟩

theorem Adds.bind {α β : Type} {x : StateM PromptIdMap α} {f : α → StateM PromptIdMap β}
    (hx : Adds x) (hf : ∀ a, Adds (f a)) : Adds (x >>= f) := by
  intro ids h
  obtain ⟨hfirst, hadded⟩ := hx ids h
  obtain ⟨hsecond, hmore⟩ := hf (x ids).1 (x ids).2 hfirst
  exact ⟨hsecond, hadded.trans hmore⟩

theorem Adds.mapM {α β : Type} {f : α → StateM PromptIdMap β} (hf : ∀ a, Adds (f a))
    (items : List α) : Adds (items.mapM f) := by
  induction items with
  | nil => exact .pure []
  | cons a items ih =>
    rw [List.mapM_cons]
    exact (hf a).bind fun b => ih.bind fun bs => .pure (b :: bs)

theorem adds_chunkId (original : Text) : Adds (chunkId original) := fun _ h =>
  ⟨(compact_spec h original).1, (compact_spec h original).2.1⟩

theorem adds_artifactId (original : Text) : Adds (artifactId original) := fun _ h =>
  ⟨h, List.prefix_rfl⟩

theorem adds_signalId (original : Text) : Adds (signalId original) := fun _ h =>
  ⟨h, List.prefix_rfl⟩

theorem adds_itemId (original : Text) : Adds (itemId original) := fun _ h =>
  ⟨h, List.prefix_rfl⟩

/-- A known id is not numbered again. -/
theorem chunkId_known {ids : PromptIdMap} {original id : Text}
    (h : ids.chunkIds.get? original = some id) : (chunkId original ids).1 = id := by
  have hcompact : compact ids.chunkIds original 'c' = (id, ids.chunkIds) := by rw [compact, h]
  change (compact ids.chunkIds original 'c').1 = id
  rw [hcompact]

theorem originalChunkId_known {ids : PromptIdMap} (hids : Numbered 'c' ids.chunkIds)
    {original id : Text} (h : ids.chunkIds.get? original = some id) :
    ids.originalChunkId id = original := by
  have hmem : (original, id) ∈ ids.chunkIds := Dict.mem_of_get?_eq_some h
  rw [originalChunkId]
  cases hfind : ids.chunkIds.find? fun item => item.2 = id with
  | none =>
    have hno := List.find?_eq_none.mp hfind (original, id) hmem
    exact absurd (decide_eq_true rfl) hno
  | some item =>
    have hitem : item.2 = id := by simpa using List.find?_some hfind
    have hsame : item = (original, id) := hids.inj (List.mem_of_find?_eq_some hfind) hmem hitem
    rw [hsame]

end PromptIdMap

open PromptIdMap

section Compaction

variable (limits : PerspectiveContextLimits)

theorem adds_compactSourceLink (link : SourceLink) : Adds (compactSourceLink limits link) := by
  refine (adds_artifactId _).bind fun _ => .bind ?_ fun _ => .pure _
  cases link.chunkId.bind orNone with
  | none => exact .pure none
  | some original => exact (adds_chunkId original).bind fun _ => .pure _

theorem adds_compactSourceLinks (links : List SourceLink) :
    Adds (compactSourceLinks limits links) := .mapM (adds_compactSourceLink limits) _

theorem adds_compactView (view : PerspectiveView) : Adds (compactView limits view) := by
  have hevidence : ∀ evidence, Adds (compactEvidence limits evidence) := fun evidence =>
    (adds_compactSourceLink limits evidence.source).bind fun _ => .pure _
  have hsection : ∀ viewSection, Adds (compactSection limits viewSection) := fun viewSection =>
    (Adds.mapM hevidence viewSection.evidenceLinks).bind fun _ => .pure _
  exact (Adds.mapM hsection view.sections).bind fun _ => .pure _

theorem adds_compactArtifact (artifact : Artifact) : Adds (compactArtifact artifact) :=
  (adds_artifactId artifact.id).bind fun _ => .pure _

theorem adds_compactChunk (chunk : ArtifactChunk) : Adds (compactChunk limits chunk) :=
  (adds_chunkId chunk.id).bind fun _ => (adds_artifactId chunk.artifactId).bind fun _ => .pure _

theorem adds_compactSignal (signal : ContextSignal) : Adds (compactSignal limits signal) :=
  (adds_signalId signal.id).bind fun _ =>
    (adds_compactSourceLinks limits signal.sourceLinks).bind fun _ => .pure _

theorem adds_compactActionableItem (item : ActionableItem) :
    Adds (compactActionableItem limits item) :=
  (adds_itemId item.id).bind fun _ =>
    (adds_compactSourceLinks limits item.sourceLinks).bind fun _ => .pure _

/-- The chunk stands in the prompt under the id it has in the map. -/
def ShownAs (ids : PromptIdMap) (chunk : ArtifactChunk) (shown : CompactChunk) : Prop :=
  ids.chunkIds.get? chunk.id = some shown.id ∧ shown.text = chunk.text.take limits.chunkChars

theorem mapM_compactChunk (chunks : List ArtifactChunk) {ids : PromptIdMap}
    (h : Numbered 'c' ids.chunkIds) :
    List.Forall₂ (ShownAs limits (chunks.mapM (compactChunk limits) ids).2) chunks
      (chunks.mapM (compactChunk limits) ids).1 := by
  induction chunks generalizing ids with
  | nil => exact .nil
  | cons chunk chunks ih =>
    rw [List.mapM_cons]
    obtain ⟨hnumbered, _⟩ := adds_compactChunk limits chunk ids h
    obtain ⟨_, hadded⟩ := Adds.mapM (adds_compactChunk limits) chunks _ hnumbered
    refine .cons ⟨?_, rfl⟩ (ih hnumbered)
    exact Dict.get?_of_prefix hadded (compact_spec h chunk.id).2.2

end Compaction

section Evidence

variable (context : PerspectiveBuildContext) (deterministic : PerspectiveView)
  (graph : PerspectiveContextGraph)

/-- The selected chunks are the ones whose text the prompt shows. -/
theorem perspectivePrompt_shows :
    Numbered 'c' (perspectivePrompt context deterministic graph).2.chunkIds ∧
      List.Forall₂ (ShownAs graph.limits (perspectivePrompt context deterministic graph).2)
        (selectPerspectiveChunks context deterministic graph)
        (perspectivePrompt context deterministic graph).1.chunks := by
  let limits := graph.limits
  let selected := selectPerspectiveChunks context deterministic graph
  let first := compactView limits deterministic >>= fun _ =>
    (artifactsForChunks context.artifacts selected).mapM compactArtifact
  have hfirst : Adds first := (adds_compactView limits deterministic).bind fun _ =>
    .mapM adds_compactArtifact _
  obtain ⟨hbefore, _⟩ := hfirst .empty (numbered_nil 'c')
  have hchunks := mapM_compactChunk limits selected hbefore
  obtain ⟨hshown, _⟩ := Adds.mapM (adds_compactChunk limits) selected _ hbefore
  have hlast : ∀ (signals : List ContextSignal) (items : List ActionableItem),
      Adds (signals.mapM (compactSignal limits) >>= fun _ =>
        items.mapM (compactActionableItem limits)) := fun signals items =>
    (Adds.mapM (adds_compactSignal limits) signals).bind fun _ =>
      .mapM (adds_compactActionableItem limits) items
  obtain ⟨hafter, hadded⟩ := hlast _ _ _ hshown
  exact ⟨hafter, hchunks.imp fun _ _ h => ⟨Dict.get?_of_prefix hadded h.1, h.2⟩⟩

/-- The chunks that a reference can lead to: those of the index, one for each original id, whose
artifact is in the context. -/
def citableChunks (promptIds : PromptIdMap) : List ArtifactChunk :=
  ((originalChunks context promptIds).map Prod.snd).filter fun chunk =>
    chunk.artifactId ∈ context.artifacts.map Artifact.id

/-- The evidence of an accepted output is from the chunks of the prompt. -/
def CitesShown (runtime : Runtime) (step : ResolvedContextModelStep) : Prop :=
  ∀ output viewDefinitionId view,
    mapPerspectiveOutput runtime output context step viewDefinitionId
      (perspectivePrompt context deterministic graph).2 = .ok view →
    ∀ viewSection ∈ view.sections, ∀ evidence ∈ viewSection.evidenceLinks,
      ∃ chunk ∈ selectPerspectiveChunks context deterministic graph,
        evidence.source.chunkId = some chunk.id

/-- A shown chunk's id is translated to the id the prompt shows, and that one back. -/
def TranslatesBack : Prop :=
  let (prompt, promptIds) := perspectivePrompt context deterministic graph
  List.Forall₂ (fun chunk shown => (chunkId chunk.id promptIds).1 = shown.id ∧
      promptIds.originalChunkId shown.id = chunk.id)
    (selectPerspectiveChunks context deterministic graph) prompt.chunks

def CitableShown : Prop :=
  ∀ chunk ∈ citableChunks context (perspectivePrompt context deterministic graph).2,
    ∃ shown ∈ selectPerspectiveChunks context deterministic graph, shown.id = chunk.id

theorem translatesBack : TranslatesBack context deterministic graph := by
  obtain ⟨hnumbered, hshown⟩ := perspectivePrompt_shows context deterministic graph
  exact hshown.imp fun _ _ h => ⟨chunkId_known h.1, originalChunkId_known hnumbered h.1⟩

variable {context}

theorem mapEvidence_ok {promptIds : PromptIdMap} {synthesized : LLMPerspectiveSection}
    {reference : LLMSourceReference} {evidence : EvidenceLink}
    (h : mapEvidence promptIds (originalChunks context promptIds)
      (Dict.index Artifact.id context.artifacts) synthesized reference = .ok evidence) :
    ∃ chunk ∈ citableChunks context promptIds, evidence.source.chunkId = some chunk.id := by
  rw [mapEvidence] at h
  split at h
  · cases h
  · rename_i chunk hchunk
    split at h
    · cases h
    · rename_i artifact hartifact
      obtain ⟨source, hsource, h⟩ := bind_eq_ok.mp h
      obtain rfl := pure_eq_ok.mp h
      obtain ⟨cited, hcited, hid, _⟩ := sourceLink_ok hsource
      obtain rfl := Option.some.inj (hchunk.symm.trans hcited)
      have hartifacts : chunk.artifactId ∈ context.artifacts.map Artifact.id :=
        Dict.isSome_get?_index.mp (by rw [hartifact]; rfl)
      refine ⟨chunk, List.mem_filter.mpr ⟨?_, decide_eq_true hartifacts⟩, hid⟩
      exact List.mem_map.mpr ⟨_, Dict.mem_of_get?_eq_some hchunk, rfl⟩

theorem mapPerspectiveOutput_ok {promptIds : PromptIdMap} {runtime : Runtime}
    {output : LLMPerspectiveOutput} {step : ResolvedContextModelStep} {viewDefinitionId : Text}
    {view : PerspectiveView}
    (h : mapPerspectiveOutput runtime output context step viewDefinitionId promptIds = .ok view) :
    ∀ viewSection ∈ view.sections, ∀ evidence ∈ viewSection.evidenceLinks,
      ∃ chunk ∈ citableChunks context promptIds, evidence.source.chunkId = some chunk.id := by
  obtain ⟨sections, hsections, h⟩ := bind_eq_ok.mp h
  obtain rfl := pure_eq_ok.mp h
  refine mapAll_forall (fun synthesized viewSection hsection => ?_) hsections
  obtain ⟨evidence, hevidence, hsection⟩ := bind_eq_ok.mp hsection
  obtain rfl := pure_eq_ok.mp hsection
  exact mapAll_forall (fun _ _ => mapEvidence_ok) hevidence

theorem letter_ne_nil : (['x'] : Text) ≠ [] := List.cons_ne_nil _ _

/-- A section that cites the chunk. -/
def citingSection (id : Text) : LLMPerspectiveSection where
  id := ⟨['x'], letter_ne_nil⟩
  title := ⟨['x'], letter_ne_nil⟩
  synthesizedConclusion := ⟨['x'], letter_ne_nil⟩
  whyItMatters := ⟨['x'], letter_ne_nil⟩
  confidence := .high
  evidenceReferences := ⟨[⟨id, ⟨['x'], letter_ne_nil⟩, none⟩], List.cons_ne_nil _ _⟩
  actionableImplications := []
  explicitOrInferred := .explicit
  rationale := ⟨['x'], letter_ne_nil⟩

def citingOutput (id : Text) : LLMPerspectiveOutput where
  title := ⟨['x'], letter_ne_nil⟩
  sections := ⟨[citingSection id], List.cons_ne_nil _ _⟩
  warnings := []

/-- Every citable chunk is cited by some accepted output. -/
theorem citable_cited {promptIds : PromptIdMap} {chunk : ArtifactChunk}
    (h : chunk ∈ citableChunks context promptIds) (runtime : Runtime)
    (step : ResolvedContextModelStep) : ∃ view,
      mapPerspectiveOutput runtime (citingOutput chunk.id) context step [] promptIds = .ok view ∧
      ∃ viewSection ∈ view.sections, ∃ evidence ∈ viewSection.evidenceLinks,
        evidence.source.chunkId = some chunk.id := by
  obtain ⟨hchunk, hartifact⟩ := List.mem_filter.mp h
  have hfound : (originalChunks context promptIds).get? (promptIds.originalChunkId chunk.id) =
      some chunk := Dict.get?_index_of_mem hchunk
  obtain ⟨artifact, hfetched⟩ := Option.isSome_iff_exists.mp
    (Dict.isSome_get?_index.mpr (of_decide_eq_true hartifact))
  have hblank : ¬ strip ['x'] = [] := by decide
  have hlink : ∃ source, sourceLink artifact (originalChunks context promptIds)
      ⟨promptIds.originalChunkId chunk.id, ⟨['x'], by decide⟩, none⟩ = .ok source ∧
      source.chunkId = some chunk.id := by
    rw [sourceLink]
    simp only [hfound]
    exact ⟨_, if_neg hblank, rfl⟩
  obtain ⟨source, hsource, hid⟩ := hlink
  have hevidence : ∃ evidence, mapEvidence promptIds (originalChunks context promptIds)
      (Dict.index Artifact.id context.artifacts) (citingSection chunk.id)
      ⟨chunk.id, ⟨['x'], by decide⟩, none⟩ = .ok evidence ∧
      evidence.source.chunkId = some chunk.id := by
    rw [mapEvidence]
    simp only [hfound, hfetched, hsource]
    exact ⟨_, rfl, hid⟩
  obtain ⟨evidence, hmapped, hcited⟩ := hevidence
  have hsection : ∀ metadata, ∃ viewSection, mapSection promptIds (originalChunks context promptIds)
      (Dict.index Artifact.id context.artifacts) metadata (citingSection chunk.id) =
        .ok viewSection ∧ viewSection.evidenceLinks = [evidence] := fun metadata =>
    ⟨_, bind_eq_ok.mpr ⟨[evidence],
      mapAll_cons_eq_ok.mpr ⟨evidence, [], hmapped, rfl, rfl⟩, rfl⟩, rfl⟩
  obtain ⟨viewSection, hviewSection, hlinks⟩ :=
    hsection (metadataForGeneratedStep (runtime.now 0) step)
  refine ⟨_, bind_eq_ok.mpr ⟨[viewSection],
    mapAll_cons_eq_ok.mpr ⟨viewSection, [], hviewSection, rfl, rfl⟩, rfl⟩,
    viewSection, List.mem_cons_self, evidence, ?_, hcited⟩
  rw [hlinks]
  exact List.mem_cons_self

end Evidence

/-- Only shown chunks are cited, whatever the model returns, exactly when every citable chunk of
the context is shown; the shown ids are translated back in any case. -/
theorem cites_shown_iff (context : PerspectiveBuildContext) (deterministic : PerspectiveView)
    (graph : PerspectiveContextGraph) (runtime : Runtime) (step : ResolvedContextModelStep) :
    CitesShown context deterministic graph runtime step ∧
        TranslatesBack context deterministic graph ↔
      CitableShown context deterministic graph := by
  constructor
  · rintro ⟨hcites, _⟩ chunk hchunk
    obtain ⟨view, hview, viewSection, hsection, evidence, hevidence, hid⟩ :=
      citable_cited hchunk runtime step
    obtain ⟨shown, hshown, hsame⟩ :=
      hcites _ [] view hview viewSection hsection evidence hevidence
    exact ⟨shown, hshown, Option.some.inj (hsame.symm.trans hid)⟩
  · intro hshown
    refine ⟨?_, translatesBack context deterministic graph⟩
    intro output viewDefinitionId view hview viewSection hsection evidence hevidence
    obtain ⟨chunk, hchunk, hid⟩ :=
      mapPerspectiveOutput_ok hview viewSection hsection evidence hevidence
    obtain ⟨shown, hmem, hsame⟩ := hshown chunk hchunk
    exact ⟨shown, hmem, by rw [hid, hsame]⟩

section Examples

def secondChunk : ArtifactChunk := { noteChunk with id := "chunk_2".toList, chunkIndex := 1 }

def twoChunks : PerspectiveBuildContext where
  domainId := "job_search".toList
  ownerType := .invitationCode
  ownerId := ['1']
  artifacts := [noteArtifact]
  chunks := [noteChunk, secondChunk]
  entities := []
  relationships := []
  signals := []
  actionableItems := []

def plainView : PerspectiveView where
  id := "view_0".toList
  viewDefinitionId := "role_fit".toList
  title := "Role Fit".toList
  sections := []
  metadata := []

/-- Resumes fill the prompt, with room for one chunk. -/
def oneChunkGraph : PerspectiveContextGraph where
  limits := ⟨1, 24, 6, 900, 300, by decide, by decide, by decide⟩
  nodes := [(chunksKey, ⟨[], [], ["resume".toList]⟩)]

/-- The second chunk is cited and accepted, and the prompt shows the first one alone. -/
theorem unshown_chunk_cited :
    (selectPerspectiveChunks twoChunks plainView oneChunkGraph).map ArtifactChunk.id =
        ["chunk_1".toList] ∧
      (∃ view, mapPerspectiveOutput plainRuntime (citingOutput "chunk_2".toList) twoChunks
          extractionStep "role_fit".toList (perspectivePrompt twoChunks plainView oneChunkGraph).2 =
            .ok view ∧ viewLinks view = [⟨"art_1".toList, some "chunk_2".toList, some 0, some 10,
              some "resume".toList, some ['x']⟩]) ∧
      ¬ CitesShown twoChunks plainView oneChunkGraph plainRuntime extractionStep := by
  have hshown : selectPerspectiveChunks twoChunks plainView oneChunkGraph = [noteChunk] := by
    decide +kernel
  refine ⟨by rw [hshown]; rfl, ⟨_, rfl, rfl⟩, fun hcites => ?_⟩
  obtain ⟨chunk, hchunk, hid⟩ := hcites (citingOutput "chunk_2".toList) "role_fit".toList _ rfl _
    List.mem_cons_self _ List.mem_cons_self
  rw [hshown] at hchunk
  obtain rfl := List.mem_singleton.mp hchunk
  exact absurd (Option.some.inj hid) (by decide)

end Examples

end DemoService.JobSearch
