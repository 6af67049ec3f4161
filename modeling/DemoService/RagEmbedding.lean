import DemoService.RagSplits
import DemoService.RagStore
import DemoService.RunInput
import DemoService.WorkflowExtraction
import DemoService.WorkQueue

/-! Embedding of prepared chunks. A chunk whose text the provider finds too long is split and
its parts take its place in the queue. -/

namespace DemoService.RagEmbedding

open PyText RagChunking SpanCover WorkQueue

variable {ν : Type}

structure RagVectorChunk (ν : Type) extends Rag.RagVectorChunk ν where
  pageNumber : Option Int
  sourceLocation : Option Text
  deriving DecidableEq, Repr

def shouldSplitEmbeddingInput (lower : Text → Text) (raised : Raised) (text : Text) : Bool :=
  if text.length ≤ 100 then false
  else Workflow.containsAny ["context length", "input length", "too long"] (lower raised.message)

def exceededContextLength : Raised :=
  Rag.runtimeError "RAG chunk exceeded embedding context length.".toList

def unexpectedVectors : Raised :=
  Rag.runtimeError "Embedding provider returned an unexpected number of vectors.".toList

def splitSize (settings : Runs.Settings) (text : Text) : Int :=
  max 100 (min settings.ragChunkSize (text.length / 2 : Nat))

def splitPreparedChunkForRetry (settings : Runs.Settings) (chunk : PreparedRagChunk) :
    Except Raised (List PreparedRagChunk) := do
  let splitOverlap := min settings.ragChunkOverlap (max 0 (splitSize settings chunk.text / 10))
  let textChunks ← splitTextIntoChunks chunk.text (splitSize settings chunk.text) splitOverlap
  if textChunks.length ≤ 1 then .error exceededContextLength
  else pure (textChunks.map fun text =>
    ⟨text, chunk.chunkIndex, chunk.pageNumber, chunk.sourceLocation⟩)

def textLength (chunk : PreparedRagChunk) : Nat := chunk.text.length

theorem splitPreparedChunkForRetry_eq_ok {settings : Runs.Settings} {chunk : PreparedRagChunk}
    {parts : List PreparedRagChunk} (h : splitPreparedChunkForRetry settings chunk = .ok parts) :
    ∃ texts overlap,
      splitTextIntoChunks chunk.text (splitSize settings chunk.text) overlap = .ok texts ∧
      parts = texts.map fun text =>
        ⟨text, chunk.chunkIndex, chunk.pageNumber, chunk.sourceLocation⟩ := by
  obtain ⟨texts, htexts, h⟩ := Fallible.bind_eq_ok.mp h
  split at h
  · cases h
  · exact ⟨texts, _, htexts, (Fallible.pure_eq_ok.mp h).symm⟩

/-- The parts of a text of more than 100 characters are shorter than it. -/
theorem textLength_part {settings : Runs.Settings} {chunk : PreparedRagChunk}
    {parts : List PreparedRagChunk} (hlong : 100 < chunk.text.length)
    (h : splitPreparedChunkForRetry settings chunk = .ok parts) :
    ∀ part ∈ parts, textLength part < textLength chunk := by
  obtain ⟨texts, overlap, htexts, rfl⟩ := splitPreparedChunkForRetry_eq_ok h
  intro part hpart
  obtain ⟨text, htext, rfl⟩ := List.mem_map.mp hpart
  have hlen := (splitTextIntoChunks_holds htexts).2 text htext
  rw [splitSize] at hlen
  show text.length < chunk.text.length
  omega

section Loop

variable (lower : Text → Text) (embed : List Text → Except Raised (List (List ν)))
  (settings : Runs.Settings)

/-- The `while pending` loop. -/
def embedPending (pending : List PreparedRagChunk) (chunks : List (RagVectorChunk ν)) :
    Except Raised (List (RagVectorChunk ν)) :=
  match pending with
  | [] => .ok chunks
  | chunk :: pending =>
    match embed [chunk.text] with
    | .error raised =>
      if _hsplit : raised.cls = .runtimeError ∧ shouldSplitEmbeddingInput lower raised chunk.text then
        match _hparts : splitPreparedChunkForRetry settings chunk with
        | .error raised => .error raised
        | .ok parts => embedPending (parts ++ pending) chunks
      else .error raised
    | .ok [embedding] =>
      embedPending pending (chunks ++ [{
        chunkText := chunk.text
        embedding := embedding
        chunkIndex := chunks.length
        pageNumber := chunk.pageNumber
        sourceLocation := chunk.sourceLocation }])
    | .ok _ => .error unexpectedVectors
termination_by sizesOf textLength pending
decreasing_by
  · refine sizesOf_split (textLength_part ?_ _hparts) _
    by_contra hshort
    have hno := _hsplit.2
    rw [shouldSplitEmbeddingInput, if_pos (by omega)] at hno
    cases hno
  · exact sizesOf_tail _ _ _

def embedPreparedChunks (preparedChunks : List PreparedRagChunk) :
    Except Raised (List (RagVectorChunk ν)) :=
  embedPending lower embed settings preparedChunks []

end Loop

/-- A result that keeps the chunk's text and places, with the vector the provider gave. -/
structure Embeds (embed : List Text → Except Raised (List (List ν))) (chunk : PreparedRagChunk)
    (result : RagVectorChunk ν) : Prop where
  accepted : embed [result.chunkText] = .ok [result.embedding]
  text : result.chunkText = chunk.text
  pageNumber : result.pageNumber = chunk.pageNumber
  sourceLocation : result.sourceLocation = chunk.sourceLocation

section Steps

variable {lower : Text → Text} {embed : List Text → Except Raised (List (List ν))}
  {settings : Runs.Settings} {chunk : PreparedRagChunk} {pending parts : List PreparedRagChunk}
  {chunks : List (RagVectorChunk ν)}

theorem embedPending_accepted {embedding : List ν} (h : embed [chunk.text] = .ok [embedding]) :
    embedPending lower embed settings (chunk :: pending) chunks =
      embedPending lower embed settings pending
        (chunks ++ [⟨⟨chunk.text, embedding, chunks.length⟩, chunk.pageNumber,
          chunk.sourceLocation⟩]) := by
  rw [embedPending, h]

theorem embedPending_refused {raised : Raised} (h : embed [chunk.text] = .error raised)
    (hsplit : raised.cls = .runtimeError ∧ shouldSplitEmbeddingInput lower raised chunk.text = true)
    (hparts : splitPreparedChunkForRetry settings chunk = .ok parts) :
    embedPending lower embed settings (chunk :: pending) chunks =
      embedPending lower embed settings (parts ++ pending) chunks := by
  rw [embedPending, h]
  simp only
  rw [dif_pos hsplit]
  split
  · rename_i raised' hraised
    cases hparts.symm.trans hraised
  · rename_i parts' hparts'
    obtain rfl := Except.ok.inj (hparts.symm.trans hparts')
    rfl

end Steps

theorem embedPending_worked {lower : Text → Text} {embed : List Text → Except Raised (List (List ν))}
    {settings : Runs.Settings} {pending : List PreparedRagChunk}
    {chunks results : List (RagVectorChunk ν)}
    (h : embedPending lower embed settings pending chunks = .ok results) :
    ∃ later, results = chunks ++ later ∧
      later.map (fun result => result.chunkIndex) = List.range' chunks.length later.length ∧
      Worked (Embeds embed) (fun chunk parts =>
        splitPreparedChunkForRetry settings chunk = .ok parts) pending later := by
  fun_induction embedPending lower embed settings pending chunks with
  | case1 chunks =>
    cases h
    exact ⟨[], by simp, rfl, .nil⟩
  | case2 chunks chunk pending raised hraised hsplit raised' hparts => cases h
  | case3 chunks chunk pending raised hraised hsplit parts hparts ih =>
    obtain ⟨later, hresults, hindex, hworked⟩ := ih h
    exact ⟨later, hresults, hindex, .split hparts hworked⟩
  | case4 => cases h
  | case5 chunks chunk pending embedding hembed ih =>
    obtain ⟨later, hresults, hindex, hworked⟩ := ih h
    refine ⟨_ :: later, by simpa using hresults, ?_, .done ⟨hembed, rfl, rfl, rfl⟩ hworked⟩
    rw [List.length_append, List.length_singleton] at hindex
    rw [List.map_cons, hindex, List.length_cons, List.range'_succ]
  | case6 => cases h

/-- The results of one input chunk. -/
structure DerivedFrom (embed : List Text → Except Raised (List (List ν)))
    (chunk : PreparedRagChunk) (results : List (RagVectorChunk ν)) : Prop where
  accepted : ∀ result ∈ results, embed [result.chunkText] = .ok [result.embedding]
  fields : ∀ result ∈ results, result.pageNumber = chunk.pageNumber ∧
    result.sourceLocation = chunk.sourceLocation
  holds : Overlays (ink chunk.text) (results.map fun result => ink result.chunkText)

theorem Embeds.derived {embed : List Text → Except Raised (List (List ν))}
    {chunk : PreparedRagChunk} {result : RagVectorChunk ν} (h : Embeds embed chunk result) :
    DerivedFrom embed chunk [result] := by
  refine ⟨by simpa using h.accepted, by simpa using ⟨h.pageNumber, h.sourceLocation⟩, ?_⟩
  rw [List.map_singleton, h.text]
  exact overlays_self _

theorem forall_right {α β : Type} {related : α → β → Prop} {p : β → Prop} {as : List α}
    {bs : List β} (h : List.Forall₂ related as bs) (hp : ∀ {a b}, related a b → p b) :
    ∀ b ∈ bs, p b := by
  induction h with
  | nil => simp
  | cons hfirst _ ih => exact List.forall_mem_cons.mpr ⟨hp hfirst, ih⟩

/-- What the parts hold, the split chunk holds. -/
theorem derived_flatten {embed : List Text → Except Raised (List (List ν))}
    {settings : Runs.Settings} {chunk : PreparedRagChunk} {parts : List PreparedRagChunk}
    {groups : List (List (RagVectorChunk ν))}
    (h : splitPreparedChunkForRetry settings chunk = .ok parts)
    (hgroups : List.Forall₂ (DerivedFrom embed) parts groups) :
    DerivedFrom embed chunk groups.flatten := by
  obtain ⟨texts, overlap, htexts, rfl⟩ := splitPreparedChunkForRetry_eq_ok h
  rw [List.forall₂_map_left_iff] at hgroups
  have haccepted : ∀ group ∈ groups, ∀ result ∈ group,
      embed [result.chunkText] = .ok [result.embedding] :=
    forall_right hgroups fun h => h.accepted
  have hfields : ∀ group ∈ groups, ∀ result ∈ group,
      result.pageNumber = chunk.pageNumber ∧ result.sourceLocation = chunk.sourceLocation :=
    forall_right hgroups fun h => h.fields
  refine ⟨fun result hresult => ?_, fun result hresult => ?_, ?_⟩
  · obtain ⟨group, hgroup, hmem⟩ := List.mem_flatten.mp hresult
    exact haccepted group hgroup result hmem
  · obtain ⟨group, hgroup, hmem⟩ := List.mem_flatten.mp hresult
    exact hfields group hgroup result hmem
  · rw [List.map_flatten]
    refine (splitTextIntoChunks_holds htexts).1.trans ?_
    rw [List.forall₂_map_left_iff, List.forall₂_map_right_iff]
    exact hgroups.imp fun _ _ h => h.holds

/-- Whatever the provider answers, the embedding of a list of chunks comes to an end, and the
results of a regular end hold all of every chunk's text but whitespace. -/
theorem embedding_loses_nothing (lower : Text → Text)
    (embed : List Text → Except Raised (List (List ν))) (settings : Runs.Settings)
    (preparedChunks : List PreparedRagChunk) {results : List (RagVectorChunk ν)}
    (h : embedPreparedChunks lower embed settings preparedChunks = .ok results) :
    results.map (fun result => result.chunkIndex) = List.range results.length ∧
      ∃ groups, results = groups.flatten ∧
        List.Forall₂ (DerivedFrom embed) preparedChunks groups := by
  obtain ⟨later, rfl, hindex, hworked⟩ := embedPending_worked h
  refine ⟨?_, hworked.groups Embeds.derived derived_flatten⟩
  rw [hindex, List.length_nil, List.range_eq_range']

/-- A provider that gives the length of a text as its vector, and refuses more than 100 characters. -/
def shortTextsOnly (texts : List Text) : Except Raised (List (List Nat)) :=
  if texts.any fun text => decide (100 < text.length) then
    .error (Rag.runtimeError "The input is too long for this model.".toList)
  else .ok (texts.map fun text => [text.length])

/-- Two words of sixty letters. -/
def longNote : PreparedRagChunk :=
  ⟨List.replicate 60 'a' ++ ' ' :: List.replicate 60 'b', 0, some 1, none⟩

theorem splitLoop_longNote : splitLoop longNote.text 100 10 0 [] =
    [List.replicate 60 'a', List.replicate 9 'a' ++ ' ' :: List.replicate 60 'b'] := by
  have hfirst : findSplitPoint longNote.text 0 100 = 61 := by decide +kernel
  rw [splitLoop, if_pos (by decide)]
  simp only [show min (0 + 100) longNote.text.length = 100 by decide +kernel, hfirst]
  rw [if_neg (by decide +kernel), splitLoop, if_pos (by decide +kernel)]
  rw [show max (61 - 10) (0 + 1) = 51 by decide]
  rw [if_pos (by decide +kernel)]
  decide +kernel

/-- The first chunk is refused and split at the blank, with ten characters in both parts. -/
theorem refused_chunk_loses_nothing :
    let lower : Text → Text := List.map Char.toLower
    let chunks : List PreparedRagChunk := [longNote, ⟨"agenda".toList, 1, some 2, none⟩]
    ∃ results, embedPreparedChunks lower shortTextsOnly Runs.defaultSettings chunks = .ok results ∧
      (∃ raised, shortTextsOnly [longNote.text] = .error raised) ∧ results.length = 3 ∧
      results.map (fun result => result.chunkIndex) = List.range results.length ∧
      ∃ groups, results = groups.flatten ∧
        List.Forall₂ (DerivedFrom shortTextsOnly) chunks groups := by
  intro lower chunks
  have hnormal : normalizeText (some longNote.text) = some longNote.text := by decide +kernel
  have hparts : splitPreparedChunkForRetry Runs.defaultSettings longNote =
      .ok [⟨List.replicate 60 'a', 0, some 1, none⟩,
        ⟨List.replicate 9 'a' ++ ' ' :: List.replicate 60 'b', 0, some 1, none⟩] := by
    have hsize : splitSize Runs.defaultSettings longNote.text = 100 := by decide +kernel
    have htexts : splitTextIntoChunks longNote.text 100 10 =
        .ok [List.replicate 60 'a', List.replicate 9 'a' ++ ' ' :: List.replicate 60 'b'] := by
      rw [splitTextIntoChunks, if_neg (by decide), if_neg (by decide), hnormal]
      simp only
      rw [if_neg (by decide +kernel)]
      exact congrArg _ splitLoop_longNote
    rw [splitPreparedChunkForRetry, hsize]
    show (splitTextIntoChunks longNote.text 100 10 >>= _) = _
    rw [htexts]
    rfl
  have hrefused : shortTextsOnly [longNote.text] =
      .error (Rag.runtimeError "The input is too long for this model.".toList) := by decide +kernel
  have hfirst : shortTextsOnly [List.replicate 60 'a'] = .ok [[60]] := by decide +kernel
  have hsecond : shortTextsOnly [List.replicate 9 'a' ++ ' ' :: List.replicate 60 'b'] =
      .ok [[70]] := by decide +kernel
  have hthird : shortTextsOnly ["agenda".toList] = .ok [[6]] := by decide +kernel
  have hresults : embedPreparedChunks lower shortTextsOnly Runs.defaultSettings chunks =
      .ok [⟨⟨List.replicate 60 'a', [60], 0⟩, some 1, none⟩,
        ⟨⟨List.replicate 9 'a' ++ ' ' :: List.replicate 60 'b', [70], 1⟩, some 1, none⟩,
        ⟨⟨"agenda".toList, [6], 2⟩, some 2, none⟩] := by
    rw [embedPreparedChunks, embedPending_refused hrefused (by decide +kernel) hparts,
      List.cons_append, List.singleton_append, embedPending_accepted hfirst,
      embedPending_accepted hsecond, embedPending_accepted hthird, embedPending]
    rfl
  exact ⟨_, hresults, ⟨_, hrefused⟩, rfl, embedding_loses_nothing lower shortTextsOnly
    Runs.defaultSettings chunks hresults⟩

end DemoService.RagEmbedding
