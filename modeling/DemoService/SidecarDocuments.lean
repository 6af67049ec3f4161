import DemoService.SidecarReplies

/-! Documents chunked through the text-tools service: the chunks that are built from its replies or,
once a call fails, by the fallback. -/

namespace DemoService.RagChunking

open AccessTokens CodePoints Fallible PyJson
open PyText (Text)

section Build

/-- A `PreparedRagChunk` whose text is any string that a reply can hold. -/
structure PreparedTextChunk where
  text : Str
  chunkIndex : Nat
  pageNumber : Option Int
  sourceLocation : Option Text
  deriving DecidableEq, Repr

/-- `RagChunkFallback`: the sections, the chunk size and the chunk overlap. -/
abbrev RagChunkFallback :=
  List ExtractedSection → Int → Int → Except Raised (List PreparedTextChunk)

variable (python : Interpreter) (service : Nat → ChunkRequest → Exchange)
  (fallback : RagChunkFallback) (settings : Runs.Settings)

def chunkRequest (extracted : ExtractedSection) : ChunkRequest :=
  ⟨extracted.text, settings.ragChunkSize, settings.ragChunkOverlap⟩

/-- The loop over the chunks of one reply. -/
def appendReply (extracted : ExtractedSection) (chunks : List PreparedTextChunk) :
    List TextToolsChunk → List PreparedTextChunk
  | [] => chunks
  | textChunk :: reply =>
    appendReply extracted
      (chunks ++ [⟨textChunk.text, chunks.length, extracted.pageNumber, extracted.sourceLocation⟩])
      reply

/-- The loop over the sections. The service is told which call it answers. -/
def collectReplies : Nat → List PreparedTextChunk → List ExtractedSection →
    Except ExceptionClass (List PreparedTextChunk)
  | _, chunks, [] => .ok chunks
  | call, chunks, extracted :: sections => do
    let reply ← readReply python (service call (chunkRequest settings extracted))
    collectReplies (call + 1) (appendReply extracted chunks reply) sections

/-- `build_rag_chunks_with_optional_text_tools`. -/
def buildRagChunksWithTextTools (sections : List ExtractedSection) :
    Except Raised (List PreparedTextChunk) :=
  if settings.textToolsEnabled then
    match collectReplies python service settings 0 [] sections with
    | .ok chunks => .ok chunks
    | .error _ => fallback sections settings.ragChunkSize settings.ragChunkOverlap
  else fallback sections settings.ragChunkSize settings.ragChunkOverlap

end Build

section Collecting

variable (python : Interpreter) (service : Nat → ChunkRequest → Exchange)
  (settings : Runs.Settings)

def exchanges (call : Nat) (sections : List ExtractedSection) : List Exchange :=
  (sections.zipIdx call).map fun extracted =>
    service extracted.2 (chunkRequest settings extracted.1)

/-- A text, with the page and the source it is from. -/
abbrev ChunkContent := Str × Option Int × Option Text

def PreparedTextChunk.content (chunk : PreparedTextChunk) : ChunkContent :=
  (chunk.text, chunk.pageNumber, chunk.sourceLocation)

def sectionContents (extracted : ExtractedSection) (reply : List TextToolsChunk) :
    List ChunkContent :=
  reply.map fun textChunk => (textChunk.text, extracted.pageNumber, extracted.sourceLocation)

def replyContents (sections : List ExtractedSection) (replies : List (List TextToolsChunk)) :
    List ChunkContent :=
  (sections.zip replies).flatMap fun answered => sectionContents answered.1 answered.2

/-- The chunks are numbered from `first` on and hold the contents. -/
def Numbered (first : Nat) (contents : List ChunkContent) (chunks : List PreparedTextChunk) :
    Prop :=
  chunks.map PreparedTextChunk.chunkIndex = List.range' first chunks.length ∧
    chunks.map PreparedTextChunk.content = contents

variable {python service settings}

theorem Numbered.append {first : Nat} {contents more : List ChunkContent}
    {chunks others : List PreparedTextChunk} (h : Numbered first contents chunks)
    (hothers : Numbered (first + chunks.length) more others) :
    Numbered first (contents ++ more) (chunks ++ others) := by
  refine ⟨?_, ?_⟩
  · rw [List.map_append, h.1, hothers.1, List.length_append, List.range'_append_1]
  · rw [List.map_append, h.2, hothers.2]

theorem Numbered.appendReply {contents : List ChunkContent} {chunks : List PreparedTextChunk}
    (h : Numbered 0 contents chunks) (extracted : ExtractedSection) (reply : List TextToolsChunk) :
    Numbered 0 (contents ++ sectionContents extracted reply)
      (appendReply extracted chunks reply) := by
  induction reply generalizing contents chunks with
  | nil =>
    rw [sectionContents, List.map_nil, List.append_nil]
    exact h
  | cons textChunk reply ih =>
    have hone : Numbered 0
        (contents ++ [(textChunk.text, extracted.pageNumber, extracted.sourceLocation)])
        (chunks ++ [⟨textChunk.text, chunks.length, extracted.pageNumber,
          extracted.sourceLocation⟩]) := by
      refine h.append ⟨?_, rfl⟩
      rw [Nat.zero_add]
      rfl
    have hrest := ih hone
    rwa [List.append_assoc] at hrest

/-- Where every call returns, the chunks are numbered through. -/
theorem collectReplies_numbered {call : Nat} {sections : List ExtractedSection}
    {contents : List ChunkContent} {chunks : List PreparedTextChunk}
    {replies : List (List TextToolsChunk)} (h : Numbered 0 contents chunks)
    (hreplies : mapAll (readReply python) (exchanges service settings call sections) = .ok replies) :
    ∃ result, collectReplies python service settings call chunks sections = .ok result ∧
      Numbered 0 (contents ++ replyContents sections replies) result := by
  induction sections generalizing call contents chunks replies with
  | nil =>
    refine ⟨chunks, rfl, ?_⟩
    simpa only [replyContents, List.zip_nil_left, List.flatMap_nil, List.append_nil] using h
  | cons extracted sections ih =>
    obtain ⟨reply, rest, hreply, hrest, rfl⟩ := mapAll_cons_eq_ok.mp hreplies
    obtain ⟨result, hresult, hnumbered⟩ := ih (h.appendReply extracted reply) hrest
    refine ⟨result, bind_eq_ok.mpr ⟨reply, hreply, hresult⟩, ?_⟩
    rwa [List.append_assoc] at hnumbered

theorem callsSucceed_of_collected {call : Nat} {sections : List ExtractedSection}
    {chunks result : List PreparedTextChunk}
    (h : collectReplies python service settings call chunks sections = .ok result) :
    ∀ exchange ∈ exchanges service settings call sections, ¬ CallFails python exchange := by
  induction sections generalizing call chunks with
  | nil => exact fun exchange hexchange => absurd hexchange List.not_mem_nil
  | cons extracted sections ih =>
    obtain ⟨reply, hreply, hrest⟩ := bind_eq_ok.mp h
    exact List.forall_mem_cons.mpr ⟨(readReply_succeeds _).mp ⟨reply, hreply⟩, ih hrest⟩

end Collecting

section Document

variable (python : Interpreter) (service : Nat → ChunkRequest → Exchange)
  (fallback : RagChunkFallback) (settings : Runs.Settings) (sections : List ExtractedSection)

/-- A document is chunked by the fallback as a whole, where the service is off or one of its calls
fails, or by the service as a whole, with its chunks numbered through. A reply of the service never
fails, but not every reply that could not be one of the service does. -/
theorem text_tools_chunking_is_all_or_nothing :
    ((settings.textToolsEnabled = false ∨
        ∃ exchange ∈ exchanges service settings 0 sections, CallFails python exchange) →
      buildRagChunksWithTextTools python service fallback settings sections =
        fallback sections settings.ragChunkSize settings.ragChunkOverlap) ∧
    (settings.textToolsEnabled = true →
      (∀ exchange ∈ exchanges service settings 0 sections, ¬ CallFails python exchange) →
        ∃ replies chunks,
          mapAll (readReply python) (exchanges service settings 0 sections) = .ok replies ∧
          buildRagChunksWithTextTools python service fallback settings sections = .ok chunks ∧
          chunks.map PreparedTextChunk.chunkIndex = List.range chunks.length ∧
          chunks.map PreparedTextChunk.content = replyContents sections replies) ∧
    ∀ exchange, CallFails python exchange → Breaks python exchange := by
  refine ⟨?_, ?_, fun _ => breaks_of_callFails⟩
  · rintro (hoff | ⟨exchange, hexchange, hfails⟩)
    · rw [buildRagChunksWithTextTools, hoff]
      rfl
    · rw [buildRagChunksWithTextTools]
      cases hcollected : collectReplies python service settings 0 [] sections with
      | error cls => exact ite_self _
      | ok chunks => exact absurd hfails (callsSucceed_of_collected hcollected exchange hexchange)
  · intro hon hsucceed
    obtain ⟨replies, hreplies⟩ := mapAll_succeeds fun exchange hexchange =>
      (readReply_succeeds exchange).mpr (hsucceed exchange hexchange)
    have hempty : Numbered 0 [] [] := ⟨rfl, rfl⟩
    obtain ⟨chunks, hchunks, hindices, hcontents⟩ := collectReplies_numbered hempty hreplies
    refine ⟨replies, chunks, hreplies, ?_, ?_, hcontents⟩
    · rw [buildRagChunksWithTextTools, if_pos hon, hchunks]
    · rw [hindices, List.range_eq_range']

/-- The chunks of the local chunker, whose texts have no halves of pairs. -/
def PreparedRagChunk.toTextChunk (chunk : PreparedRagChunk) : PreparedTextChunk :=
  ⟨chunk.text.map chr, chunk.chunkIndex, chunk.pageNumber, chunk.sourceLocation⟩

def localChunker : RagChunkFallback := fun sections chunkSize chunkOverlap =>
  (buildRagChunks sections chunkSize chunkOverlap).map
    (List.map PreparedRagChunk.toTextChunk)

/-- An empty object is no reply of the service, but counts as one without chunks. -/
theorem reply_without_chunks_empties_the_document :
    Breaks demoPython (.response 200 [0x7B, 0x7D]) ∧
      buildRagChunksWithTextTools demoPython (fun _ _ => .response 200 [0x7B, 0x7D]) localChunker
        ⟨[], 0, 0, 0, 0, 0, true, 600, 60⟩ [⟨['a'], none, none⟩] = .ok [] ∧
      localChunker [⟨['a'], none, none⟩] 600 60 = .ok [⟨[0x61], 0, none, none⟩] := by
  have hload : loadsBytes demoPython [0x7B, 0x7D] = .ok (.obj []) := by rfl
  refine ⟨?_, by rfl, by rfl⟩
  intro _ payload hpayload hreply
  obtain rfl := Except.ok.inj (hload.symm.trans hpayload)
  obtain ⟨items, hitems, -⟩ := hreply
  cases hitems

end Document

/-! ### The sidecar behind the client -/

section Sidecar

variable {python : Interpreter} {service : Nat → ChunkRequest → Exchange}
  {settings : Runs.Settings} {delivers : Nat → TextTools.Transport}

/-- The client reads the texts of the sidecar where a call is delivered and accepted, and fails
otherwise. -/
def AnswersAs (python : Interpreter) (service : Nat → ChunkRequest → Exchange)
    (settings : Runs.Settings) (delivers : Nat → TextTools.Transport) : Prop :=
  ∀ call extracted,
    match sidecarTexts delivers settings.ragChunkSize settings.ragChunkOverlap call
      extracted.text with
    | .ok texts => ∃ reply,
        readReply python (service call (chunkRequest settings extracted)) = .ok reply ∧
          reply.map TextToolsChunk.text = texts.map (List.map chr)
    | .error _ => CallFails python (service call (chunkRequest settings extracted))

theorem appendReply_toTextChunk {extracted : ExtractedSection} {texts : List Text}
    {reply : List TextToolsChunk} {chunks : List PreparedRagChunk}
    (h : reply.map TextToolsChunk.text = texts.map (List.map chr)) :
    appendReply extracted (chunks.map PreparedRagChunk.toTextChunk) reply =
      (appendSection extracted chunks texts).map PreparedRagChunk.toTextChunk := by
  induction texts generalizing chunks reply with
  | nil =>
    obtain rfl := List.map_eq_nil_iff.mp h
    rfl
  | cons text texts ih =>
    obtain ⟨textChunk, reply, rfl, htext, hreply⟩ := List.map_eq_cons_iff.mp h
    have hone : chunks.map PreparedRagChunk.toTextChunk ++
        [PreparedTextChunk.mk textChunk.text (chunks.map PreparedRagChunk.toTextChunk).length
          extracted.pageNumber extracted.sourceLocation] =
        (chunks ++ [PreparedRagChunk.mk text chunks.length extracted.pageNumber
          extracted.sourceLocation]).map PreparedRagChunk.toTextChunk := by
      rw [List.map_append, List.length_map, htext]
      rfl
    rw [appendReply, hone, ih hreply]
    rfl

theorem collectReplies_sidecar (hanswers : AnswersAs python service settings delivers)
    (sections : List ExtractedSection) (call : Nat) (chunks : List PreparedRagChunk) :
    match collectChunks (sidecarTexts delivers settings.ragChunkSize settings.ragChunkOverlap) call
      chunks sections with
    | .ok result => collectReplies python service settings call
        (chunks.map PreparedRagChunk.toTextChunk) sections =
          .ok (result.map PreparedRagChunk.toTextChunk)
    | .error _ => ∃ cls, collectReplies python service settings call
        (chunks.map PreparedRagChunk.toTextChunk) sections = .error cls := by
  induction sections generalizing call chunks with
  | nil => exact rfl
  | cons extracted sections ih =>
    have hcall := hanswers call extracted
    rw [collectChunks, collectReplies]
    cases htexts : sidecarTexts delivers settings.ragChunkSize settings.ragChunkOverlap call
      extracted.text with
    | error failure =>
      rw [htexts] at hcall
      cases hreply : readReply python (service call (chunkRequest settings extracted)) with
      | error cls => exact ⟨cls, rfl⟩
      | ok reply => exact absurd hcall ((readReply_succeeds _).mp ⟨reply, hreply⟩)
    | ok texts =>
      rw [htexts] at hcall
      obtain ⟨reply, hreply, htext⟩ := hcall
      have hrest := ih (call + 1) (appendSection extracted chunks texts)
      rw [← appendReply_toTextChunk htext] at hrest
      rw [hreply]
      exact hrest

/-- With the sidecar behind it, the client chunks a document as the model of both services does. -/
theorem buildRagChunksWithTextTools_sidecar
    (hanswers : AnswersAs python service settings delivers) (sections : List ExtractedSection) :
    buildRagChunksWithTextTools python service localChunker settings sections =
      (buildRagChunksWithOptionalTextTools delivers settings sections).map
        (List.map PreparedRagChunk.toTextChunk) := by
  rw [buildRagChunksWithTextTools, buildRagChunksWithOptionalTextTools]
  by_cases hon : settings.textToolsEnabled = true
  · rw [if_pos hon, if_pos hon]
    have hcollected := collectReplies_sidecar hanswers sections 0 []
    cases hchunks : collectChunks
      (sidecarTexts delivers settings.ragChunkSize settings.ragChunkOverlap) 0 [] sections with
    | ok chunks =>
      rw [hchunks, List.map_nil] at hcollected
      dsimp only at hcollected
      rw [hcollected]
      rfl
    | error failure =>
      rw [hchunks, List.map_nil] at hcollected
      obtain ⟨cls, hcls⟩ := hcollected
      rw [hcls]
      rfl
  · rw [if_neg hon, if_neg hon]
    rfl

end Sidecar

end DemoService.RagChunking
