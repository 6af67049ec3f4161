import DemoService.RagCitations
import DemoService.RagConversations
import DemoService.RagIsolation

/-! What the chat of a persona can retrieve. A document is stored once for all tenants and found
again by the hash of its content; personas are linked to documents, and the search of a persona goes
by its links. -/

namespace DemoService.Rag

open PyText

/-! ### Operations -/

section Operations

variable {ν : Type}

def unlinkPersonaDocument (personaId documentId : Nat) (db : RagDatabase ν) :
    Option (RagDatabase ν) :=
  if db.personaDocuments.any fun link =>
      link.personaId = personaId ∧ link.documentId = documentId then
    some { db with
      personaDocuments := db.personaDocuments.filter fun link =>
        ¬ (link.personaId = personaId ∧ link.documentId = documentId) }
  else none

/-- `DELETE /personas/{persona_id}/documents/{document_id}`. -/
def unlinkRagPersonaDocument (invitationCodeId personaId documentId : Nat) (db : RagDatabase ν) :
    Except HTTPException (RagDatabase ν) := do
  let persona ← getActivePersonaOr404 db.personas personaId invitationCodeId
  match unlinkPersonaDocument persona.id documentId db with
  | some stored => .ok stored
  | none => .error ⟨404, "Persona document not found.".toList⟩

/-- `POST /personas` where it stores; a refused call stores nothing and is not modelled here. The id
is the database's, which gives no number out twice. -/
def createRagPersona (invitationCodeId personaId : Nat) (db : RagDatabase ν) : RagDatabase ν :=
  if db.personas.any (·.id = personaId) then db
  else { db with personas := db.personas ++ [⟨personaId, invitationCodeId, true⟩] }

/-- `DELETE /personas/{persona_id}`. -/
def deleteRagPersona (invitationCodeId personaId : Nat) (db : RagDatabase ν) :
    Except HTTPException (RagDatabase ν) := do
  let persona ← getActivePersonaOr404 db.personas personaId invitationCodeId
  pure { db with
    personas := db.personas.map fun other =>
      if other.id = persona.id then { other with isActive := false } else other }

/-- `POST /documents` with an extracted document. -/
def ingestRagDocument (lower : Text → Text) (labels : List Text) (prepared : PreparedRagDocument ν)
    (db : RagDatabase ν) : Except HTTPException (RagDatabase ν) :=
  match createDocumentFromPrepared lower prepared labels db with
  | .error raised => .error ((ragException raised).getD ⟨500, raised.message⟩)
  | .ok (_, stored) => .ok stored

inductive RagOperation (ν : Type)
  | createPersona (invitationCodeId personaId : Nat)
  | deletePersona (invitationCodeId personaId : Nat)
  | ingest (labels : List Text) (prepared : PreparedRagDocument ν)
  | upload (invitationCodeId personaId : Nat) (prepared : PreparedRagDocument ν)
  | unlink (invitationCodeId personaId documentId : Nat)

def RagOperation.run (lower : Text → Text) (db : RagDatabase ν) :
    RagOperation ν → Except HTTPException (RagDatabase ν)
  | .createPersona invitationCodeId personaId => .ok (createRagPersona invitationCodeId personaId db)
  | .deletePersona invitationCodeId personaId => deleteRagPersona invitationCodeId personaId db
  | .ingest labels prepared => ingestRagDocument lower labels prepared db
  | .upload invitationCodeId personaId prepared =>
    uploadRagPersonaDocument lower invitationCodeId personaId prepared db
  | .unlink invitationCodeId personaId documentId =>
    unlinkRagPersonaDocument invitationCodeId personaId documentId db

/-- One request; a failed one leaves the database as it was. -/
def applyOperation (lower : Text → Text) (db : RagDatabase ν) (op : RagOperation ν) :
    RagDatabase ν :=
  match op.run lower db with
  | .ok stored => stored
  | .error _ => db

def afterOperations (lower : Text → Text) (ops : List (RagOperation ν)) : RagDatabase ν :=
  ops.foldl (applyOperation lower) ⟨[], [], [], [], 1, 1⟩

end Operations

section Search

variable {ν δ : Type} [LinearOrder δ]

/-- The rows of the chunks of a persona's documents, one for each link. -/
def personaRows (personaId : Nat) (db : RagDatabase ν) :
    List (RagDocument × RagDocumentChunk ν) :=
  (chunkRows db).flatMap fun row =>
    (db.personaDocuments.filter fun link =>
      link.documentId = row.1.id ∧ link.personaId = personaId).map fun _ => row

/-- `search_persona_documents`; rows of equal distance stay in table order. -/
def searchPersonaDocuments (embed : Text → Except Raised (List (List ν)))
    (distance : List ν → List ν → δ) (db : RagDatabase ν) (personaId : Nat) (limit : Nat)
    (query : Text) : Except Raised (List (RagSearchResult δ)) :=
  if personaId < 1 then .error (valueError "RAG persona id must be positive.".toList)
  else if strip query = [] then
    .error (valueError "RAG search query cannot be empty.".toList)
  else if limit < 1 then
    .error (valueError "Search limit must be at least 1.".toList)
  else
    match embed query with
    | .error raised => .error raised
    | .ok [] => .error ⟨.other, "list index out of range".toList⟩
    | .ok (embedding :: _) =>
      if embedding.length ≠ embeddingDimensions then
        .error (wrongDimensions embedding.length)
      else
        let results := (personaRows personaId db).map (searchResult distance embedding)
        .ok ((results.mergeSort fun a b => a.distance ≤ b.distance).take limit)

end Search

/-! ### Where the links and the chunks come from -/

section Account

variable {ν : Type}

/-- A document that some request has handed in, of whichever tenant. -/
def Submitted (ops : List (RagOperation ν)) (prepared : PreparedRagDocument ν) : Prop :=
  (∃ labels, .ingest labels prepared ∈ ops) ∨ ∃ owner personaId, .upload owner personaId prepared ∈ ops

/-- An upload of this content by the persona's tenant to the persona has succeeded, and the document
was not taken off it since. -/
def Uploaded (lower : Text → Text) (ops : List (RagOperation ν)) (owner personaId documentId : Nat)
    (contentSha256 : Option Text) : Prop :=
  ∃ front prepared back, ops = front ++ .upload owner personaId prepared :: back ∧
    Fallible.Succeeds
      (uploadRagPersonaDocument lower owner personaId prepared (afterOperations lower front)) ∧
    .unlink owner personaId documentId ∉ back ∧ contentSha256 = some prepared.contentSha256

/-- A document has chunks, which are those of a submitted document of the same content. -/
def ChunksOf (ops : List (RagOperation ν)) (db : RagDatabase ν) (document : RagDocument) : Prop :=
  ∃ prepared chunks, Submitted ops prepared ∧
    document.contentSha256 = some prepared.contentSha256 ∧ prepared.chunks = .ok chunks ∧
    (∃ chunk ∈ db.chunks, chunk.documentId = document.id) ∧
    ∀ chunk ∈ db.chunks, chunk.documentId = document.id → ∃ vector ∈ chunks,
      chunk.chunkText = vector.chunkText ∧ chunk.chunkIndex = vector.chunkIndex ∧
      chunk.embedding = vector.embedding

structure Accounted (lower : Text → Text) (ops : List (RagOperation ν)) (db : RagDatabase ν) :
    Prop where
  personaIds : (db.personas.map RagPersona.id).Nodup
  documentIds : (db.documents.map RagDocument.id).Nodup
  newDocumentIds : ∀ document ∈ db.documents, document.id < db.nextDocumentId
  chunkIds : (db.chunks.map RagDocumentChunk.id).Nodup
  newChunkIds : ∀ chunk ∈ db.chunks, chunk.id < db.nextChunkId
  chunkDocuments : ∀ chunk ∈ db.chunks, chunk.documentId < db.nextDocumentId
  linkIds : (db.personaDocuments.map fun link => (link.personaId, link.documentId)).Nodup
  linkPersonas : ∀ link ∈ db.personaDocuments, ∃ persona ∈ db.personas, persona.id = link.personaId
  chunksOf : ∀ document ∈ db.documents, ChunksOf ops db document
  uploaded : ∀ link ∈ db.personaDocuments, ∀ persona ∈ db.personas, persona.id = link.personaId →
    persona.isActive → ∃ document ∈ db.documents, document.id = link.documentId ∧
      Uploaded lower ops persona.invitationCodeId link.personaId link.documentId document.contentSha256

variable {ops : List (RagOperation ν)} {db : RagDatabase ν} {lower : Text → Text}

theorem accounted_empty : Accounted lower ([] : List (RagOperation ν)) ⟨[], [], [], [], 1, 1⟩ := by
  constructor <;> simp

theorem Submitted.later {prepared : PreparedRagDocument ν} (h : Submitted ops prepared)
    (op : RagOperation ν) : Submitted (ops ++ [op]) prepared := by
  rcases h with ⟨labels, h⟩ | ⟨owner, personaId, h⟩
  · exact .inl ⟨labels, List.mem_append_left _ h⟩
  · exact .inr ⟨owner, personaId, List.mem_append_left _ h⟩

theorem ChunksOf.later {document : RagDocument} (h : ChunksOf ops db document)
    (op : RagOperation ν) : ChunksOf (ops ++ [op]) db document := by
  obtain ⟨prepared, chunks, hsubmitted, hrest⟩ := h
  exact ⟨prepared, chunks, hsubmitted.later op, hrest⟩

theorem Uploaded.later {owner personaId documentId : Nat} {contentSha256 : Option Text}
    (h : Uploaded lower ops owner personaId documentId contentSha256) {op : RagOperation ν}
    (hop : op ≠ .unlink owner personaId documentId) :
    Uploaded lower (ops ++ [op]) owner personaId documentId contentSha256 := by
  obtain ⟨front, prepared, back, rfl, hsucceeds, hback, hhash⟩ := h
  refine ⟨front, prepared, back ++ [op], by simp, hsucceeds, ?_, hhash⟩
  rw [List.mem_append, List.mem_singleton]
  exact fun hmem => hmem.elim hback fun heq => hop heq.symm

/-- A request that leaves the database as it is, if it does not ask to take off what stays linked. -/
theorem Accounted.later (h : Accounted lower ops db) {op : RagOperation ν}
    (hop : ∀ link ∈ db.personaDocuments, ∀ persona ∈ db.personas, persona.id = link.personaId →
      persona.isActive → op ≠ .unlink persona.invitationCodeId link.personaId link.documentId) :
    Accounted lower (ops ++ [op]) db := by
  refine ⟨h.personaIds, h.documentIds, h.newDocumentIds, h.chunkIds, h.newChunkIds,
    h.chunkDocuments, h.linkIds, h.linkPersonas,
    fun document hdocument => (h.chunksOf document hdocument).later op, ?_⟩
  intro link hlink persona hpersona hid hactive
  obtain ⟨document, hdocument, hdocumentId, huploaded⟩ :=
    h.uploaded link hlink persona hpersona hid hactive
  exact ⟨document, hdocument, hdocumentId,
    huploaded.later (hop link hlink persona hpersona hid hactive)⟩

theorem Accounted.unlink (h : Accounted lower ops db) (keep : RagPersonaDocument → Bool) :
    Accounted lower ops { db with personaDocuments := db.personaDocuments.filter keep } := by
  have hsub : ∀ link ∈ db.personaDocuments.filter keep, link ∈ db.personaDocuments :=
    fun link hlink => (List.mem_filter.mp hlink).1
  exact ⟨h.personaIds, h.documentIds, h.newDocumentIds, h.chunkIds, h.newChunkIds,
    h.chunkDocuments, h.linkIds.sublist (List.filter_sublist.map _),
    fun link hlink => h.linkPersonas link (hsub link hlink), h.chunksOf,
    fun link hlink => h.uploaded link (hsub link hlink)⟩

theorem Accounted.createPersona (h : Accounted lower ops db) (owner personaId : Nat) :
    Accounted lower ops (createRagPersona owner personaId db) := by
  rw [createRagPersona]
  split
  · exact h
  · rename_i hnew
    have hfresh : ∀ persona ∈ db.personas, persona.id ≠ personaId := by simpa using hnew
    refine ⟨?_, h.documentIds, h.newDocumentIds, h.chunkIds, h.newChunkIds, h.chunkDocuments, h.linkIds,
      fun link hlink => ?_, h.chunksOf, fun link hlink persona hpersona hid hactive => ?_⟩
    · rw [List.map_append, List.nodup_append]
      refine ⟨h.personaIds, List.nodup_singleton _, fun a ha b hb => ?_⟩
      obtain ⟨persona, hpersona, rfl⟩ := List.mem_map.mp ha
      rw [List.map_singleton, List.mem_singleton] at hb
      rw [hb]
      exact hfresh persona hpersona
    · obtain ⟨persona, hpersona, hid⟩ := h.linkPersonas link hlink
      exact ⟨persona, List.mem_append_left _ hpersona, hid⟩
    · rcases List.mem_append.mp hpersona with hold | hadded
      · exact h.uploaded link hlink persona hold hid hactive
      · obtain ⟨other, hother, hotherId⟩ := h.linkPersonas link hlink
        obtain rfl := List.mem_singleton.mp hadded
        exact absurd (hotherId.trans hid.symm) (hfresh other hother)

theorem Accounted.deactivate (h : Accounted lower ops db) (personaId : Nat) :
    Accounted lower ops { db with
      personas := db.personas.map fun other =>
        if other.id = personaId then { other with isActive := false } else other } := by
  have hid : ∀ other : RagPersona,
      (if other.id = personaId then { other with isActive := false } else other).id = other.id := by
    intro other
    split <;> rfl
  refine ⟨?_, h.documentIds, h.newDocumentIds, h.chunkIds, h.newChunkIds, h.chunkDocuments, h.linkIds,
    fun link hlink => ?_, h.chunksOf, fun link hlink persona hpersona hpersonaId hactive => ?_⟩
  · have hids : (db.personas.map fun other =>
        if other.id = personaId then { other with isActive := false } else other).map
          RagPersona.id = db.personas.map RagPersona.id := by
      rw [List.map_map]
      exact List.map_congr_left fun other _ => hid other
    rw [hids]
    exact h.personaIds
  · obtain ⟨persona, hpersona, hpersonaId⟩ := h.linkPersonas link hlink
    exact ⟨_, List.mem_map.mpr ⟨persona, hpersona, rfl⟩, (hid persona).trans hpersonaId⟩
  · obtain ⟨other, hother, rfl⟩ := List.mem_map.mp hpersona
    by_cases htarget : other.id = personaId
    · rw [if_pos htarget] at hactive
      cases hactive
    · rw [if_neg htarget] at hpersonaId hactive ⊢
      exact h.uploaded link hlink other hother hpersonaId hactive

/-- The rows that the chunks of a document become. -/
def storedChunks (documentId : Nat) : Nat → List (RagVectorChunk ν) → List (RagDocumentChunk ν)
  | _, [] => []
  | next, chunk :: chunks =>
    ⟨next, documentId, chunk.chunkIndex, chunk.chunkText, chunk.embedding⟩ ::
      storedChunks documentId (next + 1) chunks

theorem insertChunks_stored (documentId : Nat) (chunks : List (RagVectorChunk ν))
    (db : RagDatabase ν) : chunks.foldl (insertChunk documentId) db =
      { db with
        chunks := db.chunks ++ storedChunks documentId db.nextChunkId chunks
        nextChunkId := db.nextChunkId + chunks.length } := by
  induction chunks generalizing db with
  | nil => simp [storedChunks]
  | cons chunk chunks ih =>
    rw [List.foldl_cons, ih]
    simp [insertChunk, storedChunks, Nat.add_assoc, Nat.add_comm 1]

theorem mem_storedChunks {documentId next : Nat} {chunks : List (RagVectorChunk ν)}
    {chunk : RagDocumentChunk ν} (h : chunk ∈ storedChunks documentId next chunks) :
    chunk.documentId = documentId ∧ next ≤ chunk.id ∧ chunk.id < next + chunks.length ∧
      ∃ vector ∈ chunks, chunk.chunkText = vector.chunkText ∧
        chunk.chunkIndex = vector.chunkIndex ∧ chunk.embedding = vector.embedding := by
  induction chunks generalizing next with
  | nil => simp [storedChunks] at h
  | cons first chunks ih =>
    rw [List.length_cons]
    rcases List.mem_cons.mp h with rfl | h
    · exact ⟨rfl, le_rfl, by simp, first, List.mem_cons_self, rfl, rfl, rfl⟩
    · obtain ⟨hdocument, hlow, hhigh, vector, hvector, hcontent⟩ := ih h
      exact ⟨hdocument, by omega, by omega, vector, List.mem_cons_of_mem _ hvector, hcontent⟩

theorem nodup_storedChunks (documentId next : Nat) (chunks : List (RagVectorChunk ν)) :
    ((storedChunks documentId next chunks).map RagDocumentChunk.id).Nodup := by
  induction chunks generalizing next with
  | nil => simp [storedChunks]
  | cons first chunks ih =>
    rw [storedChunks, List.map_cons, List.nodup_cons]
    refine ⟨fun hmem => ?_, ih (next + 1)⟩
    obtain ⟨chunk, hchunk, hid⟩ := List.mem_map.mp hmem
    obtain ⟨-, hlow, -⟩ := mem_storedChunks hchunk
    change chunk.id = next at hid
    omega

theorem validated_chunks {chunks valid : List (RagVectorChunk ν)}
    (h : Fallible.mapAll validateVectorChunk chunks = .ok valid) : valid = chunks := by
  induction chunks generalizing valid with
  | nil => exact (Except.ok.inj h).symm
  | cons chunk chunks ih =>
    obtain ⟨first, rest, hfirst, hrest, rfl⟩ := Fallible.mapAll_cons_eq_ok.mp h
    rw [validateVectorChunk] at hfirst
    split at hfirst
    · cases hfirst
    · split at hfirst
      · cases hfirst
      · rw [ih hrest, Except.ok.inj hfirst]

theorem createDocument_stored {prepared : PreparedRagDocument ν} {labels : List Text}
    {document : RagDocument} {stored : RagDatabase ν}
    (h : createDocumentFromPrepared lower prepared labels db = .ok (document, stored)) :
    document.id = db.nextDocumentId ∧ document.contentSha256 = some prepared.contentSha256 ∧
      ∃ chunks, prepared.chunks = .ok chunks ∧ chunks ≠ [] ∧ stored = { db with
        documents := db.documents ++ [document]
        nextDocumentId := db.nextDocumentId + 1
        chunks := db.chunks ++ storedChunks document.id db.nextChunkId chunks
        nextChunkId := db.nextChunkId + chunks.length } := by
  obtain ⟨chunks, hchunks, h⟩ := Fallible.bind_eq_ok.mp h
  by_cases hempty : chunks = []
  · simp [hempty] at h
  · rw [if_neg hempty] at h
    obtain ⟨valid, hvalid, hstore⟩ := Fallible.bind_eq_ok.mp h
    obtain rfl := validated_chunks hvalid
    by_cases hlabels : normalizeLabels lower labels = []
    · simp [hlabels] at hstore
    · rw [if_neg hlabels] at hstore
      obtain ⟨rfl, rfl⟩ := Prod.mk.inj (Fallible.pure_eq_ok.mp hstore)
      exact ⟨rfl, rfl, valid, hchunks, hempty, insertChunks_stored _ _ _⟩

theorem Accounted.store (h : Accounted lower ops db) {prepared : PreparedRagDocument ν}
    (hsubmitted : Submitted ops prepared) {labels : List Text} {document : RagDocument}
    {stored : RagDatabase ν}
    (hcreate : createDocumentFromPrepared lower prepared labels db = .ok (document, stored)) :
    Accounted lower ops stored := by
  obtain ⟨hid, hhash, chunks, hchunks, hne, rfl⟩ := createDocument_stored hcreate
  have hadded := @mem_storedChunks ν document.id db.nextChunkId chunks
  refine ⟨h.personaIds, ?_, ?_, ?_, ?_, ?_, h.linkIds, h.linkPersonas, ?_, ?_⟩
  · rw [List.map_append, List.nodup_append]
    refine ⟨h.documentIds, List.nodup_singleton _, fun a ha b hb => ?_⟩
    obtain ⟨old, hold, rfl⟩ := List.mem_map.mp ha
    rw [List.map_singleton, List.mem_singleton] at hb
    have hbelow := h.newDocumentIds old hold
    omega
  · intro other hother
    show other.id < db.nextDocumentId + 1
    rcases List.mem_append.mp hother with hold | hnew
    · exact Nat.lt_succ_of_lt (h.newDocumentIds other hold)
    · rw [List.mem_singleton.mp hnew, hid]
      exact Nat.lt_succ_self _
  · rw [List.map_append, List.nodup_append]
    refine ⟨h.chunkIds, nodup_storedChunks _ _ _, fun a ha b hb => ?_⟩
    obtain ⟨old, hold, rfl⟩ := List.mem_map.mp ha
    obtain ⟨new, hnew, rfl⟩ := List.mem_map.mp hb
    have hbelow := h.newChunkIds old hold
    obtain ⟨-, hlow, -⟩ := hadded hnew
    omega
  · intro chunk hchunk
    show chunk.id < db.nextChunkId + chunks.length
    rcases List.mem_append.mp hchunk with hold | hnew
    · have hbelow := h.newChunkIds chunk hold
      omega
    · exact (hadded hnew).2.2.1
  · intro chunk hchunk
    show chunk.documentId < db.nextDocumentId + 1
    rcases List.mem_append.mp hchunk with hold | hnew
    · exact Nat.lt_succ_of_lt (h.chunkDocuments chunk hold)
    · rw [(hadded hnew).1, hid]
      exact Nat.lt_succ_self _
  · intro other hother
    rcases List.mem_append.mp hother with hold | hnew
    · obtain ⟨source, vectors, hsource, hsame, hvectors, ⟨first, hfirst, hown⟩, hall⟩ :=
        h.chunksOf other hold
      refine ⟨source, vectors, hsource, hsame, hvectors,
        ⟨first, List.mem_append_left _ hfirst, hown⟩, fun chunk hchunk hdocument => ?_⟩
      rcases List.mem_append.mp hchunk with hbefore | hafter
      · exact hall chunk hbefore hdocument
      · have hbelow := h.newDocumentIds other hold
        rw [(hadded hafter).1, hid] at hdocument
        omega
    · obtain rfl := List.mem_singleton.mp hnew
      obtain ⟨vector, vectors, rfl⟩ := List.exists_cons_of_ne_nil hne
      refine ⟨prepared, _, hsubmitted, hhash, hchunks,
        ⟨_, List.mem_append_right _ List.mem_cons_self, rfl⟩, fun chunk hchunk hdocument => ?_⟩
      rcases List.mem_append.mp hchunk with hbefore | hafter
      · have hbelow := h.chunkDocuments chunk hbefore
        omega
      · exact (hadded hafter).2.2.2
  · intro link hlink persona hpersona hpersonaId hactive
    obtain ⟨other, hother, hrest⟩ := h.uploaded link hlink persona hpersona hpersonaId hactive
    exact ⟨other, List.mem_append_left _ hother, hrest⟩

/-- A document that its content is found under is linked by an upload. -/
theorem Accounted.link (h : Accounted lower ops db) {persona : RagPersona}
    (hpersona : persona ∈ db.personas)
    {document : RagDocument} (hdocument : document ∈ db.documents) {displayName : Option Text}
    (huploaded : Uploaded lower ops persona.invitationCodeId persona.id document.id
      document.contentSha256) :
    Accounted lower ops (linkPersonaDocument persona.id document displayName db) := by
  rw [linkPersonaDocument]
  split
  · exact h
  · rename_i hnew
    have hfresh : ∀ link ∈ db.personaDocuments,
        link.personaId = persona.id → link.documentId ≠ document.id := by
      simpa using hnew
    refine ⟨h.personaIds, h.documentIds, h.newDocumentIds, h.chunkIds, h.newChunkIds,
      h.chunkDocuments, ?_, fun link hlink => ?_, h.chunksOf,
      fun link hlink other hother hid hactive => ?_⟩
    · rw [List.map_append, List.nodup_append]
      refine ⟨h.linkIds, List.nodup_singleton _, fun a ha b hb heq => ?_⟩
      obtain ⟨link, hlink, rfl⟩ := List.mem_map.mp ha
      rw [List.map_singleton, List.mem_singleton] at hb
      obtain ⟨hpersonaId, hdocumentId⟩ := Prod.mk.inj (heq.trans hb)
      exact hfresh link hlink hpersonaId hdocumentId
    · rcases List.mem_append.mp hlink with hold | hadded
      · exact h.linkPersonas link hold
      · obtain rfl := List.mem_singleton.mp hadded
        exact ⟨persona, hpersona, rfl⟩
    · rcases List.mem_append.mp hlink with hold | hadded
      · exact h.uploaded link hold other hother hid hactive
      · obtain rfl := List.mem_singleton.mp hadded
        obtain rfl := List.inj_on_of_nodup_map h.personaIds hother hpersona hid
        exact ⟨document, hdocument, rfl, huploaded⟩

theorem Accounted.documentsById (h : Accounted lower ops db) {document other : RagDocument}
    (hdocument : document ∈ db.documents) (hother : other ∈ db.documents)
    (hid : document.id = other.id) : document = other :=
  List.inj_on_of_nodup_map h.documentIds hdocument hother hid

theorem getActivePersona_mem {personas : List RagPersona} {personaId invitationCodeId : Nat}
    {persona : RagPersona} (h : getActivePersonaOr404 personas personaId invitationCodeId = .ok persona) :
    persona ∈ personas ∧ persona.id = personaId ∧ persona.invitationCodeId = invitationCodeId ∧
      persona.isActive = true := by
  rw [getActivePersonaOr404] at h
  split at h
  · rename_i found hfound
    obtain rfl := Except.ok.inj h
    have hprops := List.find?_some hfound
    simp only [decide_eq_true_eq] at hprops
    exact ⟨List.mem_of_find?_eq_some hfound, hprops⟩
  · cases h

/-- The upload that has just been made. -/
theorem uploaded_now {owner personaId : Nat} {prepared : PreparedRagDocument ν}
    (h : Fallible.Succeeds (uploadRagPersonaDocument lower owner personaId prepared
      (afterOperations lower ops))) (documentId : Nat) :
    Uploaded lower (ops ++ [.upload owner personaId prepared]) owner personaId documentId
      (some prepared.contentSha256) := ⟨ops, prepared, [], rfl, h, List.not_mem_nil, rfl⟩

theorem Accounted.upload (h : Accounted lower ops (afterOperations lower ops))
    {owner personaId : Nat} {prepared : PreparedRagDocument ν} {stored : RagDatabase ν}
    (hrun : uploadRagPersonaDocument lower owner personaId prepared (afterOperations lower ops) =
      .ok stored) :
    Accounted lower (ops ++ [.upload owner personaId prepared]) stored := by
  have hlater : Accounted lower (ops ++ [.upload owner personaId prepared])
      (afterOperations lower ops) :=
    h.later fun _ _ _ _ _ _ heq => by cases heq
  have huploaded := uploaded_now ⟨stored, hrun⟩
  rw [uploadRagPersonaDocument] at hrun
  split at hrun
  · cases hrun
  · rename_i persona hfind
    have hprops := List.find?_some hfind
    simp only [decide_eq_true_eq] at hprops
    obtain ⟨rfl, rfl, -⟩ := hprops
    have hpersona := List.mem_of_find?_eq_some hfind
    split at hrun
    · rename_i document hreused
      obtain rfl := Except.ok.inj hrun
      have hhash := List.find?_some hreused
      simp only [decide_eq_true_eq] at hhash
      refine hlater.link hpersona (List.mem_of_find?_eq_some hreused) ?_
      rw [hhash]
      exact huploaded _
    · split at hrun
      · cases hrun
      · rename_i document created hcreate
        obtain rfl := Except.ok.inj hrun
        have hsubmitted : Submitted (ops ++ [.upload persona.invitationCodeId persona.id prepared])
            prepared := .inr ⟨_, _, List.mem_append_right _ (List.mem_singleton.mpr rfl)⟩
        obtain ⟨-, hhash, chunks, -, -, hcreated⟩ := createDocument_stored hcreate
        have hstored := hlater.store hsubmitted hcreate
        rw [hcreated] at hstored ⊢
        refine hstored.link hpersona (List.mem_append_right _ (List.mem_singleton.mpr rfl)) ?_
        rw [hhash]
        exact huploaded _

theorem Accounted.takeOff (h : Accounted lower ops db) {owner personaId documentId : Nat}
    {stored : RagDatabase ν}
    (hrun : unlinkRagPersonaDocument owner personaId documentId db = .ok stored) :
    Accounted lower (ops ++ [.unlink owner personaId documentId]) stored := by
  obtain ⟨persona, hactive, hunlink⟩ := Fallible.bind_eq_ok.mp hrun
  obtain ⟨-, rfl, -, -⟩ := getActivePersona_mem hactive
  split at hunlink
  · rename_i found hfound
    obtain rfl := Except.ok.inj hunlink
    rw [unlinkPersonaDocument] at hfound
    split at hfound
    · obtain rfl := Option.some.inj hfound
      refine (h.unlink _).later fun link hlink other hother hid hother' heq => ?_
      have hkept := (List.mem_filter.mp hlink).2
      simp only [decide_eq_true_eq] at hkept
      injection heq with _ hpersonaId hdocumentId
      exact hkept ⟨hpersonaId.symm, hdocumentId.symm⟩
    · cases hfound
  · cases hunlink

/-- What an active persona's tenant asks to take off, and cannot be taken off, is not linked. -/
theorem unlink_succeeds {owner personaId documentId : Nat} {persona : RagPersona}
    {link : RagPersonaDocument} (hpersona : persona ∈ db.personas) (hid : persona.id = personaId)
    (howner : persona.invitationCodeId = owner) (hactive : persona.isActive = true)
    (hlink : link ∈ db.personaDocuments) (hlinkPersona : link.personaId = personaId)
    (hlinkDocument : link.documentId = documentId) :
    ∃ stored, unlinkRagPersonaDocument owner personaId documentId db = .ok stored := by
  have hfind : ∃ found, getActivePersonaOr404 db.personas personaId owner = .ok found := by
    rw [getActivePersonaOr404]
    split
    · exact ⟨_, rfl⟩
    · rename_i hnone
      have hall := List.find?_eq_none.mp hnone persona hpersona
      simp [hid, howner, hactive] at hall
  obtain ⟨found, hfound⟩ := hfind
  obtain ⟨-, hfoundId, -, -⟩ := getActivePersona_mem hfound
  have hany : (db.personaDocuments.any fun link =>
      link.personaId = found.id ∧ link.documentId = documentId) = true := by
    rw [List.any_eq_true]
    exact ⟨link, hlink, by simp [hlinkPersona, hlinkDocument, hfoundId]⟩
  rw [unlinkRagPersonaDocument, hfound]
  show ∃ stored, (match unlinkPersonaDocument found.id documentId db with
    | some stored => .ok stored
    | none => .error _) = Except.ok stored
  rw [unlinkPersonaDocument, if_pos hany]
  exact ⟨_, rfl⟩

/-- A request keeps the account. -/
theorem Accounted.step (h : Accounted lower ops (afterOperations lower ops)) (op : RagOperation ν) :
    Accounted lower (ops ++ [op]) (applyOperation lower (afterOperations lower ops) op) := by
  rw [applyOperation]
  cases hrun : op.run lower (afterOperations lower ops) with
  | error exception =>
    refine h.later fun link hlink persona hpersona hid hactive heq => ?_
    subst heq
    obtain ⟨stored, hstored⟩ := unlink_succeeds hpersona hid rfl hactive hlink rfl rfl
    rw [RagOperation.run, hstored] at hrun
    cases hrun
  | ok stored =>
    cases op with
    | createPersona owner personaId =>
      obtain rfl := Except.ok.inj hrun
      exact (h.createPersona owner personaId).later fun _ _ _ _ _ _ heq => by cases heq
    | deletePersona owner personaId =>
      obtain ⟨persona, -, hpure⟩ := Fallible.bind_eq_ok.mp hrun
      obtain rfl := Fallible.pure_eq_ok.mp hpure
      exact (h.deactivate persona.id).later fun _ _ _ _ _ _ heq => by cases heq
    | ingest labels prepared =>
      rw [RagOperation.run, ingestRagDocument] at hrun
      split at hrun
      · cases hrun
      · rename_i document created hcreate
        obtain rfl := Except.ok.inj hrun
        have hlater : Accounted lower (ops ++ [.ingest labels prepared])
            (afterOperations lower ops) := h.later fun _ _ _ _ _ _ heq => by cases heq
        exact hlater.store
          (.inl ⟨labels, List.mem_append_right _ (List.mem_singleton.mpr rfl)⟩) hcreate
    | upload owner personaId prepared => exact h.upload hrun
    | unlink owner personaId documentId => exact h.takeOff hrun

theorem accounted_afterOperations (lower : Text → Text) (ops : List (RagOperation ν)) :
    Accounted lower ops (afterOperations lower ops) := by
  induction ops using List.reverseRecOn with
  | nil => exact accounted_empty
  | append_singleton ops op ih =>
    rw [afterOperations, List.foldl_append]
    exact ih.step op

end Account

/-! ### What is retrieved -/

section Retrieval

variable {ν δ : Type} {db : RagDatabase ν}
  {search : Text → Except Raised (List (RagSearchResult δ))}

theorem mem_personaRows {personaId : Nat} {row : RagDocument × RagDocumentChunk ν}
    (h : row ∈ personaRows personaId db) : row.1 ∈ db.documents ∧ row.2 ∈ db.chunks ∧
      row.2.documentId = row.1.id ∧
      ∃ link ∈ db.personaDocuments, link.documentId = row.1.id ∧ link.personaId = personaId := by
  obtain ⟨found, hfound, hmem⟩ := List.mem_flatMap.mp h
  obtain ⟨link, hlink, rfl⟩ := List.mem_map.mp hmem
  obtain ⟨hstored, hprops⟩ := List.mem_filter.mp hlink
  obtain ⟨chunk, hchunk, hrow⟩ := List.mem_filterMap.mp hfound
  obtain ⟨document, hdocument, rfl⟩ := Option.map_eq_some_iff.mp hrow
  have hid := List.find?_some hdocument
  simp only [decide_eq_true_eq] at hid hprops
  exact ⟨List.mem_of_find?_eq_some hdocument, hchunk, hid.symm, link, hstored, hprops⟩

theorem searchPersonaDocuments_rows [LinearOrder δ] {embed : Text → Except Raised (List (List ν))}
    {distance : List ν → List ν → δ} {personaId limit : Nat} {query : Text}
    {results : List (RagSearchResult δ)}
    (h : searchPersonaDocuments embed distance db personaId limit query = .ok results) :
    ∃ embedding, ∀ result ∈ results, ∃ row ∈ personaRows personaId db,
      result = searchResult distance embedding row := by
  rw [searchPersonaDocuments] at h
  split at h
  · cases h
  split at h
  · cases h
  split at h
  · cases h
  split at h
  · cases h
  · cases h
  rename_i embedding rest hembed
  split at h
  · cases h
  · obtain rfl := Except.ok.inj h
    refine ⟨embedding, fun result hresult => ?_⟩
    have hmem := List.mem_mergeSort.mp (List.mem_of_mem_take hresult)
    obtain ⟨row, hrow, rfl⟩ := List.mem_map.mp hmem
    exact ⟨row, hrow, rfl⟩

theorem keepResults_mem {results found : List (RagSearchResult δ)} {seenChunkIds : List Nat}
    {result : RagSearchResult δ} (h : result ∈ (keepResults results seenChunkIds found).results) :
    result ∈ results ∨ result ∈ found := by
  induction found generalizing results seenChunkIds with
  | nil => exact .inl h
  | cons first found ih =>
    simp only [keepResults] at h
    have hcons : result ∈ results ++ [first] → result ∈ results ∨ result ∈ first :: found := by
      intro hmem
      rcases List.mem_append.mp hmem with hmem | hmem
      · exact .inl hmem
      · exact .inr (List.mem_singleton.mp hmem ▸ List.mem_cons_self)
    split at h
    · exact (ih h).imp id (List.mem_cons_of_mem _)
    · split at h
      · exact hcons h
      · rcases ih h with hmem | hmem
        · exact hcons hmem
        · exact .inr (List.mem_cons_of_mem _ hmem)

theorem retrieveQueries_mem {queries : List Text} {results retrieved : List (RagSearchResult δ)}
    {seenChunkIds : List Nat} {result : RagSearchResult δ}
    (h : retrieveQueries search queries results seenChunkIds = .ok retrieved)
    (hresult : result ∈ retrieved) :
    result ∈ results ∨ ∃ query found, search query = .ok found ∧ result ∈ found := by
  induction queries generalizing results seenChunkIds with
  | nil =>
    obtain rfl := Except.ok.inj h
    exact .inl hresult
  | cons query queries ih =>
    obtain ⟨found, hfound, hrest⟩ := Fallible.bind_eq_ok.mp h
    have hkept : ∀ {result : RagSearchResult δ},
        result ∈ (keepResults results seenChunkIds found).results →
        result ∈ results ∨ ∃ query found, search query = .ok found ∧ result ∈ found :=
      fun hmem => (keepResults_mem hmem).imp id fun hin => ⟨query, found, hfound, hin⟩
    by_cases hfull : (keepResults results seenChunkIds found).full = true
    · rw [if_pos hfull] at hrest
      obtain rfl := Fallible.pure_eq_ok.mp hrest
      exact hkept hresult
    · rw [if_neg hfull] at hrest
      rcases ih hrest with hmem | hmem
      · exact hkept hmem
      · exact .inr hmem

theorem retrieveForPlan_mem {plan : RagTurnPlan} {userContent : Text}
    {retrieved : List (RagSearchResult δ)} {result : RagSearchResult δ}
    (h : retrieveForPlan search plan userContent = .ok retrieved) (hresult : result ∈ retrieved) :
    ∃ query found, search query = .ok found ∧ result ∈ found := by
  rw [retrieveForPlan] at h
  split at h
  · obtain rfl := Except.ok.inj h
    cases hresult
  · exact (retrieveQueries_mem h hresult).resolve_left List.not_mem_nil

/-- After any requests of any tenants, whatever the plan of a turn searches for: all it retrieves is
text of content that the persona's tenant has uploaded to this persona and not taken off it since. -/
theorem retrieved_was_uploaded [LinearOrder δ] (lower : Text → Text)
    {embed : Text → Except Raised (List (List ν))} {distance : List ν → List ν → δ}
    (ops : List (RagOperation ν)) {owner personaId : Nat}
    {persona : RagPersona} {plan : RagTurnPlan} {userContent : Text}
    {retrieved : List (RagSearchResult δ)}
    (hactive : getActivePersonaOr404 (afterOperations lower ops).personas personaId owner =
      .ok persona)
    (hretrieved : retrieveForPlan (searchPersonaDocuments embed distance
      (afterOperations lower ops) persona.id 5) plan userContent = .ok retrieved) :
    retrieved.length ≤ 5 ∧ (retrieved.map RagSearchResult.chunkId).Nodup ∧
      ∀ result ∈ retrieved, ∃ contentSha256,
        Uploaded lower ops owner personaId result.documentId contentSha256 ∧
        ∃ stored chunks vector, Submitted ops stored ∧ contentSha256 = some stored.contentSha256 ∧
          stored.chunks = .ok chunks ∧ vector ∈ chunks ∧ result.chunkText = vector.chunkText ∧
          result.chunkIndex = vector.chunkIndex := by
  obtain ⟨hlength, hdistinct⟩ := retrieveForPlan_distinct hretrieved
  refine ⟨hlength, hdistinct, fun result hresult => ?_⟩
  have haccount := accounted_afterOperations lower ops
  obtain ⟨hpersona, rfl, rfl, hisActive⟩ := getActivePersona_mem hactive
  obtain ⟨query, found, hsearch, hfound⟩ := retrieveForPlan_mem hretrieved hresult
  obtain ⟨embedding, hrows⟩ := searchPersonaDocuments_rows hsearch
  obtain ⟨row, hrow, rfl⟩ := hrows result hfound
  obtain ⟨hdocument, hchunk, hchunkDocument, link, hlink, hlinkDocument, hlinkPersona⟩ :=
    mem_personaRows hrow
  obtain ⟨document, hmem, hid, huploaded⟩ :=
    haccount.uploaded link hlink persona hpersona hlinkPersona.symm hisActive
  obtain ⟨stored, chunks, hsubmitted, hhash, hchunks, -, hall⟩ :=
    haccount.chunksOf row.1 hdocument
  obtain ⟨vector, hvector, htext, hindex, -⟩ := hall row.2 hchunk hchunkDocument
  have hsame : document = row.1 := haccount.documentsById hmem hdocument (hid.trans hlinkDocument)
  rw [hlinkPersona, hlinkDocument, hsame] at huploaded
  exact ⟨row.1.contentSha256, huploaded, stored, chunks, vector, hsubmitted, hhash, hchunks,
    hvector, htext, hindex⟩

def faqDocument : PreparedRagDocument Nat :=
  ⟨"faq.txt".toList, none, "hash".toList,
    .ok [⟨"refunds take a week".toList, List.replicate 384 0, 0⟩]⟩

/-- Two tenants upload the same content, and one takes it off again. -/
def sharedFaq : List (RagOperation Nat) :=
  [.createPersona 2 7, .createPersona 1 5, .upload 2 7 faqDocument, .upload 1 5 faqDocument,
    .unlink 2 7 1, .unlink 2 5 1]

def faqPlan : RagTurnPlan := ⟨true, true, ["refunds".toList]⟩

def flatEmbed (_ : Text) : Except Raised (List (List Nat)) := .ok [List.replicate 384 0]

def flatDistance (_ _ : List Nat) : Nat := 0

theorem shared_faq_retrieved : ∃ retrieved,
    retrieveForPlan (searchPersonaDocuments flatEmbed flatDistance
      (afterOperations asciiLower sharedFaq) 5 5) faqPlan "refunds".toList = .ok retrieved ∧
      retrieved ≠ [] ∧
      retrieved.length ≤ 5 ∧ (retrieved.map RagSearchResult.chunkId).Nodup ∧
      ∀ result ∈ retrieved, ∃ contentSha256,
        Uploaded asciiLower sharedFaq 1 5 result.documentId contentSha256 ∧
        ∃ stored chunks vector, Submitted sharedFaq stored ∧
          contentSha256 = some stored.contentSha256 ∧ stored.chunks = .ok chunks ∧
          vector ∈ chunks ∧ result.chunkText = vector.chunkText ∧
          result.chunkIndex = vector.chunkIndex := by
  have hids : (retrieveForPlan (searchPersonaDocuments flatEmbed flatDistance
      (afterOperations asciiLower sharedFaq) 5 5) faqPlan "refunds".toList).toOption.map
      (·.map RagSearchResult.chunkId) = some [1] := by decide +kernel
  obtain ⟨retrieved, hsome, hchunks⟩ := Option.map_eq_some_iff.mp hids
  have hactive : (getActivePersonaOr404 (afterOperations asciiLower sharedFaq).personas 5 1).toOption =
      some ⟨5, 1, true⟩ := by decide +kernel
  refine ⟨retrieved, Fallible.ok_of_toOption hsome, ?_, retrieved_was_uploaded asciiLower sharedFaq
    (Fallible.ok_of_toOption hactive) (Fallible.ok_of_toOption hsome)⟩
  intro hnil
  rw [hnil] at hchunks
  cases hchunks

end Retrieval

/-! ### What stays searchable -/

section Kept

variable {ν : Type} {lower : Text → Text} {db db' : RagDatabase ν}

/-- Documents and their chunks are only added, under new numbers, and personas keep their tenant. -/
structure Extends (db db' : RagDatabase ν) : Prop where
  next : db.nextDocumentId ≤ db'.nextDocumentId
  documents : ∃ added, db'.documents = db.documents ++ added ∧
    ∀ document ∈ added, db.nextDocumentId ≤ document.id
  chunks : ∃ added, db'.chunks = db.chunks ++ added ∧
    ∀ chunk ∈ added, db.nextDocumentId ≤ chunk.documentId
  personas : ∀ persona ∈ db.personas, ∃ later ∈ db'.personas, later.id = persona.id ∧
    later.invitationCodeId = persona.invitationCodeId

theorem Extends.same (hdocuments : db'.documents = db.documents) (hchunks : db'.chunks = db.chunks)
    (hnext : db'.nextDocumentId = db.nextDocumentId)
    (hpersonas : ∀ persona ∈ db.personas, ∃ later ∈ db'.personas, later.id = persona.id ∧
      later.invitationCodeId = persona.invitationCodeId) : Extends db db' :=
  ⟨hnext.ge, ⟨[], by simp [hdocuments]⟩, ⟨[], by simp [hchunks]⟩, hpersonas⟩

theorem Extends.refl (db : RagDatabase ν) : Extends db db :=
  .same rfl rfl rfl fun persona hpersona => ⟨persona, hpersona, rfl, rfl⟩

theorem Extends.trans {db'' : RagDatabase ν} (h : Extends db db') (h' : Extends db' db'') :
    Extends db db'' := by
  obtain ⟨documents, hdocuments, hnewDocuments⟩ := h.documents
  obtain ⟨documents', hdocuments', hnewDocuments'⟩ := h'.documents
  obtain ⟨chunks, hchunks, hnewChunks⟩ := h.chunks
  obtain ⟨chunks', hchunks', hnewChunks'⟩ := h'.chunks
  refine ⟨h.next.trans h'.next, ⟨documents ++ documents', ?_, ?_⟩, ⟨chunks ++ chunks', ?_, ?_⟩, ?_⟩
  · rw [hdocuments', hdocuments, List.append_assoc]
  · exact List.forall_mem_append.mpr
      ⟨hnewDocuments, fun document hmem => h.next.trans (hnewDocuments' document hmem)⟩
  · rw [hchunks', hchunks, List.append_assoc]
  · exact List.forall_mem_append.mpr
      ⟨hnewChunks, fun chunk hmem => h.next.trans (hnewChunks' chunk hmem)⟩
  · intro persona hpersona
    obtain ⟨later, hlater, hid, howner⟩ := h.personas persona hpersona
    obtain ⟨last, hlast, hid', howner'⟩ := h'.personas later hlater
    exact ⟨last, hlast, hid'.trans hid, howner'.trans howner⟩

theorem Extends.link (personaId : Nat) (document : RagDocument) (displayName : Option Text)
    (db : RagDatabase ν) :
    Extends db (linkPersonaDocument personaId document displayName db) := by
  obtain ⟨hdocuments, hpersonas, hchunks, hnext⟩ :=
    linkPersonaDocument_spec personaId document displayName db
  exact .same hdocuments hchunks hnext fun persona hpersona =>
    ⟨persona, hpersonas ▸ hpersona, rfl, rfl⟩

theorem Extends.store {prepared : PreparedRagDocument ν} {labels : List Text}
    {document : RagDocument} {stored : RagDatabase ν}
    (h : createDocumentFromPrepared lower prepared labels db = .ok (document, stored)) :
    Extends db stored := by
  obtain ⟨hid, -, chunks, -, -, rfl⟩ := createDocument_stored h
  refine ⟨Nat.le_succ _, ⟨[document], rfl, ?_⟩, ⟨_, rfl, fun chunk hchunk => ?_⟩,
    fun persona hpersona => ⟨persona, hpersona, rfl, rfl⟩⟩
  · exact List.forall_mem_singleton.mpr hid.ge
  · rw [(mem_storedChunks hchunk).1, hid]

theorem Extends.run {op : RagOperation ν} (h : op.run lower db = .ok db') : Extends db db' := by
  cases op with
  | createPersona owner personaId =>
    obtain rfl := Except.ok.inj h
    rw [createRagPersona]
    split
    · exact .refl db
    · exact .same rfl rfl rfl fun persona hpersona =>
        ⟨persona, List.mem_append_left _ hpersona, rfl, rfl⟩
  | deletePersona owner personaId =>
    obtain ⟨target, -, hpure⟩ := Fallible.bind_eq_ok.mp h
    obtain rfl := Fallible.pure_eq_ok.mp hpure
    refine .same rfl rfl rfl fun persona hpersona => ⟨_, List.mem_map.mpr ⟨persona, hpersona, rfl⟩, ?_⟩
    split
    · exact ⟨rfl, rfl⟩
    · exact ⟨rfl, rfl⟩
  | ingest labels prepared =>
    rw [RagOperation.run, ingestRagDocument] at h
    split at h
    · cases h
    · rename_i document created hcreate
      obtain rfl := Except.ok.inj h
      exact .store hcreate
  | upload owner personaId prepared =>
    rw [RagOperation.run, uploadRagPersonaDocument] at h
    split at h
    · cases h
    · split at h
      · obtain rfl := Except.ok.inj h
        exact .link _ _ _ db
      · split at h
        · cases h
        · rename_i document created hcreate
          obtain rfl := Except.ok.inj h
          exact (Extends.store hcreate).trans (.link _ _ _ created)
  | unlink owner personaId documentId =>
    obtain ⟨persona, -, hunlink⟩ := Fallible.bind_eq_ok.mp h
    split at hunlink
    · rename_i found hfound
      obtain rfl := Except.ok.inj hunlink
      rw [unlinkPersonaDocument] at hfound
      split at hfound
      · obtain rfl := Option.some.inj hfound
        exact .same rfl rfl rfl fun persona hpersona => ⟨persona, hpersona, rfl, rfl⟩
      · cases hfound
    · cases hunlink

def Linked (db : RagDatabase ν) (personaId documentId : Nat) : Prop :=
  ∃ link ∈ db.personaDocuments, link.personaId = personaId ∧ link.documentId = documentId

theorem Linked.link {personaId documentId : Nat} (h : Linked db personaId documentId)
    (otherId : Nat) (document : RagDocument) (displayName : Option Text) :
    Linked (linkPersonaDocument otherId document displayName db) personaId documentId := by
  obtain ⟨link, hlink, hids⟩ := h
  refine ⟨link, ?_, hids⟩
  rw [linkPersonaDocument]
  split
  · exact hlink
  · exact List.mem_append_left _ hlink

theorem linked_now (personaId : Nat) (document : RagDocument) (displayName : Option Text)
    (db : RagDatabase ν) :
    Linked (linkPersonaDocument personaId document displayName db) personaId document.id := by
  rw [linkPersonaDocument]
  split
  · rename_i hany
    obtain ⟨link, hlink, hids⟩ := List.any_eq_true.mp hany
    exact ⟨link, hlink, by simpa using hids⟩
  · exact ⟨_, List.mem_append_right _ (List.mem_singleton.mpr rfl), rfl, rfl⟩

theorem createDocument_links {prepared : PreparedRagDocument ν} {labels : List Text}
    {document : RagDocument} {stored : RagDatabase ν}
    (h : createDocumentFromPrepared lower prepared labels db = .ok (document, stored)) :
    stored.personaDocuments = db.personaDocuments := by
  obtain ⟨-, -, chunks, -, -, rfl⟩ := createDocument_stored h
  rfl

/-- A document stays linked until the persona's tenant takes it off. -/
theorem Linked.run {op : RagOperation ν} {persona : RagPersona} {documentId : Nat}
    (hlinked : Linked db persona.id documentId) (hids : (db.personas.map RagPersona.id).Nodup)
    (hpersona : persona ∈ db.personas)
    (hop : op ≠ .unlink persona.invitationCodeId persona.id documentId)
    (h : op.run lower db = .ok db') : Linked db' persona.id documentId := by
  cases op with
  | createPersona owner personaId =>
    obtain rfl := Except.ok.inj h
    rw [createRagPersona]
    split
    · exact hlinked
    · exact hlinked
  | deletePersona owner personaId =>
    obtain ⟨target, -, hpure⟩ := Fallible.bind_eq_ok.mp h
    obtain rfl := Fallible.pure_eq_ok.mp hpure
    exact hlinked
  | ingest labels prepared =>
    rw [RagOperation.run, ingestRagDocument] at h
    split at h
    · cases h
    · rename_i document created hcreate
      obtain rfl := Except.ok.inj h
      rwa [Linked, createDocument_links hcreate]
  | upload owner personaId prepared =>
    rw [RagOperation.run, uploadRagPersonaDocument] at h
    split at h
    · cases h
    · split at h
      · obtain rfl := Except.ok.inj h
        exact hlinked.link _ _ _
      · split at h
        · cases h
        · rename_i document created hcreate
          obtain rfl := Except.ok.inj h
          have hcreated : Linked created persona.id documentId := by
            rwa [Linked, createDocument_links hcreate]
          exact hcreated.link _ _ _
  | unlink owner personaId otherId =>
    obtain ⟨target, htarget, hunlink⟩ := Fallible.bind_eq_ok.mp h
    obtain ⟨htargetMem, rfl, rfl, -⟩ := getActivePersona_mem htarget
    split at hunlink
    · rename_i found hfound
      obtain rfl := Except.ok.inj hunlink
      rw [unlinkPersonaDocument] at hfound
      split at hfound
      · obtain rfl := Option.some.inj hfound
        obtain ⟨link, hlink, hlinkPersona, hlinkDocument⟩ := hlinked
        refine ⟨link, List.mem_filter.mpr ⟨hlink, ?_⟩, hlinkPersona, hlinkDocument⟩
        simp only [decide_eq_true_eq]
        rintro ⟨hpersonaId, hdocumentId⟩
        have hsame := List.inj_on_of_nodup_map hids htargetMem hpersona
          (hpersonaId.symm.trans hlinkPersona)
        rw [hsame, hdocumentId.symm.trans hlinkDocument] at hop
        exact hop rfl
      · cases hfound
    · cases hunlink

theorem Extends.step (lower : Text → Text) (db : RagDatabase ν) (op : RagOperation ν) :
    Extends db (applyOperation lower db op) := by
  rw [applyOperation]
  cases hrun : op.run lower db with
  | error exception => exact .refl db
  | ok stored => exact .run hrun

/-- The rows of a document stay as they were stored. -/
theorem Extends.rows (h : Extends db db')
    (hchunks : ∀ chunk ∈ db.chunks, chunk.documentId < db.nextDocumentId) {documentId : Nat}
    (hknown : documentId < db.nextDocumentId) :
    (chunkRows db').filter (fun row => row.1.id = documentId) =
      (chunkRows db).filter (fun row => row.1.id = documentId) := by
  obtain ⟨documents, hdocuments, hnewDocuments⟩ := h.documents
  obtain ⟨chunks, hall, hnewChunks⟩ := h.chunks
  rw [chunkRows, hall, List.filterMap_append, List.filter_append]
  have hold : (db.chunks.filterMap fun chunk =>
      (db'.documents.find? fun document => document.id = chunk.documentId).map fun document =>
        (document, chunk)) = chunkRows db := by
    refine List.filterMap_congr fun chunk hchunk => ?_
    have hnone : documents.find? (fun document => document.id = chunk.documentId) = none := by
      refine List.find?_eq_none.mpr fun document hdocument => ?_
      have hnew := hnewDocuments document hdocument
      have hbelow := hchunks chunk hchunk
      simp only [decide_eq_true_eq]
      omega
    rw [hdocuments, List.find?_append, hnone, Option.or_none]
  have hnew : (chunks.filterMap fun chunk =>
      (db'.documents.find? fun document => document.id = chunk.documentId).map fun document =>
        (document, chunk)).filter (fun row => row.1.id = documentId) = [] := by
    refine List.filter_eq_nil_iff.mpr fun row hrow => ?_
    obtain ⟨chunk, hchunk, hrow⟩ := List.mem_filterMap.mp hrow
    obtain ⟨document, hdocument, rfl⟩ := Option.map_eq_some_iff.mp hrow
    have hid := List.find?_some hdocument
    have hlow := hnewChunks chunk hchunk
    simp only [decide_eq_true_eq] at hid ⊢
    omega
  rw [hold, hnew, List.append_nil]

/-- A linked document stands in the persona's rows with each of its chunks once. -/
theorem personaRows_linked {personaId documentId : Nat} (hlinked : Linked db personaId documentId)
    (hids : (db.personaDocuments.map fun link => (link.personaId, link.documentId)).Nodup) :
    (personaRows personaId db).filter (fun row => row.1.id = documentId) =
      (chunkRows db).filter (fun row => row.1.id = documentId) := by
  obtain ⟨link, hlink, rfl, rfl⟩ := hlinked
  have honly : db.personaDocuments.filter (fun other =>
      other.documentId = link.documentId ∧ other.personaId = link.personaId) = [link] := by
    have hnodup := (hids.of_map _).filter fun other =>
      decide (other.documentId = link.documentId ∧ other.personaId = link.personaId)
    have hin : link ∈ db.personaDocuments.filter (fun other =>
        other.documentId = link.documentId ∧ other.personaId = link.personaId) :=
      List.mem_filter.mpr ⟨hlink, by simp⟩
    have hsame : ∀ other ∈ db.personaDocuments.filter (fun other =>
        other.documentId = link.documentId ∧ other.personaId = link.personaId), other = link := by
      intro other hother
      obtain ⟨hmem, hprops⟩ := List.mem_filter.mp hother
      simp only [decide_eq_true_eq] at hprops
      exact List.inj_on_of_nodup_map hids hmem hlink (Prod.ext hprops.2 hprops.1)
    have hreplicate := List.eq_replicate_of_mem hsame
    rw [hreplicate, List.nodup_replicate] at hnodup
    have hpos := List.length_pos_of_mem hin
    rw [hreplicate, show (db.personaDocuments.filter _).length = 1 from by omega]
    rfl
  rw [personaRows, List.filter_flatMap]
  induction chunkRows db with
  | nil => rfl
  | cons row rows ih =>
    rw [List.flatMap_cons, ih, List.filter_cons]
    by_cases hrow : row.1.id = link.documentId
    · rw [hrow, honly]
      simp [hrow]
    · have hnone : ((db.personaDocuments.filter fun other =>
          other.documentId = row.1.id ∧ other.personaId = link.personaId).map fun _ => row).filter
            (fun row => row.1.id = link.documentId) = [] := by
        refine List.filter_eq_nil_iff.mpr fun found hfound => ?_
        obtain ⟨other, -, rfl⟩ := List.mem_map.mp hfound
        simpa using hrow
      rw [hnone, if_neg (by simpa using hrow)]
      rfl

theorem Linked.step {op : RagOperation ν} {owner personaId documentId : Nat}
    (hlinked : Linked db personaId documentId) (hids : (db.personas.map RagPersona.id).Nodup)
    (hpersona : ∃ persona ∈ db.personas, persona.id = personaId ∧ persona.invitationCodeId = owner)
    (hop : op ≠ .unlink owner personaId documentId) :
    Linked (applyOperation lower db op) personaId documentId := by
  obtain ⟨persona, hmem, rfl, rfl⟩ := hpersona
  rw [applyOperation]
  split
  · rename_i next hnext
    exact hlinked.run hids hmem hop hnext
  · exact hlinked

theorem upload_links {owner personaId : Nat} {prepared : PreparedRagDocument ν}
    (hrun : uploadRagPersonaDocument lower owner personaId prepared db = .ok db') :
    ∃ persona ∈ db'.personas, persona.id = personaId ∧ persona.invitationCodeId = owner ∧
      ∃ document ∈ db'.documents, document.contentSha256 = some prepared.contentSha256 ∧
        Linked db' personaId document.id := by
  rw [uploadRagPersonaDocument] at hrun
  split at hrun
  · cases hrun
  · rename_i persona hfind
    have hprops := List.find?_some hfind
    simp only [decide_eq_true_eq] at hprops
    have hpersona := List.mem_of_find?_eq_some hfind
    split at hrun
    · rename_i document hreused
      obtain rfl := Except.ok.inj hrun
      have hhash := List.find?_some hreused
      simp only [decide_eq_true_eq] at hhash
      obtain ⟨hdocuments, hpersonas, -, -⟩ :=
        linkPersonaDocument_spec persona.id document prepared.displayName db
      refine ⟨persona, hpersonas ▸ hpersona, hprops.1, hprops.2.1, document, ?_, hhash, ?_⟩
      · rw [hdocuments]
        exact List.mem_of_find?_eq_some hreused
      · rw [← hprops.1]
        exact linked_now _ _ _ _
    · split at hrun
      · cases hrun
      · rename_i document created hcreate
        obtain rfl := Except.ok.inj hrun
        obtain ⟨-, hhash, chunks, -, -, hcreated⟩ := createDocument_stored hcreate
        obtain ⟨hdocuments, hpersonas, -, -⟩ :=
          linkPersonaDocument_spec persona.id document prepared.displayName created
        refine ⟨persona, ?_, hprops.1, hprops.2.1, document, ?_, hhash, ?_⟩
        · rw [hpersonas, hcreated]
          exact hpersona
        · rw [hdocuments, hcreated]
          exact List.mem_append_right _ (List.mem_singleton.mpr rfl)
        · rw [← hprops.1]
          exact linked_now _ _ _ _

/-- After a successful upload the persona's rows have the document's chunks, each once, whatever
requests of whichever tenants follow, as long as its own tenant does not take the document off. -/
theorem upload_stays_searchable (lower : Text → Text) {owner personaId : Nat}
    {prepared : PreparedRagDocument ν} {front : List (RagOperation ν)} {stored : RagDatabase ν}
    (hrun : uploadRagPersonaDocument lower owner personaId prepared (afterOperations lower front) =
      .ok stored) :
    ∃ document ∈ stored.documents, document.contentSha256 = some prepared.contentSha256 ∧
      (chunkRows stored).filter (fun row => row.1.id = document.id) ≠ [] ∧
      ∀ back, .unlink owner personaId document.id ∉ back →
        (personaRows personaId (afterOperations lower
          (front ++ .upload owner personaId prepared :: back))).filter
            (fun row => row.1.id = document.id) =
          (chunkRows stored).filter (fun row => row.1.id = document.id) := by
  have haccount := accounted_afterOperations lower (front ++ [.upload owner personaId prepared])
  have hafter : afterOperations lower (front ++ [.upload owner personaId prepared]) = stored := by
    rw [afterOperations, List.foldl_append]
    show applyOperation lower (afterOperations lower front) _ = stored
    rw [applyOperation, show RagOperation.run lower _ (.upload owner personaId prepared) = _ from hrun]
  rw [hafter] at haccount
  obtain ⟨persona, hpersona, rfl, rfl, document, hdocument, hhash, hlinked⟩ :=
    upload_links hrun
  refine ⟨document, hdocument, hhash, ?_, fun back hback => ?_⟩
  · obtain ⟨-, -, -, -, -, ⟨chunk, hchunk, hown⟩, -⟩ := haccount.chunksOf document hdocument
    have hrow : (document, chunk) ∈ chunkRows stored := by
      refine List.mem_filterMap.mpr ⟨chunk, hchunk, ?_⟩
      cases hfind : stored.documents.find? (fun document => document.id = chunk.documentId) with
      | none =>
        have hall := List.find?_eq_none.mp hfind document hdocument
        simp [hown] at hall
      | some found =>
        have hid := List.find?_some hfind
        simp only [decide_eq_true_eq] at hid
        have hmem := List.mem_of_find?_eq_some hfind
        rw [haccount.documentsById hmem hdocument (hid.trans hown), Option.map_some]
    exact List.ne_nil_of_mem (List.mem_filter.mpr ⟨hrow, by simp⟩)
  · have hkept : Extends stored (afterOperations lower
          (front ++ .upload persona.invitationCodeId persona.id prepared :: back)) ∧
        Linked (afterOperations lower
          (front ++ .upload persona.invitationCodeId persona.id prepared :: back)) persona.id
            document.id := by
      induction back using List.reverseRecOn with
      | nil => exact ⟨hafter ▸ .refl _, hafter ▸ hlinked⟩
      | append_singleton back op ih =>
        rw [List.mem_append, List.mem_singleton, not_or] at hback
        obtain ⟨hextends, hstill⟩ := ih hback.1
        have hsplit : afterOperations lower
            (front ++ .upload persona.invitationCodeId persona.id prepared :: (back ++ [op])) =
            applyOperation lower (afterOperations lower
              (front ++ .upload persona.invitationCodeId persona.id prepared :: back)) op := by
          rw [afterOperations, ← List.cons_append, ← List.append_assoc, List.foldl_append]
          rfl
        rw [hsplit]
        refine ⟨hextends.trans (.step lower _ op), ?_⟩
        have hids := (accounted_afterOperations lower
          (front ++ .upload persona.invitationCodeId persona.id prepared :: back)).personaIds
        exact hstill.step hids (hextends.personas persona hpersona) fun heq => hback.2 heq.symm
    have hlast := accounted_afterOperations lower
      (front ++ .upload persona.invitationCodeId persona.id prepared :: back)
    rw [personaRows_linked hkept.2 hlast.linkIds]
    exact hkept.1.rows haccount.chunkDocuments (haccount.newDocumentIds document hdocument)

theorem faq_stays_searchable : ∃ stored,
    uploadRagPersonaDocument asciiLower 1 5 faqDocument
      (afterOperations asciiLower [.createPersona 1 5]) = .ok stored ∧
    ∃ document ∈ stored.documents, document.contentSha256 = some faqDocument.contentSha256 ∧
      (chunkRows stored).filter (fun row => row.1.id = document.id) ≠ [] ∧
      ∀ back, .unlink 1 5 document.id ∉ back →
        (personaRows 5 (afterOperations asciiLower
          ([.createPersona 1 5] ++ .upload 1 5 faqDocument :: back))).filter
            (fun row => row.1.id = document.id) =
          (chunkRows stored).filter (fun row => row.1.id = document.id) := by
  have hsome : (uploadRagPersonaDocument asciiLower 1 5 faqDocument
      (afterOperations asciiLower [.createPersona 1 5])).toOption.isSome := by decide +kernel
  obtain ⟨stored, hstored⟩ := Option.isSome_iff_exists.mp hsome
  exact ⟨stored, Fallible.ok_of_toOption hstored,
    upload_stays_searchable asciiLower (Fallible.ok_of_toOption hstored)⟩

end Kept

end DemoService.Rag
