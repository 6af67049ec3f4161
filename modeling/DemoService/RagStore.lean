import DemoService.Fallible
import DemoService.ServiceErrors
import Mathlib.Data.List.Sort

/-! The RAG tables, the upload of a document to a persona, and label-constrained search. Vectors
and their distance are those of the database; the search query is read as its SQL text says. -/

namespace DemoService.Rag

open PyText

structure RagDocument where
  id : Nat
  source : Text
  title : Option Text
  contentSha256 : Option Text
  labels : List Text
  deriving DecidableEq, Repr

structure RagDocumentChunk (ν : Type) where
  id : Nat
  documentId : Nat
  chunkIndex : Nat
  chunkText : Text
  embedding : List ν
  deriving DecidableEq, Repr

structure RagPersona where
  id : Nat
  invitationCodeId : Nat
  isActive : Bool
  deriving DecidableEq, Repr

structure RagPersonaDocument where
  personaId : Nat
  documentId : Nat
  displayName : Option Text
  source : Text
  deriving DecidableEq, Repr

structure RagDatabase (ν : Type) where
  documents : List RagDocument
  chunks : List (RagDocumentChunk ν)
  personas : List RagPersona
  personaDocuments : List RagPersonaDocument
  nextDocumentId : Nat
  nextChunkId : Nat
  deriving DecidableEq, Repr

def embeddingDimensions : Nat := 384

def runtimeError (message : Text) : Raised := ⟨.runtimeError, message⟩

def wrongDimensions (received : Nat) : Raised :=
  valueError ("Embedding must have 384 dimensions; received ".toList ++
    (Nat.repr received).toList ++ ['.'])

/-- `normalize_labels`, over the Unicode lower-casing that Python applies. -/
def normalizeLabels (lower : Text → Text) (labels : List Text) : List Text :=
  ((labels.map fun label => lower (strip label)).filter (· ≠ [])).reverse.dedup.reverse

/-- The answer of the routes to an exception of the service, unless they let it pass. -/
def ragException (raised : Raised) : Option HTTPException :=
  match raised.cls with
  | .valueError => some (badRequest raised.message)
  | .runtimeError => some ⟨503, raised.message⟩
  | _ => none

section Upload

variable {ν : Type}

structure RagVectorChunk (ν : Type) where
  chunkText : Text
  embedding : List ν
  chunkIndex : Nat
  deriving DecidableEq, Repr

/-- An extracted document, with what chunking and embedding it gives. -/
structure PreparedRagDocument (ν : Type) where
  source : Text
  title : Option Text
  contentSha256 : Text
  chunks : Except Raised (List (RagVectorChunk ν))

def validateVectorChunk (chunk : RagVectorChunk ν) : Except Raised (RagVectorChunk ν) :=
  if strip chunk.chunkText = [] then
    .error (valueError "RAG chunk text cannot be empty.".toList)
  else if chunk.embedding.length ≠ embeddingDimensions then
    .error (wrongDimensions chunk.embedding.length)
  else .ok chunk

def insertChunk (documentId : Nat) (db : RagDatabase ν) (chunk : RagVectorChunk ν) :
    RagDatabase ν :=
  { db with
    chunks := db.chunks ++
      [⟨db.nextChunkId, documentId, chunk.chunkIndex, chunk.chunkText, chunk.embedding⟩]
    nextChunkId := db.nextChunkId + 1 }

def createDocumentFromPrepared (lower : Text → Text) (prepared : PreparedRagDocument ν)
    (labels : List Text) (db : RagDatabase ν) : Except Raised (RagDocument × RagDatabase ν) := do
  let chunks ← prepared.chunks
  if chunks = [] then
    .error (valueError "No extractable text was available for RAG ingestion.".toList)
  else do
    let chunks ← Fallible.mapAll validateVectorChunk chunks
    let normalizedLabels := normalizeLabels lower labels
    if normalizedLabels = [] then
      .error (valueError "At least one RAG label is required.".toList)
    else
      let document : RagDocument := ⟨db.nextDocumentId, prepared.source, prepared.title,
        some prepared.contentSha256, normalizedLabels⟩
      pure (document, chunks.foldl (insertChunk document.id)
        { db with
          documents := db.documents ++ [document]
          nextDocumentId := db.nextDocumentId + 1 })

def linkPersonaDocument (personaId : Nat) (document : RagDocument) (displayName : Option Text)
    (db : RagDatabase ν) : RagDatabase ν :=
  if db.personaDocuments.any fun link =>
      link.personaId = personaId ∧ link.documentId = document.id then db
  else { db with
    personaDocuments := db.personaDocuments ++
      [⟨personaId, document.id, displayName, document.source⟩] }

def personaLabel (personaId : Nat) : Text := "persona-".toList ++ (Nat.repr personaId).toList

/-- `title or source`. -/
def PreparedRagDocument.displayName (prepared : PreparedRagDocument ν) : Option Text :=
  some (orText prepared.title prepared.source)

/-- `POST /personas/{persona_id}/documents` with an extracted document; nothing is kept when it
raises. -/
def uploadRagPersonaDocument (lower : Text → Text) (invitationCodeId personaId : Nat)
    (prepared : PreparedRagDocument ν) (db : RagDatabase ν) :
    Except HTTPException (RagDatabase ν) :=
  match db.personas.find? fun persona => persona.id = personaId ∧
      persona.invitationCodeId = invitationCodeId ∧ persona.isActive = true with
  | none => .error ⟨404, "Persona not found.".toList⟩
  | some persona =>
    match db.documents.find? fun document =>
        document.contentSha256 = some prepared.contentSha256 with
    | some document => .ok (linkPersonaDocument persona.id document prepared.displayName db)
    | none =>
      match createDocumentFromPrepared lower prepared [personaLabel persona.id] db with
      | .error raised => .error ((ragException raised).getD ⟨500, raised.message⟩)
      | .ok (document, stored) =>
        .ok (linkPersonaDocument persona.id document prepared.displayName stored)

end Upload

section Search

variable {ν δ : Type} [LinearOrder δ]

structure RagSearchRequest where
  query : Text
  labels : List Text
  limit : Nat
  query_length : 1 ≤ query.length ∧ query.length ≤ 4000
  labels_ne_nil : labels ≠ []
  limit_range : 1 ≤ limit ∧ limit ≤ 20

structure RagSearchResult (δ : Type) where
  chunkId : Nat
  documentId : Nat
  source : Text
  title : Option Text
  chunkIndex : Nat
  chunkText : Text
  distance : δ
  deriving DecidableEq, Repr

/-- The join of the chunks with their documents. -/
def chunkRows (db : RagDatabase ν) : List (RagDocument × RagDocumentChunk ν) :=
  db.chunks.filterMap fun chunk =>
    (db.documents.find? fun document => document.id = chunk.documentId).map fun document =>
      (document, chunk)

/-- The checks and the embedding before the similarity query. -/
def prepareSearch (lower : Text → Text) (embed : Text → Except Raised (List (List ν)))
    (labels : List Text) (query : Text) (limit : Nat) : Except Raised (List Text × List ν) :=
  let normalizedLabels := normalizeLabels lower labels
  if normalizedLabels = [] then
    .error (valueError "At least one RAG label is required.".toList)
  else if strip query = [] then
    .error (valueError "RAG search query cannot be empty.".toList)
  else if limit < 1 then
    .error (valueError "Search limit must be at least 1.".toList)
  else
    match embed query with
    | .error raised => .error raised
    | .ok [] => .error ⟨.other, "list index out of range".toList⟩
    | .ok (embedding :: _) =>
      if embedding.length ≠ embeddingDimensions then
        .error (wrongDimensions embedding.length)
      else .ok (normalizedLabels, embedding)

def HasLabel (labels : List Text) (document : RagDocument) : Prop :=
  ∃ label ∈ document.labels, label ∈ labels

instance (labels : List Text) (document : RagDocument) : Decidable (HasLabel labels document) :=
  inferInstanceAs (Decidable (∃ label ∈ document.labels, label ∈ labels))

def searchResult (distance : List ν → List ν → δ) (embedding : List ν)
    (row : RagDocument × RagDocumentChunk ν) : RagSearchResult δ where
  chunkId := row.2.id
  documentId := row.1.id
  source := row.1.source
  title := row.1.title
  chunkIndex := row.2.chunkIndex
  chunkText := row.2.chunkText
  distance := distance row.2.embedding embedding

/-- `LocalPostgresRagStrategy.search`; rows of equal distance stay in table order. -/
def search (lower : Text → Text) (embed : Text → Except Raised (List (List ν)))
    (distance : List ν → List ν → δ) (labels : List Text) (query : Text) (limit : Nat)
    (db : RagDatabase ν) : Except Raised (List (RagSearchResult δ)) := do
  let (normalizedLabels, embedding) ← prepareSearch lower embed labels query limit
  let rows := (chunkRows db).filter fun row => HasLabel normalizedLabels row.1
  let results := rows.map (searchResult distance embedding)
  pure ((results.mergeSort fun a b => a.distance ≤ b.distance).take limit)

inductive SearchResponse (δ : Type)
  | results (results : List (RagSearchResult δ))
  | rejected (exception : HTTPException)
  | serverError (raised : Raised)
  deriving DecidableEq, Repr

/-- `POST /search`; the route has the caller's claims and does not read them. -/
def searchRagChunks (lower : Text → Text) (embed : Text → Except Raised (List (List ν)))
    (distance : List ν → List ν → δ) (_invitationCodeId : Nat) (payload : RagSearchRequest)
    (db : RagDatabase ν) : SearchResponse δ :=
  match search lower embed distance payload.labels payload.query payload.limit db with
  | .ok results => .results results
  | .error raised =>
    match ragException raised with
    | some exception => .rejected exception
    | none => .serverError raised

end Search

end DemoService.Rag
