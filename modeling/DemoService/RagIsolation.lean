import DemoService.RagStore

/-! What search lets a tenant see of the documents of other tenants' personas. Two databases that
differ only in these give the same answers exactly to the requests that name no such persona. -/

namespace DemoService.Rag

open PyText

section Content

variable {ν δ : Type} [LinearOrder δ]

/-- A row of the join without its generated ids. -/
structure RowContent (ν : Type) where
  source : Text
  title : Option Text
  labels : List Text
  chunkIndex : Nat
  chunkText : Text
  embedding : List ν
  deriving DecidableEq, Repr

def rowContent (row : RagDocument × RagDocumentChunk ν) : RowContent ν :=
  ⟨row.1.source, row.1.title, row.1.labels, row.2.chunkIndex, row.2.chunkText, row.2.embedding⟩

structure ResultContent (δ : Type) where
  source : Text
  title : Option Text
  chunkIndex : Nat
  chunkText : Text
  distance : δ
  deriving DecidableEq, Repr

def RagSearchResult.content (result : RagSearchResult δ) : ResultContent δ :=
  ⟨result.source, result.title, result.chunkIndex, result.chunkText, result.distance⟩

/-- A response up to generated ids. -/
inductive ResponseContent (δ : Type)
  | results (results : List (ResultContent δ))
  | rejected (exception : HTTPException)
  | serverError (raised : Raised)
  deriving DecidableEq, Repr

def SearchResponse.content : SearchResponse δ → ResponseContent δ
  | .results found => .results (found.map RagSearchResult.content)
  | .rejected exception => .rejected exception
  | .serverError raised => .serverError raised

/-- The document carries just the label of a persona of another tenant. -/
def ForeignDocument (lower : Text → Text) (invitationCodeId : Nat) (personas : List RagPersona)
    (document : RagDocument) : Prop :=
  ∃ persona ∈ personas, persona.invitationCodeId ≠ invitationCodeId ∧
    document.labels = normalizeLabels lower [personaLabel persona.id]

/-- The databases have the same personas, and the same documents and chunks up to generated ids,
once some documents of other tenants' personas are taken out of each. -/
def DifferInForeignDocuments (lower : Text → Text) (invitationCodeId : Nat)
    (db db' : RagDatabase ν) : Prop :=
  db.personas = db'.personas ∧ ∃ keep keep' : RagDocument → Bool,
    (∀ document ∈ db.documents, keep document = false →
      ForeignDocument lower invitationCodeId db.personas document) ∧
    (∀ document ∈ db'.documents, keep' document = false →
      ForeignDocument lower invitationCodeId db'.personas document) ∧
    ((chunkRows db).filter fun row => keep row.1).map rowContent =
      ((chunkRows db').filter fun row => keep' row.1).map rowContent

def contentHasLabel (labels : List Text) (content : RowContent ν) : Bool :=
  content.labels.any labels.contains

def contentResult (distance : List ν → List ν → δ) (embedding : List ν) (content : RowContent ν) :
    ResultContent δ :=
  ⟨content.source, content.title, content.chunkIndex, content.chunkText,
    distance content.embedding embedding⟩

theorem mem_documents_of_mem_chunkRows {db : RagDatabase ν}
    {row : RagDocument × RagDocumentChunk ν} (h : row ∈ chunkRows db) : row.1 ∈ db.documents := by
  obtain ⟨chunk, -, hchunk⟩ := List.mem_filterMap.mp h
  obtain ⟨document, hdocument, rfl⟩ := Option.map_eq_some_iff.mp hchunk
  exact List.mem_of_find?_eq_some hdocument

theorem contentHasLabel_rowContent (labels : List Text) (row : RagDocument × RagDocumentChunk ν) :
    contentHasLabel labels (rowContent row) = decide (HasLabel labels row.1) := by
  rw [Bool.eq_iff_iff, decide_eq_true_iff]
  simp [contentHasLabel, rowContent, HasLabel]

/-- Without ids, a search result depends on the content of the rows only. -/
theorem search_content (distance : List ν → List ν → δ) (embedding : List ν) (labels : List Text)
    (limit : Nat) (rows : List (RagDocument × RagDocumentChunk ν)) :
    ((((rows.filter fun row => HasLabel labels row.1).map (searchResult distance embedding)).mergeSort
        fun a b => a.distance ≤ b.distance).take limit).map RagSearchResult.content =
      ((((rows.map rowContent).filter (contentHasLabel labels)).map
        (contentResult distance embedding)).mergeSort fun a b => a.distance ≤ b.distance).take
          limit := by
  rw [List.map_take, List.map_mergeSort (f := RagSearchResult.content)
    (r := fun a b : RagSearchResult δ => decide (a.distance ≤ b.distance))
    (s := fun a b : ResultContent δ => decide (a.distance ≤ b.distance)) (fun a _ b _ => rfl),
    List.map_map, List.filter_map, List.map_map]
  have hfilter : rows.filter (contentHasLabel labels ∘ rowContent) =
      rows.filter fun row => HasLabel labels row.1 :=
    List.filter_congr fun row _ => contentHasLabel_rowContent labels row
  rw [hfilter]
  rfl

theorem filter_hasLabel_keep {labels : List Text} {keep : RagDocument → Bool}
    {rows : List (RagDocument × RagDocumentChunk ν)}
    (h : ∀ row ∈ rows, keep row.1 = false → ¬ HasLabel labels row.1) :
    (rows.filter fun row => keep row.1).filter (fun row => HasLabel labels row.1) =
      rows.filter fun row => HasLabel labels row.1 := by
  rw [List.filter_filter]
  refine List.filter_congr fun row hrow => ?_
  cases hkeep : keep row.1 with
  | true => simp
  | false => simp [h row hrow hkeep]

end Content

section Isolation

variable {ν δ : Type} [LinearOrder δ] {lower : Text → Text}
  {embed : Text → Except Raised (List (List ν))} {distance : List ν → List ν → δ}
  {invitationCodeId : Nat}

theorem prepareSearch_labels {labels : List Text} {query : Text} {limit : Nat}
    {prepared : List Text × List ν} (h : prepareSearch lower embed labels query limit = .ok prepared) :
    prepared.1 = normalizeLabels lower labels ∧ prepared.1 ≠ [] := by
  rw [prepareSearch] at h
  by_cases hlabels : normalizeLabels lower labels = []
  · simp [hlabels] at h
  · by_cases hquery : strip query = []
    · simp [hlabels, hquery] at h
    · by_cases hlimit : limit < 1
      · simp [hlabels, hquery, hlimit] at h
      · simp only [hlabels, hquery, hlimit, if_false] at h
        rcases hembed : embed query with raised | embeddings
        · simp [hembed] at h
        · cases embeddings with
          | nil => simp [hembed] at h
          | cons embedding rest =>
            by_cases hlength : embedding.length ≠ embeddingDimensions
            · simp [hembed, hlength] at h
            · simp only [hembed, hlength, if_false, Except.ok.injEq] at h
              exact ⟨by rw [← h], by rw [← h]; exact hlabels⟩

/-- The request names the persona by its label. -/
def NamesPersona (lower : Text → Text) (labels : List Text) (persona : RagPersona) : Prop :=
  ∃ label ∈ normalizeLabels lower [personaLabel persona.id], label ∈ normalizeLabels lower labels

theorem not_hasLabel_of_foreign {labels : List Text} {personas : List RagPersona}
    {document : RagDocument}
    (hnames : ∀ persona ∈ personas, persona.invitationCodeId ≠ invitationCodeId →
      ¬ NamesPersona lower labels persona)
    (hforeign : ForeignDocument lower invitationCodeId personas document) :
    ¬ HasLabel (normalizeLabels lower labels) document := by
  obtain ⟨persona, hpersona, hother, hlabels⟩ := hforeign
  rintro ⟨label, hlabel, hrequested⟩
  rw [hlabels] at hlabel
  exact hnames persona hpersona hother ⟨label, hlabel, hrequested⟩

/-- A database with one document of the persona, in one chunk, or with none. -/
def personaDatabase (ν : Type) (personas : List RagPersona) (documents : List RagDocument)
    (chunks : List (RagDocumentChunk ν)) : RagDatabase ν :=
  ⟨documents, chunks, personas, [], 1, 1⟩

/-- For every request, similarity and personas table: the answers over all pairs of databases that
differ only in documents of other tenants' personas are the same, up to generated ids, exactly when
the request fails before the query or names none of these personas. -/
theorem search_isolates_tenants_iff (lower : Text → Text)
    (embed : Text → Except Raised (List (List ν))) (distance : List ν → List ν → δ)
    (invitationCodeId : Nat) (payload : RagSearchRequest) (personas : List RagPersona) :
    (∀ db db' : RagDatabase ν, db.personas = personas →
      DifferInForeignDocuments lower invitationCodeId db db' →
      (searchRagChunks lower embed distance invitationCodeId payload db).content =
        (searchRagChunks lower embed distance invitationCodeId payload db').content) ↔
    (prepareSearch lower embed payload.labels payload.query payload.limit).isOk = false ∨
      ∀ persona ∈ personas, persona.invitationCodeId ≠ invitationCodeId →
        ¬ NamesPersona lower payload.labels persona := by
  simp only [searchRagChunks, search]
  rcases hprepared : prepareSearch lower embed payload.labels payload.query payload.limit with
    raised | ⟨labels, embedding⟩
  · exact ⟨fun _ => .inl rfl, fun _ db db' _ _ => rfl⟩
  · obtain ⟨rfl, hlabels⟩ := prepareSearch_labels hprepared
    constructor
    · refine fun hsame => .inr fun persona hpersona hother hnames => ?_
      let document : RagDocument :=
        ⟨0, [], none, none, normalizeLabels lower [personaLabel persona.id]⟩
      have hforeign : ForeignDocument lower invitationCodeId personas document :=
        ⟨persona, hpersona, hother, rfl⟩
      have hdiffer : DifferInForeignDocuments lower invitationCodeId
          (personaDatabase ν personas [] []) (personaDatabase ν personas [document] [⟨0, 0, 0, [], []⟩]) := by
        refine ⟨rfl, fun _ => true, fun _ => false, by simp [personaDatabase], ?_, rfl⟩
        intro found hfound _
        obtain rfl := List.mem_singleton.mp hfound
        exact hforeign
      have hanswers := hsame _ _ rfl hdiffer
      have hlimit : payload.limit ≠ 0 := Nat.one_le_iff_ne_zero.mp payload.limit_range.1
      have hmatch : HasLabel (normalizeLabels lower payload.labels) document := hnames
      simp only [personaDatabase, chunkRows, bind, Except.bind, pure, Except.pure] at hanswers
      simp [SearchResponse.content, document, hmatch, hlimit] at hanswers
    · intro hquiet db db' hpersonas hdiffer
      have hnames := hquiet.resolve_left (by simp [Except.isOk, Except.toBool])
      obtain ⟨hsame, keep, keep', hkeep, hkeep', hrows⟩ := hdiffer
      have hkept : ∀ row ∈ chunkRows db, keep row.1 = false →
          ¬ HasLabel (normalizeLabels lower payload.labels) row.1 := fun row hrow hout =>
        not_hasLabel_of_foreign (hpersonas ▸ hnames)
          (hkeep row.1 (mem_documents_of_mem_chunkRows hrow) hout)
      have hkept' : ∀ row ∈ chunkRows db', keep' row.1 = false →
          ¬ HasLabel (normalizeLabels lower payload.labels) row.1 := fun row hrow hout =>
        not_hasLabel_of_foreign (hsame ▸ hpersonas ▸ hnames)
          (hkeep' row.1 (mem_documents_of_mem_chunkRows hrow) hout)
      simp only [bind, Except.bind, pure, Except.pure, SearchResponse.content]
      rw [← filter_hasLabel_keep hkept, ← filter_hasLabel_keep hkept', search_content,
        search_content, hrows]

end Isolation

section Uploads

variable {ν : Type} {lower : Text → Text} {invitationCodeId : Nat}

/-- The generated document ids are below the next one. -/
structure RagDatabase.Fresh (db : RagDatabase ν) : Prop where
  documents : ∀ document ∈ db.documents, document.id < db.nextDocumentId
  chunks : ∀ chunk ∈ db.chunks, chunk.documentId < db.nextDocumentId

/-- The second database has new documents of other tenants' personas, with their chunks. -/
structure ExtendedByOthers (lower : Text → Text) (invitationCodeId : Nat) (db db' : RagDatabase ν) :
    Prop where
  personas : db'.personas = db.personas
  next : db.nextDocumentId ≤ db'.nextDocumentId
  documents : ∃ added, db'.documents = db.documents ++ added ∧ ∀ document ∈ added,
    db.nextDocumentId ≤ document.id ∧ ForeignDocument lower invitationCodeId db.personas document
  chunks : ∃ added, db'.chunks = db.chunks ++ added ∧
    ∀ chunk ∈ added, db.nextDocumentId ≤ chunk.documentId

theorem insertChunks_spec (documentId : Nat) (chunks : List (RagVectorChunk ν))
    (db : RagDatabase ν) :
    (chunks.foldl (insertChunk documentId) db).documents = db.documents ∧
      (chunks.foldl (insertChunk documentId) db).personas = db.personas ∧
      (chunks.foldl (insertChunk documentId) db).nextDocumentId = db.nextDocumentId ∧
      ∃ added, (chunks.foldl (insertChunk documentId) db).chunks = db.chunks ++ added ∧
        ∀ chunk ∈ added, chunk.documentId = documentId := by
  induction chunks generalizing db with
  | nil => exact ⟨rfl, rfl, rfl, [], by simp⟩
  | cons chunk chunks ih =>
    obtain ⟨hdocuments, hpersonas, hnext, added, hchunks, hadded⟩ := ih (insertChunk documentId db chunk)
    refine ⟨hdocuments, hpersonas, hnext, _ :: added, hchunks.trans (List.append_assoc _ _ _), ?_⟩
    exact List.forall_mem_cons.mpr ⟨rfl, hadded⟩

theorem linkPersonaDocument_spec (personaId : Nat) (document : RagDocument)
    (displayName : Option Text) (db : RagDatabase ν) :
    (linkPersonaDocument personaId document displayName db).documents = db.documents ∧
      (linkPersonaDocument personaId document displayName db).personas = db.personas ∧
      (linkPersonaDocument personaId document displayName db).chunks = db.chunks ∧
      (linkPersonaDocument personaId document displayName db).nextDocumentId =
        db.nextDocumentId := by
  rw [linkPersonaDocument]
  by_cases h : (db.personaDocuments.any fun link =>
      link.personaId = personaId ∧ link.documentId = document.id) = true
  · simp only [h, if_true, and_self]
  · simp only [h, if_false, and_self, Bool.false_eq_true]

theorem createDocument_spec {prepared : PreparedRagDocument ν} {labels : List Text}
    {db : RagDatabase ν} {created : RagDocument × RagDatabase ν}
    (h : createDocumentFromPrepared lower prepared labels db = .ok created) :
    created.1.id = db.nextDocumentId ∧ created.1.labels = normalizeLabels lower labels ∧
      created.2.documents = db.documents ++ [created.1] ∧ created.2.personas = db.personas ∧
      created.2.nextDocumentId = db.nextDocumentId + 1 ∧
      ∃ added, created.2.chunks = db.chunks ++ added ∧
        ∀ chunk ∈ added, chunk.documentId = db.nextDocumentId := by
  obtain ⟨chunks, -, h⟩ := Fallible.bind_eq_ok.mp h
  by_cases hempty : chunks = []
  · simp [hempty] at h
  · rw [if_neg hempty] at h
    obtain ⟨valid, -, h⟩ := Fallible.bind_eq_ok.mp h
    by_cases hlabels : normalizeLabels lower labels = []
    · simp [hlabels] at h
    · rw [if_neg hlabels] at h
      obtain rfl := Fallible.pure_eq_ok.mp h
      obtain ⟨hdocuments, hpersonas, hnext, hchunks⟩ := insertChunks_spec db.nextDocumentId valid
        { db with
          documents := db.documents ++ [⟨db.nextDocumentId, prepared.source, prepared.title,
            some prepared.contentSha256, normalizeLabels lower labels⟩]
          nextDocumentId := db.nextDocumentId + 1 }
      exact ⟨rfl, rfl, hdocuments, hpersonas, hnext, hchunks⟩

/-- An upload by another tenant, to a persona of that tenant. -/
theorem upload_extends {db db' db'' : RagDatabase ν} {uploader personaId : Nat}
    {prepared : PreparedRagDocument ν} (hother : uploader ≠ invitationCodeId)
    (hextended : ExtendedByOthers lower invitationCodeId db db')
    (h : uploadRagPersonaDocument lower uploader personaId prepared db' = .ok db'') :
    ExtendedByOthers lower invitationCodeId db db'' := by
  rw [uploadRagPersonaDocument] at h
  cases hpersona : db'.personas.find? fun persona => persona.id = personaId ∧
      persona.invitationCodeId = uploader ∧ persona.isActive = true with
  | none =>
    rw [hpersona] at h
    cases h
  | some persona =>
    have howner : persona.invitationCodeId = uploader := by
      have hfound := List.find?_some hpersona
      simp only [decide_eq_true_eq] at hfound
      exact hfound.2.1
    have hmem : persona ∈ db.personas := by
      rw [← hextended.personas]
      exact List.mem_of_find?_eq_some hpersona
    simp only [hpersona] at h
    cases hreused : db'.documents.find? fun document =>
        document.contentSha256 = some prepared.contentSha256 with
    | some document =>
      simp only [hreused, Except.ok.injEq] at h
      obtain ⟨hdocuments, hpersonas, hchunks, hnext⟩ :=
        linkPersonaDocument_spec persona.id document prepared.displayName db'
      rw [h] at hdocuments hpersonas hchunks hnext
      exact ⟨hpersonas.trans hextended.personas, hnext ▸ hextended.next,
        hdocuments ▸ hextended.documents, hchunks ▸ hextended.chunks⟩
    | none =>
      simp only [hreused] at h
      cases hcreated : createDocumentFromPrepared lower prepared [personaLabel persona.id] db' with
      | error raised => simp [hcreated] at h
      | ok created =>
        simp only [hcreated, Except.ok.injEq] at h
        obtain ⟨hid, hlabels, hdocuments, hpersonas, hnext, added, hchunks, hadded⟩ :=
          createDocument_spec hcreated
        obtain ⟨hdocuments', hpersonas', hchunks', hnext'⟩ :=
          linkPersonaDocument_spec persona.id created.1 prepared.displayName created.2
        rw [h] at hdocuments' hpersonas' hchunks' hnext'
        obtain ⟨front, hfront, hforeign⟩ := hextended.documents
        obtain ⟨frontChunks, hfrontChunks, hfresh⟩ := hextended.chunks
        have hnextLe := hextended.next
        refine ⟨hpersonas'.trans (hpersonas.trans hextended.personas), by omega,
          ⟨front ++ [created.1], ?_, ?_⟩, ?_⟩
        · rw [hdocuments', hdocuments, hfront, List.append_assoc]
        · refine List.forall_mem_append.mpr ⟨hforeign, List.forall_mem_singleton.mpr ⟨by omega, ?_⟩⟩
          exact ⟨persona, hmem, howner ▸ hother, hlabels⟩
        · refine ⟨frontChunks ++ added, ?_, List.forall_mem_append.mpr ⟨hfresh, fun chunk hchunk => ?_⟩⟩
          · rw [hchunks', hchunks, hfrontChunks, List.append_assoc]
          · rw [hadded chunk hchunk]
            exact hnextLe

structure PersonaUpload (ν : Type) where
  invitationCodeId : Nat
  personaId : Nat
  prepared : PreparedRagDocument ν

/-- One upload; a failed one leaves the database as it was. -/
def applyUpload (lower : Text → Text) (db : RagDatabase ν) (upload : PersonaUpload ν) :
    RagDatabase ν :=
  match uploadRagPersonaDocument lower upload.invitationCodeId upload.personaId upload.prepared db with
  | .ok stored => stored
  | .error _ => db

theorem uploads_extend {uploads : List (PersonaUpload ν)} {db db' : RagDatabase ν}
    (hothers : ∀ upload ∈ uploads, upload.invitationCodeId ≠ invitationCodeId)
    (h : ExtendedByOthers lower invitationCodeId db db') :
    ExtendedByOthers lower invitationCodeId db (uploads.foldl (applyUpload lower) db') := by
  induction uploads generalizing db' with
  | nil => exact h
  | cons upload uploads ih =>
    rw [List.forall_mem_cons] at hothers
    refine ih hothers.2 ?_
    rw [applyUpload]
    cases hupload : uploadRagPersonaDocument lower upload.invitationCodeId upload.personaId
        upload.prepared db' with
    | error exception => exact h
    | ok stored => exact upload_extends hothers.1 h hupload

theorem chunkRows_extended {db db' : RagDatabase ν} (hfresh : db.Fresh)
    (h : ExtendedByOthers lower invitationCodeId db db') :
    (chunkRows db').filter (fun row => row.1.id < db.nextDocumentId) = chunkRows db := by
  obtain ⟨documents, hdocuments, hforeign⟩ := h.documents
  obtain ⟨chunks, hchunks, hadded⟩ := h.chunks
  rw [chunkRows, hchunks, List.filterMap_append, List.filter_append]
  have hold : (db.chunks.filterMap fun chunk =>
      (db'.documents.find? fun document => document.id = chunk.documentId).map fun document =>
        (document, chunk)) = chunkRows db := by
    refine List.filterMap_congr fun chunk hchunk => ?_
    have hnone : documents.find? (fun document => document.id = chunk.documentId) = none := by
      refine List.find?_eq_none.mpr fun document hdocument => ?_
      have hnew := (hforeign document hdocument).1
      have hknown := hfresh.chunks chunk hchunk
      simp only [decide_eq_true_eq]
      omega
    rw [hdocuments, List.find?_append, hnone, Option.or_none]
  have hkept : (chunkRows db).filter (fun row => row.1.id < db.nextDocumentId) = chunkRows db := by
    refine List.filter_eq_self.mpr fun row hrow => ?_
    simpa using hfresh.documents row.1 (mem_documents_of_mem_chunkRows hrow)
  have hnew : (chunks.filterMap fun chunk =>
      (db'.documents.find? fun document => document.id = chunk.documentId).map fun document =>
        (document, chunk)).filter (fun row => row.1.id < db.nextDocumentId) = [] := by
    refine List.filter_eq_nil_iff.mpr fun row hrow => ?_
    obtain ⟨chunk, hchunk, hrow⟩ := List.mem_filterMap.mp hrow
    obtain ⟨document, hdocument, rfl⟩ := Option.map_eq_some_iff.mp hrow
    have hid := List.find?_some hdocument
    have hnew := hadded chunk hchunk
    simp only [decide_eq_true_eq] at hid ⊢
    omega
  rw [hold, hkept, hnew, List.append_nil]

theorem not_kept_foreign {db db' : RagDatabase ν} (hfresh : db.Fresh)
    (h : ExtendedByOthers lower invitationCodeId db db') {document : RagDocument}
    (hmem : document ∈ db'.documents) (hnew : decide (document.id < db.nextDocumentId) = false) :
    ForeignDocument lower invitationCodeId db'.personas document := by
  obtain ⟨added, hdocuments, hforeign⟩ := h.documents
  rw [hdocuments] at hmem
  rcases List.mem_append.mp hmem with hold | hadded
  · have hknown := hfresh.documents document hold
    simp only [decide_eq_false_iff_not] at hnew
    omega
  · rw [h.personas]
    exact (hforeign document hadded).2

/-- Whatever other tenants upload to their personas, the databases differ in foreign documents. -/
theorem uploads_of_others_differ {db : RagDatabase ν} (hfresh : db.Fresh)
    (uploads uploads' : List (PersonaUpload ν))
    (hothers : ∀ upload ∈ uploads, upload.invitationCodeId ≠ invitationCodeId)
    (hothers' : ∀ upload ∈ uploads', upload.invitationCodeId ≠ invitationCodeId) :
    DifferInForeignDocuments lower invitationCodeId (uploads.foldl (applyUpload lower) db)
      (uploads'.foldl (applyUpload lower) db) := by
  have hself : ExtendedByOthers lower invitationCodeId db db :=
    ⟨rfl, le_rfl, ⟨[], by simp⟩, [], by simp⟩
  have h := uploads_extend hothers hself
  have h' := uploads_extend hothers' hself
  refine ⟨h.personas.trans h'.personas.symm, fun document => document.id < db.nextDocumentId,
    fun document => document.id < db.nextDocumentId, fun _ => not_kept_foreign hfresh h,
    fun _ => not_kept_foreign hfresh h', ?_⟩
  rw [chunkRows_extended hfresh h, chunkRows_extended hfresh h']

end Uploads

section Examples

def foreignPersona : RagPersona := ⟨7, 2, true⟩

def emptyStore : RagDatabase Nat := ⟨[], [], [foreignPersona], [], 1, 1⟩

def secretUpload : PersonaUpload Nat :=
  ⟨2, 7, ⟨"plan.txt".toList, none, "hash".toList,
    .ok [⟨"secret plan".toList, List.replicate 384 0, 0⟩]⟩⟩

def asciiLower (text : Text) : Text := text.map Char.toLower

def personaSearch : RagSearchRequest where
  query := "plan".toList
  labels := ["Persona-7".toList]
  limit := 5
  query_length := by decide
  labels_ne_nil := by decide
  limit_range := by decide

def foundTexts : SearchResponse Nat → List Text
  | .results found => found.map RagSearchResult.chunkText
  | _ => []

/-- Tenant 1 asks for the label of a persona of tenant 2 and gets the text uploaded to it. -/
theorem search_returns_foreign_text :
    DifferInForeignDocuments asciiLower 1 emptyStore (applyUpload asciiLower emptyStore secretUpload) ∧
      foundTexts (searchRagChunks asciiLower (fun _ => .ok [List.replicate 384 0]) (fun _ _ => 0) 1
        personaSearch emptyStore) = [] ∧
      foundTexts (searchRagChunks asciiLower (fun _ => .ok [List.replicate 384 0]) (fun _ _ => 0) 1
        personaSearch (applyUpload asciiLower emptyStore secretUpload)) = ["secret plan".toList] := by
  refine ⟨?_, ?_, ?_⟩
  · have hfresh : emptyStore.Fresh := ⟨by simp [emptyStore], by simp [emptyStore]⟩
    have hother : secretUpload.invitationCodeId ≠ 1 := by decide
    have hdiffer : DifferInForeignDocuments asciiLower 1
        (List.foldl (applyUpload asciiLower) emptyStore [])
        (List.foldl (applyUpload asciiLower) emptyStore [secretUpload]) :=
      uploads_of_others_differ hfresh [] [secretUpload] (by simp)
        (List.forall_mem_singleton.mpr hother)
    rwa [List.foldl_cons, List.foldl_nil, List.foldl_nil] at hdiffer
  · decide +kernel
  · decide +kernel

end Examples

end DemoService.Rag
