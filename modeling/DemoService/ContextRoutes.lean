import DemoService.JobSearchAssisted

/-! The two ingestion routes of the context API. The JSON route runs on a worker thread, the
upload route is a coroutine on the event loop; both call the same service. -/

namespace DemoService.JobSearch

open PyText Context

structure ContextArtifactCreateRequest where
  artifactTypeId : Text
  text : Text
  title : Option Text
  sourceUri : Option Text
  metadata : Metadata
  deriving DecidableEq, Repr

/-- An uploaded file; its bytes are given by what they decode to and by the pages that the PDF
reader extracts, each unless it fails. -/
structure UploadFile where
  filename : Option Text
  contentType : Option Text
  decoded : Option Text
  pages : Option (List Text)
  deriving DecidableEq, Repr

/-- What `json.loads` makes of the metadata field. -/
inductive ParsedJson
  | invalid
  | object (items : Metadata)
  | other
  deriving DecidableEq, Repr

structure UploadForm where
  artifactTypeId : Text
  title : Option Text
  sourceUri : Option Text
  metadataJson : Option Text
  file : UploadFile
  deriving DecidableEq, Repr

structure Parsers where
  lower : Text → Text
  loads : Text → ParsedJson

/-- `filename.rsplit(".", 1)[-1].lower() if "." in filename else ""`. -/
def fileSuffix (parsers : Parsers) (filename : Text) : Text :=
  if '.' ∈ filename then parsers.lower (filename.rtakeWhile (· ≠ '.')) else []

def supportedTextMimeTypes : List Text :=
  ["text/plain".toList, "text/markdown".toList, "text/csv".toList, "application/json".toList]

def textSuffixes : List Text :=
  ["txt".toList, "md".toList, "markdown".toList, "csv".toList, "json".toList]

def extractUploadText (parsers : Parsers) (file : UploadFile) :
    Except HTTPException (Text × Text) :=
  let contentType := orText file.contentType []
  let suffix := fileSuffix parsers (orText file.filename "uploaded artifact".toList)
  if contentType = "application/pdf".toList ∨ suffix = "pdf".toList then
    match file.pages with
    | none => .error (badRequest "Uploaded PDF could not be read as extractable text.".toList)
    | some pages =>
      let text := strip (join "\n\n".toList ((pages.map strip).filter (· ≠ [])))
      if text = [] then
        .error (badRequest "Uploaded PDF did not contain extractable text.".toList)
      else .ok (text, contentType)
  else if supportedTextMimeTypes.contains contentType ∨ "text/".toList <+: contentType ∨
      textSuffixes.contains suffix then
    match file.decoded with
    | none => .error (badRequest "Uploaded text file must be UTF-8 encoded.".toList)
    | some text => .ok (text, contentType)
  else .error (badRequest "Only text files and extractable PDFs are supported.".toList)

def uploadMetadata (parsers : Parsers) (metadataJson : Option Text) :
    Except HTTPException Metadata :=
  match metadataJson.bind orNone with
  | none => .ok []
  | some json =>
    match parsers.loads json with
    | .invalid => .error (badRequest "metadata_json must be valid JSON.".toList)
    | .other => .error (badRequest "metadata_json must be a JSON object.".toList)
    | .object items => .ok items

def optionalText : Option Text → MetaValue
  | some text => .text text
  | none => .json "null".toList

/-- The request body that says the same as the form: its text, and the title, source and metadata
that the upload route gives to it. -/
def uploadPayload (parsers : Parsers) (form : UploadForm) :
    Except HTTPException ContextArtifactCreateRequest := do
  let (text, contentType) ← extractUploadText parsers form.file
  let metadata ← uploadMetadata parsers form.metadataJson
  pure {
    artifactTypeId := form.artifactTypeId
    text := text
    title := (form.title.bind orNone).or form.file.filename
    sourceUri := (form.sourceUri.bind orNone).or
      ((form.file.filename.bind orNone).map ("upload://".toList ++ ·))
    metadata := ((metadata.setdefault "ingestion_method".toList (.text "upload".toList)).setdefault
      "file_name".toList (optionalText form.file.filename)).setdefault
        "content_type".toList (.text contentType) }

/-- The service of the app, but for its repository and the model behind it. -/
structure ContextApp where
  packs : Dict Text AssistedPack
  defaultChunker : Artifact → Except Raised (List ArtifactChunk)
  executionContext : Option ContextExecutionContext
  renderPrompt : Prompt → Except Raised Text

def ContextApp.registry (app : ContextApp) : DomainRegistry JobSearchCall :=
  app.packs.map fun item => (item.1, item.2.toPack)

/-- The execution context as the service's extensions find it at the call site. -/
def ContextApp.call (app : ContextApp) (model : JobSearchModel) (site : CallSite) :
    Option JobSearchCall :=
  app.executionContext.map fun context => ⟨site, context, app.renderPrompt, model⟩

def ContextApp.service {σ : Type} (app : ContextApp) (repository : ContextRepository σ)
    (model : JobSearchModel) (site : CallSite) : ContextEngineService JobSearchCall σ :=
  ⟨app.registry, repository, app.defaultChunker, app.call model site⟩

inductive RouteResponse
  | created (result : IngestionResult)
  | rejected (exception : HTTPException)
  | serverError (raised : Raised)
  deriving DecidableEq, Repr

def routeResponse : Except Raised IngestionResult → RouteResponse
  | .ok result => .created result
  | .error raised =>
    match raised.cls with
    | .keyError => .rejected ⟨404, "Context domain not found.".toList⟩
    | .valueError => .rejected (badRequest raised.message)
    | _ => .serverError raised

def ingestionRequest (domainId ownerId : Text) (payload : ContextArtifactCreateRequest) :
    IngestionRequest where
  domainId := domainId
  artifactTypeId := payload.artifactTypeId
  ownerType := .invitationCode
  ownerId := ownerId
  text := payload.text
  title := payload.title
  sourceUri := payload.sourceUri
  metadata := payload.metadata

section Routes

variable {σ : Type} (app : ContextApp) (repository : ContextRepository σ) (model : JobSearchModel)
  (stamp : Stamp) (domainId ownerId : Text)

def ingestAt (site : CallSite) (payload : ContextArtifactCreateRequest) (s : σ) :
    RouteResponse × σ :=
  let outcome := ingestArtifact (app.service repository model site) stamp
    (ingestionRequest domainId ownerId payload) s
  (routeResponse outcome.1, outcome.2)

/-- `POST /domains/{domain_id}/artifacts`. -/
def ingestContextArtifact (payload : ContextArtifactCreateRequest) (s : σ) : RouteResponse × σ :=
  ingestAt app repository model stamp domainId ownerId .workerThread payload s

/-- `POST /domains/{domain_id}/artifact-uploads`. -/
def uploadContextArtifact (parsers : Parsers) (form : UploadForm) (s : σ) : RouteResponse × σ :=
  match uploadPayload parsers form with
  | .error exception => (.rejected exception, s)
  | .ok payload => ingestAt app repository model stamp domainId ownerId .eventLoop payload s

end Routes

end DemoService.JobSearch
