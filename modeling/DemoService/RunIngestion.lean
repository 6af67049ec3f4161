import DemoService.PyText
import DemoService.TextToolsCalls

/-! Input ingestion of a run: budgets for pasted text and files, and the text handed to
the workflow. -/

namespace DemoService.Runs

open PyText TextTools Fallible

structure Settings where
  defaultWorkflowKey : Text
  maxFilesPerRun : Int
  maxFileSizeBytes : Int
  maxExtractedTextBytes : Int
  maxTotalWorkflowTextBytes : Int
  maxPastedTextBytes : Int
  textToolsEnabled : Bool
  ragChunkSize : Int
  ragChunkOverlap : Int
  deriving DecidableEq, Repr

structure RunInputMetadata where
  sourceKind : Text
  acceptedFileCount : Nat
  rejectedFileCount : Nat
  warningCount : Nat
  deriving DecidableEq, Repr

structure UploadedRunFile where
  fileName : Text
  contentType : Text
  fileSizeBytes : Nat
  extractedText : Text
  extractedTextBytes : Nat
  trimmed : Bool
  deriving DecidableEq, Repr

structure AcceptedRunFileSummary where
  fileName : Text
  contentType : Text
  fileSizeBytes : Nat
  extractedTextBytes : Nat
  trimmed : Bool
  deriving DecidableEq, Repr

structure RejectedRunFile where
  fileName : Text
  contentType : Text
  reason : String
  deriving DecidableEq, Repr

structure RunIngestionCounts where
  acceptedFiles : Nat
  rejectedFiles : Nat
  trimmedFiles : Nat
  acceptedPastedText : Nat
  trimmedPastedText : Nat
  deriving DecidableEq, Repr

structure RunIngestionLimits where
  maxFilesPerRun : Int
  maxFileSizeBytes : Int
  maxExtractedTextBytes : Int
  maxTotalWorkflowTextBytes : Int
  maxPastedTextBytes : Int
  strategy : String
  deriving DecidableEq, Repr

structure RunIngestionSummary where
  warnings : List Text
  counts : RunIngestionCounts
  acceptedFiles : List AcceptedRunFileSummary
  rejectedFiles : List RejectedRunFile
  limits : RunIngestionLimits
  workflowTextBytes : Nat
  deriving DecidableEq, Repr

structure IngestionResult where
  rawPastedText : Option Text
  normalizedInputText : Option Text
  inputMetadata : RunInputMetadata
  uploadedFiles : List UploadedRunFile
  ingestionSummary : RunIngestionSummary
  deriving DecidableEq, Repr

structure Upload where
  filename : Option Text
  contentType : Option Text
  bytes : List UInt8
  deriving DecidableEq, Repr

/-- What the PDF reader makes of a file: it may not open it, or raise while reading a page. -/
inductive PdfOutcome
  | notOpened
  | raised
  | pages (texts : List Text)
  deriving DecidableEq, Repr

abbrev PdfReader := List UInt8 → PdfOutcome

inductive IngestError
  | textTools (cause : ClientError)
  | pdfReader
  deriving DecidableEq, Repr

def normalizeText (value : Option Text) : Option Text := value.bind fun text => orNone (strip text)

/-- `encoded[:n].decode("utf-8", errors="ignore")`: a character cut by the end is dropped. -/
def decodePrefix : Nat → Text → Text
  | _, [] => []
  | n, c :: cs => if c.utf8Size ≤ n then c :: decodePrefix (n - c.utf8Size) cs else []

def trimTextToBytes (value : Text) (maxBytes : Int) : Option Text × Bool :=
  if maxBytes ≤ 0 then (none, value ≠ [])
  else if (utf8Length value : Int) ≤ maxBytes then (some value, false)
  else (orNone (rstrip (decodePrefix maxBytes.toNat value)), true)

inductive Extractor
  | textFile
  | pdf
  deriving DecidableEq, Repr

/-- `Path(file_name).suffix`. -/
def suffix (fileName : Text) : Text :=
  let parts := (RustText.splitChar '/' fileName).filter fun part => part ≠ [] && part ≠ ['.']
  let backwards := (parts.getLast?.getD []).reverse
  let extension := backwards.takeWhile (· ≠ '.')
  let stem := (backwards.dropWhile (· ≠ '.')).tail
  if stem.any (· ≠ '.') then '.' :: extension.reverse else []

def resolveExtractor (fileName contentType : Text) : Option Extractor :=
  let suffix := (suffix fileName).map Char.toLower
  if contentType = "text/plain".toList ∨ suffix = ".txt".toList then some .textFile
  else if contentType = "application/pdf".toList ∨ suffix = ".pdf".toList then some .pdf
  else none

def decodeUtf8 (bytes : List UInt8) : Option Text :=
  (String.fromUTF8? ⟨bytes.toArray⟩).map String.toList

def extractTextFile (bytes : List UInt8) : Option Text × Option String :=
  match decodeUtf8 bytes with
  | some text => (some text, none)
  | none => (none,
      some "That file is not plain UTF-8 text, and this milestone is staying boring on purpose.")

def extractPdfText (readPdf : PdfReader) (bytes : List UInt8) :
    Except IngestError (Option Text × Option String) :=
  match readPdf bytes with
  | .notOpened => .ok (none,
      some "That PDF would not open cleanly, so I rejected it instead of making up OCR powers.")
  | .raised => .error .pdfReader
  | .pages texts =>
    let combined := join ['\n'] ((texts.map strip).filter (· ≠ []))
    if combined = [] then .ok (none, some ("That PDF looks image-only or otherwise " ++
      "non-extractable. This demo only reads selectable PDF text."))
    else .ok (some combined, none)

def runExtractor (readPdf : PdfReader) (bytes : List UInt8) :
    Extractor → Except IngestError (Option Text × Option String)
  | .textFile => .ok (extractTextFile bytes)
  | .pdf => extractPdfText readPdf bytes

def unsupportedReason (contentType : Text) : String :=
  if "image/".toList.isPrefixOf contentType then
    "Images are out for phase 1. No OCR cape, no secret vision model."
  else if "audio/".toList.isPrefixOf contentType ∨ "video/".toList.isPrefixOf contentType then
    "Audio and video are not supported here. This demo still prefers documents that sit still."
  else "That file type is outside the phase-1 demo menu. Plain text and text-based PDFs only."

/-- What the loop over the uploads has collected so far. -/
structure Intake where
  warnings : List Text
  acceptedFiles : List UploadedRunFile
  rejectedFiles : List RejectedRunFile
  totalExtractedBytes : Nat
  deriving DecidableEq, Repr

def Intake.reject (intake : Intake) (fileName contentType : Text) (reason : String) : Intake :=
  { intake with rejectedFiles := intake.rejectedFiles ++ [⟨fileName, contentType, reason⟩] }

def Intake.keep (intake : Intake) (file : UploadedRunFile) : Intake where
  warnings :=
    if file.trimmed then
      intake.warnings ++ [file.fileName ++ (" was longer than the file-text budget, so I kept " ++
        "the first extractable slice.").toList]
    else intake.warnings
  acceptedFiles := intake.acceptedFiles ++ [file]
  rejectedFiles := intake.rejectedFiles
  totalExtractedBytes := intake.totalExtractedBytes + file.extractedTextBytes

def takeUpload (settings : Settings) (readPdf : PdfReader) (intake : Intake) (index : Nat)
    (upload : Upload) : Except IngestError Intake :=
  let fileName := orText upload.filename "untitled".toList
  let contentType := orText upload.contentType "application/octet-stream".toList
  let fileSizeBytes := upload.bytes.length
  let reject := fun reason => Except.ok (intake.reject fileName contentType reason)
  if settings.maxFilesPerRun ≤ index then
    reject "Too many files. I kept the first few and left the rest at the velvet rope."
  else if fileSizeBytes = 0 then
    reject "That file arrived empty, which is very minimalist even for this demo."
  else if settings.maxFileSizeBytes < fileSizeBytes then
    reject "That file is over the size limit, so I rejected it before pretending to be heroic."
  else
    match resolveExtractor fileName contentType with
    | none => reject (unsupportedReason contentType)
    | some extractor => do
      let (extractedText, extractionWarning) ← runExtractor readPdf upload.bytes extractor
      match extractionWarning, normalizeText extractedText with
      | some warning, _ => reject warning
      | none, none => reject "I could open that file, but there was no extractable text to keep."
      | none, some normalizedExtractedText =>
        let remaining := max (settings.maxExtractedTextBytes - intake.totalExtractedBytes) 0
        if remaining = 0 then
          reject ("The file-text budget was already full, so this one never made it onto the " ++
            "tiny demo desk.")
        else
          match trimTextToBytes normalizedExtractedText remaining with
          | (some (c :: cs), trimmed) => .ok (intake.keep {
              fileName := fileName
              contentType := contentType
              fileSizeBytes := fileSizeBytes
              extractedText := c :: cs
              extractedTextBytes := utf8Length (c :: cs)
              trimmed := trimmed })
          | _ =>
            reject "There was no remaining text budget for that file after earlier uploads."

def takeUploads (settings : Settings) (readPdf : PdfReader) (intake : Intake) (index : Nat) :
    List Upload → Except IngestError Intake
  | [] => .ok intake
  | upload :: uploads => do
    let intake ← takeUpload settings readPdf intake index upload
    takeUploads settings readPdf intake (index + 1) uploads

/-- The pasted text as stored and its warnings. -/
def storePastedText (settings : Settings) (pastedText : Option Text) : Option Text × List Text :=
  match normalizeText pastedText with
  | none => (none, [])
  | some text =>
    if settings.maxPastedTextBytes < utf8Length text then
      let (stored, trimmed) := trimTextToBytes text settings.maxPastedTextBytes
      (stored, if trimmed then [("The pasted notes were longer than this demo brain allows, so I " ++
        "kept the first slice.").toList] else [])
    else (some text, [])

def fileSection (file : UploadedRunFile) : Text :=
  "File: ".toList ++ file.fileName ++ '\n' :: file.extractedText

def inputSections (pastedText : Option Text) (acceptedFiles : List UploadedRunFile) : List Text :=
  ((pastedText.bind orNone).map ("Pasted notes:\n".toList ++ ·)).toList ++
    acceptedFiles.map fileSection

def combinedText (pastedText : Option Text) (acceptedFiles : List UploadedRunFile) : Text :=
  join ['\n', '\n'] (inputSections pastedText acceptedFiles)

def buildWorkflowInputText (delivers : Transport) (settings : Settings) (pastedText : Option Text)
    (acceptedFiles : List UploadedRunFile) : Except ClientError (Option Text × Bool) :=
  if inputSections pastedText acceptedFiles = [] then .ok (none, false)
  else
    let combined := combinedText pastedText acceptedFiles
    if settings.textToolsEnabled then do
      let analysis ← clientAnalyzeText delivers combined settings.maxTotalWorkflowTextBytes
        settings.ragChunkSize settings.ragChunkOverlap
      pure (orNone analysis.normalizedText, analysis.trimmed)
    else .ok (trimTextToBytes combined settings.maxTotalWorkflowTextBytes)

def sourceKind (storedPastedText : Option Text) (acceptedFiles : List UploadedRunFile) : Text :=
  let pasted := (storedPastedText.bind orNone).isSome
  if pasted ∧ acceptedFiles = [] then "pasted_text".toList
  else if acceptedFiles ≠ [] ∧ ¬ pasted then "file_upload".toList
  else "mixed_input".toList

def strategy : String :=
  "Keep pasted text as entered, then accept files in upload order. " ++
    "Trim by taking the first bytes that fit each configured budget."

def summarizeFile (file : UploadedRunFile) : AcceptedRunFileSummary :=
  ⟨file.fileName, file.contentType, file.fileSizeBytes, file.extractedTextBytes, file.trimmed⟩

def ingestRunInput (delivers : Transport) (readPdf : PdfReader) (settings : Settings)
    (pastedText : Option Text) (files : List Upload) : Except IngestError IngestionResult := do
  let (storedPastedText, pastedWarnings) := storePastedText settings pastedText
  let intake ← takeUploads settings readPdf ⟨pastedWarnings, [], [], 0⟩ 0 files
  let (normalizedInputText, workflowTrimmed) ←
    (buildWorkflowInputText delivers settings storedPastedText intake.acceptedFiles).mapError
      .textTools
  let warnings := if workflowTrimmed then
      intake.warnings ++ [("This is a demo, not a memory palace. I kept a representative slice so " ++
        "I could stay coherent.").toList]
    else intake.warnings
  pure {
    rawPastedText := storedPastedText
    normalizedInputText := normalizedInputText
    inputMetadata := ⟨sourceKind storedPastedText intake.acceptedFiles,
      intake.acceptedFiles.length, intake.rejectedFiles.length, warnings.length⟩
    uploadedFiles := intake.acceptedFiles
    ingestionSummary := {
      warnings := warnings
      counts := {
        acceptedFiles := intake.acceptedFiles.length
        rejectedFiles := intake.rejectedFiles.length
        trimmedFiles := (intake.acceptedFiles.filter UploadedRunFile.trimmed).length
        acceptedPastedText := if (storedPastedText.bind orNone).isSome then 1 else 0
        trimmedPastedText :=
          if (normalizeText pastedText).isSome ∧ storedPastedText ≠ normalizeText pastedText then 1
          else 0 }
      acceptedFiles := intake.acceptedFiles.map summarizeFile
      rejectedFiles := intake.rejectedFiles
      limits := ⟨settings.maxFilesPerRun, settings.maxFileSizeBytes,
        settings.maxExtractedTextBytes, settings.maxTotalWorkflowTextBytes,
        settings.maxPastedTextBytes, strategy⟩
      workflowTextBytes := utf8Length (normalizedInputText.getD []) } }

end DemoService.Runs
