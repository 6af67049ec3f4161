import DemoService.RunIngestion
import DemoService.ServiceErrors

/-! The Python chunker of RAG ingestion and the choice between it and the sidecar. -/

namespace PyText

/-- `str.rfind`, with `none` for -1. -/
def rfind (pattern : Text) : Text → Option Nat
  | [] => if pattern = [] then some 0 else none
  | c :: cs =>
    match rfind pattern cs with
    | some i => some (i + 1)
    | none => if pattern.isPrefixOf (c :: cs) then some 0 else none

/-- `value[start:stop]` for offsets in order. -/
def slice (value : Text) (start stop : Nat) : Text := (value.take stop).drop start

end PyText

namespace DemoService.RagChunking

open PyText

structure ExtractedSection where
  text : Text
  pageNumber : Option Int
  sourceLocation : Option Text
  deriving DecidableEq, Repr

structure PreparedRagChunk where
  text : Text
  chunkIndex : Nat
  pageNumber : Option Int
  sourceLocation : Option Text
  deriving DecidableEq, Repr

def normalizeText (value : Option Text) : Option Text :=
  value.bind fun value => orNone (strip (TextLayout.squeeze isSpace value))

/-- The loop over the patterns in `_find_split_point`. -/
def lastSplit (window : Text) (minimum : Nat) : List Text → Option Nat
  | [] => none
  | pattern :: patterns =>
    match rfind pattern window with
    | some index =>
      if minimum ≤ index then some (index + pattern.length)
      else lastSplit window minimum patterns
    | none => lastSplit window minimum patterns

def splitPatterns : List Text := [['\n', '\n'], ['\n'], ['.', ' '], [' ']]

/-- `int(len(window) * 0.5)` is exact for every window shorter than 2^53 characters. -/
def findSplitPoint (value : Text) (start hardEnd : Nat) : Nat :=
  if value.length ≤ hardEnd then hardEnd
  else
    let window := slice value start hardEnd
    match lastSplit window (max 1 (window.length / 2)) splitPatterns with
    | some offset => start + offset
    | none => hardEnd

def appendChunk (chunks : List Text) (chunk : Text) : List Text :=
  if chunk = [] then chunks else chunks ++ [chunk]

/-- The `while` loop of `split_text_into_chunks`. -/
def splitLoop (normalized : Text) (chunkSize chunkOverlap start : Nat) (chunks : List Text) :
    List Text :=
  if start < normalized.length then
    let hardEnd := min (start + chunkSize) normalized.length
    let stop := findSplitPoint normalized start hardEnd
    let chunks := appendChunk chunks (strip (slice normalized start stop))
    if normalized.length ≤ stop then chunks
    else splitLoop normalized chunkSize chunkOverlap (max (stop - chunkOverlap) (start + 1)) chunks
  else chunks
termination_by normalized.length - start

def sizeTooSmall : Raised :=
  valueError "RAG chunk size must be at least 100 characters.".toList

def overlapOutOfRange : Raised :=
  valueError "RAG chunk overlap must be non-negative and smaller than size.".toList

def splitTextIntoChunks (value : Text) (chunkSize chunkOverlap : Int) :
    Except Raised (List Text) :=
  if chunkSize < 100 then .error sizeTooSmall
  else if chunkOverlap < 0 ∨ chunkSize ≤ chunkOverlap then .error overlapOutOfRange
  else
    match normalizeText (some value) with
    | none => .ok []
    | some normalized =>
      if (normalized.length : Int) ≤ chunkSize then .ok [normalized]
      else .ok (splitLoop normalized chunkSize.toNat chunkOverlap.toNat 0 [])

/-- The chunks of one section, numbered behind those of the sections before it. -/
def appendSection (extracted : ExtractedSection) (chunks : List PreparedRagChunk) :
    List Text → List PreparedRagChunk
  | [] => chunks
  | text :: texts =>
    appendSection extracted
      (chunks ++ [⟨text, chunks.length, extracted.pageNumber, extracted.sourceLocation⟩]) texts

/-- The loop over the sections. The chunker is told which call it answers. -/
def collectChunks {ε : Type} (chunker : Nat → Text → Except ε (List Text)) :
    Nat → List PreparedRagChunk → List ExtractedSection → Except ε (List PreparedRagChunk)
  | _, chunks, [] => .ok chunks
  | call, chunks, extracted :: sections => do
    let texts ← chunker call extracted.text
    collectChunks chunker (call + 1) (appendSection extracted chunks texts) sections

def buildRagChunks (sections : List ExtractedSection) (chunkSize chunkOverlap : Int) :
    Except Raised (List PreparedRagChunk) :=
  if chunkSize < 100 then .error sizeTooSmall
  else if chunkOverlap < 0 ∨ chunkSize ≤ chunkOverlap then .error overlapOutOfRange
  else collectChunks (fun _ text => splitTextIntoChunks text chunkSize chunkOverlap) 0 [] sections

/-- `TextToolsClient.chunk_text`, through the sidecar's chunk route. -/
def clientChunkText (delivers : TextTools.Transport) (chunkSize chunkOverlap : Int) (text : Text) :
    Except TextTools.ClientError (List TextTools.TextChunk) :=
  if delivers text then
    match TextTools.toUsize chunkSize, TextTools.toUsize chunkOverlap with
    | some chunkSize, some chunkOverlap =>
      match TextTools.chunkText text chunkSize chunkOverlap with
      | .error failure => .error (.ofFailure failure)
      | .ok chunks => .ok chunks
    | _, _ => .error .unprocessable
  else .error .unreachable

def sidecarTexts (delivers : Nat → TextTools.Transport) (chunkSize chunkOverlap : Int) (call : Nat)
    (text : Text) : Except TextTools.ClientError (List Text) := do
  let chunks ← clientChunkText (delivers call) chunkSize chunkOverlap text
  pure (chunks.map TextTools.TextChunk.text)

/-- `build_rag_chunks_with_optional_text_tools` with `build_rag_chunks` as the fallback. -/
def buildRagChunksWithOptionalTextTools (delivers : Nat → TextTools.Transport)
    (settings : Runs.Settings) (sections : List ExtractedSection) :
    Except Raised (List PreparedRagChunk) :=
  if settings.textToolsEnabled then
    match collectChunks (sidecarTexts delivers settings.ragChunkSize settings.ragChunkOverlap) 0 []
      sections with
    | .ok chunks => .ok chunks
    | .error _ => buildRagChunks sections settings.ragChunkSize settings.ragChunkOverlap
  else buildRagChunks sections settings.ragChunkSize settings.ragChunkOverlap

end DemoService.RagChunking
