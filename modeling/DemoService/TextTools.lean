import DemoService.RustBounds

/-! The text-tools sidecar: `text.rs`, the analyze route and the client that calls it. -/

namespace DemoService.TextTools

open RustText Fallible

structure NormalizeResponse where
  text : Str
  inputBytes : Nat
  outputBytes : Nat
  changed : Bool
  deriving DecidableEq, Repr

structure TextChunk where
  index : Nat
  text : Str
  bytes : Nat
  deriving DecidableEq, Repr

structure AnalyzeLimits where
  maxBytes : Nat
  maxChunkSize : Nat
  chunkOverlap : Nat
  deriving DecidableEq, Repr

structure AnalyzeRequest where
  text : Str
  limits : AnalyzeLimits
  deriving DecidableEq, Repr

structure TextStats where
  characterCount : Nat
  lineCount : Nat
  paragraphCount : Nat
  urlCount : Nat
  emailCount : Nat
  phoneLikeCount : Nat
  chunkCount : Nat
  minChunkBytes : Nat
  maxChunkBytes : Nat
  avgChunkBytes : Nat
  deriving DecidableEq, Repr

structure AnalyzeResponse where
  normalizedText : Str
  inputBytes : Nat
  normalizedBytes : Nat
  trimmed : Bool
  chunks : List TextChunk
  stats : TextStats
  warnings : List String
  deriving DecidableEq, Repr

/-- A call of the sidecar's functions stops with a reported error or with a panic. -/
inductive Failure
  | bail (detail : String)
  | panic (cause : Panic)
  deriving DecidableEq, Repr

def orPanic {α : Type} : Except Panic α → Except Failure α
  | .ok a => .ok a
  | .error cause => .error (.panic cause)

def normalizeText (value : Str) : NormalizeResponse :=
  let normalized := join [' '] (splitWhitespace value)
  ⟨normalized, utf8Len value, utf8Len normalized, normalized != value⟩

def nextBoundaryAtOrBefore (value : Str) (index : Nat) : Nat :=
  floorBoundary value (min index (utf8Len value))

def nextBoundaryAtOrAfter (value : Str) (index : Nat) : Nat :=
  let index := min index (utf8Len value)
  ceilBoundary value (utf8Len value - index) index

/-- The end of the last of the patterns, tried in order, that ends past the middle of the window. -/
def splitInWindow (window : Str) (minimum : Nat) : List Str → Option Nat
  | [] => none
  | pattern :: patterns =>
    match rfind pattern window with
    | some index =>
      if minimum ≤ index then some (index + utf8Len pattern)
      else splitInWindow window minimum patterns
    | none => splitInWindow window minimum patterns

def splitPatterns : List Str := [['\n', '\n'], ['\n'], ['.', ' '], [' ']]

def findSplitPoint (value : Str) (start hardEnd : Nat) : Except Panic Nat :=
  if utf8Len value ≤ hardEnd then .ok (utf8Len value)
  else do
    let window ← slice value start hardEnd
    match splitInWindow window (utf8Len window / 2) splitPatterns with
    | some offset => pure (start + offset)
    | none => pure hardEnd

def nextStart (normalized : Str) (chunkOverlap start stop : Nat) : Nat :=
  nextBoundaryAtOrAfter normalized (max (stop - chunkOverlap) (start + 1))

theorem lt_nextStart {normalized : Str} {start : Nat} (h : start < utf8Len normalized)
    (chunkOverlap stop : Nat) : start < nextStart normalized chunkOverlap start stop := by
  have hle := le_ceilBoundary normalized
    (utf8Len normalized - min (max (stop - chunkOverlap) (start + 1)) (utf8Len normalized))
    (min (max (stop - chunkOverlap) (start + 1)) (utf8Len normalized))
  simp only [nextStart, nextBoundaryAtOrAfter]
  omega

def pushChunk (chunks : List TextChunk) (chunk : Str) : List TextChunk :=
  if chunk = [] then chunks else chunks ++ [⟨chunks.length, chunk, utf8Len chunk⟩]

/-- The `while` loop of `chunk_text`. -/
def chunkLoop (normalized : Str) (chunkSize chunkOverlap start : Nat) (chunks : List TextChunk) :
    Except Panic (List TextChunk) :=
  if _hstart : start < utf8Len normalized then do
    let hardEnd := nextBoundaryAtOrBefore normalized (start + chunkSize)
    let stop ← findSplitPoint normalized start hardEnd
    let span ← slice normalized start stop
    if utf8Len normalized ≤ stop then pure (pushChunk chunks (trim span))
    else
      chunkLoop normalized chunkSize chunkOverlap (nextStart normalized chunkOverlap start stop)
        (pushChunk chunks (trim span))
  else pure chunks
termination_by utf8Len normalized - start
decreasing_by
  have hnext := lt_nextStart _hstart chunkOverlap stop
  omega

def chunkText (value : Str) (chunkSize chunkOverlap : Nat) : Except Failure (List TextChunk) :=
  if chunkSize < 100 then .error (.bail "chunk_size must be at least 100 characters")
  else if chunkSize ≤ chunkOverlap then
    .error (.bail "chunk_overlap must be smaller than chunk_size")
  else
    let normalized := (normalizeText value).text
    if normalized = [] then .ok []
    else if utf8Len normalized ≤ chunkSize then .ok [⟨0, normalized, utf8Len normalized⟩]
    else orPanic (chunkLoop normalized chunkSize chunkOverlap 0 [])

def trimToUtf8Boundary (value : Str) (maxBytes : Nat) : Except Panic (Str × Bool) :=
  if utf8Len value ≤ maxBytes then .ok (value, false)
  else do
    let kept ← slice value 0 (floorBoundary value maxBytes)
    pure (trimEnd kept, true)

def hasLongUnbrokenToken (text : Str) (chunkSize : Nat) : Bool :=
  (splitWhitespace text).any (fun token => max chunkSize 100 < utf8Len token)

def analyzeWarnings (text : Str) (chunks : List TextChunk) (limits : AnalyzeLimits)
    (trimmed : Bool) : List String :=
  (if trimmed then ["Text was trimmed to fit the configured byte budget."] else []) ++
  (if text = [] then ["No meaningful text remained after normalization."] else []) ++
  (if chunks = [] ∧ text ≠ [] then ["Text did not produce any chunks."] else []) ++
  (if hasLongUnbrokenToken text limits.maxChunkSize then
    ["Text contains a long unbroken section that may produce rough chunk boundaries."] else [])

def countLines (text : Str) : Nat := (lines text).length

def countParagraphs (text : Str) : Nat :=
  ((splitStr ['\n', '\n'] text).filter (fun paragraph => trim paragraph ≠ [])).length

def countUrls (text : Str) : Nat :=
  ((splitWhitespace text).filter fun token =>
    let token := trimMatches (fun c => isAsciiPunctuation c && c != '/' && c != ':') token
    startsWith "http://".toList token || startsWith "https://".toList token).length

def looksLikeEmail (token : Str) : Bool :=
  let token := trimMatches (fun c => isAsciiPunctuation c && c != '@' && c != '.') token
  match splitOnce ['@'] token with
  | none => false
  | some (user, domain) =>
    user ≠ [] && domain.contains '.' && domain.head? ≠ some '.' && domain.getLast? ≠ some '.'

def countEmails (text : Str) : Nat := ((splitWhitespace text).filter looksLikeEmail).length

def countPhoneLike (text : Str) : Nat :=
  ((splitWhitespace text).filter fun token => 10 ≤ (token.filter isAsciiDigit).length).length

def textStats (originalText analyzedText : Str) (chunks : List TextChunk) : TextStats where
  characterCount := analyzedText.length
  lineCount := countLines originalText
  paragraphCount := countParagraphs originalText
  urlCount := countUrls analyzedText
  emailCount := countEmails analyzedText
  phoneLikeCount := countPhoneLike analyzedText
  chunkCount := chunks.length
  minChunkBytes := if chunks = [] then 0 else (chunks.map TextChunk.bytes).foldl min (2 ^ 64 - 1)
  maxChunkBytes := if chunks = [] then 0 else (chunks.map TextChunk.bytes).foldl max 0
  avgChunkBytes := (chunks.map TextChunk.bytes).sum / chunks.length

def analyzeText (request : AnalyzeRequest) : Except Failure AnalyzeResponse :=
  if request.limits.maxBytes = 0 then .error (.bail "max_bytes must be greater than zero")
  else do
    let normalized := normalizeText request.text
    let (boundedText, trimmed) ←
      orPanic (trimToUtf8Boundary normalized.text request.limits.maxBytes)
    let chunks ← chunkText boundedText request.limits.maxChunkSize request.limits.chunkOverlap
    pure {
      normalizedText := boundedText
      inputBytes := normalized.inputBytes
      normalizedBytes := utf8Len boundedText
      trimmed := trimmed
      chunks := chunks
      stats := textStats request.text boundedText chunks
      warnings := analyzeWarnings boundedText chunks request.limits trimmed }

/-- A JSON integer read as a `usize`. -/
def toUsize (n : Int) : Option Nat := if 0 ≤ n ∧ n < 2 ^ 64 then some n.toNat else none

/-- Why a call of the client raises: the sidecar did not answer, refused the request body,
answered with an error, or dropped the connection. -/
inductive ClientError
  | unreachable
  | unprocessable
  | badRequest (detail : String)
  | disconnected (cause : Panic)
  deriving DecidableEq, Repr

def ClientError.ofFailure : Failure → ClientError
  | .bail detail => .badRequest detail
  | .panic cause => .disconnected cause

structure TextToolsAnalysis where
  normalizedText : Str
  inputBytes : Nat
  normalizedBytes : Nat
  trimmed : Bool
  chunkCount : Nat
  warnings : List String
  deriving DecidableEq, Repr

/-- Whether the sidecar receives the request for a text and its answer arrives in time. -/
abbrev Transport := Str → Bool

def readLimits (maxBytes maxChunkSize chunkOverlap : Int) : Option AnalyzeLimits := do
  pure ⟨← toUsize maxBytes, ← toUsize maxChunkSize, ← toUsize chunkOverlap⟩

/-- `TextToolsClient.analyze_text`, through the sidecar's analyze route. -/
def clientAnalyzeText (delivers : Transport) (text : Str)
    (maxBytes maxChunkSize chunkOverlap : Int) : Except ClientError TextToolsAnalysis :=
  if delivers text then
    match readLimits maxBytes maxChunkSize chunkOverlap with
    | none => .error .unprocessable
    | some limits =>
      match analyzeText ⟨text, limits⟩ with
      | .error failure => .error (.ofFailure failure)
      | .ok response => .ok {
          normalizedText := response.normalizedText
          inputBytes := response.inputBytes
          normalizedBytes := response.normalizedBytes
          trimmed := response.trimmed
          chunkCount := response.stats.chunkCount
          warnings := response.warnings }
  else .error .unreachable

end DemoService.TextTools
