import DemoService.Base64
import DemoService.InvitationModel
import DemoService.NearestDouble
import DemoService.PyCodecs
import DemoService.PyConversions
import DemoService.PyJsonRoundTrip
import DemoService.ServiceErrors

/-! Signed access tokens: how they are created and verified. HMAC-SHA256 is a parameter, and so are
the limits and the Unicode tables of the interpreter. -/

namespace DemoService.AccessTokens

open CodePoints PyConversions PyJson

structure Settings where
  accessTokenSigningKey : Str
  accessTokenTtlSeconds : Int

/-- A `datetime` of the years 1 to 9999 in UTC, in microseconds since 1970. -/
structure Moment where
  micros : Int
  lower : -62135596800000000 ≤ micros
  upper : micros < 253402300800000000
  deriving DecidableEq

def Moment.ofMicros? (micros : Int) : Option Moment :=
  if h : -62135596800000000 ≤ micros ∧ micros < 253402300800000000 then some ⟨micros, h.1, h.2⟩
  else none

/-- `int(moment.timestamp())`: the quotient by a million is the nearest double, and its fraction is
dropped. -/
def intTimestamp (micros : Int) : Int :=
  if micros < 0 then -NearestDouble.intPart micros.natAbs 1000000
  else NearestDouble.intPart micros.natAbs 1000000

structure AccessTokenClaims where
  tokenId : Str
  invitationCodeId : Int
  code : Str
  experienceId : ExperienceId
  issuedAt : Moment
  expiresAt : Moment
  deriving DecidableEq

def b64urlEncode (raw : Bytes) : Str :=
  decodeAscii ((Base64.urlsafeB64encode raw).rdropWhile (· = Base64.pad))

def b64urlDecode (encoded : Str) : Option Bytes :=
  let padding := List.replicate ((4 - encoded.length % 4) % 4) (chr '=')
  Base64.urlsafeB64decode (encoded ++ padding)

/-- `token_hex` of its random bytes. -/
def tokenHex (random : Bytes) : Str :=
  random.flatMap fun b => [hexOf (b.toNat / 16), hexOf (b.toNat % 16)]

/-- What differs between the interpreters that may run the service. -/
structure Interpreter where
  /-- How deep a JSON document may nest. -/
  nesting : Nat
  nesting_pos : 0 < nesting
  /-- How many calls of `repr` may run inside each other. -/
  reprNesting : Nat
  /-- `str.isprintable` of one character. -/
  isPrintable : CodePoint → Bool

section Signing

variable (hmacSha256 : Bytes → Bytes → Bytes)

/-- Both encodings can fail with a `UnicodeEncodeError`. -/
def sign (payloadSegment secret : Str) : Except ExceptionClass Str :=
  match encodeUtf8 secret, encodeAscii payloadSegment with
  | some key, some message => .ok (b64urlEncode (hmacSha256 key message))
  | _, _ => .error .valueError

/-- What a token is created for, and the random bytes of its id. -/
structure TokenRequest where
  random : Bytes
  invitationCodeId : Int
  code : Str
  experienceId : ExperienceId
  now : Moment

def payload (request : TokenRequest) (expiresAt : Moment) : List (Str × Scalar) :=
  [(ofString "jti", .text (tokenHex request.random)),
    (ofString "invitation_code_id", .number request.invitationCodeId),
    (ofString "code", .text request.code),
    (ofString "experience_id", .text (ofString request.experienceId.value)),
    (ofString "iat", .number (intTimestamp request.now.micros)),
    (ofString "exp", .number (intTimestamp expiresAt.micros))]

/-- The JSON text of a payload, in base64. -/
def payloadSegment (payload : List (Str × Scalar)) : Except ExceptionClass Str :=
  match (dumps payload).bind encodeUtf8 with
  | some bytes => .ok (b64urlEncode bytes)
  | none => .error .valueError

/-- An expiry outside the years 1 to 9999 is an `OverflowError`. -/
def expiry (settings : Settings) (request : TokenRequest) : Except ExceptionClass Moment :=
  match Moment.ofMicros? (request.now.micros + settings.accessTokenTtlSeconds * 1000000) with
  | some expiresAt => .ok expiresAt
  | none => .error .other

def createAccessToken (settings : Settings) (request : TokenRequest) :
    Except ExceptionClass (Str × AccessTokenClaims) := do
  let expiresAt ← expiry settings request
  let segment ← payloadSegment (payload request expiresAt)
  let signature ← sign hmacSha256 segment settings.accessTokenSigningKey
  .ok (segment ++ chr '.' :: signature,
    { tokenId := tokenHex request.random
      invitationCodeId := request.invitationCodeId
      code := request.code
      experienceId := request.experienceId
      issuedAt := request.now
      expiresAt })

end Signing

section Verification

variable (hmacSha256 : Bytes → Bytes → Bytes) (python : Interpreter)

/-- `token.split(".", maxsplit=1)`, unless the token has only one part. -/
def splitToken (token : Str) : Option (Str × Str) :=
  if chr '.' ∈ token then
    some (token.takeWhile (· ≠ chr '.'), (token.dropWhile (· ≠ chr '.')).tail)
  else none

/-- `hmac.compare_digest` of texts, which must be ASCII. -/
def compareDigest (a b : Str) : Except ExceptionClass Bool :=
  if (a ++ b).all fun c => c.val < 0x80 then .ok (decide (a = b)) else .error .typeError

def loadsException : LoadsError → ExceptionClass
  | .decode => .valueError
  | .recursion => .runtimeError

/-- `json.loads` of bytes; what cannot be decoded is a `UnicodeDecodeError`. -/
def loadsBytes (data : Bytes) : Except ExceptionClass Json :=
  match PyCodecs.decodeJson data with
  | some text => (loads python.nesting text).mapError loadsException
  | none => .error .valueError

/-- `payload[key]`. -/
def getItem (key : String) : Json → Except ExceptionClass Json
  | .obj members =>
    match members.reverse.find? fun member => member.1 = ofString key with
    | some member => .ok member.2
    | none => .error .keyError
  | _ => .error .typeError

def reprException : ReprError → ExceptionClass
  | .digits => .valueError
  | .recursion => .runtimeError

/-- `str(value)`. -/
def toStr : Json → Except ExceptionClass Str
  | .str value => .ok value
  | .null => .ok (ofString "None")
  | .bool value => .ok (ofString (if value then "True" else "False"))
  | .int value =>
    match reprInt value with
    | some digits => .ok digits
    | none => .error .valueError
  | .float lexeme => .ok (PyFloats.repr (PyFloats.ofLexeme lexeme))
  | value =>
    (reprOf python.isPrintable (held value) python.reprNesting).mapError reprException

/-- `int(value)`; an infinite float is an `OverflowError`. -/
def toInt : Json → Except ExceptionClass Int
  | .int value => .ok value
  | .bool value => .ok (if value then 1 else 0)
  | .null | .arr _ | .obj _ => .error .typeError
  | .str value =>
    match intOfText value with
    | some number => .ok number
    | none => .error .valueError
  | .float lexeme =>
    match PyFloats.ofLexeme lexeme with
    | .finite negative mantissa exponent => .ok (PyFloats.trunc negative mantissa exponent)
    | .nan => .error .valueError
    | .infinite _ => .error .other

def experienceOf (value : Str) : Except ExceptionClass ExperienceId :=
  match (toString? value).map fun text => parseExperienceId (some text) with
  | some (.ok experienceId) => .ok experienceId
  | _ => .error .valueError

/-- The seconds since 1970 that the platform's `gmtime` takes: its years are numbers of 32 bits,
from which those of `time_t` reach further. -/
def InGmtime (seconds : Int) : Prop := -67768040609740800 ≤ seconds ∧ seconds ≤ 67768036191676799

instance (seconds : Int) : Decidable (InGmtime seconds) := by unfold InGmtime; infer_instance

/-- `datetime.fromtimestamp(seconds, tz=UTC)`: a year that no `datetime` has is a `ValueError`, what
`gmtime` does not take an `OSError`, and what `time_t` does not hold an `OverflowError`. -/
def fromTimestamp (seconds : Int) : Except ExceptionClass Moment :=
  match Moment.ofMicros? (seconds * 1000000) with
  | some moment => .ok moment
  | none => .error (if InGmtime seconds then .valueError else .other)

/-- The claims in a payload segment. -/
def readClaims (segment : Str) : Except ExceptionClass AccessTokenClaims := do
  let data ← match b64urlDecode segment with
    | some data => .ok data
    | none => .error .valueError
  let payload ← loadsBytes python data
  let tokenId ← getItem "jti" payload >>= toStr python
  let invitationCodeId ← getItem "invitation_code_id" payload >>= toInt
  let code ← getItem "code" payload >>= toStr python
  let experienceId ← getItem "experience_id" payload >>= toStr python >>= experienceOf
  let issuedAt ← getItem "iat" payload >>= toInt >>= fromTimestamp
  let expiresAt ← getItem "exp" payload >>= toInt >>= fromTimestamp
  .ok { tokenId, invitationCodeId, code, experienceId, issuedAt, expiresAt }

/-- `except (KeyError, TypeError, ValueError, json.JSONDecodeError)`. -/
def isCaught : ExceptionClass → Bool
  | .keyError | .typeError | .valueError => true
  | .runtimeError | .other => false

/-- How a verification fails: with an HTTP error, or with another exception. -/
inductive TokenFailure
  | http (exception : HTTPException)
  | escaped (cls : ExceptionClass)
  deriving DecidableEq, Repr

def invalidToken : TokenFailure := .http ⟨401, "Invalid access token.".toList⟩

def expiredToken : TokenFailure := .http ⟨401, "Access token expired.".toList⟩

/-- The end of a verification, once the payload was read. -/
def judgeClaims (now : Int) :
    Except ExceptionClass AccessTokenClaims → Except TokenFailure AccessTokenClaims
  | .error cls => .error (if isCaught cls then invalidToken else .escaped cls)
  | .ok claims => if claims.expiresAt.micros ≤ now then .error expiredToken else .ok claims

/-- The clock is read in microseconds. -/
def verifyAccessToken (token : Str) (settings : Settings) (now : Int) :
    Except TokenFailure AccessTokenClaims :=
  match splitToken token with
  | none => .error invalidToken
  | some (segment, signature) =>
    match sign hmacSha256 segment settings.accessTokenSigningKey >>= compareDigest signature with
    | .error cls => .error (.escaped cls)
    | .ok false => .error invalidToken
    | .ok true => judgeClaims now (readClaims python segment)

end Verification

end DemoService.AccessTokens
