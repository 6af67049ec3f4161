import DemoService.TokenRoundTrip

/-! Which tokens are accepted, if no one without the key can make its HMACs: only those that were
issued with it. -/

namespace DemoService.AccessTokens

open CodePoints Fallible PyJson

/-- A signing of the service: what the token was created with. -/
abbrev Issue := Settings × TokenRequest

section Authenticity

variable (hmacSha256 : Bytes → Bytes → Bytes) (history : List Issue) (key : Str)

/-- The service has signed the message with the key. -/
def Signed (message : Bytes) : Prop :=
  ∃ issue ∈ history, issue.1.accessTokenSigningKey = key ∧ ∃ expiresAt segment,
    expiry issue.1 issue.2 = .ok expiresAt ∧
      payloadSegment (payload issue.2 expiresAt) = .ok segment ∧
        encodeAscii segment = some message

/-- The two parts of the token are a message and, in base64, a digest. -/
def Presents (token : Str) (message digest : Bytes) : Prop :=
  splitToken token = some (decodeAscii message, b64urlEncode digest)

/-- Whoever made the token had the HMACs of the messages that the service has signed, but no
others. -/
def Unforgeable (token : Str) : Prop :=
  ∀ keyBytes message, encodeUtf8 key = some keyBytes →
    Presents token message (hmacSha256 keyBytes message) → Signed history key message

def Issued (token : Str) : Prop :=
  ∃ issue ∈ history, issue.1.accessTokenSigningKey = key ∧
    ∃ claims, createAccessToken hmacSha256 issue.1 issue.2 = .ok (token, claims)

variable {hmacSha256 history} {settings : Settings} {token : Str} {claims : AccessTokenClaims}

/-- An accepted token carries the HMAC of its payload segment. -/
theorem presents_of_verified {python : Interpreter} {now : Int}
    (h : verifyAccessToken hmacSha256 python token settings now = .ok claims) :
    ∃ keyBytes message signature, encodeUtf8 settings.accessTokenSigningKey = some keyBytes ∧
      Presents token message (hmacSha256 keyBytes message) ∧
        sign hmacSha256 (decodeAscii message) settings.accessTokenSigningKey = .ok signature ∧
          token = decodeAscii message ++ chr '.' :: signature := by
  unfold verifyAccessToken at h
  split at h
  · cases h
  · rename_i segment presented hsplit
    split at h
    · cases h
    · cases h
    · rename_i hcompare
      obtain ⟨signature, hsign, hcompare⟩ := bind_eq_ok.mp hcompare
      obtain rfl := compareDigest_eq_true hcompare
      obtain ⟨keyBytes, message, hkey, hmessage, rfl⟩ := sign_eq_ok hsign
      obtain ⟨-, rfl⟩ := isAscii_of_encodeAscii hmessage
      exact ⟨keyBytes, message, _, hkey, hsplit, hsign, splitToken_eq_some hsplit⟩

/-- What is accepted was issued. -/
theorem issued_of_verified {python : Interpreter} {now : Int}
    (hforge : Unforgeable hmacSha256 history settings.accessTokenSigningKey token)
    (h : verifyAccessToken hmacSha256 python token settings now = .ok claims) :
    Issued hmacSha256 history settings.accessTokenSigningKey token := by
  obtain ⟨keyBytes, message, signature, hkey, hpresents, hsign, rfl⟩ := presents_of_verified h
  obtain ⟨issue, hmem, hissuekey, expiresAt, segment, hexpiry, hsegment, hmessage⟩ :=
    hforge keyBytes message hkey hpresents
  obtain ⟨-, rfl⟩ := isAscii_of_encodeAscii hmessage
  rw [← hissuekey] at hsign
  exact ⟨issue, hmem, hissuekey, _, createAccessToken_of_parts hexpiry hsegment hsign⟩

/-- A token that was issued is no forgery: its HMAC is that of a message the service signed. -/
theorem Issued.unforgeable (h : Issued hmacSha256 history key token) :
    Unforgeable hmacSha256 history key token := by
  obtain ⟨issue, hmem, hissuekey, claims, hcreate⟩ := h
  obtain ⟨expiresAt, segment, signature, hexpiry, hsegment, hsign, rfl, -⟩ :=
    createAccessToken_eq_ok hcreate
  obtain ⟨-, message, -, hmessage, -⟩ := sign_eq_ok hsign
  intro keyBytes presented _ hpresents
  rw [Presents, splitToken_append (payloadSegment_clean hsegment), Option.some.injEq,
    Prod.mk.injEq] at hpresents
  obtain rfl : message = presented :=
    decodeAscii_injective ((isAscii_of_encodeAscii hmessage).2.trans hpresents.1)
  exact ⟨issue, hmem, hissuekey, expiresAt, segment, hexpiry, hsegment, hmessage⟩

end Authenticity

/-- The claims are those that the token was requested with. -/
def Describes (settings : Settings) (request : TokenRequest) (claims : AccessTokenClaims) : Prop :=
  claims.tokenId = tokenHex request.random ∧
    claims.invitationCodeId = request.invitationCodeId ∧ claims.code = request.code ∧
      claims.experienceId = request.experienceId ∧ claims.issuedAt = request.now ∧
        claims.expiresAt.micros = request.now.micros + settings.accessTokenTtlSeconds * 1000000

theorem describes_of_created {hmacSha256 : Bytes → Bytes → Bytes} {settings : Settings}
    {request : TokenRequest} {token : Str} {claims : AccessTokenClaims}
    (h : createAccessToken hmacSha256 settings request = .ok (token, claims)) :
    Describes settings request claims := by
  obtain ⟨expiresAt, segment, signature, hexpiry, -, -, -, rfl⟩ := createAccessToken_eq_ok h
  refine ⟨rfl, rfl, rfl, rfl, rfl, ?_⟩
  unfold expiry at hexpiry
  split at hexpiry
  · rename_i hmicros
    obtain rfl := Except.ok.inj hexpiry
    exact ofMicros?_eq_some hmicros
  · cases hexpiry

/-- Base64 without padding is undone for all bytes, only issued tokens are accepted, and a token
gives back its claims exactly where its code has no halves to join and neither of its times lies
so closely below a whole second that the nearest double is that second. -/
theorem access_tokens_hold_iff (hmacSha256 : Bytes → Bytes → Bytes) (python : Interpreter)
    (settings : Settings) :
    (∀ raw, b64urlDecode (b64urlEncode raw) = some raw) ∧
      (∀ request token claims, createAccessToken hmacSha256 settings request = .ok (token, claims) →
        Describes settings request claims ∧
          (RoundTrips hmacSha256 python settings token claims ↔
            ¬ SplitPair request.code ∧ ¬ RoundsUp request.now.micros ∧
              ¬ RoundsUp (request.now.micros + settings.accessTokenTtlSeconds * 1000000))) ∧
      ∀ history token now claims,
        Unforgeable hmacSha256 history settings.accessTokenSigningKey token →
          verifyAccessToken hmacSha256 python token settings now = .ok claims →
            Issued hmacSha256 history settings.accessTokenSigningKey token := by
  refine ⟨b64urlDecode_b64urlEncode, ?_, fun _ _ _ _ => issued_of_verified⟩
  intro request token claims h
  have hdescribes := describes_of_created h
  refine ⟨hdescribes, ?_⟩
  obtain ⟨-, -, hcode, -, hissued, hexpires⟩ := hdescribes
  rw [roundTrips_iff python h, hcode, hissued, hexpires]

section Examples

def demoSettings : Settings := ⟨ofString "test-signing-key", 3600⟩

/-- A request of 1 January 2026, a quarter of a second after midnight. -/
def demoRequest : TokenRequest where
  random := [0, 1, 2, 3, 4, 5, 6, 7, 8, 9, 10, 11, 12, 13, 14, 15]
  invitationCodeId := 42
  code := ofString "direct-token"
  experienceId := .messyNotes
  now := ⟨1767225600250000, by omega, by omega⟩

/-- The digest of the payload of that request. -/
def demoHmac (_key _message : Bytes) : Bytes :=
  [239, 70, 254, 193, 105, 125, 198, 49, 37, 183, 237, 80, 4, 218, 230, 245, 143, 75, 98, 139, 27,
    191, 71, 120, 87, 253, 246, 82, 52, 89, 245, 186]

def demoPython : Interpreter where
  nesting := 1000
  nesting_pos := by omega
  reprNesting := 1000
  isPrintable := fun c => 0x20 ≤ c.val ∧ c.val ≤ 0x7E

theorem demo_token_accepted : ∃ token claims,
    createAccessToken demoHmac demoSettings demoRequest = .ok (token, claims) ∧
      RoundTrips demoHmac demoPython demoSettings token claims ∧
        Issued demoHmac [(demoSettings, demoRequest)] demoSettings.accessTokenSigningKey token := by
  obtain ⟨-, hcreated, haccepted⟩ := access_tokens_hold_iff demoHmac demoPython demoSettings
  have hexpiry : expiry demoSettings demoRequest = .ok ⟨1767229200250000, by omega, by omega⟩ := rfl
  have hdumps : (dumps (payload demoRequest ⟨1767229200250000, by omega, by omega⟩)).isSome = true := by
    decide +kernel
  have hencoded : (encodeUtf8 demoSettings.accessTokenSigningKey).isSome = true := by decide +kernel
  obtain ⟨text, htext⟩ := Option.isSome_iff_exists.mp hdumps
  obtain ⟨keyBytes, hkey⟩ := Option.isSome_iff_exists.mp hencoded
  obtain ⟨token, h⟩ := createAccessToken_succeeds demoHmac hexpiry htext hkey
  have hcode : ¬ SplitPair demoRequest.code := joinSurrogates_eq_self_iff.mp (by decide +kernel)
  have htrips := (hcreated _ _ _ h).2.mpr
    ⟨hcode, by rw [RoundsUp]; decide +kernel, by rw [RoundsUp]; decide +kernel⟩
  have hissued : Issued demoHmac [(demoSettings, demoRequest)] demoSettings.accessTokenSigningKey
      token := ⟨_, List.mem_singleton_self _, rfl, _, h⟩
  exact ⟨token, _, h, htrips, haccepted _ token 0 _ hissued.unforgeable (htrips 0)⟩

/-- A microsecond before a whole second of 30 May 2514. -/
def lateRequest : TokenRequest := { demoRequest with now := ⟨17179869184999999, by omega, by omega⟩ }

/-- The digest of the payload of that request. -/
def lateHmac (_key _message : Bytes) : Bytes :=
  [105, 42, 128, 35, 219, 165, 117, 46, 16, 221, 241, 96, 144, 218, 173, 122, 231, 193, 151, 1, 17,
    18, 81, 131, 178, 242, 178, 3, 30, 145, 176, 215]

theorem late_times_rounded : ∃ token claims read,
    createAccessToken lateHmac demoSettings lateRequest = .ok (token, claims) ∧
      verifyAccessToken lateHmac demoPython token demoSettings 17179869184999999 = .ok read ∧
        claims.issuedAt.truncate.micros = 17179869184000000 ∧
          read.issuedAt.micros = 17179869185000000 := by
  have hexpiry : expiry demoSettings lateRequest = .ok ⟨17179872784999999, by omega, by omega⟩ := rfl
  have hdumps : (dumps (payload lateRequest ⟨17179872784999999, by omega, by omega⟩)).isSome = true := by
    decide +kernel
  have hencoded : (encodeUtf8 demoSettings.accessTokenSigningKey).isSome = true := by decide +kernel
  obtain ⟨text, htext⟩ := Option.isSome_iff_exists.mp hdumps
  obtain ⟨keyBytes, hkey⟩ := Option.isSome_iff_exists.mp hencoded
  obtain ⟨token, h⟩ := createAccessToken_succeeds lateHmac hexpiry htext hkey
  obtain ⟨expiresAt, segment, signature, hexpires, hsegment, hsign, rfl, hclaims⟩ :=
    createAccessToken_eq_ok h
  obtain rfl := Except.ok.inj (hexpiry.symm.trans hexpires)
  have hverify := verifyAccessToken_signed demoPython hsign (payloadSegment_clean hsegment)
    17179869184999999
  have hissued : fromTimestamp (intTimestamp lateRequest.now.micros) =
      .ok ⟨17179869185000000, by omega, by omega⟩ := by
    have hstamp : intTimestamp lateRequest.now.micros = 17179869185 := by decide +kernel
    rw [hstamp]
    rfl
  have hread : fromTimestamp (intTimestamp 17179872784999999) =
      .ok ⟨17179872785000000, by omega, by omega⟩ := by
    have hstamp : intTimestamp 17179872784999999 = 17179872785 := by decide +kernel
    rw [hstamp]
    rfl
  rw [readClaims_payload demoPython hsegment, hissued, hread] at hverify
  exact ⟨_, _, _, h, hverify, rfl, rfl⟩

end Examples

end DemoService.AccessTokens
