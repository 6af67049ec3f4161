import DemoService.AccessTokens
import DemoService.Fallible

/-! Verification of the tokens this service creates, and of those it does not. -/

namespace DemoService.AccessTokens

open CodePoints Fallible PyJson

section Base64Url

theorem b64urlEncode_shape (raw : Bytes) :
    ∃ body : Bytes, b64urlEncode raw = decodeAscii body ∧
      (∀ c ∈ body, c.toNat < 0x80 ∧ c ≠ 0x2E) ∧
      (body ++ List.replicate ((4 - body.length % 4) % 4) Base64.pad).map
        Base64.urlsafeDecodeTranslation = Base64.b2aBase64 raw := by
  obtain ⟨body, pads, -, hbody, rfl, hascii, hback⟩ := Base64.urlsafeB64encode_stripped raw
  exact ⟨body, by rw [b64urlEncode, hbody], hascii, hback⟩

/-- The decoder undoes the encoder for all bytes. -/
theorem b64urlDecode_b64urlEncode (raw : Bytes) : b64urlDecode (b64urlEncode raw) = some raw := by
  obtain ⟨body, hencoded, hbody, hback⟩ := b64urlEncode_shape raw
  have hpadded : decodeAscii body ++
      List.replicate ((4 - (decodeAscii body).length % 4) % 4) (chr '=') =
        decodeAscii (body ++ List.replicate ((4 - body.length % 4) % 4) Base64.pad) := by
    rw [decodeAscii, decodeAscii, List.map_append, List.map_replicate, List.length_map]
    rfl
  have hascii : ∀ b ∈ body ++ List.replicate ((4 - body.length % 4) % 4) Base64.pad,
      b.toNat < 0x80 := by
    intro b hb
    rw [List.mem_append] at hb
    rcases hb with hb | hb
    · exact (hbody b hb).1
    · rw [List.eq_of_mem_replicate hb]
      decide
  rw [b64urlDecode, hencoded, hpadded, Base64.urlsafeB64decode, encodeAscii_decodeAscii hascii]
  show Base64.a2bBase64 0 0 0 _ = some raw
  rw [hback, Base64.a2bBase64_b2aBase64]

/-- The encoding is ASCII without the separator of a token. -/
theorem b64urlEncode_clean (raw : Bytes) :
    IsAscii (b64urlEncode raw) ∧ chr '.' ∉ b64urlEncode raw := by
  obtain ⟨body, hencoded, hbody, -⟩ := b64urlEncode_shape raw
  have hval : ∀ b ∈ body, (Fin.ofNat 0x110000 b.toNat).val = b.toNat := by
    intro b hb
    have hlt := (hbody b hb).1
    exact val_ofNat (by omega)
  rw [hencoded, decodeAscii]
  constructor
  · intro c hc
    obtain ⟨b, hb, rfl⟩ := List.mem_map.mp hc
    rw [hval b hb]
    exact (hbody b hb).1
  · intro hc
    obtain ⟨b, hb, heq⟩ := List.mem_map.mp hc
    have hbval := hval b hb
    rw [heq] at hbval
    exact (hbody b hb).2 (UInt8.toNat_inj.mp hbval.symm)

end Base64Url

section Parts

theorem splitToken_append {segment signature : Str} (h : chr '.' ∉ segment) :
    splitToken (segment ++ chr '.' :: signature) = some (segment, signature) := by
  have hpos : ∀ c ∈ segment, decide (c ≠ chr '.') = true := by
    intro c hc
    exact decide_eq_true fun heq => h (heq ▸ hc)
  rw [splitToken, if_pos (by simp), List.takeWhile_append_of_pos hpos,
    List.dropWhile_append_of_pos hpos]
  simp

theorem splitToken_eq_some {token segment signature : Str}
    (h : splitToken token = some (segment, signature)) : token = segment ++ chr '.' :: signature := by
  by_cases hmem : chr '.' ∈ token
  · obtain ⟨front, back, rfl, hfront⟩ := List.eq_append_cons_of_mem hmem
    rw [splitToken_append hfront, Option.some.injEq, Prod.mk.injEq] at h
    rw [h.1, h.2]
  · rw [splitToken, if_neg hmem] at h
    cases h

theorem sign_eq_ok {hmacSha256 : Bytes → Bytes → Bytes} {segment secret signature : Str}
    (h : sign hmacSha256 segment secret = .ok signature) :
    ∃ key message, encodeUtf8 secret = some key ∧ encodeAscii segment = some message ∧
      signature = b64urlEncode (hmacSha256 key message) := by
  unfold sign at h
  split at h
  · rename_i key message hkey hmessage
    exact ⟨key, message, hkey, hmessage, (Except.ok.inj h).symm⟩
  · cases h

theorem compareDigest_self {a : Str} (h : IsAscii a) : compareDigest a a = .ok true := by
  have hall : ((a ++ a).all fun c => decide (c.val < 0x80)) = true := by
    rw [List.all_eq_true]
    intro c hc
    rw [List.mem_append, or_self] at hc
    exact decide_eq_true (h c hc)
  rw [compareDigest, if_pos hall, decide_eq_true rfl]

theorem compareDigest_eq_true {a b : Str} (h : compareDigest a b = .ok true) : a = b := by
  unfold compareDigest at h
  split at h
  · exact of_decide_eq_true (Except.ok.inj h)
  · cases h

end Parts

section Payload

variable {request : TokenRequest} {expiresAt : Moment} {segment : Str}

/-- The members of a payload in the order of their keys. -/
theorem payload_sorted (request : TokenRequest) (expiresAt : Moment) :
    (payload request expiresAt).insertionSort (fun a b => a.1 ≤ b.1) =
      [(ofString "code", .text request.code),
        (ofString "exp", .number (intTimestamp expiresAt.micros)),
        (ofString "experience_id", .text (ofString request.experienceId.value)),
        (ofString "iat", .number (intTimestamp request.now.micros)),
        (ofString "invitation_code_id", .number request.invitationCodeId),
        (ofString "jti", .text (tokenHex request.random))] := by
  rfl

/-- What `loads` returns for a payload of this service. -/
def payloadJson (request : TokenRequest) (expiresAt : Moment) : Json :=
  .obj [(ofString "code", .str (joinSurrogates request.code)),
    (ofString "exp", .int (intTimestamp expiresAt.micros)),
    (ofString "experience_id", .str (ofString request.experienceId.value)),
    (ofString "iat", .int (intTimestamp request.now.micros)),
    (ofString "invitation_code_id", .int request.invitationCodeId),
    (ofString "jti", .str (tokenHex request.random))]

theorem isAscii_tokenHex (random : Bytes) : IsAscii (tokenHex random) := by
  intro c hc
  obtain ⟨b, -, hc⟩ := List.mem_flatMap.mp hc
  have hlt := b.toNat_lt
  have hhigh := printable_hexOf (b.toNat / 16)
  have hlow := printable_hexOf (b.toNat % 16)
  rw [Nat.mod_eq_of_lt (by omega)] at hhigh hlow
  simp only [List.mem_cons, List.not_mem_nil, or_false] at hc
  rcases hc with rfl | rfl
  · omega
  · omega

theorem isAscii_value (experienceId : ExperienceId) : IsAscii (ofString experienceId.value) := by
  have hall : ((ofString experienceId.value).all fun c => decide (c.val < 0x80)) = true := by
    cases experienceId <;> rfl
  exact fun c hc => of_decide_eq_true (List.all_eq_true.mp hall c hc)

theorem read_payload (request : TokenRequest) (expiresAt : Moment) :
    .obj (((payload request expiresAt).insertionSort fun a b => a.1 ≤ b.1).map readMember) =
      payloadJson request expiresAt := by
  have hkeys : ∀ key ∈ ["code", "exp", "experience_id", "iat", "invitation_code_id", "jti"],
      joinSurrogates (ofString key) = ofString key := by decide
  simp only [List.forall_mem_cons] at hkeys
  obtain ⟨hcode, hexp, hexperience, hiat, hid, hjti, -⟩ := hkeys
  rw [payload_sorted]
  simp only [List.map_cons, List.map_nil, readMember, Scalar.read, hcode, hexp, hexperience, hiat,
    hid, hjti, joinSurrogates_of_ascii (isAscii_tokenHex request.random),
    joinSurrogates_of_ascii (isAscii_value request.experienceId)]
  rfl

theorem loadsBytes_payload (python : Interpreter) {text : Str} {bytes : Bytes}
    (hdumps : dumps (payload request expiresAt) = some text) (hbytes : encodeUtf8 text = some bytes) :
    loadsBytes python bytes = .ok (payloadJson request expiresAt) := by
  have hprintable := printable_dumps hdumps
  have hascii := isAscii_of_printable hprintable
  rw [encodeUtf8_of_ascii hascii] at hbytes
  have hdecode := (isAscii_of_encodeAscii hbytes).2
  have hall : ∀ b ∈ bytes, 0 < b ∧ b < 0x80 := by
    rw [encodeAscii_eq_some hascii] at hbytes
    obtain rfl := Option.some.inj hbytes
    intro b hb
    obtain ⟨c, hc, rfl⟩ := List.mem_map.mp hb
    have hc := hprintable c hc
    have hval : (UInt8.ofNat c.val).toNat = c.val := by
      rw [UInt8.toNat_ofNat']
      omega
    rw [UInt8.lt_iff_toNat_lt, UInt8.lt_iff_toNat_lt, hval]
    show 0 < c.val ∧ c.val < 0x80
    omega
  have hne : payload request expiresAt ≠ [] := List.cons_ne_nil _ _
  have hloads := loads_dumps python.nesting_pos hne hdumps
  rw [read_payload] at hloads
  rw [loadsBytes, PyCodecs.decodeJson_of_ascii hall, hdecode]
  show (loads python.nesting text).mapError loadsException = _
  rw [hloads]
  rfl

/-- Reading a payload of this service gives the claims of its request again, with the times that
it names. -/
theorem readClaims_payload (python : Interpreter)
    (h : payloadSegment (payload request expiresAt) = .ok segment) :
    readClaims python segment =
      (fromTimestamp (intTimestamp request.now.micros) >>= fun issuedAt =>
        fromTimestamp (intTimestamp expiresAt.micros) >>= fun expiresAt =>
          .ok ⟨tokenHex request.random, request.invitationCodeId, joinSurrogates request.code,
            request.experienceId, issuedAt, expiresAt⟩) := by
  unfold payloadSegment at h
  split at h
  · rename_i bytes hbytes
    obtain ⟨text, hdumps, hbytes⟩ := Option.bind_eq_some_iff.mp hbytes
    obtain rfl := Except.ok.inj h
    have hexperience : experienceOf (ofString request.experienceId.value) =
        .ok request.experienceId := by
      rw [experienceOf, toString?_ofString, Option.map_some, parseExperienceId_value]
    have hloads := loadsBytes_payload python hdumps hbytes
    have hjti : getItem "jti" (payloadJson request expiresAt) = .ok (.str (tokenHex request.random)) :=
      rfl
    have hid : getItem "invitation_code_id" (payloadJson request expiresAt) =
        .ok (.int request.invitationCodeId) := rfl
    have hcode : getItem "code" (payloadJson request expiresAt) =
        .ok (.str (joinSurrogates request.code)) := rfl
    have hexp : getItem "experience_id" (payloadJson request expiresAt) =
        .ok (.str (ofString request.experienceId.value)) := rfl
    have hissued : getItem "iat" (payloadJson request expiresAt) =
        .ok (.int (intTimestamp request.now.micros)) := rfl
    have hexpires : getItem "exp" (payloadJson request expiresAt) =
        .ok (.int (intTimestamp expiresAt.micros)) := rfl
    rw [readClaims, b64urlDecode_b64urlEncode]
    show (loadsBytes python bytes >>= _) = _
    simp only [hloads, bind, Except.bind, hjti, hid, hcode, hexp, hissued, hexpires, toStr, toInt,
      hexperience]
  · cases h

end Payload

section Times

theorem tdiv_million (micros : Int) :
    micros.tdiv 1000000 =
      if micros < 0 then -((micros.natAbs / 1000000 : Nat) : Int)
      else ((micros.natAbs / 1000000 : Nat) : Int) := by
  cases micros with
  | ofNat n =>
    have hnonneg : ¬ Int.ofNat n < 0 := Int.not_lt.mpr (Int.natCast_nonneg n)
    rw [if_neg hnonneg]
    rfl
  | negSucc n =>
    rw [if_pos (Int.negSucc_lt_zero n)]
    rfl

/-- The moment with its fraction of a second dropped. -/
def Moment.truncate (moment : Moment) : Moment where
  micros := moment.micros.tdiv 1000000 * 1000000
  lower := by
    have hlo := moment.lower
    rw [tdiv_million]
    split <;> omega
  upper := by
    have hhi := moment.upper
    rw [tdiv_million]
    split <;> omega

/-- A time so close below a whole second, as it counts from 1970, that the nearest double is that
second. -/
def RoundsUp (micros : Int) : Prop :=
  (1000000 - micros.natAbs % 1000000) * 2 ^ (53 - Nat.log2 (micros.natAbs / 1000000)) ≤ 1000000

/-- The fraction is dropped exactly where the quotient is not rounded to the next second. -/
theorem intTimestamp_eq_tdiv_iff (moment : Moment) :
    intTimestamp moment.micros = moment.micros.tdiv 1000000 ↔ ¬ RoundsUp moment.micros := by
  have hlo := moment.lower
  have hhi := moment.upper
  have hpart := NearestDouble.intPart_eq (n := moment.micros.natAbs) (show 0 < 1000000 by omega)
    (by omega) (by omega)
  have hexact : NearestDouble.intPart moment.micros.natAbs 1000000 = moment.micros.natAbs / 1000000 ↔
      ¬ RoundsUp moment.micros := by
    rw [hpart, RoundsUp]
    split
    · rename_i hclose
      exact iff_of_false (by omega) (not_not.mpr hclose)
    · rename_i hfar
      exact iff_of_true rfl hfar
  rw [← hexact, intTimestamp, tdiv_million]
  split <;> omega

theorem ofMicros?_eq_some {micros : Int} {moment : Moment}
    (h : Moment.ofMicros? micros = some moment) : moment.micros = micros := by
  unfold Moment.ofMicros? at h
  split at h
  · obtain rfl := Option.some.inj h
    rfl
  · cases h

theorem ofMicros?_micros (moment : Moment) : Moment.ofMicros? moment.micros = some moment := by
  rw [Moment.ofMicros?, dif_pos ⟨moment.lower, moment.upper⟩]

theorem fromTimestamp_truncate (moment : Moment) :
    fromTimestamp (moment.micros.tdiv 1000000) = .ok moment.truncate := by
  have hmoment := ofMicros?_micros moment.truncate
  rw [Moment.truncate] at hmoment
  rw [fromTimestamp, hmoment]
  rfl

theorem fromTimestamp_eq_ok {seconds : Int} {moment : Moment}
    (h : fromTimestamp seconds = .ok moment) : moment.micros = seconds * 1000000 := by
  unfold fromTimestamp at h
  split at h
  · rename_i hmoment
    obtain rfl := Except.ok.inj h
    exact ofMicros?_eq_some hmoment
  · cases h

/-- A moment is read back from its timestamp as itself in whole seconds exactly where its
timestamp is not rounded up. -/
theorem fromTimestamp_intTimestamp_iff (moment : Moment) :
    fromTimestamp (intTimestamp moment.micros) = .ok moment.truncate ↔
      ¬ RoundsUp moment.micros := by
  rw [← intTimestamp_eq_tdiv_iff]
  constructor
  · intro h
    have hmicros := fromTimestamp_eq_ok h
    rw [Moment.truncate] at hmicros
    simp only at hmicros
    omega
  · intro h
    rw [h, fromTimestamp_truncate]

end Times

section Verified

variable {hmacSha256 : Bytes → Bytes → Bytes} {settings : Settings} {request : TokenRequest}
  {token : Str} {claims : AccessTokenClaims}

/-- A created token is its payload segment and the signature of that, and its claims are those of
the request. -/
theorem createAccessToken_eq_ok
    (h : createAccessToken hmacSha256 settings request = .ok (token, claims)) :
    ∃ expiresAt segment signature, expiry settings request = .ok expiresAt ∧
      payloadSegment (payload request expiresAt) = .ok segment ∧
      sign hmacSha256 segment settings.accessTokenSigningKey = .ok signature ∧
      token = segment ++ chr '.' :: signature ∧
      claims = ⟨tokenHex request.random, request.invitationCodeId, request.code,
        request.experienceId, request.now, expiresAt⟩ := by
  obtain ⟨expiresAt, hexpiry, h⟩ := bind_eq_ok.mp h
  obtain ⟨segment, hsegment, h⟩ := bind_eq_ok.mp h
  obtain ⟨signature, hsign, h⟩ := bind_eq_ok.mp h
  obtain ⟨rfl, rfl⟩ := Prod.mk.inj (Except.ok.inj h)
  exact ⟨expiresAt, segment, signature, hexpiry, hsegment, hsign, rfl, rfl⟩

theorem createAccessToken_of_parts {expiresAt : Moment} {segment signature : Str}
    (hexpiry : expiry settings request = .ok expiresAt)
    (hsegment : payloadSegment (payload request expiresAt) = .ok segment)
    (hsign : sign hmacSha256 segment settings.accessTokenSigningKey = .ok signature) :
    createAccessToken hmacSha256 settings request = .ok (segment ++ chr '.' :: signature,
      ⟨tokenHex request.random, request.invitationCodeId, request.code, request.experienceId,
        request.now, expiresAt⟩) :=
  bind_eq_ok.mpr ⟨_, hexpiry, bind_eq_ok.mpr ⟨_, hsegment, bind_eq_ok.mpr ⟨_, hsign, rfl⟩⟩⟩

/-- A token is created whenever its expiry is a date, its id can be written and the key has an
encoding. -/
theorem createAccessToken_succeeds (hmacSha256 : Bytes → Bytes → Bytes) {expiresAt : Moment}
    {text : Str} {keyBytes : Bytes} (hexpiry : expiry settings request = .ok expiresAt)
    (htext : dumps (payload request expiresAt) = some text)
    (hkey : encodeUtf8 settings.accessTokenSigningKey = some keyBytes) :
    ∃ token, createAccessToken hmacSha256 settings request = .ok (token,
      ⟨tokenHex request.random, request.invitationCodeId, request.code, request.experienceId,
        request.now, expiresAt⟩) := by
  have hascii : IsAscii text := isAscii_of_printable (printable_dumps htext)
  obtain ⟨bytes, hbytes⟩ : ∃ bytes, encodeUtf8 text = some bytes :=
    ⟨_, (encodeUtf8_of_ascii hascii).trans (encodeAscii_eq_some hascii)⟩
  have hsegment : payloadSegment (payload request expiresAt) = .ok (b64urlEncode bytes) := by
    rw [payloadSegment, htext, Option.bind_some, hbytes]
  have hmessage := encodeAscii_eq_some (b64urlEncode_clean bytes).1
  have hsign : ∃ signature, sign hmacSha256 (b64urlEncode bytes) settings.accessTokenSigningKey =
      .ok signature := by
    rw [sign, hkey, hmessage]
    exact ⟨_, rfl⟩
  obtain ⟨signature, hsign⟩ := hsign
  exact ⟨_, createAccessToken_of_parts hexpiry hsegment hsign⟩

theorem payloadSegment_clean {payload : List (Str × Scalar)} {segment : Str}
    (h : payloadSegment payload = .ok segment) : chr '.' ∉ segment := by
  unfold payloadSegment at h
  split at h
  · obtain rfl := Except.ok.inj h
    exact (b64urlEncode_clean _).2
  · cases h

theorem judgeClaims_eq_ok {now : Int} {read : Except ExceptionClass AccessTokenClaims}
    (h : judgeClaims now read = .ok claims) : read = .ok claims := by
  cases read with
  | error cls => cases h
  | ok claims =>
    rw [judgeClaims] at h
    split at h
    · cases h
    · rw [Except.ok.inj h]

/-- A payload with the right signature is read, whoever put them together. -/
theorem verifyAccessToken_signed (python : Interpreter) {segment signature : Str}
    (hsign : sign hmacSha256 segment settings.accessTokenSigningKey = .ok signature)
    (hclean : chr '.' ∉ segment) (now : Int) :
    verifyAccessToken hmacSha256 python (segment ++ chr '.' :: signature) settings now =
      judgeClaims now (readClaims python segment) := by
  obtain ⟨key, message, -, -, hsignature⟩ := sign_eq_ok hsign
  have hascii : IsAscii signature := hsignature ▸ (b64urlEncode_clean _).1
  have hcompare : (sign hmacSha256 segment settings.accessTokenSigningKey >>=
      compareDigest signature) = .ok true := by
    rw [hsign]
    exact compareDigest_self hascii
  simp only [verifyAccessToken, splitToken_append hclean, hcompare]

/-- The claims with their times in whole seconds. -/
def AccessTokenClaims.truncate (claims : AccessTokenClaims) : AccessTokenClaims :=
  { claims with issuedAt := claims.issuedAt.truncate, expiresAt := claims.expiresAt.truncate }

/-- The token gives its claims in whole seconds before the expiry in whole seconds, and is
refused as expired from then on. -/
def RoundTrips (hmacSha256 : Bytes → Bytes → Bytes) (python : Interpreter) (settings : Settings)
    (token : Str) (claims : AccessTokenClaims) : Prop :=
  ∀ now : Int, verifyAccessToken hmacSha256 python token settings now =
    if now < claims.expiresAt.truncate.micros then .ok claims.truncate else .error expiredToken

theorem roundTrips_iff (python : Interpreter)
    (h : createAccessToken hmacSha256 settings request = .ok (token, claims)) :
    RoundTrips hmacSha256 python settings token claims ↔
      ¬ SplitPair claims.code ∧ ¬ RoundsUp claims.issuedAt.micros ∧
        ¬ RoundsUp claims.expiresAt.micros := by
  obtain ⟨expiresAt, segment, signature, -, hsegment, hsign, rfl, rfl⟩ := createAccessToken_eq_ok h
  have hverify := verifyAccessToken_signed python hsign (payloadSegment_clean hsegment)
  have hread := readClaims_payload python hsegment
  simp only
  rw [← joinSurrogates_eq_self_iff, ← fromTimestamp_intTimestamp_iff request.now,
    ← fromTimestamp_intTimestamp_iff expiresAt]
  constructor
  · intro htrip
    -- Any moment before the expiry tells what was read.
    have hbefore := htrip (expiresAt.truncate.micros - 1)
    rw [if_pos (Int.sub_one_lt_of_le le_rfl), hverify, hread] at hbefore
    have hclaims := judgeClaims_eq_ok hbefore
    obtain ⟨issued, hissued, hclaims⟩ := bind_eq_ok.mp hclaims
    obtain ⟨expires, hexpires, hclaims⟩ := bind_eq_ok.mp hclaims
    have hfields := AccessTokenClaims.mk.inj (Except.ok.inj hclaims)
    obtain ⟨-, -, hcode, -, rfl, rfl⟩ := hfields
    exact ⟨hcode, hissued, hexpires⟩
  · rintro ⟨hcode, hissued, hexpires⟩ now
    rw [hverify, hread, hissued, hexpires, hcode]
    show (if expiresAt.truncate.micros ≤ now then Except.error expiredToken else Except.ok _) = _
    by_cases hnow : now < expiresAt.truncate.micros
    · rw [if_neg (Int.not_le.mpr hnow), if_pos hnow]
      rfl
    · rw [if_pos (Int.not_lt.mp hnow), if_neg hnow]

end Verified

end DemoService.AccessTokens
