import DemoService.TokenAuthenticity

/-! How the verification of a token can fail: with the HTTP error 401, or with an exception that
escapes it. -/

namespace DemoService.AccessTokens

open CodePoints Fallible PyConversions PyJson

/-- Claims, or the HTTP error 401. -/
def OnlyFailsAs401 (result : Except TokenFailure AccessTokenClaims) : Prop :=
  ∀ failure, result = .error failure → ∃ exception, failure = .http exception ∧
    exception.statusCode = 401

/-- The exception is none that `verify_access_token` turns into a 401. -/
def Uncaught {α : Type} (result : Except ExceptionClass α) : Prop :=
  Fails (fun cls => isCaught cls = false) result

section Payload

variable (python : Interpreter)

/-- What a field of the payload is read as. -/
inductive FieldKind
  | text
  | integer
  | experience
  | time
  deriving DecidableEq, Repr

/-- The fields in the order in which they are read. -/
def tokenFields : List (String × FieldKind) :=
  [("jti", .text), ("invitation_code_id", .integer), ("code", .text), ("experience_id", .experience),
    ("iat", .time), ("exp", .time)]

/-- The reading of a field, without its result. -/
def readField (payload : Json) (field : String × FieldKind) : Except ExceptionClass Unit :=
  match field.2 with
  | .text => getItem field.1 payload >>= toStr python >>= fun _ => .ok ()
  | .integer => getItem field.1 payload >>= toInt >>= fun _ => .ok ()
  | .experience => getItem field.1 payload >>= toStr python >>= experienceOf >>= fun _ => .ok ()
  | .time => getItem field.1 payload >>= toInt >>= fromTimestamp >>= fun _ => .ok ()

/-- A list or a dictionary that nests deeper than `repr` goes. -/
def TooDeep : Json → Prop
  | .arr items => python.reprNesting < height (held (.arr items))
  | .obj members => python.reprNesting < height (held (.obj members))
  | _ => False

/-- A number as large as no finite float. -/
def IsInfinite : Json → Prop
  | .float lexeme => ∃ negative, PyFloats.ofLexeme lexeme = .infinite negative
  | _ => False

/-- The time of a whole number of seconds that `gmtime` does not take. -/
def OutOfRange (value : Json) : Prop := ∃ seconds, toInt value = .ok seconds ∧ ¬ InGmtime seconds

/-- The value of a field that is not read as it should, nor refused. -/
def FieldRaises (value : Json) : FieldKind → Prop
  | .text | .experience => TooDeep python value
  | .integer => IsInfinite value
  | .time => IsInfinite value ∨ OutOfRange value

/-- A field raises after all fields before it were read. -/
def PayloadRaises (payload : Json) : Prop :=
  ∃ before field after, tokenFields = before ++ field :: after ∧
    (∀ earlier ∈ before, Succeeds (readField python payload earlier)) ∧
      ∃ value, getItem field.1 payload = .ok value ∧ FieldRaises python value field.2

/-- The payload in a segment nests too deeply, or has a field that raises. -/
def SegmentRaises (segment : Str) : Prop :=
  ∃ data text, b64urlDecode segment = some data ∧ PyCodecs.decodeJson data = some text ∧
    (loads python.nesting text = .error .recursion ∨
      ∃ payload, loads python.nesting text = .ok payload ∧ PayloadRaises python payload)

variable {python} {payload : Json}

theorem getItem_caught {key : String} : ¬ Uncaught (getItem key payload) := by
  rintro ⟨cls, hcls, huncaught⟩
  cases payload with
  | obj members =>
    simp only [getItem] at hcls
    split at hcls
    · cases hcls
    · obtain rfl := Except.error.inj hcls
      cases huncaught
  | _ =>
    obtain rfl := Except.error.inj hcls
    cases huncaught

theorem shortInts_getItem {key : String} {value : Json} (hshort : ShortInts payload)
    (h : getItem key payload = .ok value) : ShortInts value := by
  cases payload with
  | obj members =>
    simp only [getItem] at h
    split at h
    · rename_i member hfind
      obtain rfl := Except.ok.inj h
      exact shortMembers_iff.mp hshort member (List.mem_reverse.mp (List.mem_of_find?_eq_some hfind))
    · cases h
  | _ => cases h

/-- `repr` raises nothing that is not caught but the error of a nesting beyond its limit. -/
theorem uncaught_repr {value : Json} (hshort : ShortInts value) :
    Uncaught ((reprOf python.isPrintable (held value) python.reprNesting).mapError reprException) ↔
      python.reprNesting < height (held value) := by
  have hshort := shortInts_held hshort
  by_cases h : python.reprNesting < height (held value)
  · rw [reprOf_recursion hshort h]
    exact iff_of_true (fails_error.mpr rfl) h
  · obtain ⟨text, htext⟩ : Succeeds (reprOf python.isPrintable (held value) python.reprNesting) :=
      reprOf_succeeds hshort (by omega)
    rw [htext]
    exact iff_of_false (not_fails_ok text) h

theorem uncaught_toStr {value : Json} (hshort : ShortInts value) :
    Uncaught (toStr python value) ↔ TooDeep python value := by
  cases value with
  | int value =>
    refine iff_of_false ?_ id
    rintro ⟨cls, hcls, huncaught⟩
    simp only [toStr] at hcls
    split at hcls
    · cases hcls
    · obtain rfl := Except.error.inj hcls
      cases huncaught
  | null => exact iff_of_false (not_fails_ok _) id
  | bool value => exact iff_of_false (not_fails_ok _) id
  | str value => exact iff_of_false (not_fails_ok _) id
  | float lexeme => exact iff_of_false (not_fails_ok _) id
  | arr items => exact uncaught_repr hshort
  | obj members => exact uncaught_repr hshort

theorem uncaught_toInt {value : Json} : Uncaught (toInt value) ↔ IsInfinite value := by
  have htype : ¬ Uncaught (.error .typeError : Except ExceptionClass Int) := by
    rw [Uncaught, fails_error]
    decide
  have hvalue : ¬ Uncaught (.error .valueError : Except ExceptionClass Int) := by
    rw [Uncaught, fails_error]
    decide
  cases value with
  | null => exact iff_of_false htype id
  | arr items => exact iff_of_false htype id
  | obj members => exact iff_of_false htype id
  | int value => exact iff_of_false (not_fails_ok _) id
  | bool value => exact iff_of_false (not_fails_ok _) id
  | str value =>
    rw [toInt]
    cases intOfText value with
    | some number => exact iff_of_false (not_fails_ok _) id
    | none => exact iff_of_false hvalue id
  | float lexeme =>
    rw [toInt, IsInfinite]
    cases PyFloats.ofLexeme lexeme with
    | nan =>
      refine iff_of_false hvalue ?_
      rintro ⟨_, hsame⟩
      cases hsame
    | finite negative mantissa exponent =>
      refine iff_of_false (not_fails_ok _) ?_
      rintro ⟨_, hsame⟩
      cases hsame
    | infinite negative => exact iff_of_true (fails_error.mpr rfl) ⟨negative, rfl⟩

theorem experienceOf_caught {value : Str} : ¬ Uncaught (experienceOf value) := by
  rintro ⟨cls, hcls, huncaught⟩
  unfold experienceOf at hcls
  split at hcls
  · cases hcls
  · obtain rfl := Except.error.inj hcls
    cases huncaught

/-- Every `datetime` is of a year that `gmtime` knows. -/
theorem inGmtime_of_moment {seconds : Int} {moment : Moment}
    (h : Moment.ofMicros? (seconds * 1000000) = some moment) : InGmtime seconds := by
  unfold Moment.ofMicros? at h
  split at h
  · rename_i hrange
    unfold InGmtime
    omega
  · cases h

theorem uncaught_fromTimestamp {seconds : Int} :
    Uncaught (fromTimestamp seconds) ↔ ¬ InGmtime seconds := by
  unfold fromTimestamp
  cases hmoment : Moment.ofMicros? (seconds * 1000000) with
  | some moment => exact iff_of_false (not_fails_ok _) (not_not_intro (inGmtime_of_moment hmoment))
  | none =>
    refine fails_error.trans ?_
    by_cases h : InGmtime seconds
    · rw [if_pos h]
      exact iff_of_false Bool.noConfusion (not_not_intro h)
    · rw [if_neg h]
      exact iff_of_true rfl h

/-- A field that is there raises as its value does. -/
theorem uncaught_readField {field : String × FieldKind} (hshort : ShortInts payload) :
    Uncaught (readField python payload field) ↔
      ∃ value, getItem field.1 payload = .ok value ∧ FieldRaises python value field.2 := by
  have hget : ¬ Fails (fun cls => isCaught cls = false) (getItem field.1 payload) := getItem_caught
  have hend : ¬ Fails (fun cls => isCaught cls = false) (.ok () : Except ExceptionClass Unit) :=
    not_fails_ok ()
  obtain ⟨key, kind⟩ := field
  cases kind with
  | text =>
    rw [Uncaught, readField, fails_bind_const, fails_bind]
    simp only [hget, hend, false_or, and_false, or_false]
    exact exists_congr fun value => and_congr_right fun hvalue =>
      uncaught_toStr (shortInts_getItem hshort hvalue)
  | integer =>
    rw [Uncaught, readField, fails_bind_const, fails_bind]
    simp only [hget, hend, false_or, and_false, or_false]
    exact exists_congr fun value => and_congr_right fun _ => uncaught_toInt
  | experience =>
    have hexperience : ∀ value,
        ¬ Fails (fun cls => isCaught cls = false) (experienceOf value) := fun _ => experienceOf_caught
    rw [Uncaught, readField, fails_bind_const, fails_bind, fails_bind]
    simp only [hget, hend, hexperience, false_or, and_false, exists_false, or_false]
    exact exists_congr fun value => and_congr_right fun hvalue =>
      uncaught_toStr (shortInts_getItem hshort hvalue)
  | time =>
    rw [Uncaught, readField, fails_bind_const, fails_bind, fails_bind]
    simp only [hget, hend, false_or, and_false, or_false]
    constructor
    · rintro (⟨value, hvalue, h⟩ | ⟨seconds, hseconds, h⟩)
      · exact ⟨value, hvalue, .inl (uncaught_toInt.mp h)⟩
      · obtain ⟨value, hvalue, hint⟩ := bind_eq_ok.mp hseconds
        exact ⟨value, hvalue, .inr ⟨seconds, hint, uncaught_fromTimestamp.mp h⟩⟩
    · rintro ⟨value, hvalue, h | ⟨seconds, hint, h⟩⟩
      · exact .inl ⟨value, hvalue, uncaught_toInt.mpr h⟩
      · exact .inr ⟨seconds, bind_eq_ok.mpr ⟨value, hvalue, hint⟩, uncaught_fromTimestamp.mpr h⟩

/-- The claims of a payload, read field by field. -/
def claimsOf (python : Interpreter) (payload : Json) : Except ExceptionClass AccessTokenClaims := do
  let tokenId ← getItem "jti" payload >>= toStr python
  let invitationCodeId ← getItem "invitation_code_id" payload >>= toInt
  let code ← getItem "code" payload >>= toStr python
  let experienceId ← getItem "experience_id" payload >>= toStr python >>= experienceOf
  let issuedAt ← getItem "iat" payload >>= toInt >>= fromTimestamp
  let expiresAt ← getItem "exp" payload >>= toInt >>= fromTimestamp
  .ok { tokenId, invitationCodeId, code, experienceId, issuedAt, expiresAt }

/-- What escapes the reading of the fields escapes the first of them that fails. -/
theorem uncaught_claimsOf (hshort : ShortInts payload) :
    Uncaught (claimsOf python payload) ↔ PayloadRaises python payload := by
  have hchain : Uncaught (claimsOf python payload) ↔
      Fails (fun cls => isCaught cls = false) (inOrder (readField python payload) tokenFields) := by
    refine fails_bind_inOrder rfl fun tokenId => ?_
    refine fails_bind_inOrder rfl fun invitationCodeId => ?_
    refine fails_bind_inOrder rfl fun code => ?_
    refine fails_bind_inOrder rfl fun experienceId => ?_
    refine fails_bind_inOrder rfl fun issuedAt => ?_
    refine fails_bind_inOrder rfl fun expiresAt => ?_
    exact iff_of_false (not_fails_ok _) (not_fails_ok _)
  rw [hchain, fails_inOrder]
  exact exists_congr fun before => exists_congr fun field => exists_congr fun after =>
    and_congr_right fun _ => and_congr_right fun _ => uncaught_readField hshort

theorem mapError_eq_ok {text : Str} :
    (loads python.nesting text).mapError loadsException = .ok payload ↔
      loads python.nesting text = .ok payload := by
  cases loads python.nesting text with
  | ok value => simp [Except.mapError]
  | error cause => exact iff_of_false nofun nofun

theorem uncaught_mapError {text : Str} :
    Uncaught ((loads python.nesting text).mapError loadsException) ↔
      loads python.nesting text = .error .recursion := by
  cases loads python.nesting text with
  | ok value => exact iff_of_false (not_fails_ok _) nofun
  | error cause =>
    refine fails_error.trans ?_
    cases cause with
    | decode => exact iff_of_false nofun nofun
    | recursion => exact iff_of_true rfl rfl

theorem uncaught_loadsBytes {data : Bytes} : Uncaught (loadsBytes python data) ↔
    ∃ text, PyCodecs.decodeJson data = some text ∧ loads python.nesting text = .error .recursion := by
  rw [loadsBytes]
  cases PyCodecs.decodeJson data with
  | some text => simp only [uncaught_mapError, Option.some.injEq, exists_eq_left']
  | none =>
    constructor
    · rw [Uncaught, fails_error]
      intro hcaught
      cases hcaught
    · rintro ⟨_, hsome, _⟩
      cases hsome

theorem loadsBytes_eq_ok {data : Bytes} : loadsBytes python data = .ok payload ↔
    ∃ text, PyCodecs.decodeJson data = some text ∧ loads python.nesting text = .ok payload := by
  rw [loadsBytes]
  cases PyCodecs.decodeJson data with
  | some text => simp only [mapError_eq_ok, Option.some.injEq, exists_eq_left']
  | none =>
    constructor
    · intro hread
      cases hread
    · rintro ⟨_, hsome, _⟩
      cases hsome

theorem uncaught_readClaims {segment : Str} :
    Uncaught (readClaims python segment) ↔ SegmentRaises python segment := by
  cases hdata : b64urlDecode segment with
  | none =>
    have hread : readClaims python segment = .error .valueError := by
      rw [readClaims, hdata]
      rfl
    rw [hread, Uncaught, fails_error, SegmentRaises, hdata]
    constructor
    · intro hcaught
      cases hcaught
    · rintro ⟨_, _, hsome, _⟩
      cases hsome
  | some data =>
    have hread : readClaims python segment = loadsBytes python data >>= claimsOf python := by
      rw [readClaims, hdata]
      rfl
    rw [hread, Uncaught, fails_bind, SegmentRaises, hdata]
    constructor
    · rintro (h | ⟨payload, hpayload, h⟩)
      · obtain ⟨text, htext, h⟩ := uncaught_loadsBytes.mp h
        exact ⟨data, text, rfl, htext, .inl h⟩
      · obtain ⟨text, htext, hloads⟩ := loadsBytes_eq_ok.mp hpayload
        have hraises := (uncaught_claimsOf (loads_shortInts hloads)).mp h
        exact ⟨data, text, rfl, htext, .inr ⟨payload, hloads, hraises⟩⟩
    · rintro ⟨_, text, hsome, htext, h⟩
      obtain rfl := Option.some.inj hsome
      rcases h with h | ⟨payload, hloads, h⟩
      · exact .inl (uncaught_loadsBytes.mpr ⟨text, htext, h⟩)
      · exact .inr ⟨payload, loadsBytes_eq_ok.mpr ⟨text, htext, hloads⟩,
          (uncaught_claimsOf (loads_shortInts hloads)).mpr h⟩

end Payload

section Verification

variable {hmacSha256 : Bytes → Bytes → Bytes} {python : Interpreter} {settings : Settings} {now : Int}

theorem judgeClaims_onlyFailsAs401 {read : Except ExceptionClass AccessTokenClaims} :
    OnlyFailsAs401 (judgeClaims now read) ↔ ¬ Uncaught read := by
  cases read with
  | error cls =>
    rw [Uncaught, fails_error, judgeClaims, Bool.not_eq_false]
    cases hcaught : isCaught cls with
    | true => exact iff_of_true (fun failure h => ⟨_, (Except.error.inj h).symm, rfl⟩) rfl
    | false =>
      refine iff_of_false (fun h => ?_) Bool.false_ne_true
      obtain ⟨exception, hexception, -⟩ := h _ rfl
      cases hexception
  | ok claims =>
    refine iff_of_true (fun failure h => ?_) (not_fails_ok claims)
    rw [judgeClaims] at h
    split at h
    · exact ⟨_, (Except.error.inj h).symm, rfl⟩
    · cases h

theorem isAscii_append_all (a b : Str) :
    ((a ++ b).all fun c => decide (c.val < 0x80)) = true ↔ IsAscii a ∧ IsAscii b := by
  rw [List.all_eq_true, ← isAscii_append]
  exact forall₂_congr fun c _ => decide_eq_true_iff

/-- The key has a UTF-8 form, both parts of the token are ASCII, and no signed payload raises. -/
def Handled (hmacSha256 : Bytes → Bytes → Bytes) (python : Interpreter) (settings : Settings)
    (segment signature : Str) : Prop :=
  (encodeUtf8 settings.accessTokenSigningKey).isSome = true ∧ IsAscii segment ∧ IsAscii signature ∧
    (sign hmacSha256 segment settings.accessTokenSigningKey = .ok signature →
      ¬ SegmentRaises python segment)

theorem escaped_not_401 {cls : ExceptionClass} :
    ¬ OnlyFailsAs401 (.error (.escaped cls) : Except TokenFailure AccessTokenClaims) := by
  intro h
  obtain ⟨exception, hexception, -⟩ := h _ rfl
  cases hexception

theorem sign_isOk {segment : Str} (h : Succeeds (sign hmacSha256 segment
    settings.accessTokenSigningKey)) : (encodeUtf8 settings.accessTokenSigningKey).isSome = true ∧
      IsAscii segment := by
  obtain ⟨signature, hsign⟩ := h
  obtain ⟨key, message, hkey, hmessage, -⟩ := sign_eq_ok hsign
  exact ⟨by rw [hkey]; rfl, (isAscii_of_encodeAscii hmessage).1⟩

theorem sign_succeeds {segment : Str}
    (hkey : (encodeUtf8 settings.accessTokenSigningKey).isSome = true) (hsegment : IsAscii segment) :
    ∃ expected, sign hmacSha256 segment settings.accessTokenSigningKey = .ok expected ∧
      IsAscii expected := by
  obtain ⟨key, hkey⟩ := Option.isSome_iff_exists.mp hkey
  obtain ⟨message, hmessage⟩ : ∃ message, encodeAscii segment = some message :=
    ⟨_, encodeAscii_eq_some hsegment⟩
  refine ⟨b64urlEncode (hmacSha256 key message), ?_, (b64urlEncode_clean _).1⟩
  rw [sign, hkey, hmessage]

/-- With ASCII parts and a usable key, only a signed payload can let an exception escape. -/
theorem judged_iff {segment signature : Str}
    (hkey : (encodeUtf8 settings.accessTokenSigningKey).isSome = true) (hsegment : IsAscii segment)
    (hsignature : IsAscii signature) :
    OnlyFailsAs401 (match sign hmacSha256 segment settings.accessTokenSigningKey >>=
        compareDigest signature with
      | .error cls => .error (.escaped cls)
      | .ok false => .error invalidToken
      | .ok true => judgeClaims now (readClaims python segment)) ↔
        (sign hmacSha256 segment settings.accessTokenSigningKey = .ok signature →
          ¬ SegmentRaises python segment) := by
  obtain ⟨expected, hsign, hexpected⟩ : ∃ expected,
      sign hmacSha256 segment settings.accessTokenSigningKey = .ok expected ∧ IsAscii expected :=
    sign_succeeds hkey hsegment
  have hcompare : sign hmacSha256 segment settings.accessTokenSigningKey >>= compareDigest signature =
      .ok (decide (signature = expected)) := by
    rw [hsign]
    exact if_pos ((isAscii_append_all signature expected).mpr ⟨hsignature, hexpected⟩)
  rw [hcompare, hsign]
  by_cases heq : signature = expected
  · rw [decide_eq_true heq, heq]
    simp only [true_imp_iff]
    rw [judgeClaims_onlyFailsAs401, uncaught_readClaims]
  · rw [decide_eq_false heq]
    refine iff_of_true (fun failure h => ⟨_, (Except.error.inj h).symm, rfl⟩) fun h => ?_
    exact absurd (Except.ok.inj h).symm heq

/-- A verification succeeds or fails with the HTTP error 401, whatever the token, exactly where the
token has one part or its parts are handled. -/
theorem only_fails_as_401_iff (hmacSha256 : Bytes → Bytes → Bytes) (python : Interpreter)
    (token : Str) (settings : Settings) (now : Int) :
    OnlyFailsAs401 (verifyAccessToken hmacSha256 python token settings now) ↔
      ∀ segment signature, splitToken token = some (segment, signature) →
        Handled hmacSha256 python settings segment signature := by
  rw [verifyAccessToken]
  cases hsplit : splitToken token with
  | none =>
    refine iff_of_true (fun failure h => ⟨_, (Except.error.inj h).symm, rfl⟩) ?_
    intro segment signature h
    cases h
  | some parts =>
    obtain ⟨segment, signature⟩ := parts
    have hparts : (∀ segment' signature', some (segment, signature) = some (segment', signature') →
        Handled hmacSha256 python settings segment' signature') ↔
          Handled hmacSha256 python settings segment signature := by
      refine ⟨fun h => h _ _ rfl, fun h segment' signature' heq => ?_⟩
      obtain ⟨rfl, rfl⟩ := Prod.mk.inj (Option.some.inj heq)
      exact h
    rw [hparts, Handled]
    by_cases hkey : (encodeUtf8 settings.accessTokenSigningKey).isSome = true ∧ IsAscii segment
    · by_cases hsignature : IsAscii signature
      · simp only [hkey.1, hkey.2, hsignature, true_and]
        exact judged_iff hkey.1 hkey.2 hsignature
      · refine iff_of_false (fun h => ?_) fun h => hsignature h.2.2.1
        obtain ⟨expected, hsign, -⟩ : ∃ expected,
            sign hmacSha256 segment settings.accessTokenSigningKey = .ok expected ∧
              IsAscii expected := sign_succeeds hkey.1 hkey.2
        have hcompare : sign hmacSha256 segment settings.accessTokenSigningKey >>=
            compareDigest signature = .error .typeError := by
          rw [hsign]
          exact if_neg fun hall => hsignature ((isAscii_append_all signature expected).mp hall).1
        simp only [hcompare] at h
        exact escaped_not_401 h
    · refine iff_of_false (fun h => ?_) fun h => hkey ⟨h.1, h.2.1⟩
      cases hsign : sign hmacSha256 segment settings.accessTokenSigningKey with
      | ok expected => exact hkey (sign_isOk ⟨expected, hsign⟩)
      | error cls =>
        simp only [hsign] at h
        exact escaped_not_401 h

/-- A token with a letter outside ASCII. -/
def accentedToken : Str := [chr 'é', chr '.', chr 'x']

theorem accented_token_escapes :
    verifyAccessToken demoHmac demoPython accentedToken demoSettings 0 =
        .error (.escaped .valueError) ∧
      ¬ OnlyFailsAs401 (verifyAccessToken demoHmac demoPython accentedToken demoSettings 0) := by
  have hescapes : verifyAccessToken demoHmac demoPython accentedToken demoSettings 0 =
      .error (.escaped .valueError) := by
    have hsplit : splitToken accentedToken = some ([chr 'é'], [chr 'x']) := by decide +kernel
    have hencode : encodeAscii [chr 'é'] = none := by decide +kernel
    have hsign : sign demoHmac [chr 'é'] demoSettings.accessTokenSigningKey = .error .valueError := by
      rw [sign, hencode]
      cases encodeUtf8 demoSettings.accessTokenSigningKey <;> rfl
    rw [verifyAccessToken, hsplit]
    simp only [hsign]
    rfl
  refine ⟨hescapes, ?_⟩
  rw [hescapes]
  exact escaped_not_401

end Verification

end DemoService.AccessTokens
