import DemoService.PyText

/-! The invitation tables and the checks of one redemption request. Row ids are
assigned by the database; times are seconds. -/

namespace DemoService

open PyText

structure HttpException where
  statusCode : Nat
  detail : String
  deriving DecidableEq, Repr

/-- The experiences an invitation label or a token can name. -/
inductive ExperienceId
  | messyNotes
  | contextWorkbench
  | ragDemo
  | voiceDemo
  deriving DecidableEq, Repr

def ExperienceId.value : ExperienceId → String
  | .messyNotes => "messy-notes"
  | .contextWorkbench => "context-workbench"
  | .ragDemo => "rag-demo"
  | .voiceDemo => "voice-demo"

def parseExperienceId (value : Option String) : Except String ExperienceId :=
  match value with
  | some "messy-notes" => .ok .messyNotes
  | some "context-workbench" => .ok .contextWorkbench
  | some "rag-demo" => .ok .ragDemo
  | some "voice-demo" => .ok .voiceDemo
  | _ => .error "Invitation code is not scoped to a supported experience."

theorem parseExperienceId_value (e : ExperienceId) :
    parseExperienceId (some e.value) = .ok e := by
  cases e <;> rfl

theorem parseExperienceId_eq_ok {value : String} {e : ExperienceId}
    (h : parseExperienceId (some value) = .ok e) : value = e.value := by
  unfold parseExperienceId at h
  split at h
  case h_5 => cases h
  all_goals
    rename_i hvalue
    obtain rfl := Option.some.inj hvalue
    obtain rfl := Except.ok.inj h
    rfl

structure InvitationCode where
  id : Nat
  code : Text
  label : Option String
  isActive : Bool
  maxUses : Option Nat
  useCount : Nat
  lastUsedAt : Option Nat
  invitationRequestId : Option Nat
  deriving DecidableEq, Repr

structure InvitationRedemption where
  invitationCodeId : Nat
  tokenId : Text
  userAgent : Option Text
  ipHash : Option Text
  deriving DecidableEq, Repr

structure AccessTokenClaims where
  tokenId : Text
  invitationCodeId : Nat
  code : Text
  experienceId : ExperienceId
  issuedAt : Nat
  expiresAt : Nat
  deriving DecidableEq, Repr

/-- The claims `create_access_token` signs; `jti` is the random token id. -/
def createAccessToken (ttl : Nat) (invitationCodeId : Nat) (code : Text)
    (experienceId : ExperienceId) (jti : Text) (now : Nat) : AccessTokenClaims :=
  { tokenId := jti, invitationCodeId, code, experienceId, issuedAt := now, expiresAt := now + ttl }

/-- The row every route that creates a code inserts. -/
def newInvitationCode (id : Nat) (code : Text) (label : ExperienceId) (maxUses : Option Nat)
    (invitationRequestId : Option Nat) : InvitationCode :=
  { id, code, label := some label.value, isActive := true, maxUses, useCount := 0,
    lastUsedAt := none, invitationRequestId }

structure RedeemInvitationRequest where
  code : Text
  userAgent : Option Text
  ipHash : Option Text
  deriving DecidableEq, Repr

def InvitationCode.limitReached (row : InvitationCode) : Bool :=
  match row.maxUses with
  | some m => m ≤ row.useCount
  | none => false

/-- The checks `redeem_invitation_code` makes on the row it loaded. -/
def InvitationCode.checkRedeemable (row : InvitationCode) : Except HttpException ExperienceId :=
  if !row.isActive then
    .error ⟨403, "Invitation code is inactive."⟩
  else if row.limitReached then
    .error ⟨403, "Invitation code has reached its usage limit."⟩
  else
    match parseExperienceId row.label with
    | .error detail => .error ⟨403, detail⟩
    | .ok experienceId => .ok experienceId

theorem InvitationCode.checkRedeemable_ok {row : InvitationCode} {e : ExperienceId}
    (h : row.checkRedeemable = .ok e) :
    row.isActive = true ∧ ∀ m, row.maxUses = some m → row.useCount < m := by
  unfold checkRedeemable at h
  split at h
  · cases h
  · rename_i ha
    split at h
    · cases h
    · rename_i hl
      refine ⟨by simpa using ha, fun m hm => ?_⟩
      simpa [limitReached, hm] using hl

end DemoService
