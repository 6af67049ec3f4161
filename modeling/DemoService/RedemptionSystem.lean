import DemoService.GuardedRuns
import DemoService.InvitationModel

/-! Concurrent redemption requests over a read-committed database without row
locks. Each request has its own session: what it has flushed but not committed
is invisible to the others, and what it has loaded does not follow the table. -/

namespace DemoService.Redemption

open PyText

structure Database where
  codes : List InvitationCode
  redemptions : List InvitationRedemption
  deriving DecidableEq, Repr

/-- `UPDATE invitation_codes SET ... WHERE id = :id`. -/
def Database.updateCode (db : Database) (id : Nat) (f : InvitationCode → InvitationCode) : Database :=
  { db with codes := db.codes.map (fun row => if row.id = id then f row else row) }

/-- What a session holds between its SELECT and its answer: the loaded row, the
request, and whether the code's deactivation was committed when the row was read. -/
structure Loaded where
  row : InvitationCode
  request : RedeemInvitationRequest
  afterDeactivation : Bool
  deriving DecidableEq, Repr

/-- `redeem_invitation_code` at each of its suspension points. -/
inductive Session
  | idle
  | loaded (l : Loaded)
  | checked (l : Loaded) (claims : AccessTokenClaims)
  | flushed (l : Loaded) (claims : AccessTokenClaims) (usedAt : Nat)
  | answered (result : Except HttpException AccessTokenClaims)

/-- A token as issued, with what was known when its request read the row. -/
structure IssuedToken where
  claims : AccessTokenClaims
  readAfterDeactivation : Bool
  deriving DecidableEq, Repr

structure System where
  db : Database
  sessions : Nat → Session
  /-- Ids of the codes whose deactivation has been committed. -/
  deactivated : List Nat
  issued : List IssuedToken

def init : System :=
  { db := ⟨[], []⟩, sessions := fun _ => .idle, deactivated := [], issued := [] }

inductive Action
  | insertCode (code : Text) (label : ExperienceId) (maxUses : Option Nat)
      (invitationRequestId : Option Nat)
  | deactivate (id : Nat)
  | read (i : Nat) (request : RedeemInvitationRequest)
  | check (i : Nat) (jti : Text) (now : Nat)
  | write (i : Nat) (now : Nat)
  | commit (i : Nat)
  | abort (i : Nat)

def System.setSession (s : System) (i : Nat) (p : Session) : System :=
  { s with sessions := Function.update s.sessions i p }

/-- The row the session's UPDATE writes: the count is the one it loaded plus one. -/
def Loaded.redeemedRow (l : Loaded) (usedAt : Nat) (row : InvitationCode) : InvitationCode :=
  { row with useCount := l.row.useCount + 1, lastUsedAt := some usedAt }

def Loaded.redemption (l : Loaded) (claims : AccessTokenClaims) : InvitationRedemption :=
  { invitationCodeId := l.row.id, tokenId := claims.tokenId, userAgent := l.request.userAgent,
    ipHash := l.request.ipHash }

/-- One step; `none` when the action is not enabled. `ttl` is
`access_token_ttl_seconds`. -/
def System.step (ttl : Nat) (s : System) : Action → Option System
  | .insertCode code label maxUses invitationRequestId =>
    if s.db.codes.any (·.code = code) then none
    else
      let row := newInvitationCode s.db.codes.length code label maxUses invitationRequestId
      some { s with db := { s.db with codes := s.db.codes ++ [row] } }
  | .deactivate id =>
    if s.db.codes.any (·.id = id) then
      some { s with
        db := s.db.updateCode id (fun row => { row with isActive := false })
        deactivated := id :: s.deactivated }
    else none
  | .read i request =>
    match s.sessions i with
    | .idle =>
      match s.db.codes.find? (·.code = strip request.code) with
      | none => some (s.setSession i (.answered (.error ⟨404, "Invitation code not found."⟩)))
      | some row => some (s.setSession i (.loaded ⟨row, request, row.id ∈ s.deactivated⟩))
    | _ => none
  | .check i jti now =>
    match s.sessions i with
    | .loaded l =>
      match l.row.checkRedeemable with
      | .error e => some (s.setSession i (.answered (.error e)))
      | .ok experienceId =>
        some (s.setSession i (.checked l
          (createAccessToken ttl l.row.id l.row.code experienceId jti now)))
    | _ => none
  | .write i now =>
    match s.sessions i with
    | .checked l claims => some (s.setSession i (.flushed l claims now))
    | _ => none
  | .commit i =>
    match s.sessions i with
    | .flushed l claims usedAt =>
      let db := s.db.updateCode l.row.id (l.redeemedRow usedAt)
      some { s.setSession i (.answered (.ok claims)) with
        db := { db with redemptions := db.redemptions ++ [l.redemption claims] }
        issued := s.issued ++ [⟨claims, l.afterDeactivation⟩] }
    | _ => none
  | .abort i =>
    match s.sessions i with
    | .loaded _ | .checked _ _ | .flushed _ _ _ =>
      some (s.setSession i (.answered (.error ⟨500, "Internal Server Error"⟩)))
    | _ => none

abbrev Run (ttl : Nat) := GuardedRuns.Run (System.step ttl)

/-- The moves of one session that leave the tables alone. -/
inductive Session.Moves (s : System) : Session → Session → Prop
  | answer (p : Session) (e : HttpException) : Moves s p (.answered (.error e))
  | load {row : InvitationCode} (request : RedeemInvitationRequest) (h : row ∈ s.db.codes) :
      Moves s .idle (.loaded ⟨row, request, row.id ∈ s.deactivated⟩)
  | check {l : Loaded} {claims : AccessTokenClaims} (hid : claims.invitationCodeId = l.row.id)
      (ha : l.row.isActive = true) (hl : ∀ m, l.row.maxUses = some m → l.row.useCount < m) :
      Moves s (.loaded l) (.checked l claims)
  | write (l : Loaded) (claims : AccessTokenClaims) (now : Nat) :
      Moves s (.checked l claims) (.flushed l claims now)

def System.inserted (s : System) (row : InvitationCode) : System :=
  { s with db := { s.db with codes := s.db.codes ++ [row] } }

def System.afterDeactivate (s : System) (id : Nat) : System :=
  { s with
    db := s.db.updateCode id (fun row => { row with isActive := false })
    deactivated := id :: s.deactivated }

def System.afterCommit (s : System) (i : Nat) (l : Loaded) (claims : AccessTokenClaims)
    (usedAt : Nat) : System :=
  { s.setSession i (.answered (.ok claims)) with
    db := { codes := (s.db.updateCode l.row.id (l.redeemedRow usedAt)).codes
            redemptions := s.db.redemptions ++ [l.redemption claims] }
    issued := s.issued ++ [⟨claims, l.afterDeactivation⟩] }

/-- Everything a step can do. -/
theorem step_cases {ttl : Nat} {s t : System} {a : Action} (h : s.step ttl a = some t) :
    (∃ code label maxUses request,
      t = s.inserted (newInvitationCode s.db.codes.length code label maxUses request)) ∨
    (∃ id, s.db.codes.any (·.id = id) = true ∧ t = s.afterDeactivate id) ∨
    (∃ i p, (s.sessions i).Moves s p ∧ t = s.setSession i p) ∨
    (∃ i l claims usedAt, a = .commit i ∧ s.sessions i = .flushed l claims usedAt ∧
      t = s.afterCommit i l claims usedAt) := by
  cases a with
  | insertCode code label maxUses request =>
    simp only [System.step] at h
    split at h
    · cases h
    · exact .inl ⟨code, label, maxUses, request, (Option.some.inj h).symm⟩
  | deactivate id =>
    simp only [System.step] at h
    split at h
    · rename_i hid
      exact .inr (.inl ⟨id, hid, (Option.some.inj h).symm⟩)
    · cases h
  | read i request =>
    simp only [System.step] at h
    split at h
    · rename_i hi
      split at h
      · exact .inr (.inr (.inl ⟨i, _, .answer _ _, (Option.some.inj h).symm⟩))
      · rename_i row hrow
        exact .inr (.inr (.inl ⟨i, _, hi ▸ .load request (List.mem_of_find?_eq_some hrow),
          (Option.some.inj h).symm⟩))
    · cases h
  | check i jti now =>
    simp only [System.step] at h
    split at h
    · rename_i l hi
      split at h
      · exact .inr (.inr (.inl ⟨i, _, .answer _ _, (Option.some.inj h).symm⟩))
      · rename_i experienceId he
        have hc := InvitationCode.checkRedeemable_ok he
        exact .inr (.inr (.inl ⟨i, _, hi ▸ .check rfl hc.1 hc.2, (Option.some.inj h).symm⟩))
    · cases h
  | write i now =>
    simp only [System.step] at h
    split at h
    · rename_i l claims hi
      exact .inr (.inr (.inl ⟨i, _, hi ▸ .write l claims now, (Option.some.inj h).symm⟩))
    · cases h
  | commit i =>
    simp only [System.step] at h
    split at h
    · rename_i l claims usedAt hi
      exact .inr (.inr (.inr ⟨i, l, claims, usedAt, rfl, hi, (Option.some.inj h).symm⟩))
    · cases h
  | abort i =>
    simp only [System.step] at h
    split at h
    all_goals first
      | exact .inr (.inr (.inl ⟨i, _, .answer _ _, (Option.some.inj h).symm⟩))
      | cases h

def System.redemptionCount (s : System) (id : Nat) : Nat :=
  s.db.redemptions.countP (·.invitationCodeId = id)

def System.tokenCount (s : System) (id : Nat) : Nat :=
  s.issued.countP (·.claims.invitationCodeId = id)

end DemoService.Redemption
