import DemoService.Fallible
import DemoService.GuardedRuns
import DemoService.ServiceErrors
import DemoService.TextLayout
import DemoService.UniqueTable

/-! RAG and voice personas. Deleting a persona clears `is_active`, and the
uniqueness constraint over namespace, name key and `is_active` ranges over the
deleted rows as well. -/

namespace DemoService.Personas

open PyText TextLayout GuardedRuns UniqueTable Fallible

structure RagSettings where
  instructions : Text
  capabilitiesSerialized : Option Text
  toolConfigSerialized : Option Text
  deriving DecidableEq, Repr

structure VoiceSettings where
  instructions : Text
  capabilitiesSerialized : Option Text
  toolConfigSerialized : Option Text
  toolNamesSerialized : Option Text
  deriving DecidableEq, Repr

/-- The columns of a persona; its namespace is an invitation code or an experience. -/
structure Persona (ν σ : Type) where
  nameSpace : ν
  name : Text
  nameKey : Text
  settings : σ
  isActive : Bool
  deriving DecidableEq, Repr

/-- `uq_rag_personas_invitation_name_active` and `uq_voice_personas_experience_name_active`. -/
def uniqueColumns {ν σ : Type} (p : Persona ν σ) : ν × Text × Bool :=
  (p.nameSpace, p.nameKey, p.isActive)

abbrev PersonaTable (ν σ : Type) := Table (@uniqueColumns ν σ)

abbrev RagPersonas := PersonaTable Nat RagSettings

abbrev VoicePersonas := PersonaTable Text VoiceSettings

/-- An answer of a route, or an `IntegrityError` of the commit that it lets pass. -/
inductive Failure
  | http (exception : HTTPException)
  | integrityError
  deriving DecidableEq, Repr

def nameConflict : Failure := .http ⟨409, "An active persona with this name already exists.".toList⟩

def personaNotFound : Failure := .http ⟨404, "Persona not found.".toList⟩

/-- `" ".join(name.strip().split())`. -/
def collapseName (name : Text) : Text := unwords (words isSpace (strip name))

/-- `_normalize_persona_name` and `_normalize_name`. -/
def normalizePersonaName (lower : Text → Text) (name : Text) : Text := lower (collapseName name)

def cleanOptionalText (value : Option Text) : Option Text := value.bind fun text => orNone (strip text)

section Routes

variable {ν σ : Type} [DecidableEq ν]

def ensurePersonaNameAvailable (t : PersonaTable ν σ) (nameSpace : ν) (nameKey : Text)
    (personaId : Option Nat) : Except Failure Unit :=
  match t.rows.find? fun r => r.columns.nameSpace = nameSpace ∧ r.columns.nameKey = nameKey ∧
      r.columns.isActive = true ∧ personaId ≠ some r.id with
  | some _ => .error nameConflict
  | none => .ok ()

/-- `db.commit()` of one row, with the row that `db.refresh` reads back. -/
def commit (personaId : Nat) (p : Persona ν σ) :
    Option (PersonaTable ν σ) → Except Failure (Row (Persona ν σ) × PersonaTable ν σ)
  | some t => .ok (⟨personaId, p⟩, t)
  | none => .error .integrityError

def insertPersona (t : PersonaTable ν σ) (p : Persona ν σ) :
    Except Failure (Row (Persona ν σ) × PersonaTable ν σ) :=
  commit t.nextId p (t.insert p)

def updatePersona (t : PersonaTable ν σ) (personaId : Nat) (p : Persona ν σ) :
    Except Failure (Row (Persona ν σ) × PersonaTable ν σ) :=
  commit personaId p (t.update personaId p)

end Routes

/-! ### RAG personas -/

/-- `RagPersonaCreateRequest` and `RagPersonaUpdateRequest`, which have the same fields. -/
structure RagPersonaRequest where
  name : Text
  instructions : Text
  capabilities : Option Text
  toolConfig : Option Text
  name_length : 1 ≤ name.length ∧ name.length ≤ 255
  instructions_length : 1 ≤ instructions.length ∧ instructions.length ≤ 8000
  capabilities_length : ∀ text ∈ capabilities, text.length ≤ 8000
  toolConfig_length : ∀ text ∈ toolConfig, text.length ≤ 8000

def RagPersonaRequest.settings (payload : RagPersonaRequest) : RagSettings where
  instructions := strip payload.instructions
  capabilitiesSerialized := cleanOptionalText payload.capabilities
  toolConfigSerialized := cleanOptionalText payload.toolConfig

def getActivePersonaOr404 (t : RagPersonas) (personaId invitationCodeId : Nat) :
    Except Failure (Row (Persona Nat RagSettings)) :=
  match t.rows.find? fun r => r.id = personaId ∧ r.columns.nameSpace = invitationCodeId ∧
      r.columns.isActive = true with
  | some r => .ok r
  | none => .error personaNotFound

def createRagPersona (lower : Text → Text) (invitationCodeId : Nat) (payload : RagPersonaRequest)
    (t : RagPersonas) : Except Failure (Row (Persona Nat RagSettings) × RagPersonas) := do
  let name := collapseName payload.name
  let nameKey := normalizePersonaName lower name
  ensurePersonaNameAvailable t invitationCodeId nameKey none
  insertPersona t ⟨invitationCodeId, name, nameKey, payload.settings, true⟩

def updateRagPersona (lower : Text → Text) (invitationCodeId personaId : Nat)
    (payload : RagPersonaRequest) (t : RagPersonas) :
    Except Failure (Row (Persona Nat RagSettings) × RagPersonas) := do
  let persona ← getActivePersonaOr404 t personaId invitationCodeId
  let name := collapseName payload.name
  let nameKey := normalizePersonaName lower name
  ensurePersonaNameAvailable t invitationCodeId nameKey (some persona.id)
  updatePersona t persona.id
    { persona.columns with name := name, nameKey := nameKey, settings := payload.settings }

def deleteRagPersona (invitationCodeId personaId : Nat) (t : RagPersonas) :
    Except Failure RagPersonas := do
  let persona ← getActivePersonaOr404 t personaId invitationCodeId
  let (_, stored) ← updatePersona t persona.id { persona.columns with isActive := false }
  pure stored

/-! ### Voice personas -/

structure VoicePersonaCreateRequest where
  name : Text
  instructions : Text
  capabilities : Option Text
  toolConfig : Option Text
  toolNames : Option (List Text)
  name_length : 1 ≤ name.length ∧ name.length ≤ 255
  instructions_length : 1 ≤ instructions.length ∧ instructions.length ≤ 16000
  capabilities_length : ∀ text ∈ capabilities, text.length ≤ 8000
  toolConfig_length : ∀ text ∈ toolConfig, text.length ≤ 32000

def voiceToolNames : List Text :=
  ["assess_employer_readiness".toList, "end_conversation".toList,
    "prepare_meeting_context".toList, "record_answer".toList, "warm_transfer_call".toList]

def validateVoiceToolNames (toolNames : List Text) : Except Failure Unit :=
  if ¬ toolNames.Nodup then .error (.http (badRequest "Duplicate voice tool names.".toList))
  else
    match toolNames.find? fun toolName => !voiceToolNames.contains toolName with
    | some toolName => .error (.http (badRequest ("Unknown voice tool: ".toList ++ toolName)))
    | none => .ok ()

/-- `json.dumps` of names that need no escapes. -/
def dumpNames (names : List Text) : Text :=
  '[' :: join [',', ' '] (names.map fun name => "\"".toList ++ name ++ "\"".toList) ++ [']']

def serializeToolNames : Option (List Text) → Except Failure (Option Text)
  | none => .ok none
  | some toolNames => do
    validateVoiceToolNames toolNames
    pure (some (dumpNames toolNames))

def adminCreatePersona (lower : Text → Text) (experienceId : Text)
    (payload : VoicePersonaCreateRequest) (t : VoicePersonas) :
    Except Failure (Row (Persona Text VoiceSettings) × VoicePersonas) := do
  let nameKey := normalizePersonaName lower payload.name
  ensurePersonaNameAvailable t experienceId nameKey none
  let toolNames ← serializeToolNames payload.toolNames
  insertPersona t ⟨experienceId, strip payload.name, nameKey,
    ⟨payload.instructions, payload.capabilities, payload.toolConfig, toolNames⟩, true⟩

/-- Unlike the deletion of a RAG persona, this does not ask whether the persona is active. -/
def adminDeactivatePersona (experienceId : Text) (personaId : Nat) (t : VoicePersonas) :
    Except Failure (Row (Persona Text VoiceSettings) × VoicePersonas) :=
  match t.rows.find? fun r => r.id = personaId with
  | none => .error personaNotFound
  | some persona =>
    if persona.columns.nameSpace ≠ experienceId then .error personaNotFound
    else updatePersona t persona.id { persona.columns with isActive := false }

def experienceId : Text := "voice-demo".toList

def createVoicePersona (lower : Text → Text) (payload : VoicePersonaCreateRequest)
    (t : VoicePersonas) : Except Failure (Row (Persona Text VoiceSettings) × VoicePersonas) :=
  adminCreatePersona lower experienceId payload t

def deactivateVoicePersona (personaId : Nat) (t : VoicePersonas) :
    Except Failure (Row (Persona Text VoiceSettings) × VoicePersonas) :=
  adminDeactivatePersona experienceId personaId t

/-! ### What the routes write -/

section Names

variable {ν σ : Type}

theorem commit_eq_ok {personaId : Nat} {p : Persona ν σ} {written : Option (PersonaTable ν σ)}
    {r : Row (Persona ν σ) × PersonaTable ν σ} (h : commit personaId p written = .ok r) :
    written = some r.2 := by
  cases written with
  | none => cases h
  | some u => rw [← Except.ok.inj h]

theorem commit_succeeds_iff {personaId : Nat} {p : Persona ν σ}
    {written : Option (PersonaTable ν σ)} :
    Succeeds (commit personaId p written) ↔ written.isSome = true := by
  cases written with
  | none => simp [Succeeds, commit]
  | some u => simp [Succeeds, commit]

/-- No deleted persona of the namespace has the name key. -/
def NeverDeleted (t : PersonaTable ν σ) (nameSpace : ν) (nameKey : Text) : Prop :=
  ∀ r ∈ t.rows, r.columns.isActive = false → r.columns.nameSpace = nameSpace →
    r.columns.nameKey ≠ nameKey

/-- No active persona has the name key of a deleted one of its namespace. -/
def NamesNeverDeleted (t : PersonaTable ν σ) : Prop :=
  ∀ r ∈ t.rows, r.columns.isActive = true →
    NeverDeleted t r.columns.nameSpace r.columns.nameKey

def DistinctActiveNames (t : PersonaTable ν σ) : Prop :=
  ∀ p ∈ t.rows, ∀ q ∈ t.rows, p.columns.isActive = true → q.columns.isActive = true →
    p.columns.nameSpace = q.columns.nameSpace → p.columns.nameKey = q.columns.nameKey → p = q

theorem distinctActiveNames (t : PersonaTable ν σ) : DistinctActiveNames t := by
  intro p hp q hq hpa hqa hspace hname
  exact Table.eq_of_key hp hq (by simp [uniqueColumns, hpa, hqa, hspace, hname])

theorem ne_of_isActive {r s : Row (Persona ν σ)} (hr : r.columns.isActive = true)
    (hs : s.columns.isActive = false) : s ≠ r := by
  intro he
  simp [he, hr] at hs

theorem neverDeleted_congr {t u : PersonaTable ν σ}
    (hsame : ∀ r, r.columns.isActive = false → (r ∈ u.rows ↔ r ∈ t.rows)) (nameSpace : ν)
    (nameKey : Text) : NeverDeleted u nameSpace nameKey ↔ NeverDeleted t nameSpace nameKey := by
  constructor
  · intro hu r hr hinactive
    exact hu r ((hsame r hinactive).mpr hr) hinactive
  · intro ht r hr hinactive
    exact ht r ((hsame r hinactive).mp hr) hinactive

/-- What a write that leaves the deleted rows alone does to the names: it puts one active row
in the table, beside rows that were there before. -/
theorem namesNeverDeleted_iff_of_active {t u : PersonaTable ν σ} (new : Row (Persona ν σ))
    (hgood : NamesNeverDeleted t) (hactive : new.columns.isActive = true) (hnew : new ∈ u.rows)
    (hrows : ∀ r ∈ u.rows, r = new ∨ r ∈ t.rows)
    (hinactive : ∀ r ∈ t.rows, r.columns.isActive = false → r ∈ u.rows) :
    NamesNeverDeleted u ↔ NeverDeleted t new.columns.nameSpace new.columns.nameKey := by
  have hsame : ∀ r, r.columns.isActive = false → (r ∈ u.rows ↔ r ∈ t.rows) := by
    intro r hr
    refine ⟨fun hu => ?_, fun ht => hinactive r ht hr⟩
    exact (hrows r hu).resolve_left (ne_of_isActive hactive hr)
  constructor
  · intro hu
    exact (neverDeleted_congr hsame _ _).mp (hu new hnew hactive)
  · intro hnever r hr hra
    rw [neverDeleted_congr hsame]
    cases hrows r hr with
    | inl he => exact he ▸ hnever
    | inr ht => exact hgood r ht hra

end Names

section Writes

variable {ν σ : Type} [DecidableEq ν] {t u : PersonaTable ν σ}

/-- Clearing `is_active` succeeds exactly where the name key was never deleted before. -/
theorem softDelete_succeeds_iff {r : Row (Persona ν σ)} (hr : r ∈ t.rows)
    (hactive : r.columns.isActive = true) :
    Succeeds (updatePersona t r.id { r.columns with isActive := false }) ↔
      NeverDeleted t r.columns.nameSpace r.columns.nameKey := by
  rw [updatePersona, commit_succeeds_iff, Table.update_isSome_iff hr]
  constructor
  · intro hfree q hq hinactive hspace hname
    exact hfree q hq (ne_of_isActive hactive hinactive)
      (by simp [uniqueColumns, hinactive, hspace, hname])
  · intro hnever q hq _ hkey
    simp only [uniqueColumns, Prod.mk.injEq] at hkey
    exact hnever q hq hkey.2.2 hkey.1 hkey.2.1

theorem namesNeverDeleted_insert {p : Persona ν σ} (hactive : p.isActive = true)
    (h : t.insert p = some u) (hgood : NamesNeverDeleted t) :
    NamesNeverDeleted u ↔ NeverDeleted t p.nameSpace p.nameKey := by
  refine namesNeverDeleted_iff_of_active ⟨t.nextId, p⟩ hgood hactive ?_ ?_ ?_
  · exact (Table.mem_insert h).mpr (.inr rfl)
  · exact fun r hr => ((Table.mem_insert h).mp hr).symm
  · exact fun r hr _ => (Table.mem_insert h).mpr (.inl hr)

theorem namesNeverDeleted_rename {r : Row (Persona ν σ)} (hr : r ∈ t.rows)
    (hra : r.columns.isActive = true) {p : Persona ν σ} (hactive : p.isActive = true)
    (h : t.update r.id p = some u) (hgood : NamesNeverDeleted t) :
    NamesNeverDeleted u ↔ NeverDeleted t p.nameSpace p.nameKey := by
  refine namesNeverDeleted_iff_of_active ⟨r.id, p⟩ hgood hactive ?_ ?_ ?_
  · exact (Table.mem_update hr h).mpr (.inl rfl)
  · exact fun q hq => ((Table.mem_update hr h).mp hq).imp_right And.left
  · exact fun q hq hqi => (Table.mem_update hr h).mpr (.inr ⟨hq, ne_of_isActive hra hqi⟩)

theorem namesNeverDeleted_softDelete {r : Row (Persona ν σ)} (hr : r ∈ t.rows)
    (h : t.update r.id { r.columns with isActive := false } = some u)
    (hgood : NamesNeverDeleted t) : NamesNeverDeleted u := by
  have hold : ∀ q ∈ u.rows, q.columns.isActive = true → q ∈ t.rows ∧ q ≠ r := by
    intro q hq hqa
    refine ((Table.mem_update hr h).mp hq).resolve_left fun he => ?_
    simp [he] at hqa
  intro q hq hqa s hs hsi hspace hname
  obtain ⟨hqt, hqr⟩ := hold q hq hqa
  cases (Table.mem_update hr h).mp hs with
  | inr hst => exact hgood q hqt hqa s hst.1 hsi hspace hname
  | inl he =>
    subst he
    by_cases hra : r.columns.isActive = true
    · exact hqr (distinctActiveNames t q hqt r hr hqa hra hspace.symm hname.symm)
    · exact hgood q hqt hqa r hr (by simpa using hra) hspace hname

end Writes

/-! ### RAG runs -/

theorem getActivePersonaOr404_eq_ok {t : RagPersonas} {personaId invitationCodeId : Nat}
    {r : Row (Persona Nat RagSettings)} (h : getActivePersonaOr404 t personaId invitationCodeId = .ok r) :
    r ∈ t.rows ∧ r.columns.nameSpace = invitationCodeId ∧ r.columns.isActive = true := by
  rw [getActivePersonaOr404] at h
  split at h
  · rename_i found hfound
    obtain rfl : found = r := Except.ok.inj h
    have hpred := List.find?_some hfound
    simp only [decide_eq_true_eq] at hpred
    exact ⟨List.mem_of_find?_eq_some hfound, hpred.2⟩
  · cases h

theorem getActivePersonaOr404_of_mem {t : RagPersonas} {r : Row (Persona Nat RagSettings)}
    (hr : r ∈ t.rows) (hactive : r.columns.isActive = true) :
    getActivePersonaOr404 t r.id r.columns.nameSpace = .ok r := by
  have hfind : t.rows.find? (fun q => q.id = r.id ∧ q.columns.nameSpace = r.columns.nameSpace ∧
      q.columns.isActive = true) = some r := by
    refine Table.find?_of_mem hr (by simp [hactive]) fun q hq => ?_
    simp only [decide_eq_true_eq] at hq
    exact hq.1
  rw [getActivePersonaOr404, hfind]

def ragNameKey (lower : Text → Text) (payload : RagPersonaRequest) : Text :=
  normalizePersonaName lower (collapseName payload.name)

theorem createRagPersona_eq_ok {lower : Text → Text} {invitationCodeId : Nat}
    {payload : RagPersonaRequest} {t : RagPersonas}
    {r : Row (Persona Nat RagSettings) × RagPersonas}
    (h : createRagPersona lower invitationCodeId payload t = .ok r) :
    t.insert ⟨invitationCodeId, collapseName payload.name, ragNameKey lower payload,
      payload.settings, true⟩ = some r.2 := by
  obtain ⟨_, -, hinsert⟩ := bind_eq_ok.mp h
  exact commit_eq_ok hinsert

theorem updateRagPersona_eq_ok {lower : Text → Text} {invitationCodeId personaId : Nat}
    {payload : RagPersonaRequest} {t : RagPersonas}
    {r : Row (Persona Nat RagSettings) × RagPersonas}
    (h : updateRagPersona lower invitationCodeId personaId payload t = .ok r) :
    ∃ q ∈ t.rows, q.columns.isActive = true ∧
      t.update q.id ⟨invitationCodeId, collapseName payload.name, ragNameKey lower payload,
        payload.settings, true⟩ = some r.2 := by
  obtain ⟨q, hq, h⟩ := bind_eq_ok.mp h
  obtain ⟨_, -, hupdate⟩ := bind_eq_ok.mp h
  obtain ⟨hmem, hspace, hactive⟩ := getActivePersonaOr404_eq_ok hq
  refine ⟨q, hmem, hactive, ?_⟩
  have hstored : t.update q.id ⟨q.columns.nameSpace, collapseName payload.name,
      ragNameKey lower payload, payload.settings, q.columns.isActive⟩ = some r.2 :=
    commit_eq_ok hupdate
  rwa [hspace, hactive] at hstored

theorem deleteRagPersona_eq_ok {invitationCodeId personaId : Nat} {t u : RagPersonas}
    (h : deleteRagPersona invitationCodeId personaId t = .ok u) :
    ∃ q ∈ t.rows, t.update q.id { q.columns with isActive := false } = some u := by
  obtain ⟨q, hq, h⟩ := bind_eq_ok.mp h
  obtain ⟨r, hupdate, h⟩ := bind_eq_ok.mp h
  obtain rfl := pure_eq_ok.mp h
  exact ⟨q, (getActivePersonaOr404_eq_ok hq).1, commit_eq_ok hupdate⟩

theorem deleteRagPersona_succeeds_iff {t : RagPersonas} {r : Row (Persona Nat RagSettings)}
    (hr : r ∈ t.rows) (hactive : r.columns.isActive = true) :
    Succeeds (deleteRagPersona r.columns.nameSpace r.id t) ↔
      NeverDeleted t r.columns.nameSpace r.columns.nameKey := by
  rw [← softDelete_succeeds_iff hr hactive, deleteRagPersona, getActivePersonaOr404_of_mem hr hactive]
  exact succeeds_bind_total fun stored => succeeds_pure (Prod.snd stored)

inductive RagCall
  | create (invitationCodeId : Nat) (payload : RagPersonaRequest)
  | update (invitationCodeId personaId : Nat) (payload : RagPersonaRequest)
  | delete (invitationCodeId personaId : Nat)

def ragStep (lower : Text → Text) (t : RagPersonas) : RagCall → Option RagPersonas
  | .create invitationCodeId payload =>
    (createRagPersona lower invitationCodeId payload t).toOption.map Prod.snd
  | .update invitationCodeId personaId payload =>
    (updateRagPersona lower invitationCodeId personaId payload t).toOption.map Prod.snd
  | .delete invitationCodeId personaId => (deleteRagPersona invitationCodeId personaId t).toOption

/-- A call gives no persona the name key of a deleted persona of its invitation code. -/
def RagKeepsDeletedNames (lower : Text → Text) (t : RagPersonas) : RagCall → Prop
  | .create invitationCodeId payload => NeverDeleted t invitationCodeId (ragNameKey lower payload)
  | .update invitationCodeId _ payload => NeverDeleted t invitationCodeId (ragNameKey lower payload)
  | .delete _ _ => True

def RagDeletesSucceed (t : RagPersonas) : Prop :=
  ∀ r ∈ t.rows, r.columns.isActive = true →
    Succeeds (deleteRagPersona r.columns.nameSpace r.id t)

theorem ragDeletesSucceed_iff {t : RagPersonas} : RagDeletesSucceed t ↔ NamesNeverDeleted t :=
  forall₃_congr fun _ hr hactive => deleteRagPersona_succeeds_iff hr hactive

theorem ragStep_namesNeverDeleted {lower : Text → Text} {t u : RagPersonas} {call : RagCall}
    (h : ragStep lower t call = some u) (hgood : NamesNeverDeleted t) :
    NamesNeverDeleted u ↔ RagKeepsDeletedNames lower t call := by
  cases call with
  | create invitationCodeId payload =>
    obtain ⟨r, hr, rfl⟩ := Option.map_eq_some_iff.mp h
    exact namesNeverDeleted_insert rfl (createRagPersona_eq_ok (ok_of_toOption hr)) hgood
  | update invitationCodeId personaId payload =>
    obtain ⟨r, hr, rfl⟩ := Option.map_eq_some_iff.mp h
    obtain ⟨q, hq, hactive, hupdate⟩ := updateRagPersona_eq_ok (ok_of_toOption hr)
    exact namesNeverDeleted_rename hq hactive rfl hupdate hgood
  | delete invitationCodeId personaId =>
    obtain ⟨q, hq, hupdate⟩ := deleteRagPersona_eq_ok (ok_of_toOption h)
    exact iff_of_true (namesNeverDeleted_softDelete hq hupdate hgood) trivial

/-! ### Voice runs -/

theorem adminCreatePersona_eq_ok {lower : Text → Text} {experienceId : Text}
    {payload : VoicePersonaCreateRequest} {t : VoicePersonas}
    {r : Row (Persona Text VoiceSettings) × VoicePersonas}
    (h : adminCreatePersona lower experienceId payload t = .ok r) :
    ∃ settings, t.insert ⟨experienceId, strip payload.name,
      normalizePersonaName lower payload.name, settings, true⟩ = some r.2 := by
  obtain ⟨_, -, h⟩ := bind_eq_ok.mp h
  obtain ⟨toolNames, -, hinsert⟩ := bind_eq_ok.mp h
  exact ⟨_, commit_eq_ok hinsert⟩

theorem adminDeactivatePersona_eq_ok {experienceId : Text} {personaId : Nat} {t : VoicePersonas}
    {r : Row (Persona Text VoiceSettings) × VoicePersonas}
    (h : adminDeactivatePersona experienceId personaId t = .ok r) :
    ∃ q ∈ t.rows, t.update q.id { q.columns with isActive := false } = some r.2 := by
  rw [adminDeactivatePersona] at h
  split at h
  · cases h
  · rename_i q hq
    split at h
    · cases h
    · exact ⟨q, List.mem_of_find?_eq_some hq, commit_eq_ok h⟩

theorem adminDeactivatePersona_of_mem {t : VoicePersonas} {r : Row (Persona Text VoiceSettings)}
    (hr : r ∈ t.rows) : adminDeactivatePersona r.columns.nameSpace r.id t =
      updatePersona t r.id { r.columns with isActive := false } := by
  have hfind : t.rows.find? (fun q => q.id = r.id) = some r :=
    Table.find?_of_mem hr (by simp) fun q hq => by simpa using hq
  rw [adminDeactivatePersona, hfind]
  simp

inductive VoiceCall
  | create (experienceId : Text) (payload : VoicePersonaCreateRequest)
  | deactivate (experienceId : Text) (personaId : Nat)

def voiceStep (lower : Text → Text) (t : VoicePersonas) : VoiceCall → Option VoicePersonas
  | .create experienceId payload =>
    (adminCreatePersona lower experienceId payload t).toOption.map Prod.snd
  | .deactivate experienceId personaId =>
    (adminDeactivatePersona experienceId personaId t).toOption.map Prod.snd

def VoiceKeepsDeletedNames (lower : Text → Text) (t : VoicePersonas) : VoiceCall → Prop
  | .create experienceId payload =>
    NeverDeleted t experienceId (normalizePersonaName lower payload.name)
  | .deactivate _ _ => True

def VoiceDeletesSucceed (t : VoicePersonas) : Prop :=
  ∀ r ∈ t.rows, r.columns.isActive = true →
    Succeeds (adminDeactivatePersona r.columns.nameSpace r.id t)

theorem voiceDeletesSucceed_iff {t : VoicePersonas} :
    VoiceDeletesSucceed t ↔ NamesNeverDeleted t := by
  refine forall₃_congr fun r hr hactive => ?_
  rw [adminDeactivatePersona_of_mem hr]
  exact softDelete_succeeds_iff hr hactive

theorem voiceStep_namesNeverDeleted {lower : Text → Text} {t u : VoicePersonas} {call : VoiceCall}
    (h : voiceStep lower t call = some u) (hgood : NamesNeverDeleted t) :
    NamesNeverDeleted u ↔ VoiceKeepsDeletedNames lower t call := by
  cases call with
  | create experienceId payload =>
    obtain ⟨r, hr, rfl⟩ := Option.map_eq_some_iff.mp h
    obtain ⟨settings, hinsert⟩ := adminCreatePersona_eq_ok (ok_of_toOption hr)
    exact namesNeverDeleted_insert rfl hinsert hgood
  | deactivate experienceId personaId =>
    obtain ⟨r, hr, rfl⟩ := Option.map_eq_some_iff.mp h
    obtain ⟨q, hq, hupdate⟩ := adminDeactivatePersona_eq_ok (ok_of_toOption hr)
    exact iff_of_true (namesNeverDeleted_softDelete hq hupdate hgood) trivial

/-! ### Every run -/

/-- The rule for runs from the empty table, over the calls of either kind of persona. -/
theorem always_deletes_iff {ν σ : Type} {Call : Type} [DecidableEq ν]
    {step : PersonaTable ν σ → Call → Option (PersonaTable ν σ)}
    {keeps : PersonaTable ν σ → Call → Prop} {deletes : PersonaTable ν σ → Prop}
    (hdeletes : ∀ t, deletes t ↔ NamesNeverDeleted t)
    (hstep : ∀ {t u call}, step t call = some u → NamesNeverDeleted t →
      (NamesNeverDeleted u ↔ keeps t call))
    {calls : List Call} {t : PersonaTable ν σ} (h : exec step (.empty uniqueColumns) calls = some t) :
    Always step (fun t => deletes t ∧ DistinctActiveNames t) (.empty uniqueColumns) calls ↔
      AllSteps step keeps (.empty uniqueColumns) calls := by
  have hgood : ∀ t, deletes t ∧ DistinctActiveNames t ↔ NamesNeverDeleted t := by
    intro t
    rw [hdeletes, and_iff_left (distinctActiveNames t)]
  have hempty : NamesNeverDeleted (.empty uniqueColumns : PersonaTable ν σ) := by
    intro r hr
    cases hr
  refine always_iff h trivial ((hgood _).mpr hempty)
    (fun _ _ _ _ _ => trivial) fun s call u _ hs hu => ?_
  rw [hgood]
  exact hstep hu ((hgood s).mp hs)

/-- In every run the active names stay distinct, and every active persona can be deleted exactly
where no call gives a persona the name key of a deleted one. -/
theorem deletes_succeed_iff (lower : Text → Text) :
    (∀ calls t, exec (ragStep lower) (.empty uniqueColumns) calls = some t →
      (Always (ragStep lower) (fun t => RagDeletesSucceed t ∧ DistinctActiveNames t)
          (.empty uniqueColumns) calls ↔
        AllSteps (ragStep lower) (RagKeepsDeletedNames lower) (.empty uniqueColumns) calls)) ∧
    (∀ calls t, exec (voiceStep lower) (.empty uniqueColumns) calls = some t →
      (Always (voiceStep lower) (fun t => VoiceDeletesSucceed t ∧ DistinctActiveNames t)
          (.empty uniqueColumns) calls ↔
        AllSteps (voiceStep lower) (VoiceKeepsDeletedNames lower) (.empty uniqueColumns) calls)) := by
  constructor
  · intro calls t h
    exact always_deletes_iff (fun _ => ragDeletesSucceed_iff) ragStep_namesNeverDeleted h
  · intro calls t h
    exact always_deletes_iff (fun _ => voiceDeletesSucceed_iff) voiceStep_namesNeverDeleted h

/-! ### Runs with one name -/

def lowerAscii (text : Text) : Text := text.map Char.toLower

def helper : RagPersonaRequest where
  name := "Helper".toList
  instructions := "Help.".toList
  capabilities := none
  toolConfig := none
  name_length := by decide
  instructions_length := by decide
  capabilities_length := by simp
  toolConfig_length := by simp

theorem first_delete_succeeds : ∃ t,
    exec (ragStep lowerAscii) (.empty uniqueColumns) [.create 1 helper, .delete 1 1] = some t ∧
      Always (ragStep lowerAscii) (fun t => RagDeletesSucceed t ∧ DistinctActiveNames t)
        (.empty uniqueColumns) [.create 1 helper, .delete 1 1] := by
  have hrun : (exec (ragStep lowerAscii) (.empty uniqueColumns)
      [.create 1 helper, .delete 1 1]).isSome = true := by decide +kernel
  obtain ⟨t, ht⟩ := Option.isSome_iff_exists.mp hrun
  have hfresh : RagKeepsDeletedNames lowerAscii (.empty uniqueColumns) (.create 1 helper) := by
    intro r hr
    cases hr
  exact ⟨t, ht, ((deletes_succeed_iff lowerAscii).1 _ t ht).mpr
    ⟨hfresh, fun _ _ => ⟨trivial, fun _ _ => trivial⟩⟩⟩

/-- The name of a deleted persona may be given again, and then the new persona is there to stay:
its deletion would leave two inactive rows with one name. -/
theorem second_delete_fails :
    ¬ ∀ calls t, exec (ragStep lowerAscii) (.empty uniqueColumns) calls = some t →
      RagDeletesSucceed t := by
  intro hall
  have hrun : (exec (ragStep lowerAscii) (.empty uniqueColumns)
      [.create 1 helper, .delete 1 1, .create 1 helper]).map (fun t =>
        (t.rows.map fun r => (r.id, r.columns.nameSpace, r.columns.isActive),
          (deleteRagPersona 1 2 t).toOption.isSome)) =
      some ([(1, 1, false), (2, 1, true)], false) := by decide +kernel
  obtain ⟨t, ht, heq⟩ := Option.map_eq_some_iff.mp hrun
  obtain ⟨hrows, hdelete⟩ := Prod.mk.inj heq
  have hmem : (2, 1, true) ∈ t.rows.map fun r => (r.id, r.columns.nameSpace, r.columns.isActive) := by
    simp [hrows]
  obtain ⟨r, hr, hfields⟩ := List.mem_map.mp hmem
  simp only [Prod.mk.injEq] at hfields
  obtain ⟨hid, hspace, hactive⟩ := hfields
  obtain ⟨u, hu⟩ := hall _ t ht r hr hactive
  rw [hspace, hid] at hu
  simp [hu, Except.toOption] at hdelete

end DemoService.Personas
