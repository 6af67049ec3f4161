import DemoService.Quota
import DemoService.RedemptionSystem

/-! The usage limit under concurrency. A commit that finds the count its request
loaded is an atomic grant of the quota ledger; one that does not loses an update. -/

namespace DemoService.Redemption

open GuardedRuns

/-- The rows of `s` are still in `t`, with their limits. -/
def Extends (s t : System) : Prop :=
  ∀ row ∈ s.db.codes, ∃ row' ∈ t.db.codes, row'.id = row.id ∧ row'.maxUses = row.maxUses

theorem extends_inserted (s : System) (row : InvitationCode) : Extends s (s.inserted row) :=
  fun r hr => ⟨r, List.mem_append_left _ hr, rfl, rfl⟩

theorem extends_of_updateCode {s t : System} (id : Nat) (f : InvitationCode → InvitationCode)
    (hf : ∀ row, (f row).id = row.id ∧ (f row).maxUses = row.maxUses)
    (ht : t.db.codes = (s.db.updateCode id f).codes) : Extends s t := by
  intro row hrow
  rw [ht]
  refine ⟨if row.id = id then f row else row, List.mem_map.mpr ⟨row, hrow, rfl⟩, ?_⟩
  split
  · exact hf row
  · exact ⟨rfl, rfl⟩

def LoadedOk (s : System) (l : Loaded) : Prop :=
  (∃ row ∈ s.db.codes, row.id = l.row.id ∧ row.maxUses = l.row.maxUses) ∧
    (l.afterDeactivation = true → l.row.isActive = false)

def Passed (l : Loaded) (claims : AccessTokenClaims) : Prop :=
  claims.invitationCodeId = l.row.id ∧ l.row.isActive = true ∧
    ∀ m, l.row.maxUses = some m → l.row.useCount < m

def SessionOk (s : System) : Session → Prop
  | .loaded l => LoadedOk s l
  | .checked l claims => LoadedOk s l ∧ Passed l claims
  | .flushed l claims _ => LoadedOk s l ∧ Passed l claims
  | _ => True

theorem LoadedOk.extends {s t : System} {l : Loaded} (h : LoadedOk s l) (he : Extends s t) :
    LoadedOk t l := by
  obtain ⟨⟨row, hrow, hid, hm⟩, hd⟩ := h
  obtain ⟨row', hrow', hid', hm'⟩ := he row hrow
  exact ⟨⟨row', hrow', hid'.trans hid, hm'.trans hm⟩, hd⟩

theorem SessionOk.extends {s t : System} {p : Session} (h : SessionOk s p) (he : Extends s t) :
    SessionOk t p := by
  cases p with
  | loaded l => exact LoadedOk.extends h he
  | checked l claims => exact ⟨h.1.extends he, h.2⟩
  | flushed l claims usedAt => exact ⟨h.1.extends he, h.2⟩
  | idle => trivial
  | answered r => trivial

/-- What holds on every run: ids are row positions, a deactivated code stays
inactive, and sessions hold rows of the table with the limits they have there. -/
structure Snapshots (s : System) : Prop where
  ids : s.db.codes.map (·.id) = List.range s.db.codes.length
  inactive : ∀ row ∈ s.db.codes, row.id ∈ s.deactivated → row.isActive = false
  known : ∀ id ∈ s.deactivated, id < s.db.codes.length
  session : ∀ i, SessionOk s (s.sessions i)
  tokens : ∀ t ∈ s.issued, t.readAfterDeactivation = false

theorem Snapshots.row_at {s : System} (h : Snapshots s) {row : InvitationCode}
    (hrow : row ∈ s.db.codes) : s.db.codes[row.id]? = some row := by
  obtain ⟨i, hi, rfl⟩ := List.getElem_of_mem hrow
  have hid : (s.db.codes.map (·.id))[i]? = (List.range s.db.codes.length)[i]? := by rw [h.ids]
  have he : s.db.codes[i].id = i := by simpa [hi] using hid
  rw [he]
  exact List.getElem?_eq_getElem hi

theorem Snapshots.id_lt {s : System} (h : Snapshots s) {row : InvitationCode}
    (hrow : row ∈ s.db.codes) : row.id < s.db.codes.length :=
  (List.getElem?_eq_some_iff.mp (h.row_at hrow)).1

theorem snapshots_init : Snapshots init where
  ids := rfl
  inactive := by simp [init]
  known := by simp [init]
  session := fun _ => trivial
  tokens := by simp [init]

theorem updateCode_ids (db : Database) (id : Nat) (f : InvitationCode → InvitationCode)
    (hf : ∀ row, (f row).id = row.id) :
    (db.updateCode id f).codes.map (·.id) = db.codes.map (·.id) := by
  simp only [Database.updateCode, List.map_map]
  apply List.map_congr_left
  intro row _
  simp only [Function.comp_apply]
  split
  · exact hf row
  · rfl

theorem Snapshots.inserted {s : System} (h : Snapshots s) {row : InvitationCode}
    (hid : row.id = s.db.codes.length) : Snapshots (s.inserted row) where
  ids := by simp [System.inserted, h.ids, hid, List.range_succ]
  inactive := by
    intro r hr hd
    rcases List.mem_append.mp hr with hr | hr
    · exact h.inactive r hr hd
    · have he := h.known _ hd
      rw [List.mem_singleton.mp hr, hid] at he
      exact absurd he (Nat.lt_irrefl _)
  known := fun id hd => by
    simpa [System.inserted] using Nat.lt_succ_of_lt (h.known id hd)
  session := fun i => (h.session i).extends (extends_inserted s row)
  tokens := h.tokens

theorem Snapshots.afterDeactivate {s : System} (h : Snapshots s) {id : Nat}
    (hid : s.db.codes.any (·.id = id) = true) : Snapshots (s.afterDeactivate id) where
  ids := by
    have hu := updateCode_ids s.db id (fun row => { row with isActive := false }) (fun _ => rfl)
    simpa [System.afterDeactivate, Database.updateCode] using hu.trans h.ids
  inactive := by
    intro r hr hd
    obtain ⟨row, hrow, rfl⟩ := List.mem_map.mp hr
    by_cases he : row.id = id
    · simp [he]
    · simp only [he, if_false] at hd ⊢
      exact h.inactive row hrow ((List.mem_cons.mp hd).resolve_left he)
  known := by
    intro d hd
    rcases List.mem_cons.mp hd with rfl | hd
    · obtain ⟨row, hrow, he⟩ := List.any_eq_true.mp hid
      have hl := h.id_lt hrow
      simpa [System.afterDeactivate, Database.updateCode, ← (by simpa using he : row.id = d)]
        using hl
    · simpa [System.afterDeactivate, Database.updateCode] using h.known d hd
  session := fun i => by
    have he : Extends s (s.afterDeactivate id) := extends_of_updateCode
      id (fun row => { row with isActive := false }) (fun _ => ⟨rfl, rfl⟩) rfl
    exact (h.session i).extends he
  tokens := h.tokens

theorem Session.Moves.ok {s : System} (h : Snapshots s) {p q : Session} (hm : p.Moves s q)
    (hp : SessionOk s p) : SessionOk s q := by
  cases hm with
  | answer e => trivial
  | load request hrow =>
    exact ⟨⟨_, hrow, rfl, rfl⟩, fun hd => h.inactive _ hrow (by simpa using hd)⟩
  | check hid ha hl => exact ⟨hp, hid, ha, hl⟩
  | write l claims now => exact hp

theorem Snapshots.setSession {s : System} (h : Snapshots s) {i : Nat} {p : Session}
    (hp : SessionOk s p) : Snapshots (s.setSession i p) where
  ids := h.ids
  inactive := h.inactive
  known := h.known
  session := by
    intro j
    have he : Extends s (s.setSession i p) := fun row hrow => ⟨row, hrow, rfl, rfl⟩
    by_cases hj : j = i
    · subst hj
      have hu : (s.setSession j p).sessions j = p := Function.update_self ..
      rw [hu]
      exact hp.extends he
    · have hu : (s.setSession i p).sessions j = s.sessions j := Function.update_of_ne hj ..
      rw [hu]
      exact (h.session j).extends he
  tokens := h.tokens

theorem Snapshots.afterCommit {s : System} (h : Snapshots s) {i usedAt : Nat} {l : Loaded}
    {claims : AccessTokenClaims} (hi : s.sessions i = .flushed l claims usedAt) :
    Snapshots (s.afterCommit i l claims usedAt) := by
  have hs := h.setSession (i := i) (p := .answered (.ok claims)) trivial
  have hl : LoadedOk s l ∧ Passed l claims := by
    have hh := h.session i
    rwa [hi] at hh
  refine ⟨?_, ?_, ?_, ?_, ?_⟩
  · have hu := updateCode_ids s.db l.row.id (l.redeemedRow usedAt) (fun _ => rfl)
    simpa [System.afterCommit, Database.updateCode] using hu.trans h.ids
  · intro r hr hd
    obtain ⟨row, hrow, rfl⟩ := List.mem_map.mp hr
    have hid : (if row.id = l.row.id then l.redeemedRow usedAt row else row).id = row.id := by
      split <;> rfl
    rw [hid] at hd
    have hf := h.inactive row hrow hd
    split
    · exact hf
    · exact hf
  · simpa [System.afterCommit, Database.updateCode, System.setSession] using h.known
  · have he : Extends (s.setSession i (.answered (.ok claims))) (s.afterCommit i l claims usedAt) :=
      extends_of_updateCode l.row.id (l.redeemedRow usedAt) (fun _ => ⟨rfl, rfl⟩) rfl
    exact fun j => (hs.session j).extends he
  · intro t ht
    rcases List.mem_append.mp ht with ht | ht
    · exact h.tokens t ht
    · rw [List.mem_singleton.mp ht]
      have hne : ¬ l.afterDeactivation = true := fun hd => by
        have hf := hl.1.2 hd
        simp [hl.2.2.1] at hf
      exact Bool.eq_false_iff.mpr hne

theorem Snapshots.step {ttl : Nat} {s t : System} {a : Action} (h : Snapshots s)
    (hs : s.step ttl a = some t) : Snapshots t := by
  rcases step_cases hs with ⟨_, _, _, _, rfl⟩ | ⟨id, hid, rfl⟩ | ⟨i, p, hm, rfl⟩ |
    ⟨i, l, claims, usedAt, _, hi, rfl⟩
  · exact h.inserted rfl
  · exact h.afterDeactivate hid
  · exact h.setSession (hm.ok h (h.session i))
  · exact h.afterCommit hi

/-- A commit is fresh when the table still shows the count its request loaded,
that is, when no other redemption of the code was committed in between. -/
def FreshCommit (s : System) : Action → Prop
  | .commit i =>
    match s.sessions i with
    | .flushed l _ _ => ∀ row ∈ s.db.codes, row.id = l.row.id → row.useCount = l.row.useCount
    | _ => True
  | _ => True

instance (s : System) (a : Action) : Decidable (FreshCommit s a) :=
  match a with
  | .commit i =>
    match h : s.sessions i with
    | .flushed l _ _ =>
      decidable_of_iff (∀ row ∈ s.db.codes, row.id = l.row.id → row.useCount = l.row.useCount)
        (by simp [FreshCommit, h])
    | .idle | .loaded _ | .checked _ _ | .answered _ => .isTrue (by simp [FreshCommit, h])
  | .insertCode _ _ _ _ | .deactivate _ | .read _ _ | .check _ _ _ | .write _ _ | .abort _ =>
    .isTrue trivial

theorem FreshCommit.count_eq {s : System} {i usedAt : Nat} {l : Loaded}
    {claims : AccessTokenClaims} (h : FreshCommit s (.commit i))
    (hi : s.sessions i = .flushed l claims usedAt) {row : InvitationCode}
    (hrow : row ∈ s.db.codes) (hid : row.id = l.row.id) : row.useCount = l.row.useCount := by
  simp only [FreshCommit, hi] at h
  exact h row hrow hid

/-- What redemption promises about every code. -/
def RedemptionLaw (s : System) : Prop :=
  ∀ row ∈ s.db.codes,
    (∀ m, row.maxUses = some m → s.tokenCount row.id ≤ m) ∧
    row.useCount = s.redemptionCount row.id ∧
    ∀ t ∈ s.issued, t.claims.invitationCodeId = row.id → t.readAfterDeactivation = false

structure Counted (s : System) : Prop where
  snapshots : Snapshots s
  count : ∀ row ∈ s.db.codes, row.useCount = s.redemptionCount row.id
  issued : ∀ id, s.tokenCount id = s.redemptionCount id
  fresh : ∀ id, s.db.codes.length ≤ id → s.redemptionCount id = 0

theorem counted_init : Counted init where
  snapshots := snapshots_init
  count := by simp [init]
  issued := fun _ => rfl
  fresh := fun _ _ => rfl

theorem redemptionCount_afterCommit (s : System) (i usedAt id : Nat) (l : Loaded)
    (claims : AccessTokenClaims) :
    (s.afterCommit i l claims usedAt).redemptionCount id =
      s.redemptionCount id + if l.row.id = id then 1 else 0 := by
  simp [System.redemptionCount, System.afterCommit, Loaded.redemption, List.countP_append,
    List.countP_singleton]

theorem tokenCount_afterCommit (s : System) (i usedAt id : Nat) (l : Loaded)
    (claims : AccessTokenClaims) :
    (s.afterCommit i l claims usedAt).tokenCount id =
      s.tokenCount id + if claims.invitationCodeId = id then 1 else 0 := by
  simp [System.tokenCount, System.afterCommit, List.countP_append, List.countP_singleton]

theorem Counted.inserted {s : System} (h : Counted s) {row : InvitationCode}
    (hid : row.id = s.db.codes.length) (hu : row.useCount = 0) : Counted (s.inserted row) where
  snapshots := h.snapshots.inserted hid
  count := by
    intro r hr
    rcases List.mem_append.mp hr with hr | hr
    · exact h.count r hr
    · rw [List.mem_singleton.mp hr, hu, hid]
      exact (h.fresh _ (Nat.le_refl _)).symm
  issued := h.issued
  fresh := fun id hl => h.fresh id (by
    simp only [System.inserted, List.length_append] at hl
    omega)

theorem Counted.afterDeactivate {s : System} (h : Counted s) {id : Nat}
    (hid : s.db.codes.any (·.id = id) = true) : Counted (s.afterDeactivate id) where
  snapshots := h.snapshots.afterDeactivate hid
  count := by
    intro r hr
    obtain ⟨row, hrow, rfl⟩ := List.mem_map.mp hr
    have hc := h.count row hrow
    split <;> exact hc
  issued := h.issued
  fresh := fun id' hl => h.fresh id' (by
    simpa [System.afterDeactivate, Database.updateCode] using hl)

theorem Counted.setSession {s : System} (h : Counted s) {i : Nat} {p : Session}
    (hp : SessionOk s p) : Counted (s.setSession i p) where
  snapshots := h.snapshots.setSession hp
  count := h.count
  issued := h.issued
  fresh := h.fresh

theorem Snapshots.flushed {s : System} (h : Snapshots s) {i usedAt : Nat} {l : Loaded}
    {claims : AccessTokenClaims} (hi : s.sessions i = .flushed l claims usedAt) :
    LoadedOk s l ∧ Passed l claims := by
  have hh := h.session i
  rwa [hi] at hh

theorem Counted.afterCommit {s : System} (h : Counted s) {i usedAt : Nat} {l : Loaded}
    {claims : AccessTokenClaims} (hi : s.sessions i = .flushed l claims usedAt)
    (hf : FreshCommit s (.commit i)) : Counted (s.afterCommit i l claims usedAt) where
  snapshots := h.snapshots.afterCommit hi
  count := by
    intro r hr
    obtain ⟨row, hrow, rfl⟩ := List.mem_map.mp hr
    by_cases he : row.id = l.row.id
    · have hc := h.count row hrow
      have hl := hf.count_eq hi hrow he
      simp only [he, if_true, redemptionCount_afterCommit, Loaded.redeemedRow]
      rw [← hl, hc, he]
    · simpa [he, Ne.symm he, redemptionCount_afterCommit] using h.count row hrow
  issued := by
    intro id
    rw [tokenCount_afterCommit, redemptionCount_afterCommit, h.issued,
      (h.snapshots.flushed hi).2.1]
  fresh := by
    intro id hl
    obtain ⟨⟨row, hrow, hid, _⟩, _⟩ := (h.snapshots.flushed hi).1
    have hlt := h.snapshots.id_lt hrow
    have hl' : s.db.codes.length ≤ id := by
      simpa [System.afterCommit, Database.updateCode] using hl
    have hne : ¬ l.row.id = id := by omega
    rw [redemptionCount_afterCommit, h.fresh id hl', if_neg hne]

theorem Counted.step {ttl : Nat} {s t : System} {a : Action} (h : Counted s)
    (hf : FreshCommit s a) (hs : s.step ttl a = some t) : Counted t := by
  rcases step_cases hs with ⟨_, _, _, _, rfl⟩ | ⟨id, hid, rfl⟩ | ⟨i, p, hm, rfl⟩ |
    ⟨i, l, claims, usedAt, rfl, hi, rfl⟩
  · exact h.inserted rfl rfl
  · exact h.afterDeactivate hid
  · exact h.setSession (hm.ok h.snapshots (h.snapshots.session i))
  · exact h.afterCommit hi hf

/-- The quota ledger a state stands for. -/
def System.ledger (s : System) : Quota.Ledger Nat where
  limit id := s.db.codes[id]?.bind (·.maxUses)
  used := s.tokenCount

theorem updateCode_limit (db : Database) (id : Nat) (f : InvitationCode → InvitationCode)
    (hf : ∀ row, (f row).maxUses = row.maxUses) (k : Nat) :
    (db.updateCode id f).codes[k]?.bind (·.maxUses) = db.codes[k]?.bind (·.maxUses) := by
  rw [Database.updateCode, List.getElem?_map]
  cases db.codes[k]? with
  | none => rfl
  | some row =>
    simp only [Option.map_some, Option.bind_some]
    split
    · exact hf row
    · rfl

theorem ledger_inserted (s : System) (row : InvitationCode) :
    (s.inserted row).ledger =
      { s.ledger with limit := Function.update s.ledger.limit s.db.codes.length row.maxUses } := by
  simp only [System.ledger, System.inserted, Quota.Ledger.mk.injEq]
  refine ⟨funext fun k => ?_, rfl⟩
  by_cases hk : k = s.db.codes.length
  · subst hk
    simp
  · rw [Function.update_of_ne hk]
    by_cases hl : k < s.db.codes.length
    · rw [List.getElem?_append_left hl]
    · have hlen : s.db.codes.length + 1 ≤ k := by omega
      rw [List.getElem?_eq_none (by simpa using hlen), List.getElem?_eq_none (by omega)]

theorem ledger_afterCommit {s : System} {i usedAt : Nat} {l : Loaded} {claims : AccessTokenClaims}
    (hc : claims.invitationCodeId = l.row.id) :
    (s.afterCommit i l claims usedAt).ledger =
      { s.ledger with
        used := Function.update s.ledger.used l.row.id (s.ledger.used l.row.id + 1) } := by
  simp only [System.ledger, Quota.Ledger.mk.injEq]
  refine ⟨funext fun k => ?_, funext fun k => ?_⟩
  · exact updateCode_limit s.db l.row.id (l.redeemedRow usedAt) (fun _ => rfl) k
  · rw [tokenCount_afterCommit, hc]
    by_cases hk : k = l.row.id
    · simp [hk]
    · simp [hk, Ne.symm hk]

/-- A step that is not a stale commit is a step of the ledger, or changes nothing in it. -/
theorem Counted.simulates {ttl : Nat} {s t : System} {a : Action} (h : Counted s)
    (hf : FreshCommit s a) (hs : s.step ttl a = some t) :
    Relation.ReflTransGen Quota.Step s.ledger t.ledger := by
  rcases step_cases hs with ⟨_, _, _, _, rfl⟩ | ⟨id, hid, rfl⟩ | ⟨i, p, hm, rfl⟩ |
    ⟨i, l, claims, usedAt, rfl, hi, rfl⟩
  · rw [ledger_inserted]
    have hz : s.ledger.used s.db.codes.length = 0 :=
      (h.issued _).trans (h.fresh _ (Nat.le_refl _))
    exact .single (.openKey _ _ _ hz)
  · have he : (s.afterDeactivate id).ledger = s.ledger := by
      simp only [System.ledger, Quota.Ledger.mk.injEq]
      exact ⟨funext fun k => updateCode_limit s.db id
        (fun row => { row with isActive := false }) (fun _ => rfl) k, rfl⟩
    rw [he]
  · exact .refl
  · obtain ⟨⟨⟨row, hrow, hid, hm⟩, _⟩, hc, _, hl⟩ := h.snapshots.flushed hi
    rw [ledger_afterCommit hc]
    refine .single (.grant _ _ fun m hlim => ?_)
    have hat : s.db.codes[l.row.id]? = some row := hid ▸ h.snapshots.row_at hrow
    have hmax : l.row.maxUses = some m := by
      simpa [System.ledger, hat, hm] using hlim
    have hused : s.ledger.used l.row.id = l.row.useCount := by
      calc s.ledger.used l.row.id = s.redemptionCount row.id := hid ▸ h.issued _
        _ = row.useCount := (h.count row hrow).symm
        _ = l.row.useCount := hf.count_eq hi hrow hid
    rw [hused]
    exact hl m hmax

theorem Counted.law {s : System} (h : Counted s) (hw : Quota.WithinLimit s.ledger) :
    RedemptionLaw s := by
  intro row hrow
  refine ⟨fun m hm => ?_, h.count row hrow, fun t ht _ => h.snapshots.tokens t ht⟩
  have hlim : s.ledger.limit row.id = some m := by
    simp [System.ledger, h.snapshots.row_at hrow, hm]
  exact hw row.id m hlim

/-- In a run in which no commit overwrites a redemption its request did not see,
no code is redeemed past its limit, every redemption is counted, and no token
goes to a request that read the code after its deactivation. -/
theorem redemption_law_of_fresh_commits {ttl : Nat} {s : System}
    (h : GuardedRun (System.step ttl) FreshCommit init s) : RedemptionLaw s := by
  have hinv : ∀ s a t, Counted s → FreshCommit s a → s.step ttl a = some t → Counted t :=
    fun _ _ _ hc hf hs => hc.step hf hs
  have hc : Counted s := h.invariant counted_init hinv
  have hr := h.simulates System.ledger counted_init hinv (fun _ _ _ hc hf hs => hc.simulates hf hs)
  have hz : Quota.WithinLimit init.ledger := fun k m hm => by simp [System.ledger, init] at hm
  exact hc.law (hz.run hr)

/-- Two requests in turn: the second reads what the first committed. -/
def redemptionsInTurn : List Action :=
  [.insertCode ['K'] .voiceDemo (some 2) none, .read 0 ⟨['K'], none, none⟩, .check 0 ['a'] 0,
    .write 0 0, .commit 0, .read 1 ⟨['K'], none, none⟩, .check 1 ['b'] 5, .write 1 5, .commit 1]

theorem redemptions_in_turn_keep_the_law :
    ∃ s : System, s.tokenCount 0 = 2 ∧ RedemptionLaw s := by
  have hex : (exec (guard (System.step 60) FreshCommit) init redemptionsInTurn).map
      (fun s => s.tokenCount 0) = some 2 := by decide
  obtain ⟨s, hs, htokens⟩ := Option.map_eq_some_iff.mp hex
  exact ⟨s, htokens, redemption_law_of_fresh_commits (guardedRun_of_exec hs)⟩

/-- Two requests read a single-use code before either commits. -/
def racingRedemptions : List Action :=
  [.insertCode ['K'] .voiceDemo (some 1) none, .read 0 ⟨['K'], none, none⟩,
    .read 1 ⟨['K'], none, none⟩, .check 0 ['a'] 0, .check 1 ['b'] 0, .write 0 0, .commit 0,
    .write 1 0, .commit 1]

theorem racing_redemptions_exceed_the_limit :
    ¬ ∀ s : System, Run 60 init s → RedemptionLaw s := by
  intro hall
  have hex : (exec (System.step 60) init racingRedemptions).map
      (fun s => (s.db.codes, s.tokenCount 0)) =
        some ([⟨0, ['K'], some "voice-demo", true, some 1, 1, some 0, none⟩], 2) := by decide
  obtain ⟨s, hs, heq⟩ := Option.map_eq_some_iff.mp hex
  obtain ⟨hcodes, htokens⟩ := Prod.mk.inj heq
  have hlaw := hall s (run_of_exec hs) _ (hcodes ▸ List.mem_singleton_self _)
  have hle : s.tokenCount 0 ≤ 1 := hlaw.1 1 rfl
  omega

/-- A stale commit loses an update: the count it leaves is not the number of redemptions. -/
theorem stale_commit_miscounts {ttl : Nat} {s t : System} {i usedAt : Nat} {l : Loaded}
    {claims : AccessTokenClaims} {row : InvitationCode} (h : RedemptionLaw s)
    (hi : s.sessions i = .flushed l claims usedAt) (hrow : row ∈ s.db.codes)
    (hid : row.id = l.row.id) (hstale : row.useCount ≠ l.row.useCount)
    (hs : s.step ttl (.commit i) = some t) : ¬ RedemptionLaw t := by
  intro hl
  have ht : t = s.afterCommit i l claims usedAt := by
    simp only [System.step, hi] at hs
    exact (Option.some.inj hs).symm
  subst ht
  have hmem : l.redeemedRow usedAt row ∈ (s.afterCommit i l claims usedAt).db.codes :=
    List.mem_map.mpr ⟨row, hrow, by simp [hid]⟩
  have hcount : l.row.useCount + 1 = s.redemptionCount row.id + 1 := by
    simpa [redemptionCount_afterCommit, Loaded.redeemedRow, hid] using (hl _ hmem).2.1
  have hold := (h row hrow).2.1
  omega

end DemoService.Redemption
