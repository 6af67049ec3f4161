import DemoService.GuardedRuns
import DemoService.PerspectiveCaches

/-! When a cached perspective view counts as stale, over every history of ingestions, generations
and lookups by any owners, and over both repositories. -/

namespace DemoService.Context

open PyText Effect GuardedRuns

/-- An artifact of the owner was stored after the view of this definition was last generated. -/
def IngestedSince (history : List Event) (key : ViewKey) : Prop :=
  ∃ front back, history = front ++ .generated key :: back ∧ .generated key ∉ back ∧
    .ingested key.owner ∈ back

section Service

variable {χ σ υ : Type} {service : PerspectiveService χ σ υ} {Valid : σ → Prop}
  {ids : σ → Owner → List Text} {c : Cache υ} {w : Shelf σ υ}

theorem listArtifacts_exact (hgrows : Grows service.repository service.views Valid ids)
    (hvalid : Valid w.store) (owner : Owner) :
    Triple (· = w) (listArtifacts service owner)
      (fun artifacts s => artifacts.map Artifact.id = ids w.store owner ∧ s = w) (· = w) := by
  refine .bind (Q := fun seen s => seen = w ∧ s = w) (.read fun s hs => ⟨hs, hs⟩)
    fun seen => .assuming fun hseen => ?_
  obtain rfl := hseen
  exact .lift (fun artifacts s hlisted hs => ⟨hgrows.listed hvalid hlisted, hs⟩) fun s hs => hs

theorem listArtifacts_same (hgrows : Grows service.repository service.views Valid ids)
    (hvalid : Valid w.store) (owner : Owner) :
    Triple (c.Same w) (listArtifacts service owner)
      (fun artifacts s => artifacts.map Artifact.id = ids w.store owner ∧ c.Same w s)
      (c.Same w) := by
  intro s hs
  have hlisted := listArtifacts_exact hgrows (hs.store ▸ hvalid) owner s rfl
  refine ⟨fun artifacts s' heq => ?_, fun e s' heq => ?_⟩
  · obtain ⟨hids, rfl⟩ := hlisted.1 artifacts s' heq
    exact ⟨hs.store ▸ hids, hs⟩
  · exact hlisted.2 e s' heq ▸ hs

theorem hand_same {ref : Ref} {P : Shelf σ υ → Prop} {E : Shelf σ υ → Prop}
    (hP : ∀ s, P s → P { s with handed := ref :: s.handed }) :
    Triple (fun s => (c.Same w s ∧ c.Free s ref) ∧ P s) (hand ref)
      (fun _ s => (c.Same w s ∧ c.Free s ref) ∧ P s) E := by
  refine .modify fun s hs => ⟨⟨?_, hs.1.2⟩, hP s hs.2⟩
  exact { hs.1.1 with toSound := hs.1.1.toSound.hand hs.1.2 }

/-- The builder's view is not the cached one, and is built from the artifacts listed now. -/
theorem buildView_same (hgrows : Grows service.repository service.views Valid ids)
    (hvalid : Valid w.store) (owner : Owner) (viewDefinitionId : Text) {artifacts : List Artifact}
    (hartifacts : artifacts = [] ∨ artifacts.map Artifact.id = ids w.store owner) :
    Triple (c.Same w) (buildView service owner viewDefinitionId artifacts)
      (fun built s => built.2.map Artifact.id = ids w.store owner ∧ c.Same w s) (c.Same w) := by
  refine .bind (.lift (fun _ _ _ hs => hs) fun s hs => hs) fun _ => ?_
  split
  · exact .fail fun s hs => hs
  · rename_i builder hbuilder
    have hlisted : Triple (c.Same w) (orListArtifacts service owner artifacts)
        (fun artifacts s => artifacts.map Artifact.id = ids w.store owner ∧ c.Same w s)
        (c.Same w) := by
      rw [orListArtifacts]
      split
      · exact listArtifacts_same hgrows hvalid owner
      · rename_i hne
        exact .pure fun s hs => ⟨hartifacts.resolve_left hne, hs⟩
    refine .bind hlisted fun listed => .assuming fun hids => .bind (.read fun s hs => hs)
      fun seen => .bind (.lift (fun _ _ _ hs => hs) fun s hs => hs) fun context =>
        .bind (.lift (fun _ _ _ hs => hs) fun s hs => hs) fun view =>
          .bind (alloc_same view) fun ref => ?_
    refine .bind (.weaken (hand_same (P := fun _ => True) fun _ _ => trivial)
      (fun s hs => ⟨⟨hs.1, hs.2.1⟩, trivial⟩) fun _ s hs => hs) fun _ => ?_
    exact .pure fun s hs => ⟨hids, hs.1.1⟩

/-- A view has just been generated, and replaces the cached one of its definition. -/
abbrev Generated (c : Cache υ) (w : Shelf σ υ) (key : ViewKey) (ids : List Text)
    (s : Shelf σ υ) : Prop :=
  c.Replaced { w with history := w.history ++ [.generated key] } key ids s

theorem storeView_generated (hcaches : Caches service.views c) (ref : Ref) {owner : Owner}
    {artifacts : List Artifact} :
    Triple (c.Same w) (storeView service ref owner artifacts)
      (fun stored s => (∃ viewDefinitionId,
          Generated c w ⟨owner, viewDefinitionId⟩ (artifacts.map Artifact.id) s) ∧
        Dict.get? (s.objects stored).metadata isStale = some (metaBool false)) (c.Same w) := by
  refine .bind (Q := fun view s => c.Same w s ∧ s.objects ref = view) ?_ fun view =>
    .bind (hcaches.stored w ref view owner artifacts) fun stored =>
      .bind (Q := fun _ s => (Generated c w ⟨owner, view.viewDefinitionId⟩
          (artifacts.map Artifact.id) s ∧ c.Free s stored) ∧
        Dict.get? (s.objects stored).metadata isStale = some (metaBool false)) ?_ fun _ =>
        .bind (.modify fun s hs => ⟨⟨view.viewDefinitionId, ?_⟩, hs.2⟩) fun _ =>
          .pure fun s hs => hs
  · exact fun s hs => .of_ok ⟨hs, rfl⟩
  · refine .modify fun s hs => ⟨⟨?_, hs.2.1⟩, hs.2.2⟩
    exact { hs.1 with history := congrArg (· ++ _) hs.1.history }
  · exact { hs.1.1 with toSound := hs.1.1.toSound.hand hs.1.2 }

theorem lookUp_same (hcaches : Caches service.views c) (key : ViewKey) (regenerate : Bool) :
    Triple (c.Same w) (lookUp service key regenerate)
      (fun found s => c.Same w s ∧
        ∀ ref, found = some ref → c.Free s ref ∧ c.view w key = some (s.objects ref))
      (c.Same w) := by
  rw [lookUp]
  split
  · exact .pure fun s hs => ⟨hs, fun ref href =>
      absurd href (Option.some_ne_none ref).symm⟩
  · exact hcaches.found w key

/-- The call finds a cached view. -/
def Hit (service : PerspectiveService χ σ υ) (w : Shelf σ υ) (key : ViewKey)
    (regenerate : Bool) : Prop :=
  ∃ ref s, lookUp service key regenerate w = (.ok (some ref), s)

/-- What a call returns: an annotated copy of the cached view, or one generated just now. -/
theorem getPerspective_served (hgrows : Grows service.repository service.views Valid ids)
    (hcaches : Caches service.views c) (hsound : c.Sound w) (hvalid : Valid w.store)
    (owner : Owner) (viewDefinitionId : Text) (regenerate : Bool) :
    Triple (· = w) (getPerspective service owner viewDefinitionId regenerate)
      (fun ref s =>
        (Hit service w ⟨owner, viewDefinitionId⟩ regenerate ∧ c.Same w s ∧
          ∃ view, c.view w ⟨owner, viewDefinitionId⟩ = some view ∧
            s.objects ref = annotate (ids w.store owner) view) ∨
        (¬Hit service w ⟨owner, viewDefinitionId⟩ regenerate ∧
          (∃ generated, Generated c w ⟨owner, generated⟩ (ids w.store owner) s) ∧
          Dict.get? (s.objects ref).metadata isStale = some (metaBool false)))
      (c.Same w) := by
  have hsame : c.Same w w := .refl hsound
  have hlist : Triple (· = w) (listArtifacts service owner)
      (fun artifacts s => artifacts.map Artifact.id = ids w.store owner ∧ s = w) (c.Same w) :=
    fun s hs => ⟨(listArtifacts_exact hgrows hvalid owner s hs).1, fun e s' heq =>
      (listArtifacts_exact hgrows hvalid owner s hs).2 e s' heq ▸ hsame⟩
  refine .bind hlist fun artifacts => .assuming fun hartifacts => ?_
  have hlook := (lookUp_same hcaches ⟨owner, viewDefinitionId⟩ regenerate).exact hsame
  refine .bind (.weaken hlook (fun s hs => hs) fun found s hs =>
    (⟨⟨s, hs.1⟩, hs.2⟩ : (∃ t, lookUp service _ _ w = (.ok found, t)) ∧ _)) fun found =>
      .assuming fun hfound => ?_
  cases found with
  | some ref =>
    obtain ⟨t, hfound⟩ := hfound
    have hannotated : Triple (fun s => c.Same w s ∧ ∀ ref', some ref = some ref' →
          c.Free s ref' ∧ c.view w ⟨owner, viewDefinitionId⟩ = some (s.objects ref'))
        (withStaleMetadata ref artifacts)
        (fun _ s => (c.Same w s ∧ c.Free s ref) ∧
          ∃ view, c.view w ⟨owner, viewDefinitionId⟩ = some view ∧
            s.objects ref = annotate (ids w.store owner) view) (c.Same w) := by
      refine .modify fun s hs => ?_
      obtain ⟨hfree, hview⟩ := hs.2 ref rfl
      refine ⟨⟨hs.1.write hfree _, hfree⟩, _, hview, ?_⟩
      rw [← hartifacts]
      exact Function.update_self _ _ _
    refine .bind hannotated fun _ => .bind (hand_same fun s hs => hs) fun _ =>
      .pure fun s hs => .inl ⟨⟨ref, t, hfound⟩, hs.1.1, hs.2⟩
  | none =>
    obtain ⟨t, hfound⟩ := hfound
    have hmiss : ¬Hit service w ⟨owner, viewDefinitionId⟩ regenerate := by
      rintro ⟨ref, t', hhit⟩
      rw [hfound] at hhit
      cases (Prod.mk.inj hhit).1
    refine .bind (.weaken (buildView_same hgrows hvalid owner viewDefinitionId (.inr hartifacts))
      (fun s hs => hs.1) fun _ _ hs => hs) fun built => .assuming fun hbuilt => ?_
    refine .weaken (storeView_generated hcaches built.1) (fun s hs => hs) fun stored s hs => ?_
    rw [hbuilt] at hs
    exact .inr ⟨hmiss, hs⟩

theorem buildPerspective_generated (hgrows : Grows service.repository service.views Valid ids)
    (hcaches : Caches service.views c) (hvalid : Valid w.store)
    (owner : Owner) (viewDefinitionId : Text) :
    Triple (c.Same w) (buildPerspective service owner viewDefinitionId)
      (fun _ s => ∃ generated, Generated c w ⟨owner, generated⟩ (ids w.store owner) s)
      (c.Same w) := by
  refine .bind (buildView_same hgrows hvalid owner viewDefinitionId (.inl rfl)) fun built =>
    .assuming fun hbuilt => .weaken (storeView_generated hcaches built.1) (fun s hs => hs)
      fun stored s hs => ?_
  rw [hbuilt] at hs
  exact hs.1

end Service

section History

variable {χ σ υ : Type} {service : PerspectiveService χ σ υ} {Valid : σ → Prop}
  {ids : σ → Owner → List Text} {c : Cache υ} {w : Shelf σ υ}

/-- The cached view names the artifacts that were there when it was last generated. -/
def Dated (ids : σ → Owner → List Text) (s : Shelf σ υ) (key : ViewKey)
    (view : PerspectiveView) : Prop :=
  ∃ front back, s.history = front ++ .generated key :: back ∧ .generated key ∉ back ∧
    ((.ingested key.owner ∉ back ∧ storedIds view = ids s.store key.owner) ∨
      (.ingested key.owner ∈ back ∧ (storedIds view).length < (ids s.store key.owner).length))

structure Faithful (Valid : σ → Prop) (ids : σ → Owner → List Text) (c : Cache υ)
    (s : Shelf σ υ) : Prop where
  sound : c.Sound s
  valid : Valid s.store
  dated : ∀ key view, c.view s key = some view → Dated ids s key view

theorem append_cons_inj_last {α : Type} {front back front' back' : List α} {a : α}
    (h : front ++ a :: back = front' ++ a :: back') (hback : a ∉ back) (hback' : a ∉ back') :
    back = back' := by
  rcases List.append_eq_append_iff.mp h with ⟨more, -, hmore⟩ | ⟨more, -, hmore⟩
  · cases more with
    | nil => exact (List.cons.inj hmore).2
    | cons b more =>
      rw [(List.cons.inj hmore).2] at hback
      exact absurd (List.mem_append_right _ List.mem_cons_self) hback
  · cases more with
    | nil => exact (List.cons.inj hmore).2.symm
    | cons b more =>
      rw [(List.cons.inj hmore).2] at hback'
      exact absurd (List.mem_append_right _ List.mem_cons_self) hback'

/-- The two lists differ where the owner has stored an artifact since. -/
theorem Dated.stale_iff {s : Shelf σ υ} {key : ViewKey} {view : PerspectiveView}
    (h : Dated ids s key view) :
    ids s.store key.owner ≠ storedIds view ↔ IngestedSince s.history key := by
  obtain ⟨front, back, hhistory, hlast, ⟨hnone, hids⟩ | ⟨hsome, hlength⟩⟩ := h
  · refine ⟨fun hne => absurd hids.symm hne, ?_⟩
    rintro ⟨front', back', hhistory', hlast', hsince⟩
    rw [append_cons_inj_last (hhistory.symm.trans hhistory') hlast hlast'] at hnone
    exact absurd hsince hnone
  · refine ⟨fun _ => ⟨front, back, hhistory, hlast, hsome⟩, fun _ heq => ?_⟩
    rw [heq] at hlength
    exact Nat.lt_irrefl _ hlength

theorem Faithful.same (hw : Faithful Valid ids c w) {s : Shelf σ υ} (hs : c.Same w s) :
    Faithful Valid ids c s where
  sound := hs.toSound
  valid := hs.store ▸ hw.valid
  dated key view hview := by
    have hdated := hw.dated key view (hs.views ▸ hview)
    rw [Dated, hs.history, hs.store]
    exact hdated

theorem Faithful.generated (hw : Faithful Valid ids c w) {s : Shelf σ υ} {key : ViewKey}
    (hs : Generated c w key (ids w.store key.owner) s) : Faithful Valid ids c s where
  sound := hs.toSound
  valid := hs.store ▸ hw.valid
  dated other view hview := by
    rw [Dated, hs.history, hs.store]
    by_cases hother : other = key
    · subst hother
      exact ⟨w.history, [], rfl, by simp, .inl ⟨by simp, hs.ids view hview⟩⟩
    · rw [hs.others other hother] at hview
      obtain ⟨front, back, hhistory, hlast, hdated⟩ := hw.dated other view hview
      have hmem : ∀ event, event ≠ .generated key →
          (event ∈ back ++ [.generated key] ↔ event ∈ back) :=
        fun event hne => by simp [hne]
      refine ⟨front, back ++ [.generated key], by simp [hhistory], ?_, ?_⟩
      · rw [hmem _ (by simpa using hother)]
        exact hlast
      · rw [hmem _ (by simp)]
        exact hdated

/-- What an ingestion changes: the records, and the history when it stores its artifact. -/
theorem ingest_eq (stamp : Stamp) (request : IngestionRequest) :
    (ingest service stamp request w).2 =
      { w with
        store := (ingestArtifact service.toContextEngineService stamp request w.store).2
        history := w.history ++
          if stores service stamp request w.store then [.ingested request.owner] else [] } := by
  have hrun : ingest service stamp request w =
      (if stores service stamp request w.store then
        log (.ingested request.owner) >>= fun _ =>
          onStore (ingestArtifact service.toContextEngineService stamp request)
      else onStore (ingestArtifact service.toContextEngineService stamp request)) w := by
    rw [ingest, bind_ok (x := Effect.read) rfl]
  rw [hrun]
  by_cases hstores : stores service stamp request w.store = true
  · rw [if_pos hstores, if_pos hstores]
    rfl
  · rw [if_neg hstores, if_neg hstores, List.append_nil]
    rfl

theorem Faithful.ingest (hgrows : Grows service.repository service.views Valid ids)
    (hw : Faithful Valid ids c w) (stamp : Stamp) (request : IngestionRequest) :
    Faithful Valid ids c (ingest service stamp request w).2 := by
  obtain ⟨hvalid, hothers, hgrown⟩ := ingestArtifact_ids hgrows stamp request hw.valid
  rw [ingest_eq]
  refine { sound := ⟨hw.sound.allocated, hw.sound.handed⟩, valid := hvalid, dated := ?_ }
  intro key view hview
  obtain ⟨front, back, hhistory, hlast, hdated⟩ := hw.dated key view hview
  cases hstores : stores service stamp request w.store with
  | false =>
    rw [hstores, if_neg (by simp)] at hgrown
    refine ⟨front, back, by simp [hhistory], hlast, ?_⟩
    rw [hgrown]
    exact hdated
  | true =>
    rw [hstores, if_pos rfl] at hgrown
    refine ⟨front, back ++ [.ingested request.owner], by simp [hhistory], by simp [hlast], ?_⟩
    by_cases howner : key.owner = request.owner
    · right
      refine ⟨by simp [howner], ?_⟩
      rw [howner]
      refine lt_of_le_of_lt ?_ hgrown
      rw [← howner]
      rcases hdated with ⟨-, hids⟩ | ⟨-, hlength⟩
      · rw [hids]
      · exact hlength.le
    · have hmem : .ingested key.owner ∈ back ++ [.ingested request.owner] ↔
          .ingested key.owner ∈ back := by simp [howner]
      rw [hmem]
      rw [hothers key.owner howner]
      exact hdated

theorem emptyShelf_faithful (store : σ) (cache : υ) (hvalid : Valid store)
    (howned : ∀ ref, ¬c.owned cache ref)
    (hview : ∀ objects key, c.cached cache objects key = none) :
    Faithful Valid ids c (emptyShelf store cache) where
  sound := ⟨fun ref h => absurd h (howned ref), fun ref href => absurd href List.not_mem_nil⟩
  valid := hvalid
  dated key view h := by
    rw [Cache.view, emptyShelf, hview] at h
    cases h

/-- What any step does: a generation replaces one cached view, everything else leaves them alone. -/
theorem step_faithful (hgrows : Grows service.repository service.views Valid ids)
    (hcaches : Caches service.views c) (hw : Faithful Valid ids c w) {a : Action}
    {t : Shelf σ υ} (h : step service w a = some t) :
    Faithful Valid ids c t ∧ ∃ added, t.history = w.history ++ added ∧
      ∀ key, .generated key ∉ added → c.view t key = c.view w key := by
  have hkept : ∀ {s}, c.Same w s → Faithful Valid ids c s ∧
      ∃ added, s.history = w.history ++ added ∧
        ∀ key, .generated key ∉ added → c.view s key = c.view w key := fun hs =>
    ⟨hw.same hs, [], by rw [hs.history, List.append_nil], fun key _ => congrFun hs.views key⟩
  have hgenerated : ∀ {s key}, Generated c w key (ids w.store key.owner) s →
      Faithful Valid ids c s ∧ ∃ added, s.history = w.history ++ added ∧
        ∀ key, .generated key ∉ added → c.view s key = c.view w key := fun hs =>
    ⟨hw.generated hs, _, hs.history, fun other hother =>
      hs.others other fun heq => hother (heq ▸ List.mem_singleton_self _)⟩
  cases a with
  | ingest stamp request =>
    obtain rfl := Option.some.inj h
    have heq : (ingest service stamp request w).2 = _ := ingest_eq stamp request
    refine ⟨hw.ingest hgrows stamp request,
      if stores service stamp request w.store then [.ingested request.owner] else [], ?_,
      fun key _ => ?_⟩
    · rw [heq]
    · rw [heq]
      rfl
  | getPerspective owner viewDefinitionId regenerate =>
    obtain rfl := Option.some.inj h
    have hserved := getPerspective_served hgrows hcaches hw.sound hw.valid owner viewDefinitionId
      regenerate w rfl
    rcases hrun : getPerspective service owner viewDefinitionId regenerate w with ⟨e | ref, s⟩
    · exact hkept (hserved.2 e s hrun)
    · rcases hserved.1 ref s hrun with ⟨-, hs, -⟩ | ⟨-, ⟨generated, hs⟩, -⟩
      · exact hkept hs
      · exact hgenerated hs
  | buildPerspective owner viewDefinitionId =>
    obtain rfl := Option.some.inj h
    have hbuilt := buildPerspective_generated hgrows hcaches hw.valid owner viewDefinitionId w
      (.refl hw.sound)
    rcases hrun : buildPerspective service owner viewDefinitionId w with ⟨e | ref, s⟩
    · exact hkept (hbuilt.2 e s hrun)
    · obtain ⟨generated, hs⟩ := hbuilt.1 ref s hrun
      exact hgenerated hs
  | write ref view =>
    simp only [step] at h
    split at h
    · rename_i hhanded
      obtain rfl := Option.some.inj h
      exact hkept ((Cache.Same.refl hw.sound).write (hw.sound.handed ref hhanded) view)
    · cases h

/-- In every history: what a lookup returns is stale where an artifact came after the last
generation, what is generated is not, and only a generation replaces a cached view. -/
def TracksStaleness (service : PerspectiveService χ σ υ) (c : Cache υ) (start : Shelf σ υ) : Prop :=
  ∀ w, GuardedRuns.Run (step service) start w →
    (∀ owner viewDefinitionId regenerate ref t,
      getPerspective service owner viewDefinitionId regenerate w = (.ok ref, t) →
      (Hit service w ⟨owner, viewDefinitionId⟩ regenerate →
        t.history = w.history ∧ (∀ key, c.view t key = c.view w key) ∧
        (∃ view, c.view w ⟨owner, viewDefinitionId⟩ = some view ∧
          (t.objects ref).title = view.title ∧ (t.objects ref).sections = view.sections ∧
          storedIds (t.objects ref) = storedIds view) ∧
        ∃ stale, Dict.get? (t.objects ref).metadata isStale = some (metaBool stale) ∧
          (stale = true ↔ IngestedSince w.history ⟨owner, viewDefinitionId⟩)) ∧
      (¬Hit service w ⟨owner, viewDefinitionId⟩ regenerate →
        Dict.get? (t.objects ref).metadata isStale = some (metaBool false))) ∧
    ∀ a t, step service w a = some t → ∃ added, t.history = w.history ++ added ∧
      ∀ key, .generated key ∉ added → c.view t key = c.view w key

/-- The annotation sets the flag, and leaves the ids that it compared. -/
theorem get?_annotate (currentIds : List Text) (view : PerspectiveView) :
    Dict.get? (annotate currentIds view).metadata isStale =
        some (metaBool (decide (currentIds ≠ storedIds view))) ∧
      storedIds (annotate currentIds view) = storedIds view := by
  have hflag : Dict.get? (annotate currentIds view).metadata isStale =
      some (metaBool (decide (currentIds ≠ storedIds view))) := by
    rw [annotate]
    dsimp only
    split
    · rw [Dict.get?_set_ne (by decide), Dict.get?_set_ne (by decide), Dict.get?_set_ne (by decide),
        Dict.get?_set_self]
    · rw [Dict.get?_filter_ne (by decide), Dict.get?_set_ne (by decide),
        Dict.get?_set_ne (by decide), Dict.get?_set_self]
  have hids : Dict.get? (annotate currentIds view).metadata sourceArtifactIds =
      Dict.get? view.metadata sourceArtifactIds := by
    rw [annotate]
    dsimp only
    split
    · rw [Dict.get?_set_ne (by decide), Dict.get?_set_ne (by decide), Dict.get?_set_ne (by decide),
        Dict.get?_set_ne (by decide)]
    · rw [Dict.get?_filter_ne (by decide), Dict.get?_set_ne (by decide),
        Dict.get?_set_ne (by decide), Dict.get?_set_ne (by decide)]
  refine ⟨hflag, ?_⟩
  rw [storedIds, hids, storedIds]

theorem tracksStaleness (hgrows : Grows service.repository service.views Valid ids)
    (hcaches : Caches service.views c) {start : Shelf σ υ}
    (hstart : Faithful Valid ids c start) : TracksStaleness service c start := by
  intro w hrun
  have hw : Faithful Valid ids c w := GuardedRun.invariant hrun hstart
    fun _ _ _ hs _ hstep => (step_faithful hgrows hcaches hs hstep).1
  refine ⟨fun owner viewDefinitionId regenerate ref t hget => ?_, fun a t hstep =>
    (step_faithful hgrows hcaches hw hstep).2⟩
  have hserved := (getPerspective_served hgrows hcaches hw.sound hw.valid owner viewDefinitionId
    regenerate w rfl).1 ref t hget
  rcases hserved with ⟨hhit, hs, view, hview, hobject⟩ | ⟨hmiss, -, hfresh⟩
  · obtain ⟨hstale, hids⟩ := get?_annotate (ids w.store owner) view
    refine ⟨fun _ => ⟨hs.history, fun key => congrFun hs.views key, ⟨view, hview, ?_⟩,
      decide (ids w.store owner ≠ storedIds view), ?_, ?_⟩, fun hmiss => absurd hhit hmiss⟩
    · rw [hobject, hids]
      exact ⟨rfl, rfl, rfl⟩
    · rw [hobject]
      exact hstale
    · rw [decide_eq_true_iff]
      exact (hw.dated _ view hview).stale_iff
  · exact ⟨fun hhit => absurd hhit hmiss, fun _ => hfresh⟩

end History

section Repositories

variable {χ : Type}

/-- The parts of a service that do not depend on where it stores. -/
structure Setup (χ : Type) where
  registry : DomainRegistry χ
  defaultChunker : Artifact → Except Raised (List ArtifactChunk)
  executionContext : Option χ
  perspectiveBuilders : Text → List (PerspectiveBuilder χ)

def Setup.inMemory (setup : Setup χ) (isoformat : Nat → Text) :
    PerspectiveService χ Memory MemoryViews where
  registry := setup.registry
  repository := inMemoryRepository
  defaultChunker := setup.defaultChunker
  executionContext := setup.executionContext
  perspectiveBuilders := setup.perspectiveBuilders
  views := inMemoryViews isoformat

def Setup.sqlAlchemy (setup : Setup χ) (db : Database) (viewDb : ViewDatabase) :
    PerspectiveService χ Tables ViewRecords where
  registry := setup.registry
  repository := sqlAlchemyRepository db
  defaultChunker := setup.defaultChunker
  executionContext := setup.executionContext
  perspectiveBuilders := setup.perspectiveBuilders
  views := sqlAlchemyViews viewDb

/-- Staleness is tracked whatever packs and builders are registered, in memory and in a database
whose JSON keeps lists of texts. -/
theorem perspective_staleness (setup : Setup χ) (isoformat : Nat → Text) (db : Database)
    {viewDb : ViewDatabase} (hkeeps : viewDb.KeepsTexts) :
    TracksStaleness (setup.inMemory isoformat) memoryCache (emptyShelf emptyMemory []) ∧
      TracksStaleness (setup.sqlAlchemy db viewDb) (tableCache viewDb)
        (emptyShelf emptyTables []) := by
  constructor
  · refine tracksStaleness (inMemory_grows isoformat) inMemory_caches
      (emptyShelf_faithful _ _ (fun _ hitem => absurd hitem List.not_mem_nil) ?_ fun _ _ => rfl)
    rintro ref ⟨item, hitem, -⟩
    exact absurd hitem List.not_mem_nil
  · exact tracksStaleness (sqlAlchemy_grows db viewDb) (sqlAlchemy_caches hkeeps)
      (emptyShelf_faithful _ _ trivial (fun _ => id) fun _ _ => rfl)

def timeline : Text := "timeline".toList

def timelineBuilder : PerspectiveBuilder Unit where
  id := timeline
  build _ := .ok ⟨"view_1".toList, timeline, "Timeline".toList, [], []⟩
  buildWithExecution := none

def timelineSetup : Setup Unit where
  registry := [("notes".toList, ⟨"notes".toList, ["note".toList], none, [], []⟩)]
  defaultChunker := noChunks
  executionContext := none
  perspectiveBuilders _ := [timelineBuilder]

def epoch (_ : Nat) : Text := "1970-01-01T00:00:00+00:00".toList

def storedTimeline : PerspectiveView :=
  cachedForm epoch [noteRequest.artifact noteStamp]
    ⟨"view_1".toList, timeline, "Timeline".toList, [], []⟩

def timelineJson : Text :=
  ("\x7b\"id\":\"view_1\",\"view_definition_id\":\"timeline\",\"title\":\"Timeline\"," ++
    "\"sections\":[],\"metadata\":\x7b\"source_artifact_ids\":[\"art_1\"]," ++
    "\"source_artifact_count\":1,\"latest_artifact_created_at\":" ++
    "\"1970-01-01T00:00:00+00:00\",\"is_stale\":false\x7d\x7d").toList

def timelineDb : ViewDatabase where
  isoformat := epoch
  dump view := if view = storedTimeline then .ok timelineJson else .error ⟨.other, []⟩
  load _ := .ok storedTimeline
  generatedAt _ := 0
  refuses _ _ _ := none

theorem timelineDb_keeps : timelineDb.KeepsTexts := by
  intro view json loaded key texts hdump hload hget
  simp only [timelineDb] at hdump hload
  split at hdump
  · rename_i hview
    rw [← Except.ok.inj hload, ← hview]
    exact hget
  · cases hdump

/-- A note, its timeline, and another note of the same owner. -/
def twoNotes : List Action :=
  [.ingest noteStamp noteRequest, .getPerspective noteRequest.owner timeline false,
    .ingest ⟨"art_2".toList, 0⟩ noteRequest]

def staleHit {σ υ : Type} (service : PerspectiveService χ σ υ) (key : ViewKey) (w : Shelf σ υ) :
    Bool :=
  (match lookUp service key false w with
    | (.ok (some _), _) => true
    | _ => false) &&
  match getPerspective service key.owner key.viewDefinitionId false w with
  | (.ok ref, t) => Dict.get? (t.objects ref).metadata isStale = some (metaBool true)
  | _ => false

theorem since_of_staleHit {σ υ : Type} {service : PerspectiveService χ σ υ} {c : Cache υ}
    {start : Shelf σ υ} (htracks : TracksStaleness service c start) {actions : List Action}
    {key : ViewKey} (h : (exec (step service) start actions).any (staleHit service key) = true) :
    ∃ w, exec (step service) start actions = some w ∧ Hit service w key false ∧
      IngestedSince w.history key := by
  obtain ⟨w, hw, hstale⟩ := (Option.any_eq_true _ _).mp h
  obtain ⟨hfound, hflag⟩ := Bool.and_eq_true_iff.mp hstale
  split at hfound
  · rename_i ref s hlook
    split at hflag
    · rename_i view t hget
      have hhit : Hit service w key false := ⟨ref, s, hlook⟩
      obtain ⟨-, -, -, stale, hvalue, hiff⟩ :=
        ((htracks w (run_of_exec hw)).1 _ _ _ view t hget).1 hhit
      rw [of_decide_eq_true hflag] at hvalue
      refine ⟨w, hw, hhit, hiff.mp ?_⟩
      cases stale with
      | true => rfl
      | false => exact absurd hvalue (by decide)
    · cases hflag
  · cases hfound

/-- The timeline of the first note is found stale after the second, in memory and in the tables. -/
theorem timeline_goes_stale :
    (∃ w, exec (step (timelineSetup.inMemory epoch)) (emptyShelf emptyMemory []) twoNotes =
      some w ∧ Hit (timelineSetup.inMemory epoch) w ⟨noteRequest.owner, timeline⟩ false ∧
        IngestedSince w.history ⟨noteRequest.owner, timeline⟩) ∧
    ∃ w, exec (step (timelineSetup.sqlAlchemy (fun _ _ => none) timelineDb))
        (emptyShelf emptyTables []) twoNotes = some w ∧
      Hit (timelineSetup.sqlAlchemy (fun _ _ => none) timelineDb) w
        ⟨noteRequest.owner, timeline⟩ false ∧
      IngestedSince w.history ⟨noteRequest.owner, timeline⟩ := by
  have htracks := perspective_staleness timelineSetup epoch (fun _ _ => none) timelineDb_keeps
  exact ⟨since_of_staleHit htracks.1 (by decide +kernel),
    since_of_staleHit htracks.2 (by decide +kernel)⟩

end Repositories

end DemoService.Context
