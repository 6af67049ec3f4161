import DemoService.Fallible
import DemoService.IngestAtomicity
import DemoService.PerspectiveViews
import DemoService.RepositoryMirror

/-! What both context repositories grant the perspective views: the ids of an owner's artifacts
grow with each artifact that is stored, and what is cached is out of reach of those who were given
views. -/

namespace DemoService.Context

open PyText Effect
open SecondaryIndex (getAll entries extend entries_extend)

section Listings

variable {χ σ υ α : Type}

def ListsAs (Valid : σ → Prop) (ids : σ → Owner → List Text) (listed : Owner → List Text)
    (s : σ) : Prop := Valid s ∧ ids s = listed

/-- The computation leaves the ids of the artifacts alone, also where it fails. -/
def Keeps (Valid : σ → Prop) (ids : σ → Owner → List Text) (x : Effect σ Raised α) : Prop :=
  ∀ listed, Triple (ListsAs Valid ids listed) x (fun _ => ListsAs Valid ids listed)
    (ListsAs Valid ids listed)

/-- A repository whose lists of artifact ids grow with each artifact it stores, and never else. -/
structure Grows (repository : ContextRepository σ) (views : PerspectiveRepository σ υ)
    (Valid : σ → Prop) (ids : σ → Owner → List Text) : Prop where
  listed : ∀ {s owner artifacts}, Valid s → views.listArtifacts s owner = .ok artifacts →
    artifacts.map Artifact.id = ids s owner
  stored : ∀ {s s' artifact}, Valid s → repository.storeArtifact artifact s = (.ok (), s') →
    Valid s' ∧ (∀ owner, owner ≠ artifact.owner → ids s' owner = ids s owner) ∧
      (ids s artifact.owner).length < (ids s' artifact.owner).length
  refused : ∀ {s s' artifact e}, Valid s → repository.storeArtifact artifact s = (.error e, s') →
    Valid s' ∧ ids s' = ids s
  chunks : ∀ batch, Keeps Valid ids (repository.storeChunks batch)
  entities : ∀ batch, Keeps Valid ids (repository.storeEntities batch)
  relationships : ∀ batch, Keeps Valid ids (repository.storeRelationships batch)
  signals : ∀ batch, Keeps Valid ids (repository.storeSignals batch)
  actionableItems : ∀ batch, Keeps Valid ids (repository.storeActionableItems batch)
  index : ∀ artifact signals items,
    Keeps Valid ids (repository.indexArtifactOutputs artifact signals items)

variable {Valid : σ → Prop} {ids : σ → Owner → List Text}

theorem Keeps.lift (r : Except Raised α) : Keeps Valid ids (Effect.lift r) := fun _ =>
  .lift (fun _ _ _ hs => hs) fun _ hs => hs

theorem Keeps.forEach {β : Type} {act : β → Effect σ Raised Unit}
    (h : ∀ b, Keeps Valid ids (act b)) (bs : List β) : Keeps Valid ids (Effect.forEach act bs) :=
  fun listed => .forEach (I := fun _ => ListsAs Valid ids listed) (fun b _ _ => h b listed) []

theorem Keeps.modify {f : σ → σ} (hvalid : ∀ s, Valid s → Valid (f s))
    (hids : ∀ s, ids (f s) = ids s) : Keeps Valid ids (Effect.modify f : Effect σ Raised Unit) :=
  fun _ => .modify fun s hs => ⟨hvalid s hs.1, (hids s).trans hs.2⟩

theorem Keeps.final {x : Effect σ Raised α} (h : Keeps Valid ids x) {s : σ} (hs : Valid s) :
    Valid (x s).2 ∧ ids (x s).2 = ids s := by
  have htriple := h (ids s) s ⟨hs, rfl⟩
  rcases hx : x s with ⟨e | a, s'⟩
  · exact htriple.2 e s' hx
  · exact htriple.1 a s' hx

/-- What an ingestion does to the lists: one artifact more for its owner, once it is stored. -/
theorem ingestArtifact_ids {service : PerspectiveService χ σ υ}
    (hgrows : Grows service.repository service.views Valid ids) (stamp : Stamp)
    (request : IngestionRequest) {s : σ} (hs : Valid s) :
    let s' := (ingestArtifact service.toContextEngineService stamp request s).2
    Valid s' ∧ (∀ owner, owner ≠ request.owner → ids s' owner = ids s owner) ∧
      if stores service stamp request s then
        (ids s request.owner).length < (ids s' request.owner).length
      else ids s' = ids s := by
  rw [ingestArtifact, stores]
  cases hadmit : admitRequest service.registry request with
  | error raised =>
    rw [lift_bind_error rfl]
    exact ⟨hs, fun _ _ => rfl, by simp⟩
  | ok domain =>
    rw [lift_bind_ok rfl]
    rcases hstore : service.repository.storeArtifact (request.artifact stamp) s with ⟨e | u, s₁⟩
    · rw [bind_error hstore]
      obtain ⟨hvalid, hids⟩ := hgrows.refused hs hstore
      exact ⟨hvalid, fun owner _ => congrFun hids owner, by simpa using hids⟩
    · rw [bind_ok hstore]
      obtain ⟨hvalid, hothers, hgrown⟩ := hgrows.stored hs hstore
      have hrest := Keeps.final (fun listed =>
        .bind (Keeps.lift ((domain.chunker.getD service.defaultChunker) (request.artifact stamp))
          listed) fun chunks =>
        .bind (hgrows.chunks chunks listed) fun _ =>
        .bind (Keeps.lift (derive domain service.executionContext (request.artifact stamp) chunks)
          listed) fun outputs =>
        .bind (hgrows.entities outputs.entities listed) fun _ =>
        .bind (hgrows.relationships outputs.relationships listed) fun _ =>
        .bind (hgrows.signals outputs.signals listed) fun _ =>
        .bind (hgrows.actionableItems outputs.actionableItems listed) fun _ =>
        .bind (hgrows.index (request.artifact stamp) outputs.signals outputs.actionableItems listed)
          fun _ => .pure (a := (⟨request.artifact stamp, chunks, outputs.entities,
            outputs.relationships, outputs.signals, outputs.actionableItems,
            outputs.extractorIds⟩ : IngestionResult)) fun _ hs => hs) hvalid
      refine ⟨hrest.1, fun owner howner => ?_, ?_⟩
      · exact (congrFun hrest.2 owner).trans (hothers owner howner)
      · rw [if_pos rfl]
        exact lt_of_lt_of_eq hgrown (congrArg List.length (congrFun hrest.2 request.owner)).symm

end Listings

section InMemory

def Memory.KeyedById (memory : Memory) : Prop := ∀ item ∈ memory.artifacts, item.2.id = item.1

def Memory.artifactIds (memory : Memory) (owner : Owner) : List Text :=
  entries memory.artifactIndex owner

theorem getAll_ids {artifacts : Dict Text Artifact} (hkeys : ∀ item ∈ artifacts, item.2.id = item.1)
    {ids : List Text} {found : List Artifact} (h : getAll artifacts ids = some found) :
    found.map Artifact.id = ids := by
  induction ids generalizing found with
  | nil =>
    obtain rfl := Option.some.inj h
    rfl
  | cons id ids ih =>
    obtain ⟨artifact, hget, h⟩ := Option.bind_eq_some_iff.mp h
    obtain ⟨rest, hrest, rfl⟩ := Option.map_eq_some_iff.mp h
    rw [List.map_cons, ih hrest, hkeys _ (Dict.mem_of_get?_eq_some hget)]

theorem keeps_modify_memory {f : Memory → Memory} (hartifacts : ∀ m, (f m).artifacts = m.artifacts)
    (hindex : ∀ m, (f m).artifactIndex = m.artifactIndex) :
    Keeps Memory.KeyedById Memory.artifactIds (Effect.modify f : Effect Memory Raised Unit) := by
  refine .modify (fun m hm => ?_) fun m => ?_
  · rw [Memory.KeyedById, hartifacts]
    exact hm
  · funext owner
    rw [Memory.artifactIds, hindex, Memory.artifactIds]

theorem keeps_storeLinked {ρ : Type} (kind : RecordKind ρ) {put : Artifact → Memory → ρ → Memory}
    (hartifacts : ∀ artifact record m, (put artifact m record).artifacts = m.artifacts)
    (hindex : ∀ artifact record m, (put artifact m record).artifactIndex = m.artifactIndex)
    (batch : List ρ) :
    Keeps Memory.KeyedById Memory.artifactIds (Effect.forEach (storeLinked kind put) batch) := by
  refine .forEach (fun record listed m hm => ?_) batch
  rw [storeLinked]
  cases artifactForRequiredSourceLink kind m.artifacts record with
  | error raised => exact .of_error hm
  | ok artifact =>
    have hkept : Keeps Memory.KeyedById Memory.artifactIds
        (Effect.modify fun m => put artifact m record : Effect Memory Raised Unit) :=
      keeps_modify_memory (hartifacts artifact record) (hindex artifact record)
    exact hkept listed m hm

theorem inMemory_grows (isoformat : Nat → Text) :
    Grows inMemoryRepository (inMemoryViews isoformat) Memory.KeyedById Memory.artifactIds where
  listed := by
    intro memory owner artifacts hvalid h
    cases hfound : memory.listArtifacts owner with
    | none => simp [inMemoryViews, orKeyError, hfound] at h
    | some found =>
      have heq : found = artifacts := by simpa [inMemoryViews, orKeyError, hfound] using h
      exact heq ▸ getAll_ids hvalid hfound
  stored := by
    intro memory memory' artifact hvalid h
    obtain rfl := (Prod.mk.inj h).2
    refine ⟨fun item hitem => ?_, fun owner howner => ?_, ?_⟩
    · rcases Dict.mem_set hitem with rfl | hitem
      · rfl
      · exact hvalid item hitem
    · change entries (extend memory.artifactIndex artifact.owner [artifact.id]) owner = _
      rw [entries_extend, if_neg howner.symm, List.append_nil, Memory.artifactIds]
    · change _ < (entries (extend memory.artifactIndex artifact.owner [artifact.id]) _).length
      rw [entries_extend, if_pos rfl, List.length_append, Memory.artifactIds]
      simp
  refused := by
    intro memory memory' artifact e _ h
    cases (Prod.mk.inj h).1
  chunks := .forEach fun _ => keeps_modify_memory (fun _ => rfl) fun _ => rfl
  entities := keeps_storeLinked entityKind (fun _ _ _ => rfl) fun _ _ _ => rfl
  relationships := keeps_storeLinked relationshipKind (fun _ _ _ => rfl) fun _ _ _ => rfl
  signals := keeps_storeLinked signalKind (fun _ _ _ => rfl) fun _ _ _ => rfl
  actionableItems := keeps_storeLinked itemKind (fun _ _ _ => rfl) fun _ _ _ => rfl
  index _ _ _ := keeps_modify_memory (fun _ => rfl) fun _ => rfl

end InMemory

section SqlAlchemy

def Tables.artifactIds (tables : Tables) (owner : Owner) : List Text :=
  (tables.listArtifacts owner).map Artifact.id

theorem artifactIds_append {stored pending : Tables} (h : pending.artifacts = []) :
    (stored ++ pending).artifactIds = stored.artifactIds := by
  funext owner
  have hartifacts : (stored ++ pending).artifacts = stored.artifacts := by
    change stored.artifacts ++ pending.artifacts = stored.artifacts
    rw [h, List.append_nil]
  rw [Tables.artifactIds, Tables.listArtifacts, hartifacts, Tables.artifactIds,
    Tables.listArtifacts]

theorem keeps_inSession (db : Database) {rows : Tables → Except Raised Tables}
    (hrows : ∀ stored pending, rows stored = .ok pending → pending.artifacts = []) :
    Keeps (fun _ => True) Tables.artifactIds (inSession db rows) := by
  intro listed stored hs
  rcases inSession_result db rows stored with hdone | ⟨raised, hdone⟩ <;> rw [hdone]
  · refine .of_ok ?_
    cases hpending : rows stored with
    | error raised => exact hs
    | ok pending =>
      exact ⟨trivial, (artifactIds_append (hrows stored pending hpending)).trans hs.2⟩
  · exact .of_error hs

theorem batchRows_artifacts {ρ : Type} {row : ρ → Except Raised Tables}
    (hrow : ∀ record added, row record = .ok added → added.artifacts = []) {batch : List ρ}
    {pending : Tables} (h : batchRows row batch = .ok pending) : pending.artifacts = [] := by
  induction batch generalizing pending with
  | nil =>
    obtain rfl := Except.ok.inj h
    rfl
  | cons record batch ih =>
    obtain ⟨first, hfirst, h⟩ := Fallible.bind_eq_ok.mp h
    obtain ⟨rest, hrest, h⟩ := Fallible.bind_eq_ok.mp h
    obtain rfl := Fallible.pure_eq_ok.mp h
    change first.artifacts ++ rest.artifacts = []
    rw [hrow record first hfirst, ih hrest, List.append_nil]

theorem LinkedStore.keeps {ρ : Type} (store : LinkedStore ρ) (db : Database) (batch : List ρ) :
    Keeps (fun _ => True) Tables.artifactIds
      (inSession db fun stored => batchRows (store.row stored) batch) := by
  refine keeps_inSession db fun stored pending hpending =>
    batchRows_artifacts (fun record added hadded => ?_) hpending
  rw [store.row_eq] at hadded
  obtain ⟨owner, -, hadded⟩ := Fallible.bind_eq_ok.mp hadded
  obtain ⟨-, -, hadded⟩ := Fallible.bind_eq_ok.mp hadded
  obtain rfl := Fallible.pure_eq_ok.mp hadded
  exact store.added_artifacts owner record

theorem artifactIds_concat (stored : Tables) (artifact : Artifact) (owner : Owner) :
    let grown := stored ++ { emptyTables with artifacts := [artifact] }
    (owner ≠ artifact.owner → grown.artifactIds owner = stored.artifactIds owner) ∧
      (grown.artifactIds artifact.owner).length =
        (stored.artifactIds artifact.owner).length + 1 := by
  have hartifacts : (stored ++ { emptyTables with artifacts := [artifact] }).artifacts =
      stored.artifacts ++ [artifact] := rfl
  constructor
  · intro howner
    rw [Tables.artifactIds, Tables.listArtifacts, hartifacts, List.filter_append]
    simp [Tables.artifactIds, Tables.listArtifacts, howner.symm]
  · simp [Tables.artifactIds, Tables.listArtifacts, hartifacts, List.length_insertionSort]

theorem sqlAlchemy_grows (db : Database) (viewDb : ViewDatabase) :
    Grows (sqlAlchemyRepository db) (sqlAlchemyViews viewDb) (fun _ => True)
      Tables.artifactIds where
  listed := by
    intro tables owner artifacts _ h
    obtain rfl := Except.ok.inj h
    rfl
  stored := by
    intro tables tables' artifact _ h
    change inSession db (fun _ => artifactRow artifact) tables = _ at h
    cases hrow : artifactRow artifact with
    | error raised =>
      rw [inSession, hrow] at h
      cases (Prod.mk.inj h).1
    | ok pending =>
      rcases inSession_result db (fun _ => artifactRow artifact) tables with hdone | ⟨e, hdone⟩
      · obtain rfl := (Prod.mk.inj (h.symm.trans hdone)).2
        obtain ⟨-, -, hpure⟩ := Fallible.bind_eq_ok.mp hrow
        obtain rfl := Fallible.pure_eq_ok.mp hpure
        rw [hrow]
        refine ⟨trivial,
          fun owner howner => (artifactIds_concat tables artifact owner).1 howner, ?_⟩
        have hgrown := (artifactIds_concat tables artifact artifact.owner).2
        change _ <
          (Tables.artifactIds (tables ++ { emptyTables with artifacts := [artifact] }) _).length
        omega
      · cases (Prod.mk.inj (h.symm.trans hdone)).1
  refused := by
    intro tables tables' artifact e _ h
    rcases inSession_result db (fun _ => artifactRow artifact) tables with hdone | ⟨e', hdone⟩
    · cases (Prod.mk.inj (h.symm.trans hdone)).1
    · obtain rfl := (Prod.mk.inj (h.symm.trans hdone)).2
      exact ⟨trivial, rfl⟩
  chunks batch := by
    refine keeps_inSession db fun _ pending hpending =>
      batchRows_artifacts (fun chunk added hadded => ?_) hpending
    obtain ⟨-, -, hadded⟩ := Fallible.bind_eq_ok.mp hadded
    obtain rfl := Fallible.pure_eq_ok.mp hadded
    rfl
  entities := entityStore.keeps db
  relationships := relationshipStore.keeps db
  signals := signalStore.keeps db
  actionableItems := itemStore.keeps db
  index _ _ _ _ := .pure fun _ hs => hs

end SqlAlchemy

section Cache

variable {σ υ : Type}

/-- What a repository has cached, and the references that only it has. -/
structure Cache (υ : Type) where
  owned : υ → Ref → Prop
  cached : υ → (Ref → PerspectiveView) → ViewKey → Option PerspectiveView
  reads : ∀ {cache objects objects'}, (∀ ref, owned cache ref → objects ref = objects' ref) →
    cached cache objects = cached cache objects'

def Cache.view (c : Cache υ) (s : Shelf σ υ) : ViewKey → Option PerspectiveView :=
  c.cached s.cache s.objects

def Cache.Free (c : Cache υ) (s : Shelf σ υ) (ref : Ref) : Prop :=
  ref < s.next ∧ ¬c.owned s.cache ref

structure Cache.Sound (c : Cache υ) (s : Shelf σ υ) : Prop where
  allocated : ∀ ref, c.owned s.cache ref → ref < s.next
  handed : ∀ ref ∈ s.handed, c.Free s ref

/-- The stored records, the history and the cached views are those of `w`. -/
structure Cache.Same (c : Cache υ) (w s : Shelf σ υ) : Prop extends c.Sound s where
  store : s.store = w.store
  history : s.history = w.history
  views : c.view s = c.view w

/-- The view of one definition has been replaced by one of the given artifacts. -/
structure Cache.Replaced (c : Cache υ) (w : Shelf σ υ) (key : ViewKey) (ids : List Text)
    (s : Shelf σ υ) : Prop extends c.Sound s where
  store : s.store = w.store
  history : s.history = w.history
  others : ∀ other, other ≠ key → c.view s other = c.view w other
  ids : ∀ view, c.view s key = some view → storedIds view = ids

/-- A repository that hands out copies, and caches what it is given. -/
structure Caches (views : PerspectiveRepository σ υ) (c : Cache υ) : Prop where
  found : ∀ w key, Triple (c.Same w) (views.getPerspectiveView key)
    (fun found s => c.Same w s ∧
      ∀ ref, found = some ref → c.Free s ref ∧ c.view w key = some (s.objects ref)) (c.Same w)
  stored : ∀ w ref view owner artifacts,
    Triple (fun s => c.Same w s ∧ s.objects ref = view)
      (views.storePerspectiveView ref owner artifacts)
      (fun stored s =>
        c.Replaced w ⟨owner, view.viewDefinitionId⟩ (artifacts.map Artifact.id) s ∧
          c.Free s stored ∧
          Dict.get? (s.objects stored).metadata isStale = some (metaBool false)) (c.Same w)

variable {c : Cache υ} {w s : Shelf σ υ}

theorem Cache.Same.refl (h : c.Sound s) : c.Same s s := ⟨h, rfl, rfl, rfl⟩

def Shelf.grow (s : Shelf σ υ) (view : PerspectiveView) : Shelf σ υ :=
  { s with objects := Function.update s.objects s.next view, next := s.next + 1 }

theorem Cache.Same.grow (h : c.Same w s) (view : PerspectiveView) : c.Same w (s.grow view) := by
  refine { h with allocated := fun ref howned => ?_, handed := fun ref href => ?_, views := ?_ }
  · exact Nat.lt_succ_of_lt (h.allocated ref howned)
  · exact ⟨Nat.lt_succ_of_lt (h.handed ref href).1, (h.handed ref href).2⟩
  · refine (c.reads fun ref howned => ?_).trans h.views
    exact Function.update_of_ne (h.allocated ref howned).ne _ _

theorem Cache.Sound.free_next (h : c.Sound s) (view : PerspectiveView) :
    c.Free (s.grow view) s.next :=
  ⟨Nat.lt_succ_self _, fun howned => Nat.lt_irrefl _ (h.allocated s.next howned)⟩

theorem alloc_same {E : Shelf σ υ → Prop} (view : PerspectiveView) : Triple (c.Same w) (alloc view)
    (fun ref s => c.Same w s ∧ c.Free s ref ∧ s.objects ref = view) E := fun s hs =>
  .of_ok ⟨hs.grow view, hs.free_next view, Function.update_self s.next view s.objects⟩

/-- Whoever was given a view may write to it: the cached ones are out of reach. -/
theorem Cache.Same.write (h : c.Same w s) {ref : Ref} (hfree : c.Free s ref)
    (view : PerspectiveView) : c.Same w (s.write ref view) := by
  refine { h with views := ?_ }
  refine (c.reads fun owned howned => ?_).trans h.views
  exact Function.update_of_ne (fun heq : owned = ref => hfree.2 (heq ▸ howned)) _ _

theorem Cache.Sound.hand (h : c.Sound s) {ref : Ref} (hfree : c.Free s ref) :
    c.Sound { s with handed := ref :: s.handed } where
  allocated := h.allocated
  handed other hother := by
    rcases List.mem_cons.mp hother with rfl | hother
    · exact hfree
    · exact h.handed other hother

theorem get?_cachedForm (isoformat : Nat → Text) (artifacts : List Artifact)
    (view : PerspectiveView) :
    Dict.get? (cachedForm isoformat artifacts view).metadata sourceArtifactIds =
        some (.texts (artifacts.map Artifact.id)) ∧
      Dict.get? (cachedForm isoformat artifacts view).metadata isStale = some (metaBool false) := by
  constructor
  · simp only [cachedForm, perspectiveCacheMetadata, Dict.merge, List.foldl_cons, List.foldl_nil]
    rw [Dict.get?_set_ne (by decide), Dict.get?_set_ne (by decide), Dict.get?_set_ne (by decide),
      Dict.get?_set_self]
  · exact Dict.get?_set_self _ _ _

end Cache

section InMemory

variable {isoformat : Nat → Text}

def memoryCache : Cache MemoryViews where
  owned cache ref := ∃ item ∈ cache, item.2 = ref
  cached cache objects key := (Dict.get? cache key).map objects
  reads := by
    intro cache objects objects' h
    funext key
    cases hget : Dict.get? cache key with
    | none => rfl
    | some ref => simp [h ref ⟨_, Dict.mem_of_get?_eq_some hget, rfl⟩]

theorem inMemory_get (key : ViewKey) (s : Shelf Memory MemoryViews) :
    (inMemoryViews isoformat).getPerspectiveView key s =
      match Dict.get? s.cache key with
      | some ref => (.ok (some s.next), s.grow (s.objects ref))
      | none => (.ok none, s) := by
  change (read >>= _ : Effect _ _ _) s = _
  rw [bind_ok (x := read) rfl]
  cases Dict.get? s.cache key <;> rfl

/-- The cached copy, and after it the copy that is returned. -/
def Shelf.keep (s : Shelf Memory MemoryViews) (key : ViewKey) (form : PerspectiveView) :
    Shelf Memory MemoryViews :=
  { s with
    cache := Dict.set s.cache key s.next
    objects := Function.update (Function.update s.objects s.next form) (s.next + 1) form
    next := s.next + 2 }

theorem inMemory_store (ref : Ref) (owner : Owner) (artifacts : List Artifact)
    (s : Shelf Memory MemoryViews) :
    (inMemoryViews isoformat).storePerspectiveView ref owner artifacts s =
      (.ok (s.next + 1), s.keep ⟨owner, (s.objects ref).viewDefinitionId⟩
        (cachedForm isoformat artifacts (s.objects ref))) := by
  let stored := (s.grow (s.objects ref)).write s.next
    (cachedForm isoformat artifacts ((s.grow (s.objects ref)).objects s.next))
  let cached : Shelf Memory MemoryViews := { stored with
    cache := Dict.set stored.cache ⟨owner, (s.objects ref).viewDefinitionId⟩ s.next }
  have hrun : (inMemoryViews isoformat).storePerspectiveView ref owner artifacts s =
      (.ok cached.next, cached.grow (cached.objects s.next)) := rfl
  rw [hrun]
  simp [cached, stored, Shelf.grow, Shelf.write, Shelf.keep]

theorem memoryCache_keep {w s : Shelf Memory MemoryViews} (hs : memoryCache.Same w s)
    (key : ViewKey) {form : PerspectiveView} {ids : List Text} (hids : storedIds form = ids) :
    memoryCache.Replaced w key ids (s.keep key form) ∧
      memoryCache.Free (s.keep key form) (s.next + 1) := by
  have howned : ∀ ref, memoryCache.owned (s.keep key form).cache ref →
      ref = s.next ∨ memoryCache.owned s.cache ref := by
    rintro ref ⟨item, hitem, rfl⟩
    rcases Dict.mem_set hitem with rfl | hitem
    · exact .inl rfl
    · exact .inr ⟨item, hitem, rfl⟩
  have hold : ∀ ref < s.next, (s.keep key form).objects ref = s.objects ref := by
    intro ref href
    have hne : ref ≠ s.next + 1 := (Nat.lt_succ_of_lt href).ne
    simp [Shelf.keep, Function.update_of_ne hne, Function.update_of_ne href.ne]
  have hfree : ∀ ref, memoryCache.Free s ref → memoryCache.Free (s.keep key form) ref := by
    intro ref href
    refine ⟨Nat.lt_add_right 2 href.1, fun hnow => ?_⟩
    rcases howned ref hnow with rfl | hbefore
    · exact Nat.lt_irrefl _ href.1
    · exact href.2 hbefore
  refine ⟨{
    allocated := fun ref hnow => ?_
    handed := fun ref href => hfree ref (hs.handed ref href)
    store := hs.store
    history := hs.history
    others := fun other hother => ?_
    ids := fun view hview => ?_ }, Nat.lt_succ_self _, fun hnow => ?_⟩
  · change ref < s.next + 2
    rcases howned ref hnow with rfl | hbefore
    · exact Nat.lt_add_of_pos_right Nat.two_pos
    · exact Nat.lt_add_right 2 (hs.allocated ref hbefore)
  · have hget : Dict.get? (s.keep key form).cache other = Dict.get? s.cache other :=
      Dict.get?_set_ne hother.symm _ _
    rw [← hs.views]
    change (Dict.get? (s.keep key form).cache other).map _ = (Dict.get? s.cache other).map _
    rw [hget]
    cases hfound : Dict.get? s.cache other with
    | none => rfl
    | some ref =>
      exact congrArg some (hold ref (hs.allocated ref ⟨_, Dict.mem_of_get?_eq_some hfound, rfl⟩))
  · have hget : Dict.get? (s.keep key form).cache key = some s.next := Dict.get?_set_self _ _ _
    have hform : (s.keep key form).objects s.next = form := by simp [Shelf.keep]
    change (Dict.get? (s.keep key form).cache key).map _ = some view at hview
    rw [hget, Option.map_some, hform] at hview
    rw [← Option.some.inj hview, hids]
  · rcases howned _ hnow with heq | hbefore
    · exact Nat.succ_ne_self _ heq
    · exact Nat.not_succ_lt_self (hs.allocated _ hbefore)

theorem inMemory_caches : Caches (inMemoryViews isoformat) memoryCache (σ := Memory) where
  found := by
    intro w key s hs
    rw [inMemory_get]
    cases hget : Dict.get? s.cache key with
    | none => exact .of_ok ⟨hs, fun ref href => absurd href (Option.some_ne_none ref).symm⟩
    | some ref =>
      refine .of_ok ⟨hs.grow _, fun copy hcopy => ?_⟩
      obtain rfl := Option.some.inj hcopy
      refine ⟨hs.free_next _, ?_⟩
      rw [← hs.views]
      simp [Cache.view, memoryCache, hget, Shelf.grow]
  stored := by
    rintro w ref view owner artifacts s ⟨hs, rfl⟩
    rw [inMemory_store]
    have hform := get?_cachedForm isoformat artifacts (s.objects ref)
    have hids : storedIds (cachedForm isoformat artifacts (s.objects ref)) =
        artifacts.map Artifact.id := by
      rw [storedIds, hform.1]
    obtain ⟨hreplaced, hfree⟩ := memoryCache_keep hs _ hids
    refine .of_ok ⟨hreplaced, hfree, ?_⟩
    simpa [Shelf.keep] using hform.2

end InMemory

section SqlAlchemy

/-- A list of texts among the metadata reads back as it was written. -/
def ViewDatabase.KeepsTexts (db : ViewDatabase) : Prop :=
  ∀ view json loaded key texts, db.dump view = .ok json → db.load json = .ok loaded →
    Dict.get? view.metadata key = some (.texts texts) →
      Dict.get? loaded.metadata key = some (.texts texts)

variable (db : ViewDatabase)

def tableCache : Cache ViewRecords where
  owned _ _ := False
  cached records _ key :=
    (Dict.get? records key).bind fun record => (viewFromRecord db record).toOption
  reads _ := rfl

theorem sqlAlchemy_get (key : ViewKey) (s : Shelf Tables ViewRecords) :
    (sqlAlchemyViews db).getPerspectiveView key s =
      match Dict.get? s.cache key with
      | some record =>
        match viewFromRecord db record with
        | .ok view => (.ok (some s.next), s.grow view)
        | .error raised => (.error raised, s)
      | none => (.ok none, s) := by
  change (read >>= _ : Effect _ _ _) s = _
  rw [bind_ok (x := read) rfl]
  cases Dict.get? s.cache key with
  | none => rfl
  | some record =>
    cases hview : viewFromRecord db record with
    | error raised | ok view =>
      simp only [hview]
      rfl

variable {db}

/-- The serialized view of a record keeps the ids of the artifacts it was generated from. -/
theorem viewFromRecord_ids (hkeeps : db.KeepsTexts) {form view : PerspectiveView}
    {record : ViewRecord} {ids : List Text} (hdump : db.dump form = .ok record.viewJson)
    (hids : Dict.get? form.metadata sourceArtifactIds = some (.texts ids))
    (h : viewFromRecord db record = .ok view) : storedIds view = ids := by
  obtain ⟨loaded, hload, h⟩ := Fallible.bind_eq_ok.mp h
  obtain rfl := Fallible.pure_eq_ok.mp h
  have hloaded := hkeeps form record.viewJson loaded sourceArtifactIds ids hdump hload hids
  have hsome : (Dict.get? loaded.metadata sourceArtifactIds).isSome = true := by simp [hloaded]
  have hget : ∀ metadata : Metadata,
      Dict.get? metadata sourceArtifactIds = some (.texts ids) → ∀ key value,
        sourceArtifactIds ≠ key →
          Dict.get? (Dict.setdefault metadata key value) sourceArtifactIds = some (.texts ids) :=
    fun metadata hmetadata key value hne => by
      rw [Dict.get?_setdefault_ne hne.symm, hmetadata]
  rw [storedIds, Dict.setdefault_of_isSome hsome]
  rw [hget _ (hget _ (hget _ hloaded _ _ (by decide)) _ _ (by decide)) _ _ (by decide)]

/-- The row under which a view is stored. -/
def ViewDatabase.record (db : ViewDatabase) (records : ViewRecords) (key : ViewKey)
    (view : PerspectiveView) (artifacts : List Artifact) (viewJson : Text) : ViewRecord where
  id := view.id
  viewJson := viewJson
  sourceArtifactIds := artifacts.map Artifact.id
  artifactCount := artifacts.length
  latestArtifactCreatedAt := latestCreatedAt artifacts
  generatedAt := ((Dict.get? records key).map ViewRecord.generatedAt).getD (db.generatedAt records)

theorem sqlAlchemy_store (ref : Ref) (owner : Owner) (artifacts : List Artifact)
    (s : Shelf Tables ViewRecords) :
    let view := s.objects ref
    let form := cachedForm db.isoformat artifacts view
    let key : ViewKey := ⟨owner, view.viewDefinitionId⟩
    (∃ raised, (sqlAlchemyViews db).storePerspectiveView ref owner artifacts s =
      (.error raised, s.grow form)) ∨
    ∃ viewJson, db.dump form = .ok viewJson ∧
      (sqlAlchemyViews db).storePerspectiveView ref owner artifacts s =
        (.ok s.next, { s.grow form with
          cache := Dict.set s.cache key (db.record s.cache key view artifacts viewJson) }) := by
  intro view form key
  have hrun : (sqlAlchemyViews db).storePerspectiveView ref owner artifacts s =
      (lift (db.dump form) >>= fun viewJson => do
        let s' ← read
        commitView db key (db.record s'.cache key view artifacts viewJson)
        pure s.next : Effect (Shelf Tables ViewRecords) Raised Ref) (s.grow form) := rfl
  cases hdump : db.dump form with
  | error raised => exact .inl ⟨raised, hrun.trans (lift_bind_error hdump _ _)⟩
  | ok viewJson =>
    have hcommit : (sqlAlchemyViews db).storePerspectiveView ref owner artifacts s =
        (commitView db key (db.record s.cache key view artifacts viewJson) >>= fun _ =>
          pure s.next : Effect (Shelf Tables ViewRecords) Raised Ref) (s.grow form) :=
      hrun.trans (lift_bind_ok hdump _ _)
    cases hrefuses : db.refuses s.cache key (db.record s.cache key view artifacts viewJson) with
    | some reason =>
      have hrefused : commitView db key (db.record s.cache key view artifacts viewJson)
          (s.grow form) = (.error ⟨.other, reason⟩, s.grow form) := by
        simp [commitView, Shelf.grow, hrefuses]
      exact .inl ⟨_, hcommit.trans (bind_error hrefused _)⟩
    | none =>
      have hdone : commitView db key (db.record s.cache key view artifacts viewJson)
          (s.grow form) = (.ok (), { s.grow form with
            cache := Dict.set s.cache key (db.record s.cache key view artifacts viewJson) }) := by
        simp [commitView, Shelf.grow, hrefuses]
      exact .inr ⟨viewJson, rfl, hcommit.trans (bind_ok hdone _)⟩

theorem tableCache_keep (hkeeps : db.KeepsTexts) {w s : Shelf Tables ViewRecords}
    (hs : (tableCache db).Same w s) (key : ViewKey) {form : PerspectiveView} {record : ViewRecord}
    {ids : List Text} (hdump : db.dump form = .ok record.viewJson)
    (hids : Dict.get? form.metadata sourceArtifactIds = some (.texts ids)) :
    (tableCache db).Replaced w key ids
      { s.grow form with cache := Dict.set s.cache key record } where
  allocated ref howned := howned.elim
  handed ref href := ⟨Nat.lt_succ_of_lt (hs.handed ref href).1, id⟩
  store := hs.store
  history := hs.history
  others other hother := by
    rw [← hs.views]
    change (Dict.get? (Dict.set s.cache key record) other).bind _ = (Dict.get? s.cache other).bind _
    rw [Dict.get?_set_ne hother.symm]
  ids view hview := by
    change (Dict.get? (Dict.set s.cache key record) key).bind _ = some view at hview
    rw [Dict.get?_set_self, Option.bind_some] at hview
    cases hloaded : viewFromRecord db record with
    | error raised => simp [hloaded, Except.toOption] at hview
    | ok loaded =>
      have heq : loaded = view := by simpa [hloaded, Except.toOption] using hview
      exact heq ▸ viewFromRecord_ids hkeeps hdump hids hloaded

theorem sqlAlchemy_caches (hkeeps : db.KeepsTexts) :
    Caches (sqlAlchemyViews db) (tableCache db) where
  found := by
    intro w key s hs
    have hrun := sqlAlchemy_get db key s
    cases hget : Dict.get? s.cache key with
    | none =>
      simp only [hget] at hrun
      rw [hrun]
      exact .of_ok ⟨hs, fun ref href => absurd href (Option.some_ne_none ref).symm⟩
    | some record =>
      cases hview : viewFromRecord db record with
      | error raised =>
        simp only [hget, hview] at hrun
        rw [hrun]
        exact .of_error hs
      | ok view =>
        simp only [hget, hview] at hrun
        rw [hrun]
        refine .of_ok ⟨hs.grow _, fun copy hcopy => ?_⟩
        obtain rfl := Option.some.inj hcopy
        refine ⟨hs.free_next _, ?_⟩
        rw [← hs.views]
        simp [Cache.view, tableCache, hget, hview, Except.toOption, Shelf.grow]
  stored := by
    rintro w ref view owner artifacts s ⟨hs, rfl⟩
    have hform := get?_cachedForm db.isoformat artifacts (s.objects ref)
    rcases sqlAlchemy_store ref owner artifacts s with ⟨raised, hrun⟩ | ⟨viewJson, hdump, hrun⟩
    · rw [hrun]
      exact .of_error (hs.grow _)
    · rw [hrun]
      refine .of_ok ⟨tableCache_keep hkeeps hs _ hdump hform.1, ⟨Nat.lt_succ_self _, id⟩, ?_⟩
      simpa [Shelf.grow] using hform.2

end SqlAlchemy

end DemoService.Context
