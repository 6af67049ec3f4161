import DemoService.AssistedSteps
import DemoService.ContextRoutes

/-! When the two ingestion routes agree: the runs of a pack at the two call sites, side by side. -/

namespace DemoService.JobSearch

open PyText Context Fallible

section Extractors

variable {context : ContextExecutionContext} {renderPrompt : Prompt → Except Raised Text}
  {artifact : Artifact} {chunks : List ArtifactChunk}

/-- The extractor's dispatch hint admits the artifact. -/
def PackExtractor.Applies (artifact : Artifact) (extractor : PackExtractor) : Prop :=
  extractor.toExtractor.Supports artifact.artifactTypeId

instance (artifact : Artifact) (extractor : PackExtractor) :
    Decidable (extractor.Applies artifact) :=
  inferInstanceAs (Decidable (extractor.toExtractor.Supports artifact.artifactTypeId))

def runPackExtractors (artifact : Artifact) (chunks : List ArtifactChunk) (call : JobSearchCall)
    (extractors : List PackExtractor) (outputs : Outputs) : Except Raised Outputs :=
  runExtractors artifact chunks (some call) (extractors.map PackExtractor.toExtractor) outputs

theorem runPackExtractors_cons (call : JobSearchCall) (extractor : PackExtractor)
    (extractors : List PackExtractor) (outputs : Outputs) :
    runPackExtractors artifact chunks call (extractor :: extractors) outputs =
      if extractor.Applies artifact then
        (extractor.base.extract artifact chunks).bind fun result =>
          runPackExtractors artifact chunks call extractors
            (outputs.add extractor.base.id (extractor.settled artifact chunks call result))
      else runPackExtractors artifact chunks call extractors outputs := by
  rw [runPackExtractors, List.map_cons, runExtractors]
  by_cases happlies : extractor.Applies artifact
  · rw [if_pos happlies]
    refine (if_pos happlies).trans ?_
    rw [PackExtractor.run_eq]
    cases extractor.base.extract artifact chunks <;> rfl
  · rw [if_neg happlies]
    exact if_neg happlies

theorem runPackExtractors_loop (model model' : JobSearchModel) (extractors : List PackExtractor)
    (outputs : Outputs) :
    runPackExtractors artifact chunks ⟨.eventLoop, context, renderPrompt, model⟩ extractors outputs =
      runPackExtractors artifact chunks ⟨.eventLoop, context, renderPrompt, model'⟩ extractors
        outputs := by
  induction extractors generalizing outputs with
  | nil => rfl
  | cons extractor extractors ih =>
    rw [runPackExtractors_cons, runPackExtractors_cons, ih outputs]
    simp only [PackExtractor.settled_loop extractor model model', ih]

theorem runPackExtractors_agree {extractors : List PackExtractor}
    (h : ∀ extractor ∈ extractors, extractor.Applies artifact →
      ¬ extractor.Diverges context renderPrompt artifact chunks)
    (model : JobSearchModel) (outputs : Outputs) :
    runPackExtractors artifact chunks ⟨.eventLoop, context, renderPrompt, model⟩ extractors outputs =
      runPackExtractors artifact chunks ⟨.workerThread, context, renderPrompt, model⟩ extractors
        outputs := by
  induction extractors generalizing outputs with
  | nil => rfl
  | cons extractor extractors ih =>
    rw [List.forall_mem_cons] at h
    rw [runPackExtractors_cons, runPackExtractors_cons, ih h.2]
    by_cases happlies : extractor.Applies artifact
    · rw [if_pos happlies, if_pos happlies]
      cases hresult : extractor.base.extract artifact chunks with
      | error raised => rfl
      | ok result =>
        simp only [Except.bind]
        rw [extractor.settled_agrees hresult (h.1 happlies), ih h.2]
    · rw [if_neg happlies, if_neg happlies]

/-- An extractor that raises ends every run, at either site, with the same exception. -/
theorem runPackExtractors_raises {extractors : List PackExtractor}
    (h : ∃ extractor ∈ extractors, extractor.Applies artifact ∧
      ¬ Succeeds (extractor.base.extract artifact chunks)) :
    ∃ raised, ∀ call outputs,
      runPackExtractors artifact chunks call extractors outputs = .error raised := by
  induction extractors with
  | nil => simp at h
  | cons extractor extractors ih =>
    by_cases hhead : extractor.Applies artifact ∧ ¬ Succeeds (extractor.base.extract artifact chunks)
    · cases hresult : extractor.base.extract artifact chunks with
      | error raised =>
        refine ⟨raised, fun call outputs => ?_⟩
        rw [runPackExtractors_cons, if_pos hhead.1, hresult]
        rfl
      | ok result => exact absurd ⟨result, hresult⟩ hhead.2
    · obtain ⟨failing, hmem, happlies, hfails⟩ := h
      have htail : failing ∈ extractors := by
        rcases List.mem_cons.mp hmem with rfl | htail
        · exact absurd ⟨happlies, hfails⟩ hhead
        · exact htail
      obtain ⟨raised, hraised⟩ := ih ⟨failing, htail, happlies, hfails⟩
      cases hresult : extractor.base.extract artifact chunks with
      | error raised' =>
        have hskipped : ¬ extractor.Applies artifact := fun happlies' =>
          hhead ⟨happlies', by rintro ⟨result, hok⟩; rw [hresult] at hok; cases hok⟩
        exact ⟨raised, fun call outputs => by
          rw [runPackExtractors_cons, if_neg hskipped, hraised]⟩
      | ok result =>
        refine ⟨raised, fun call outputs => ?_⟩
        rw [runPackExtractors_cons, hresult]
        simp only [Except.bind, hraised, ite_self]

theorem runPackExtractors_succeeds {extractors : List PackExtractor}
    (h : ∀ extractor ∈ extractors, extractor.Applies artifact →
      Succeeds (extractor.base.extract artifact chunks))
    (call : JobSearchCall) (outputs : Outputs) :
    Succeeds (runPackExtractors artifact chunks call extractors outputs) := by
  induction extractors generalizing outputs with
  | nil => exact ⟨outputs, rfl⟩
  | cons extractor extractors ih =>
    rw [List.forall_mem_cons] at h
    rw [runPackExtractors_cons]
    by_cases happlies : extractor.Applies artifact
    · obtain ⟨result, hresult⟩ := h.1 happlies
      rw [if_pos happlies, hresult]
      exact ih h.2 _
    · rw [if_neg happlies]
      exact ih h.2 outputs

theorem runPackExtractors_grows {call : JobSearchCall} {extractors : List PackExtractor}
    {outputs outputs' : Outputs}
    (h : runPackExtractors artifact chunks call extractors outputs = .ok outputs') :
    outputs.entities.length ≤ outputs'.entities.length := by
  induction extractors generalizing outputs with
  | nil =>
    obtain rfl := Except.ok.inj h
    exact le_rfl
  | cons extractor extractors ih =>
    rw [runPackExtractors_cons] at h
    by_cases happlies : extractor.Applies artifact
    · rw [if_pos happlies] at h
      obtain ⟨result, -, hrest⟩ := bind_eq_ok.mp h
      have hadded := ih hrest
      rw [Outputs.add, List.length_append] at hadded
      omega
    · rw [if_neg happlies] at h
      exact ih h

theorem runPackExtractors_prolific {extractors : List PackExtractor} {chunk : ArtifactChunk}
    (hchunk : chunk ∈ chunks)
    (h : ∃ extractor ∈ extractors, extractor.Applies artifact ∧
      extractor.Diverges context renderPrompt artifact chunks)
    {count : Nat} (hcount : 0 < count) {outputs outputs' : Outputs}
    (hrun : runPackExtractors artifact chunks
      ⟨.workerThread, context, renderPrompt, prolificModel chunk count⟩ extractors outputs =
        .ok outputs') : count ≤ outputs'.entities.length := by
  induction extractors generalizing outputs with
  | nil => simp at h
  | cons extractor extractors ih =>
    rw [runPackExtractors_cons] at hrun
    obtain ⟨asking, hmem, happlies, hdiverges⟩ := h
    rcases List.mem_cons.mp hmem with rfl | htail
    · rw [if_pos happlies] at hrun
      obtain ⟨result, -, hrest⟩ := bind_eq_ok.mp hrun
      have hgrows := runPackExtractors_grows hrest
      rw [Outputs.add, List.length_append] at hgrows
      cases asking with
      | plain base => exact absurd hdiverges id
      | assisted extractor =>
        have hmany := settled_prolific extractor hchunk hdiverges.1 hcount result
        omega
    · by_cases happlies' : extractor.Applies artifact
      · rw [if_pos happlies'] at hrun
        obtain ⟨result, -, hrest⟩ := bind_eq_ok.mp hrun
        exact ih ⟨asking, htail, happlies, hdiverges⟩ hrest
      · rw [if_neg happlies'] at hrun
        exact ih ⟨asking, htail, happlies, hdiverges⟩ hrun

/-- Outputs that have equally many signals and items. -/
def Aligned (outputs outputs' : Outputs) : Prop :=
  outputs.signals.length = outputs'.signals.length ∧
    outputs.actionableItems.length = outputs'.actionableItems.length

def Differ (outputs outputs' : Outputs) : Prop :=
  outputs.signals ≠ outputs'.signals ∨ outputs.actionableItems ≠ outputs'.actionableItems

theorem append_ne_of_length {α : Type} {as as' bs bs' : List α} (hlength : as.length = as'.length)
    (h : as ≠ as' ∨ bs ≠ bs') : as ++ bs ≠ as' ++ bs' := fun heq => by
  obtain ⟨hfront, hback⟩ := List.append_inj heq hlength
  exact h.elim (fun hne => hne hfront) fun hne => hne hback

/-- A model that refuses to answer leaves different marks at the two sites. -/
theorem runPackExtractors_refused {extractors : List PackExtractor}
    (hbases : ∀ extractor ∈ extractors, extractor.Applies artifact →
      Succeeds (extractor.base.extract artifact []))
    {outputs outputs' : Outputs} (haligned : Aligned outputs outputs')
    (h : Differ outputs outputs' ∨ ∃ extractor ∈ extractors, extractor.Applies artifact ∧
      extractor.Diverges context renderPrompt artifact []) :
    ∃ final final', runPackExtractors artifact []
        ⟨.eventLoop, context, renderPrompt, refusingModel⟩ extractors outputs = .ok final ∧
      runPackExtractors artifact [] ⟨.workerThread, context, renderPrompt, refusingModel⟩ extractors
        outputs' = .ok final' ∧ Aligned final final' ∧ Differ final final' := by
  induction extractors generalizing outputs outputs' with
  | nil =>
    refine ⟨outputs, outputs', rfl, rfl, haligned, ?_⟩
    simpa using h
  | cons extractor extractors ih =>
    rw [List.forall_mem_cons] at hbases
    simp only [runPackExtractors_cons]
    by_cases happlies : extractor.Applies artifact
    · obtain ⟨result, hresult⟩ := hbases.1 happlies
      simp only [if_pos happlies, hresult, Except.bind]
      have hloop := settled_refused context renderPrompt artifact [] extractor result .eventLoop
      have hworker := settled_refused context renderPrompt artifact [] extractor result .workerThread
      refine ih hbases.2 ⟨?_, ?_⟩ ?_
      · simp only [Outputs.add, List.length_append, haligned.1, hloop.1, hworker.1]
      · simp only [Outputs.add, List.length_append, haligned.2, hloop.2, hworker.2]
      · rcases h with hdiffer | ⟨asking, hmem, happlies', hdiverges⟩
        · refine .inl (hdiffer.imp (fun hne => ?_) fun hne => ?_)
          · exact append_ne_of_length haligned.1 (.inl hne)
          · exact append_ne_of_length haligned.2 (.inl hne)
        · rcases List.mem_cons.mp hmem with rfl | htail
          · cases asking with
            | plain base => exact absurd hdiverges id
            | assisted extractor =>
              obtain ⟨hasks, result', hresult', hshows⟩ := hdiverges
              obtain rfl : result = result' := Except.ok.inj (hresult.symm.trans hresult')
              refine .inl ((settled_refused_ne extractor hasks hshows).imp (fun hne => ?_) fun hne => ?_)
              · exact append_ne_of_length haligned.1 (.inr hne)
              · exact append_ne_of_length haligned.2 (.inr hne)
          · exact .inr ⟨asking, htail, happlies', hdiverges⟩
    · simp only [if_neg happlies]
      refine ih hbases.2 haligned ?_
      rcases h with hdiffer | ⟨asking, hmem, happlies', hdiverges⟩
      · exact .inl hdiffer
      · rcases List.mem_cons.mp hmem with rfl | htail
        · exact absurd happlies' happlies
        · exact .inr ⟨asking, htail, happlies', hdiverges⟩

end Extractors

section Generators

variable {context : ContextExecutionContext} {renderPrompt : Prompt → Except Raised Text}
  {artifact : Artifact} {chunks : List ArtifactChunk}

def runPackGenerators (artifact : Artifact) (chunks : List ArtifactChunk) (call : JobSearchCall)
    (generators : List PackGenerator) (items : List ActionableItem) :
    Except Raised (List ActionableItem) :=
  runTaskGenerators artifact chunks (some call) (generators.map PackGenerator.toGenerator) items

/-- Some generator diverges, from the items that the ones before it leave in the upload. -/
def GeneratorsDiverge (context : ContextExecutionContext)
    (renderPrompt : Prompt → Except Raised Text) (artifact : Artifact)
    (chunks : List ArtifactChunk) : List PackGenerator → List ActionableItem → Prop
  | [], _ => False
  | generator :: generators, items =>
    ∃ generated, generator.base.generate artifact = .ok generated ∧
      (generator.Diverges context renderPrompt artifact chunks items generated ∨
        GeneratorsDiverge context renderPrompt artifact chunks generators
          (generator.settled artifact chunks ⟨.eventLoop, context, renderPrompt, refusingModel⟩
            items generated))

theorem runPackGenerators_cons (call : JobSearchCall) (generator : PackGenerator)
    (generators : List PackGenerator) (items : List ActionableItem) :
    runPackGenerators artifact chunks call (generator :: generators) items =
      (generator.base.generate artifact).bind fun generated =>
        runPackGenerators artifact chunks call generators
          (generator.settled artifact chunks call items generated) := by
  rw [runPackGenerators, List.map_cons, runTaskGenerators, PackGenerator.run_eq]
  cases generator.base.generate artifact <;> rfl

theorem runPackGenerators_loop (model model' : JobSearchModel) (generators : List PackGenerator)
    (items : List ActionableItem) :
    runPackGenerators artifact chunks ⟨.eventLoop, context, renderPrompt, model⟩ generators items =
      runPackGenerators artifact chunks ⟨.eventLoop, context, renderPrompt, model'⟩ generators
        items := by
  induction generators generalizing items with
  | nil => rfl
  | cons generator generators ih =>
    rw [runPackGenerators_cons, runPackGenerators_cons]
    simp only [PackGenerator.settled_loop generator model model', ih]

theorem runPackGenerators_agree {generators : List PackGenerator} {items : List ActionableItem}
    (h : ¬ GeneratorsDiverge context renderPrompt artifact chunks generators items)
    (model : JobSearchModel) :
    runPackGenerators artifact chunks ⟨.eventLoop, context, renderPrompt, model⟩ generators items =
      runPackGenerators artifact chunks ⟨.workerThread, context, renderPrompt, model⟩ generators
        items := by
  induction generators generalizing items with
  | nil => rfl
  | cons generator generators ih =>
    rw [runPackGenerators_cons, runPackGenerators_cons]
    cases hgenerated : generator.base.generate artifact with
    | error raised => rfl
    | ok generated =>
      simp only [GeneratorsDiverge, hgenerated, Except.ok.injEq, exists_eq_left', not_or] at h
      simp only [Except.bind]
      rw [← generator.settled_agrees h.1 model, generator.settled_loop model refusingModel]
      exact ih h.2

theorem runPackGenerators_raises (chunks : List ArtifactChunk) {generators : List PackGenerator}
    (h : ∃ generator ∈ generators, ¬ Succeeds (generator.base.generate artifact)) :
    ∃ raised, ∀ call items,
      runPackGenerators artifact chunks call generators items = .error raised := by
  induction generators with
  | nil => simp at h
  | cons generator generators ih =>
    cases hgenerated : generator.base.generate artifact with
    | error raised =>
      refine ⟨raised, fun call items => ?_⟩
      rw [runPackGenerators_cons, hgenerated]
      rfl
    | ok generated =>
      obtain ⟨failing, hmem, hfails⟩ := h
      rcases List.mem_cons.mp hmem with rfl | htail
      · exact absurd ⟨generated, hgenerated⟩ hfails
      · obtain ⟨raised, hraised⟩ := ih ⟨failing, htail, hfails⟩
        refine ⟨raised, fun call items => ?_⟩
        rw [runPackGenerators_cons, hgenerated]
        exact hraised call _

theorem runPackGenerators_succeeds (chunks : List ArtifactChunk) {generators : List PackGenerator}
    (h : ∀ generator ∈ generators, Succeeds (generator.base.generate artifact))
    (call : JobSearchCall) (items : List ActionableItem) :
    Succeeds (runPackGenerators artifact chunks call generators items) := by
  induction generators generalizing items with
  | nil => exact ⟨items, rfl⟩
  | cons generator generators ih =>
    rw [List.forall_mem_cons] at h
    obtain ⟨generated, hgenerated⟩ := h.1
    rw [runPackGenerators_cons, hgenerated]
    exact ih h.2 _

theorem runPackGenerators_grows {call : JobSearchCall} {generators : List PackGenerator}
    {items final : List ActionableItem}
    (h : runPackGenerators artifact chunks call generators items = .ok final) :
    items.length ≤ final.length := by
  induction generators generalizing items with
  | nil =>
    obtain rfl := Except.ok.inj h
    exact le_rfl
  | cons generator generators ih =>
    rw [runPackGenerators_cons] at h
    obtain ⟨generated, -, hrest⟩ := bind_eq_ok.mp h
    obtain ⟨added, hadded⟩ := generator.settled_extends artifact chunks call items generated
    have hgrows := ih hrest
    rw [hadded, List.length_append] at hgrows
    omega

theorem runPackGenerators_prolific {generators : List PackGenerator} {chunk : ArtifactChunk}
    (hchunk : chunk ∈ chunks) {items final : List ActionableItem}
    (h : GeneratorsDiverge context renderPrompt artifact chunks generators items) {count : Nat}
    (hcount : 0 < count)
    (hrun : runPackGenerators artifact chunks
      ⟨.workerThread, context, renderPrompt, prolificModel chunk count⟩ generators items =
        .ok final) : count ≤ final.length := by
  induction generators generalizing items with
  | nil => exact absurd h id
  | cons generator generators ih =>
    obtain ⟨generated, hgenerated, hdiverges⟩ := h
    rw [runPackGenerators_cons, hgenerated] at hrun
    by_cases hhead : generator.Diverges context renderPrompt artifact chunks items generated
    · exact (generator.settled_prolific hchunk hhead hcount).trans (runPackGenerators_grows hrun)
    · have htail := hdiverges.resolve_left hhead
      rw [generator.settled_loop refusingModel (prolificModel chunk count),
        generator.settled_agrees hhead] at htail
      exact ih htail hrun

theorem runPackGenerators_refused (context : ContextExecutionContext)
    (renderPrompt : Prompt → Except Raised Text) {generators : List PackGenerator}
    (hbases : ∀ generator ∈ generators, Succeeds (generator.base.generate artifact))
    {items items' : List ActionableItem} (hlength : items.length = items'.length)
    (h : items ≠ items' ∨
      items = items' ∧ GeneratorsDiverge context renderPrompt artifact [] generators items) :
    ∃ final final', runPackGenerators artifact []
        ⟨.eventLoop, context, renderPrompt, refusingModel⟩ generators items = .ok final ∧
      runPackGenerators artifact [] ⟨.workerThread, context, renderPrompt, refusingModel⟩ generators
        items' = .ok final' ∧ final ≠ final' := by
  induction generators generalizing items items' with
  | nil => exact ⟨items, items', rfl, rfl, h.resolve_right fun hdiverge => hdiverge.2⟩
  | cons generator generators ih =>
    rw [List.forall_mem_cons] at hbases
    obtain ⟨generated, hgenerated⟩ := hbases.1
    simp only [runPackGenerators_cons, hgenerated, Except.bind]
    have hloop := generator.settled_refused context renderPrompt artifact [] .eventLoop items generated
    have hworker := generator.settled_refused context renderPrompt artifact [] .workerThread items' generated
    refine ih hbases.2 (by rw [hloop, hworker, hlength]) ?_
    rcases h with hne | ⟨rfl, generated', hgenerated', hdiverges⟩
    · obtain ⟨added, hadded⟩ := generator.settled_extends artifact []
        ⟨.eventLoop, context, renderPrompt, refusingModel⟩ items generated
      obtain ⟨added', hadded'⟩ := generator.settled_extends artifact []
        ⟨.workerThread, context, renderPrompt, refusingModel⟩ items' generated
      rw [hadded, hadded']
      exact .inl (append_ne_of_length hlength (.inl hne))
    · obtain rfl : generated = generated' := Except.ok.inj (hgenerated.symm.trans hgenerated')
      by_cases hhead : generator.Diverges context renderPrompt artifact [] items generated
      · exact .inl (generator.settled_refused_ne hhead)
      · exact .inr ⟨generator.settled_agrees hhead refusingModel, hdiverges.resolve_left hhead⟩

end Generators

section Derive

variable {context : ContextExecutionContext} {renderPrompt : Prompt → Except Raised Text}
  {artifact : Artifact} {chunks : List ArtifactChunk} {pack : AssistedPack}

def AssistedPack.BasesSucceed (pack : AssistedPack) (artifact : Artifact)
    (chunks : List ArtifactChunk) : Prop :=
  (∀ extractor ∈ pack.extractors, extractor.Applies artifact →
    Succeeds (extractor.base.extract artifact chunks)) ∧
  ∀ generator ∈ pack.taskGenerators, Succeeds (generator.base.generate artifact)

/-- The deterministic parts do not raise, and some assisted part gets as far as the model with
something to show for it. -/
def AssistedPack.Diverges (context : ContextExecutionContext)
    (renderPrompt : Prompt → Except Raised Text) (pack : AssistedPack) (artifact : Artifact)
    (chunks : List ArtifactChunk) : Prop :=
  pack.BasesSucceed artifact chunks ∧
    ((∃ extractor ∈ pack.extractors, extractor.Applies artifact ∧
      extractor.Diverges context renderPrompt artifact chunks) ∨
    ∃ outputs, runPackExtractors artifact chunks ⟨.eventLoop, context, renderPrompt, refusingModel⟩
        pack.extractors noOutputs = .ok outputs ∧
      GeneratorsDiverge context renderPrompt artifact chunks pack.taskGenerators
        outputs.actionableItems)

theorem derive_eq (call : JobSearchCall) :
    derive pack.toPack (some call) artifact chunks =
      (runPackExtractors artifact chunks call pack.extractors noOutputs).bind fun outputs =>
        (runPackGenerators artifact chunks call pack.taskGenerators outputs.actionableItems).bind
          fun items => .ok { outputs with actionableItems := items } := rfl

theorem derive_ok {call : JobSearchCall} {front : Outputs} {items : List ActionableItem}
    (hfront : runPackExtractors artifact chunks call pack.extractors noOutputs = .ok front)
    (hitems : runPackGenerators artifact chunks call pack.taskGenerators front.actionableItems =
      .ok items) :
    derive pack.toPack (some call) artifact chunks = .ok { front with actionableItems := items } := by
  rw [derive_eq, hfront]
  simp only [Except.bind, hitems]

theorem derive_loop (model model' : JobSearchModel) :
    derive pack.toPack (some ⟨.eventLoop, context, renderPrompt, model⟩) artifact chunks =
      derive pack.toPack (some ⟨.eventLoop, context, renderPrompt, model'⟩) artifact chunks := by
  rw [derive_eq, derive_eq, runPackExtractors_loop model model']
  simp only [runPackGenerators_loop model model']

theorem derive_agree (h : ¬ pack.Diverges context renderPrompt artifact chunks)
    (model : JobSearchModel) :
    derive pack.toPack (some ⟨.eventLoop, context, renderPrompt, model⟩) artifact chunks =
      derive pack.toPack (some ⟨.workerThread, context, renderPrompt, model⟩) artifact chunks := by
  rw [derive_eq, derive_eq]
  by_cases hextractors : ∀ extractor ∈ pack.extractors, extractor.Applies artifact →
      Succeeds (extractor.base.extract artifact chunks)
  · by_cases hgenerators : ∀ generator ∈ pack.taskGenerators,
        Succeeds (generator.base.generate artifact)
    · have hquiet : ¬ _ := fun hdiverges => h ⟨⟨hextractors, hgenerators⟩, hdiverges⟩
      rw [not_or] at hquiet
      have hagree : ∀ extractor ∈ pack.extractors, extractor.Applies artifact →
          ¬ extractor.Diverges context renderPrompt artifact chunks :=
        fun extractor hmem happlies hdiverges => hquiet.1 ⟨extractor, hmem, happlies, hdiverges⟩
      rw [← runPackExtractors_agree hagree, runPackExtractors_loop model refusingModel]
      cases houtputs : runPackExtractors artifact chunks
          ⟨.eventLoop, context, renderPrompt, refusingModel⟩ pack.extractors noOutputs with
      | error raised => rfl
      | ok outputs =>
        have hitems := runPackGenerators_agree
          (fun hdiverge => hquiet.2 ⟨outputs, houtputs, hdiverge⟩) model
        simp only [Except.bind, hitems]
    · obtain ⟨raised, hraised⟩ := runPackGenerators_raises chunks
        (by simpa only [not_forall, exists_prop] using hgenerators)
      obtain ⟨outputs, houtputs⟩ := runPackExtractors_succeeds hextractors
        ⟨.eventLoop, context, renderPrompt, model⟩ noOutputs
      obtain ⟨outputs', houtputs'⟩ := runPackExtractors_succeeds hextractors
        ⟨.workerThread, context, renderPrompt, model⟩ noOutputs
      simp only [houtputs, houtputs', hraised, Except.bind]
  · obtain ⟨raised, hraised⟩ := runPackExtractors_raises
      (by simpa only [not_forall, exists_prop] using hextractors)
    rw [hraised, hraised]
    rfl

/-- A pack that diverges gives other outputs at the two sites, for a model that answers with many
records, or, where there is nothing to cite, for one that refuses. -/
theorem derive_diverge (h : pack.Diverges context renderPrompt artifact chunks) :
    ∃ model outputs outputs',
      derive pack.toPack (some ⟨.eventLoop, context, renderPrompt, model⟩) artifact chunks =
        .ok outputs ∧
      derive pack.toPack (some ⟨.workerThread, context, renderPrompt, model⟩) artifact chunks =
        .ok outputs' ∧ outputs ≠ outputs' := by
  obtain ⟨⟨hextractors, hgenerators⟩, hdiverges⟩ := h
  cases chunks with
  | cons chunk rest =>
    have hchunk : chunk ∈ chunk :: rest := List.mem_cons_self
    obtain ⟨front, hfront⟩ := runPackExtractors_succeeds hextractors
      ⟨.eventLoop, context, renderPrompt, refusingModel⟩ noOutputs
    obtain ⟨items, hitems⟩ := runPackGenerators_succeeds (chunk :: rest) hgenerators
      ⟨.eventLoop, context, renderPrompt, refusingModel⟩ front.actionableItems
    have hcount : 0 < front.entities.length + items.length + 1 := by omega
    generalize hmany : front.entities.length + items.length + 1 = count at hcount
    obtain ⟨front', hfront'⟩ := runPackExtractors_succeeds hextractors
      ⟨.workerThread, context, renderPrompt, prolificModel chunk count⟩ noOutputs
    obtain ⟨items', hitems'⟩ := runPackGenerators_succeeds (chunk :: rest) hgenerators
      ⟨.workerThread, context, renderPrompt, prolificModel chunk count⟩ front'.actionableItems
    refine ⟨prolificModel chunk count, { front with actionableItems := items },
      { front' with actionableItems := items' },
      (derive_loop _ refusingModel).trans (derive_ok hfront hitems), derive_ok hfront' hitems',
      fun heq => ?_⟩
    · obtain ⟨hentities, -, -, hactionable, -⟩ := Outputs.mk.inj heq
      by_cases hasked : ∃ extractor ∈ pack.extractors, extractor.Applies artifact ∧
          extractor.Diverges context renderPrompt artifact (chunk :: rest)
      · have hprolific := runPackExtractors_prolific hchunk hasked hcount hfront'
        rw [← hentities] at hprolific
        omega
      · obtain ⟨outputs, houtputs, hgenerator⟩ := hdiverges.resolve_left hasked
        have hagree : ∀ extractor ∈ pack.extractors, extractor.Applies artifact →
            ¬ extractor.Diverges context renderPrompt artifact (chunk :: rest) :=
          fun extractor hmem happlies hdiverge => hasked ⟨extractor, hmem, happlies, hdiverge⟩
        rw [← runPackExtractors_agree hagree, runPackExtractors_loop _ refusingModel, houtputs]
          at hfront'
        obtain rfl := Except.ok.inj hfront'
        have hprolific := runPackGenerators_prolific hchunk hgenerator hcount hitems'
        rw [← hactionable] at hprolific
        omega
  | nil =>
    by_cases hasked : ∃ extractor ∈ pack.extractors, extractor.Applies artifact ∧
        extractor.Diverges context renderPrompt artifact []
    · obtain ⟨front, front', hfront, hfront', haligned, hdiffer⟩ :=
        runPackExtractors_refused hextractors (⟨rfl, rfl⟩ : Aligned noOutputs noOutputs)
          (.inr hasked)
      by_cases hsame : front.actionableItems = front'.actionableItems
      · obtain ⟨items, hitems⟩ := runPackGenerators_succeeds [] hgenerators
          ⟨.eventLoop, context, renderPrompt, refusingModel⟩ front.actionableItems
        obtain ⟨items', hitems'⟩ := runPackGenerators_succeeds [] hgenerators
          ⟨.workerThread, context, renderPrompt, refusingModel⟩ front'.actionableItems
        refine ⟨refusingModel, { front with actionableItems := items },
          { front' with actionableItems := items' }, derive_ok hfront hitems,
          derive_ok hfront' hitems', fun heq => ?_⟩
        obtain ⟨-, -, hsignals, -, -⟩ := Outputs.mk.inj heq
        exact hdiffer.elim (fun hne => hne hsignals) fun hne => hne hsame
      · obtain ⟨items, items', hrun, hrun', hne⟩ := runPackGenerators_refused
          context renderPrompt hgenerators haligned.2 (.inl hsame)
        exact ⟨refusingModel, { front with actionableItems := items },
          { front' with actionableItems := items' }, derive_ok hfront hrun, derive_ok hfront' hrun',
          fun heq => hne (congrArg Outputs.actionableItems heq)⟩
    · obtain ⟨front, hfront, hgenerator⟩ := hdiverges.resolve_left hasked
      have hagree : ∀ extractor ∈ pack.extractors, extractor.Applies artifact →
          ¬ extractor.Diverges context renderPrompt artifact [] :=
        fun extractor hmem happlies hdiverge => hasked ⟨extractor, hmem, happlies, hdiverge⟩
      have hfront' := hfront
      rw [runPackExtractors_agree hagree] at hfront'
      obtain ⟨items, items', hrun, hrun', hne⟩ := runPackGenerators_refused context renderPrompt hgenerators rfl
        (.inr ⟨rfl, hgenerator⟩)
      exact ⟨refusingModel, { front with actionableItems := items },
        { front with actionableItems := items' }, derive_ok hfront hrun, derive_ok hfront' hrun',
        fun heq => hne (congrArg Outputs.actionableItems heq)⟩

end Derive

section Routes

variable {σ : Type}

theorem getDomain_registry (app : ContextApp) (domainId : Text) :
    app.registry.get? domainId = (app.packs.get? domainId).map AssistedPack.toPack :=
  Dict.get?_map app.packs AssistedPack.toPack domainId

/-- An admitted request is for a registered pack. -/
theorem admitRequest_pack {app : ContextApp} {request : IngestionRequest}
    {domain : DomainPack JobSearchCall} (h : admitRequest app.registry request = .ok domain) :
    ∃ pack, app.packs.get? request.domainId = some pack ∧ domain = pack.toPack := by
  obtain ⟨found, hfound, h⟩ := bind_eq_ok.mp h
  rw [getDomain, getDomain_registry] at hfound
  cases hpack : app.packs.get? request.domainId with
  | none => simp [hpack] at hfound
  | some pack =>
    simp only [hpack, Option.map_some, Except.ok.injEq] at hfound
    by_cases htype : request.artifactTypeId ∈ found.artifactTypeIds
    · by_cases hblank : strip request.text = []
      · simp [htype, hblank] at h
      · simp only [htype, hblank, if_true, if_false, pure_eq_ok] at h
        exact ⟨pack, rfl, by rw [← h, hfound]⟩
    · simp [htype] at h

/-- The upload gets to a pack that diverges on its artifact and chunks. -/
def UploadDiverges (app : ContextApp) (stamp : Stamp) (request : IngestionRequest) : Prop :=
  ∃ context pack chunks, app.executionContext = some context ∧
    app.packs.get? request.domainId = some pack ∧
    admitRequest app.registry request = .ok pack.toPack ∧
    (pack.chunker.getD app.defaultChunker) (request.artifact stamp) = .ok chunks ∧
    pack.Diverges context app.renderPrompt (request.artifact stamp) chunks

theorem ingestArtifact_agree {app : ContextApp} {stamp : Stamp} {request : IngestionRequest}
    (h : ¬ UploadDiverges app stamp request) (repository : ContextRepository σ)
    (model : JobSearchModel) (s : σ) :
    ingestArtifact (app.service repository model .eventLoop) stamp request s =
      ingestArtifact (app.service repository model .workerThread) stamp request s := by
  rw [ingestArtifact, ingestArtifact]
  refine Effect.bind_congr_ok fun domain s₁ hdomain => ?_
  have hadmitted : admitRequest app.registry request = .ok domain := (Prod.mk.inj hdomain).1
  obtain ⟨pack, hpack, rfl⟩ := admitRequest_pack hadmitted
  refine Effect.bind_congr_ok fun _ s₂ _ => ?_
  refine Effect.bind_congr_ok fun chunks s₃ hchunks => ?_
  refine Effect.bind_congr_ok fun _ s₄ _ => ?_
  have hderive : derive pack.toPack (app.call model .eventLoop) (request.artifact stamp) chunks =
      derive pack.toPack (app.call model .workerThread) (request.artifact stamp) chunks := by
    cases hcontext : app.executionContext with
    | none => rw [ContextApp.call, ContextApp.call, hcontext]; rfl
    | some context =>
      rw [ContextApp.call, ContextApp.call, hcontext]
      exact derive_agree (fun hdiverges => h ⟨context, pack, chunks, hcontext, hpack, hadmitted,
        (Prod.mk.inj hchunks).1, hdiverges⟩) model
  change (Effect.lift (derive pack.toPack (app.call model .eventLoop) _ chunks) >>= _) s₄ =
    (Effect.lift (derive pack.toPack (app.call model .workerThread) _ chunks) >>= _) s₄
  rw [hderive]
  rfl

/-- A repository that stores nothing and accepts everything. -/
def acceptingRepository : ContextRepository Unit where
  storeArtifact _ := pure ()
  storeChunks _ := pure ()
  storeEntities _ := pure ()
  storeRelationships _ := pure ()
  storeSignals _ := pure ()
  storeActionableItems _ := pure ()
  indexArtifactOutputs _ _ _ := pure ()

theorem ingestArtifact_accepting {app : ContextApp} {stamp : Stamp} {request : IngestionRequest}
    {pack : AssistedPack} {chunks : List ArtifactChunk} {model : JobSearchModel} {site : CallSite}
    {outputs : Outputs} (hadmitted : admitRequest app.registry request = .ok pack.toPack)
    (hchunks : (pack.chunker.getD app.defaultChunker) (request.artifact stamp) = .ok chunks)
    (houtputs : derive pack.toPack (app.call model site) (request.artifact stamp) chunks =
      .ok outputs) :
    ingestArtifact (app.service acceptingRepository model site) stamp request () =
      (.ok ⟨request.artifact stamp, chunks, outputs.entities, outputs.relationships,
        outputs.signals, outputs.actionableItems, outputs.extractorIds⟩, ()) := by
  rw [ingestArtifact]
  refine (Effect.lift_bind_ok hadmitted _ _).trans ?_
  refine (Effect.bind_ok rfl _).trans ?_
  refine (Effect.lift_bind_ok hchunks _ _).trans ?_
  refine (Effect.bind_ok rfl _).trans ?_
  exact Effect.lift_bind_ok houtputs _ _

/-- An upload whose text, title, source and metadata are given gets the same response and leaves
the same state as the request with these, for every model and every repository, exactly when it
does not get to a pack that diverges. -/
theorem upload_agrees_with_ingest_iff (app : ContextApp) (parsers : Parsers) (form : UploadForm)
    (payload : ContextArtifactCreateRequest) (stamp : Stamp) (domainId ownerId : Text)
    (h : uploadPayload parsers form = .ok payload) :
    (∀ (model : JobSearchModel) (σ : Type) (repository : ContextRepository σ) (s : σ),
      uploadContextArtifact app repository model stamp domainId ownerId parsers form s =
        ingestContextArtifact app repository model stamp domainId ownerId payload s) ↔
      ¬ UploadDiverges app stamp (ingestionRequest domainId ownerId payload) := by
  simp only [uploadContextArtifact, h, ingestContextArtifact, ingestAt]
  constructor
  · rintro hagree ⟨context, pack, chunks, hcontext, -, hadmitted, hchunks, hdiverges⟩
    obtain ⟨model, outputs, outputs', hloop, hworker, hne⟩ := derive_diverge hdiverges
    have hcall : ∀ site, app.call model site =
        some ⟨site, context, app.renderPrompt, model⟩ := fun site => by
      rw [ContextApp.call, hcontext]
      rfl
    rw [← hcall] at hloop hworker
    have hresponses := hagree model Unit acceptingRepository ()
    rw [ingestArtifact_accepting hadmitted hchunks hloop,
      ingestArtifact_accepting hadmitted hchunks hworker] at hresponses
    obtain ⟨-, -, hentities, hrelationships, hsignals, hitems, hids⟩ :=
      IngestionResult.mk.inj (RouteResponse.created.inj (Prod.mk.inj hresponses).1)
    cases outputs
    cases outputs'
    exact hne (by rw [Outputs.mk.injEq]; exact ⟨hentities, hrelationships, hsignals, hitems, hids⟩)
  · intro hquiet model σ repository s
    rw [ingestArtifact_agree hquiet]

end Routes

section Examples

def itemStep : ContextModelStepConfig where
  id := "actionable_items".toList
  purpose := "actionable_item_synthesis".toList
  modelProfile := none
  promptTemplate := "items.md".toList
  promptVersion := "v1".toList

def itemCatalog : ContextModelFlowCatalog where
  defaultMode := .llm
  defaultModelProfile := some "fast".toList
  modelProfiles := [("fast".toList, ⟨"openai".toList, "m".toList, true⟩)]
  flows := [⟨"job_search".toList, "actionable_item_synthesis".toList, none, none, [itemStep]⟩]

def itemContext : ContextExecutionContext where
  catalog := itemCatalog
  runner := ⟨fun _ => true, fun _ => .ok ()⟩
  loadPrompt := fun _ => .ok "List items.".toList
  modeOverride := none

def resumeChunk (artifact : Artifact) : ArtifactChunk where
  id := "chunk_1".toList
  artifactId := artifact.id
  chunkIndex := 0
  text := artifact.text
  startOffset := 0
  endOffset := artifact.text.length
  sourceLink := ⟨artifact.id, none, none, none, none, none⟩
  metadata := []

def fixedRuntime : Runtime where
  now := fun _ => "t".toList
  newContextId := fun kind index => kind ++ '_' :: (Nat.repr index).toList
  lower := fun text => text.map Char.toLower
  repr := quote

/-- A pack for resumes whose generator has nothing of its own and asks the model. -/
def resumePack : AssistedPack where
  id := "job_search".toList
  artifactTypeIds := ["resume".toList]
  chunker := some fun artifact => .ok [resumeChunk artifact]
  extractors := []
  taskGenerators := [.assisted ⟨⟨"tasks".toList, fun _ => .ok []⟩, fun _ => fixedRuntime⟩]

def resumeApp : ContextApp where
  packs := [("job_search".toList, resumePack)]
  defaultChunker := fun _ => .ok []
  executionContext := some itemContext
  renderPrompt := fun _ => .ok "prompt".toList

def resumeForm : UploadForm where
  artifactTypeId := "resume".toList
  title := none
  sourceUri := none
  metadataJson := none
  file := ⟨some "cv.txt".toList, some "text/plain".toList, some "docs".toList, none⟩

def resumePayload : ContextArtifactCreateRequest where
  artifactTypeId := "resume".toList
  text := "docs".toList
  title := some "cv.txt".toList
  sourceUri := some "upload://cv.txt".toList
  metadata := [("ingestion_method".toList, .text "upload".toList),
    ("file_name".toList, .text "cv.txt".toList), ("content_type".toList, .text "text/plain".toList)]

def asciiParsers : Parsers := ⟨fun text => text.map Char.toLower, fun _ => .invalid⟩

def resumeStamp : Stamp := ⟨"art_1".toList, 0⟩

theorem resume_upload_agrees_iff :
    (∀ (model : JobSearchModel) (σ : Type) (repository : ContextRepository σ) (s : σ),
      uploadContextArtifact resumeApp repository model resumeStamp "job_search".toList ['1']
          asciiParsers resumeForm s =
        ingestContextArtifact resumeApp repository model resumeStamp "job_search".toList ['1']
          resumePayload s) ↔
      ¬ UploadDiverges resumeApp resumeStamp
        (ingestionRequest "job_search".toList ['1'] resumePayload) :=
  upload_agrees_with_ingest_iff resumeApp asciiParsers resumeForm resumePayload resumeStamp
    "job_search".toList ['1'] (by decide +kernel)

def itemModel : JobSearchModel where
  extraction _ _ _ := .ok ⟨[], [], [], [], []⟩
  actionableItems _ _ _ := .ok ⟨[⟨.cons 'x' [], .cons 'x' [], .cons 'x' [], .low, .needsReview,
    .human, .cons 'x' [], .cons ⟨"chunk_1".toList, .cons 'd' "ocs".toList, none⟩ []⟩], []⟩

def responseItems : RouteResponse → Option (List Text)
  | .created result => some (result.actionableItems.map ActionableItem.itemType)
  | _ => none

/-- The model's item is returned for the request and lost for the upload of the same text. -/
theorem uploaded_resume_loses_item :
    uploadPayload asciiParsers resumeForm = .ok resumePayload ∧
    responseItems (ingestContextArtifact resumeApp acceptingRepository itemModel resumeStamp
      "job_search".toList ['1'] resumePayload ()).1 = some [['x']] ∧
    responseItems (uploadContextArtifact resumeApp acceptingRepository itemModel resumeStamp
      "job_search".toList ['1'] asciiParsers resumeForm ()).1 = some [] := by
  decide +kernel

end Examples

end DemoService.JobSearch
