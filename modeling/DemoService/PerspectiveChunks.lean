import DemoService.JobSearchOutputs
import DemoService.KeyedDedupe
import DemoService.PerspectiveViews

/-! The chunks that a perspective prompt shows: declared dependencies first, then chunks of the
fallback artifact types. -/

namespace DemoService.JobSearch

open PyText Context

/-- `ge=1` and `ge=0` of the fields. -/
structure PerspectiveContextLimits where
  chunks : Nat
  signals : Nat
  actionableItems : Nat
  chunkChars : Nat
  sourceExcerptChars : Nat
  chunks_ge : 1 ≤ chunks
  chunkChars_ge : 1 ≤ chunkChars
  sourceExcerptChars_ge : 1 ≤ sourceExcerptChars
  deriving DecidableEq, Repr

structure PerspectiveContextNode where
  types : List Text
  dependsOn : List Text
  fallbackArtifactTypes : List Text
  deriving DecidableEq, Repr

structure PerspectiveContextGraph where
  limits : PerspectiveContextLimits
  nodes : Dict Text PerspectiveContextNode
  deriving DecidableEq, Repr

def PerspectiveContextGraph.node (graph : PerspectiveContextGraph) (name : Text) :
    PerspectiveContextNode := (graph.nodes.get? name).getD ⟨[], [], []⟩

def chunksKey : Text := "chunks".toList

def signalsKey : Text := "signals".toList

def actionableItemsKey : Text := "actionable_items".toList

def artifactsKey : Text := "artifacts".toList

def deterministicViewKey : Text := "deterministic_view".toList

section Selection

variable (context : PerspectiveBuildContext) (deterministic : PerspectiveView)
  (graph : PerspectiveContextGraph)

def selectPerspectiveSignals : List ContextSignal :=
  let configuredTypes := (graph.node signalsKey).types
  if configuredTypes = [] then []
  else context.signals.filter fun signal => signal.signalType ∈ configuredTypes

def selectPerspectiveActionableItems : List ActionableItem :=
  let configuredTypes := (graph.node actionableItemsKey).types
  if configuredTypes = [] then []
  else context.actionableItems.filter fun item => item.itemType ∈ configuredTypes

def artifactTypeForChunk (chunk : ArtifactChunk) : Option Text :=
  let artifactsById := Dict.index Artifact.id context.artifacts
  (artifactsById.get? chunk.artifactId).map Artifact.artifactTypeId

def dedupeChunks (chunks : List ArtifactChunk) : List ArtifactChunk :=
  KeyedDedupe.dedupe ArtifactChunk.id chunks

/-- The chunk ids of links; an empty one counts as none. -/
def linkedChunkIds (links : List SourceLink) : List Text :=
  links.filterMap fun link => link.chunkId.bind orNone

def viewLinks (view : PerspectiveView) : List SourceLink :=
  view.sections.flatMap fun viewSection => viewSection.evidenceLinks.map EvidenceLink.source

/-- The chunk ids behind the dependencies that the `chunks` node declares, with repetitions. -/
def selectedIds : List Text :=
  let dependsOn := (graph.node chunksKey).dependsOn
  (if deterministicViewKey ∈ dependsOn then linkedChunkIds (viewLinks deterministic) else []) ++
    (if signalsKey ∈ dependsOn then
      (selectPerspectiveSignals context graph).flatMap fun signal =>
        linkedChunkIds signal.sourceLinks
    else []) ++
    (if actionableItemsKey ∈ dependsOn then
      (selectPerspectiveActionableItems context graph).flatMap fun item =>
        linkedChunkIds item.sourceLinks
    else [])

def fallbackArtifactTypes : List Text :=
  let chunksNode := graph.node chunksKey
  if chunksNode.fallbackArtifactTypes = [] then (graph.node artifactsKey).types
  else chunksNode.fallbackArtifactTypes

/-- `selected.extend(...)` by a generator that looks `selected` up as it grows. -/
def extendFallback (selected : List ArtifactChunk) : List ArtifactChunk → List ArtifactChunk
  | [] => selected
  | chunk :: chunks =>
    if chunk ∉ selected ∧
        (artifactTypeForChunk context chunk).any (· ∈ fallbackArtifactTypes graph) then
      extendFallback (selected ++ [chunk]) chunks
    else extendFallback selected chunks

/-- The chunks behind the declared dependencies. -/
def reachedChunks : List ArtifactChunk :=
  let chunksById := Dict.index ArtifactChunk.id context.chunks
  dedupeChunks ((selectedIds context deterministic graph).filterMap chunksById.get?)

def selectPerspectiveChunks : List ArtifactChunk :=
  let selected := reachedChunks context deterministic graph
  let selected :=
    if selected.length < graph.limits.chunks then
      extendFallback context graph selected context.chunks
    else selected
  (dedupeChunks selected).take graph.limits.chunks

end Selection

/-- What a selection of chunks for a prompt has to be. -/
structure PromptSelection (context : PerspectiveBuildContext) (deterministic : PerspectiveView)
    (graph : PerspectiveContextGraph) (chunks : List ArtifactChunk) : Prop where
  bounded : chunks.length ≤ graph.limits.chunks
  of_context : ∀ chunk ∈ chunks, chunk ∈ context.chunks
  distinct : (chunks.map ArtifactChunk.id).Nodup
  ordered : ∃ reached fallback, chunks = reached ++ fallback ∧
    reached.map ArtifactChunk.id =
      (((selectedIds context deterministic graph).filter fun id =>
        id ∈ context.chunks.map ArtifactChunk.id).eraseDups).take graph.limits.chunks ∧
    (fallback ≠ [] → reached.length < graph.limits.chunks) ∧
    fallback.Sublist context.chunks ∧
    ∀ chunk ∈ fallback, ∃ artifact ∈ context.artifacts, artifact.id = chunk.artifactId ∧
      artifact.artifactTypeId ∈ fallbackArtifactTypes graph

section Selected

variable {context : PerspectiveBuildContext} {deterministic : PerspectiveView}
  {graph : PerspectiveContextGraph}

/-- What the fallback adds, in context order. -/
theorem extendFallback_append (selected chunks : List ArtifactChunk) :
    ∃ added, extendFallback context graph selected chunks = selected ++ added ∧
      added.Sublist chunks ∧ ∀ chunk ∈ added,
        (artifactTypeForChunk context chunk).any (· ∈ fallbackArtifactTypes graph) = true := by
  induction chunks generalizing selected with
  | nil => exact ⟨[], (List.append_nil selected).symm, List.Sublist.refl [], by simp⟩
  | cons chunk chunks ih =>
    rw [extendFallback]
    split
    · rename_i hchunk
      obtain ⟨added, hadded, hsublist, htypes⟩ := ih (selected ++ [chunk])
      refine ⟨chunk :: added, ?_, hsublist.cons_cons chunk, ?_⟩
      · rw [hadded, List.append_assoc, List.singleton_append]
      · exact List.forall_mem_cons.mpr ⟨hchunk.2, htypes⟩
    · obtain ⟨added, hadded, hsublist, htypes⟩ := ih selected
      exact ⟨added, hadded, hsublist.cons chunk, htypes⟩

theorem artifactTypeForChunk_any {chunk : ArtifactChunk} {types : List Text}
    (h : (artifactTypeForChunk context chunk).any (· ∈ types) = true) :
    ∃ artifact ∈ context.artifacts, artifact.id = chunk.artifactId ∧
      artifact.artifactTypeId ∈ types := by
  obtain ⟨type, htype, hmem⟩ := (Option.any_eq_true _ _).mp h
  obtain ⟨artifact, hget, rfl⟩ := Option.map_eq_some_iff.mp htype
  obtain ⟨hartifact, hid⟩ := Dict.get?_index hget
  exact ⟨artifact, hartifact, hid, of_decide_eq_true hmem⟩

theorem mem_reachedChunks {chunk : ArtifactChunk}
    (h : chunk ∈ reachedChunks context deterministic graph) : chunk ∈ context.chunks := by
  obtain ⟨id, _, hget⟩ := List.mem_filterMap.mp ((KeyedDedupe.dedupeFrom_sublist _ _).subset h)
  exact (Dict.get?_index hget).1

theorem reachedChunks_nodup :
    ((reachedChunks context deterministic graph).map ArtifactChunk.id).Nodup :=
  KeyedDedupe.dedupeFrom_nodup _ _

theorem map_id_filterMap_index (ids : List Text) (chunks : List ArtifactChunk) :
    (ids.filterMap (Dict.index ArtifactChunk.id chunks).get?).map ArtifactChunk.id =
      ids.filter fun id => id ∈ chunks.map ArtifactChunk.id := by
  induction ids with
  | nil => rfl
  | cons id ids ih =>
    cases hget : (Dict.index ArtifactChunk.id chunks).get? id with
    | none =>
      have hid : ¬ id ∈ chunks.map ArtifactChunk.id := fun hmem => by
        have hsome := Dict.isSome_get?_index.mpr hmem
        rw [hget] at hsome
        cases hsome
      rw [List.filterMap_cons_none hget, List.filter_cons_of_neg (by simpa using hid), ih]
    | some chunk =>
      obtain ⟨hchunk, rfl⟩ := Dict.get?_index hget
      have hid : chunk.id ∈ chunks.map ArtifactChunk.id := List.mem_map_of_mem hchunk
      rw [List.filterMap_cons_some hget, List.filter_cons_of_pos (by simpa using hid),
        List.map_cons, ih]

theorem map_id_reachedChunks :
    (reachedChunks context deterministic graph).map ArtifactChunk.id =
      ((selectedIds context deterministic graph).filter fun id =>
        id ∈ context.chunks.map ArtifactChunk.id).eraseDups := by
  rw [reachedChunks, dedupeChunks, KeyedDedupe.keys_dedupe, map_id_filterMap_index]

/-- The reached chunks, cut, and what the fallback added behind them. -/
theorem selectPerspectiveChunks_split (context : PerspectiveBuildContext)
    (deterministic : PerspectiveView) (graph : PerspectiveContextGraph) : ∃ fallback,
    selectPerspectiveChunks context deterministic graph =
      (reachedChunks context deterministic graph).take graph.limits.chunks ++ fallback ∧
    (fallback ≠ [] →
      (reachedChunks context deterministic graph).length < graph.limits.chunks) ∧
    fallback.Sublist context.chunks ∧ ∀ chunk ∈ fallback,
      (artifactTypeForChunk context chunk).any (· ∈ fallbackArtifactTypes graph) = true := by
  have hnodup : ((reachedChunks context deterministic graph).map ArtifactChunk.id).Nodup :=
    reachedChunks_nodup
  rw [selectPerspectiveChunks]
  generalize reachedChunks context deterministic graph = reached at hnodup ⊢
  by_cases hroom : reached.length < graph.limits.chunks
  · obtain ⟨added, hadded, hsublist, htypes⟩ : ∃ added,
        extendFallback context graph reached context.chunks = reached ++ added ∧
          added.Sublist context.chunks ∧ ∀ chunk ∈ added,
            (artifactTypeForChunk context chunk).any (· ∈ fallbackArtifactTypes graph) = true :=
      extendFallback_append reached context.chunks
    obtain ⟨more, hmore, hmore_added⟩ := KeyedDedupe.dedupe_append_of_nodup hnodup added
    have hcut : (more.take (graph.limits.chunks - reached.length)).Sublist added :=
      (List.take_sublist _ more).trans hmore_added
    refine ⟨more.take (graph.limits.chunks - reached.length), ?_, fun _ => hroom,
      hcut.trans hsublist, fun chunk hchunk => htypes chunk (hcut.subset hchunk)⟩
    simp only [if_pos hroom, hadded, dedupeChunks, hmore, List.take_append]
  · refine ⟨[], ?_, fun hne => absurd rfl hne, List.nil_sublist _, by simp⟩
    simp only [if_neg hroom, dedupeChunks, KeyedDedupe.dedupe_of_nodup hnodup, List.append_nil]

/-- The selection is bounded, from the context, distinct, and in the order of the dependencies
with the fallback behind them. -/
theorem selection_for_prompt (context : PerspectiveBuildContext) (deterministic : PerspectiveView)
    (graph : PerspectiveContextGraph) : PromptSelection context deterministic graph
      (selectPerspectiveChunks context deterministic graph) := by
  obtain ⟨fallback, hsplit, hroom, hsublist, htypes⟩ :=
    selectPerspectiveChunks_split context deterministic graph
  refine ⟨List.length_take_le _ _, ?_, ?_, _, fallback, hsplit, ?_, ?_, hsublist, ?_⟩
  · intro chunk hchunk
    rw [hsplit] at hchunk
    rcases List.mem_append.mp hchunk with hchunk | hchunk
    · exact mem_reachedChunks (List.mem_of_mem_take hchunk)
    · exact hsublist.subset hchunk
  · have hcut : ((selectPerspectiveChunks context deterministic graph).map ArtifactChunk.id).Sublist
        ((dedupeChunks (if (reachedChunks context deterministic graph).length < graph.limits.chunks
          then extendFallback context graph (reachedChunks context deterministic graph)
            context.chunks
          else reachedChunks context deterministic graph)).map ArtifactChunk.id) :=
      (List.take_sublist _ _).map _
    exact hcut.nodup (KeyedDedupe.dedupeFrom_nodup _ _)
  · rw [List.map_take, map_id_reachedChunks]
  · exact fun hne => (List.length_take_le' _ _).trans_lt (hroom hne)
  · exact fun chunk hchunk => artifactTypeForChunk_any (htypes chunk hchunk)

end Selected

end DemoService.JobSearch
