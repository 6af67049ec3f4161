import DemoService.ContextModel
import DemoService.ServiceErrors

/-! The default chunker of the context engine. Its chunks overlap from one end of the artifact's
text to the other, so that nothing is lost and short passages stay whole. -/

namespace DemoService.Context

open PyText

/-- The bounds that `__post_init__` checks are part of the chunker. -/
structure SimpleTextChunker where
  chunkSize : Nat
  overlap : Nat
  positive : 1 ≤ chunkSize
  smaller : overlap < chunkSize

def SimpleTextChunker.make (chunkSize overlap : Int) : Except Raised SimpleTextChunker :=
  if hsize : chunkSize < 1 then .error (valueError "Chunk size must be positive.".toList)
  else if hoverlap : overlap < 0 ∨ overlap ≥ chunkSize then
    .error (valueError "Chunk overlap must be smaller than chunk size.".toList)
  else .ok ⟨chunkSize.toNat, overlap.toNat, by omega, by omega⟩

/-- A chunker is made of exactly the sizes whose chunks go on. -/
theorem make_ok_iff {chunkSize overlap : Int} :
    (∃ chunker, SimpleTextChunker.make chunkSize overlap = .ok chunker) ↔
      1 ≤ chunkSize ∧ 0 ≤ overlap ∧ overlap < chunkSize := by
  unfold SimpleTextChunker.make
  split
  · simp
    omega
  · split
    · simp
      omega
    · simp
      omega

/-- `text[start:end]`. -/
def textSlice (text : Text) (start stop : Nat) : Text := (text.take stop).drop start

/-- The chunk of a slice; `newId` is what `new_context_id` gives the chunk of an index. -/
def sliceChunk (newId : Nat → Text) (artifact : Artifact) (chunkIndex start stop : Nat) :
    ArtifactChunk where
  id := newId chunkIndex
  artifactId := artifact.id
  chunkIndex := chunkIndex
  text := textSlice artifact.text start stop
  startOffset := start
  endOffset := stop
  sourceLink := ⟨artifact.id, some (newId chunkIndex), some start, some stop, none,
    some ((textSlice artifact.text start stop).take 240)⟩
  metadata := []

/-- The loop of `chunk`. -/
def SimpleTextChunker.chunkFrom (chunker : SimpleTextChunker) (newId : Nat → Text)
    (artifact : Artifact) (start chunkIndex : Nat) : List ArtifactChunk :=
  if start < artifact.text.length then
    let stop := min artifact.text.length (start + chunker.chunkSize)
    let chunk := sliceChunk newId artifact chunkIndex start stop
    if stop = artifact.text.length then [chunk]
    else chunk :: chunker.chunkFrom newId artifact (stop - chunker.overlap) (chunkIndex + 1)
  else []
termination_by artifact.text.length - start
decreasing_by
  have := chunker.smaller
  omega

def SimpleTextChunker.chunk (chunker : SimpleTextChunker) (newId : Nat → Text)
    (artifact : Artifact) : List ArtifactChunk :=
  if artifact.text = [] then [] else chunker.chunkFrom newId artifact 0 0

/-- The chunks' texts one after the other, each without what the one before it holds already. -/
def rejoin (stop : Nat) : List ArtifactChunk → Text
  | [] => []
  | chunk :: chunks => chunk.text.drop (stop - chunk.startOffset) ++ rejoin chunk.endOffset chunks

variable (chunker : SimpleTextChunker) (newId : Nat → Text) {artifact : Artifact}

/-- One turn of the loop: the rest is one chunk, or a full chunk comes first and the next one
starts inside it. -/
theorem chunkFrom_cases {start : Nat} (h : start < artifact.text.length) (chunkIndex : Nat) :
    (artifact.text.length ≤ start + chunker.chunkSize ∧
      chunker.chunkFrom newId artifact start chunkIndex =
        [sliceChunk newId artifact chunkIndex start artifact.text.length]) ∨
    ∃ stop next, start < next ∧ next + chunker.overlap = stop ∧ stop < artifact.text.length ∧
      chunker.chunkFrom newId artifact start chunkIndex =
        sliceChunk newId artifact chunkIndex start stop ::
          chunker.chunkFrom newId artifact next (chunkIndex + 1) := by
  have hsmaller := chunker.smaller
  by_cases hend : artifact.text.length ≤ start + chunker.chunkSize
  · left
    rw [SimpleTextChunker.chunkFrom, if_pos h, Nat.min_eq_left hend]
    exact ⟨hend, if_pos rfl⟩
  · right
    refine ⟨start + chunker.chunkSize, start + chunker.chunkSize - chunker.overlap, by omega,
      by omega, by omega, ?_⟩
    rw [SimpleTextChunker.chunkFrom, if_pos h, Nat.min_eq_right (by omega)]
    exact if_neg (by omega)

/-- What holds of a last chunk, and of a chunk in front of a run of the loop where it holds, holds
of every run. -/
theorem chunkFrom_induction {motive : Nat → Nat → List ArtifactChunk → Prop}
    (last : ∀ start chunkIndex, start < artifact.text.length →
      motive start chunkIndex [sliceChunk newId artifact chunkIndex start artifact.text.length])
    (step : ∀ start next stop chunkIndex chunks, start < next → next + chunker.overlap = stop →
      stop < artifact.text.length → motive next (chunkIndex + 1) chunks →
      motive start chunkIndex (sliceChunk newId artifact chunkIndex start stop :: chunks))
    {start : Nat} (h : start < artifact.text.length) (chunkIndex : Nat) :
    motive start chunkIndex (chunker.chunkFrom newId artifact start chunkIndex) := by
  induction hrest : artifact.text.length - start using Nat.strong_induction_on
    generalizing start chunkIndex with
  | h rest ih =>
    rcases chunkFrom_cases chunker newId h chunkIndex with
      ⟨-, heq⟩ | ⟨stop, next, hnext, hstop, hlt, heq⟩
    · rw [heq]
      exact last start chunkIndex h
    · rw [heq]
      exact step start next stop chunkIndex _ hnext hstop hlt
        (ih _ (by omega) (by omega) (chunkIndex + 1) rfl)

theorem chunkFrom_texts {start : Nat} (h : start < artifact.text.length) (chunkIndex : Nat) :
    ∀ chunk ∈ chunker.chunkFrom newId artifact start chunkIndex,
      chunk.text = textSlice artifact.text chunk.startOffset chunk.endOffset := by
  refine chunkFrom_induction chunker newId (motive := fun _ _ chunks => ∀ chunk ∈ chunks,
    chunk.text = textSlice artifact.text chunk.startOffset chunk.endOffset) ?_ ?_ h chunkIndex
  · intro start chunkIndex _
    simp [sliceChunk]
  · intro start next stop chunkIndex chunks _ _ _ ih
    simp only [List.forall_mem_cons]
    exact ⟨rfl, ih⟩

theorem chunkFrom_indices {start : Nat} (h : start < artifact.text.length) (chunkIndex : Nat) :
    (chunker.chunkFrom newId artifact start chunkIndex).map ArtifactChunk.chunkIndex =
      List.range' chunkIndex (chunker.chunkFrom newId artifact start chunkIndex).length := by
  refine chunkFrom_induction chunker newId (motive := fun _ chunkIndex chunks =>
    chunks.map ArtifactChunk.chunkIndex = List.range' chunkIndex chunks.length) ?_ ?_ h chunkIndex
  · intro start chunkIndex _
    rfl
  · intro start next stop chunkIndex chunks _ _ _ ih
    rw [List.map_cons, ih]
    rfl

theorem chunkFrom_last {start : Nat} (h : start < artifact.text.length) (chunkIndex : Nat) :
    (chunker.chunkFrom newId artifact start chunkIndex).getLast?.map ArtifactChunk.endOffset =
      some artifact.text.length := by
  refine chunkFrom_induction chunker newId (motive := fun _ _ chunks =>
    chunks.getLast?.map ArtifactChunk.endOffset = some artifact.text.length) ?_ ?_ h chunkIndex
  · intro start chunkIndex _
    rfl
  · intro start next stop chunkIndex chunks _ _ _ ih
    cases chunks with
    | nil => simp at ih
    | cons chunk chunks =>
      rw [List.getLast?_cons_cons]
      exact ih

theorem textSlice_append_drop {text : Text} {start stop : Nat} (h : start ≤ stop)
    (hstop : stop ≤ text.length) : textSlice text start stop ++ text.drop stop = text.drop start := by
  have hlength : (text.take stop).length = stop := by simp [hstop]
  calc textSlice text start stop ++ text.drop stop
      = (text.take stop ++ text.drop stop).drop start := by
        rw [List.drop_append_of_le_length (by omega)]
        rfl
    _ = text.drop start := by rw [List.take_append_drop]

theorem drop_textSlice {text : Text} {start stop next : Nat} (h : start ≤ next) :
    (textSlice text start stop).drop (next - start) = textSlice text next stop := by
  rw [textSlice, List.drop_drop, textSlice]
  congr 1
  omega

/-- From an offset within a chunk's overlap on, the chunks hold the rest of the text. -/
theorem rejoin_chunkFrom {start : Nat} (h : start < artifact.text.length) (chunkIndex : Nat) :
    ∀ stop, start ≤ stop → stop ≤ start + chunker.overlap → stop ≤ artifact.text.length →
      rejoin stop (chunker.chunkFrom newId artifact start chunkIndex) = artifact.text.drop stop := by
  refine chunkFrom_induction chunker newId (motive := fun start _ chunks =>
    ∀ stop, start ≤ stop → stop ≤ start + chunker.overlap → stop ≤ artifact.text.length →
      rejoin stop chunks = artifact.text.drop stop) ?_ ?_ h chunkIndex
  · intro start chunkIndex _ stop hstart _ hstop
    simp only [rejoin, sliceChunk, List.append_nil]
    rw [drop_textSlice hstart, textSlice, List.take_length]
  · intro start next stop chunkIndex chunks hnext hoverlap hlt ih seen hstart hseen hlen
    simp only [rejoin, sliceChunk]
    rw [ih stop (by omega) (by omega) (by omega), drop_textSlice hstart]
    exact textSlice_append_drop (by omega) (by omega)

theorem chunkFrom_holds {start : Nat} (h : start < artifact.text.length) (chunkIndex : Nat) :
    ∀ first count, start ≤ first → count ≤ chunker.overlap + 1 →
      first + count ≤ artifact.text.length →
      ∃ chunk ∈ chunker.chunkFrom newId artifact start chunkIndex,
        chunk.startOffset ≤ first ∧ first + count ≤ chunk.endOffset := by
  refine chunkFrom_induction chunker newId (motive := fun start _ chunks =>
    ∀ first count, start ≤ first → count ≤ chunker.overlap + 1 →
      first + count ≤ artifact.text.length →
      ∃ chunk ∈ chunks, chunk.startOffset ≤ first ∧ first + count ≤ chunk.endOffset)
    ?_ ?_ h chunkIndex
  · intro start chunkIndex _ first count hstart _ hend
    exact ⟨_, List.mem_singleton.mpr rfl, hstart, hend⟩
  · intro start next stop chunkIndex chunks _ hoverlap _ ih first count hstart hcount hend
    -- a passage that begins before the next chunk ends within this one
    by_cases hnext : first < next
    · exact ⟨_, List.mem_cons_self, hstart, show first + count ≤ stop by omega⟩
    · obtain ⟨chunk, hchunk, hholds⟩ := ih first count (by omega) hcount hend
      exact ⟨chunk, List.mem_cons_of_mem _ hchunk, hholds⟩

/-- The chunks lose nothing of the text, and hold each short passage of it whole. -/
theorem chunk_lossless (chunker : SimpleTextChunker) (newId : Nat → Text) (artifact : Artifact) :
    let chunks := chunker.chunk newId artifact
    (∀ chunk ∈ chunks,
        chunk.text = textSlice artifact.text chunk.startOffset chunk.endOffset) ∧
      chunks.map ArtifactChunk.chunkIndex = List.range chunks.length ∧
      (∀ chunk ∈ chunks.getLast?, chunk.endOffset = artifact.text.length) ∧
      rejoin 0 chunks = artifact.text ∧
      ∀ first count, count ≤ chunker.overlap + 1 → first + count ≤ artifact.text.length →
        artifact.text = [] ∨
          ∃ chunk ∈ chunks, chunk.startOffset ≤ first ∧ first + count ≤ chunk.endOffset := by
  intro chunks
  by_cases hnil : artifact.text = []
  · have hchunks : chunks = [] := if_pos hnil
    rw [hchunks]
    exact ⟨by simp, rfl, by simp, hnil.symm, fun _ _ _ _ => .inl hnil⟩
  · have hpos : 0 < artifact.text.length := List.length_pos_iff.mpr hnil
    have hchunks : chunks = chunker.chunkFrom newId artifact 0 0 := if_neg hnil
    rw [hchunks]
    refine ⟨chunkFrom_texts chunker newId hpos 0, ?_, ?_, ?_, ?_⟩
    · rw [chunkFrom_indices chunker newId hpos 0, List.range_eq_range']
    · intro chunk hchunk
      have hlast := chunkFrom_last chunker newId hpos 0
      rw [Option.mem_def.mp hchunk] at hlast
      exact Option.some.inj hlast
    · exact rejoin_chunkFrom chunker newId hpos 0 0 le_rfl (Nat.zero_le _) (Nat.zero_le _)
    · intro first count hcount hend
      exact .inr (chunkFrom_holds chunker newId hpos 0 first count (Nat.zero_le _) hcount hend)

end DemoService.Context
