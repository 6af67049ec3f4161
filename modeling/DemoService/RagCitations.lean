import DemoService.PyDict
import DemoService.RagStore
import DemoService.TextLayout

/-! The context of a chat turn and the citations of its answer. The context merges the results of
the planned queries without repeats; the citations follow the model's list of chunk ids, which may
repeat one. -/

namespace DemoService.Rag

open PyText TextLayout

structure RagTurnPlan where
  isAllowed : Bool
  needsRetrieval : Bool
  searchQueries : List Text
  deriving DecidableEq, Repr

/-- A drafted answer, as far as the citations depend on it. -/
structure CitingDraft where
  contentMarkdown : Text
  citationChunkIds : List Nat
  deriving DecidableEq, Repr

structure RagMessageCitation where
  messageId : Nat
  documentId : Nat
  chunkId : Nat
  chunkIndex : Nat
  source : Text
  title : Option Text
  snippet : Text
  rank : Nat
  deriving DecidableEq, Repr

section Retrieve

variable {δ : Type}

/-- The results kept so far, the ids of their chunks, and whether five are reached. -/
structure Retrieved (δ : Type) where
  results : List (RagSearchResult δ)
  seenChunkIds : List Nat
  full : Bool

/-- The inner loop of `_retrieve_for_plan`, over the results of one query. -/
def keepResults (results : List (RagSearchResult δ)) (seenChunkIds : List Nat) :
    List (RagSearchResult δ) → Retrieved δ
  | [] => ⟨results, seenChunkIds, false⟩
  | result :: found =>
    if result.chunkId ∈ seenChunkIds then keepResults results seenChunkIds found
    else
      let results := results ++ [result]
      let seenChunkIds := result.chunkId :: seenChunkIds
      if 5 ≤ results.length then ⟨results, seenChunkIds, true⟩
      else keepResults results seenChunkIds found

def retrieveQueries (search : Text → Except Raised (List (RagSearchResult δ))) :
    List Text → List (RagSearchResult δ) → List Nat → Except Raised (List (RagSearchResult δ))
  | [], results, _ => .ok results
  | query :: queries, results, seenChunkIds => do
    let found ← search query
    let kept := keepResults results seenChunkIds found
    if kept.full then pure kept.results
    else retrieveQueries search queries kept.results kept.seenChunkIds

/-- `search` is the persona's documents' search with a limit of five. -/
def retrieveForPlan (search : Text → Except Raised (List (RagSearchResult δ))) (plan : RagTurnPlan)
    (userContent : Text) : Except Raised (List (RagSearchResult δ)) :=
  if !plan.isAllowed || !plan.needsRetrieval then .ok []
  else
    let queries := (plan.searchQueries.map strip).filter (· ≠ [])
    let queries := if queries = [] then [userContent] else queries
    retrieveQueries search (queries.take 3) [] []

/-- Five pairwise distinct chunks at most, whose ids have been noted. -/
structure Merged (results : List (RagSearchResult δ)) (seenChunkIds : List Nat) : Prop where
  noted : ∀ result ∈ results, result.chunkId ∈ seenChunkIds
  distinct : (results.map RagSearchResult.chunkId).Nodup

theorem keepResults_merged {results : List (RagSearchResult δ)} {seenChunkIds : List Nat}
    (h : Merged results seenChunkIds) (hlen : results.length < 5)
    (found : List (RagSearchResult δ)) :
    Merged (keepResults results seenChunkIds found).results
        (keepResults results seenChunkIds found).seenChunkIds ∧
      (keepResults results seenChunkIds found).results.length ≤ 5 ∧
      ((keepResults results seenChunkIds found).full = false →
        (keepResults results seenChunkIds found).results.length < 5) := by
  induction found generalizing results seenChunkIds with
  | nil => exact ⟨h, hlen.le, fun _ => hlen⟩
  | cons result found ih =>
    by_cases hseen : result.chunkId ∈ seenChunkIds
    · rw [keepResults, if_pos hseen]
      exact ih h hlen
    · have hnext : Merged (results ++ [result]) (result.chunkId :: seenChunkIds) := by
        refine ⟨?_, ?_⟩
        · intro other hother
          rcases List.mem_append.mp hother with hother | hother
          · exact List.mem_cons_of_mem _ (h.noted other hother)
          · rw [List.mem_singleton.mp hother]
            exact List.mem_cons_self
        · rw [List.map_append, List.nodup_append]
          refine ⟨h.distinct, List.nodup_singleton _, ?_⟩
          intro a ha b hb hab
          obtain ⟨other, hother, rfl⟩ := List.mem_map.mp ha
          have hresult : b = result.chunkId := List.mem_singleton.mp hb
          exact hseen (by rw [← hresult, ← hab]; exact h.noted other hother)
      have hcount : (results ++ [result]).length = results.length + 1 := List.length_append
      simp only [keepResults, if_neg hseen]
      by_cases hfull : 5 ≤ (results ++ [result]).length
      · rw [if_pos hfull]
        exact ⟨hnext, by simp only; omega, fun hno => Bool.noConfusion hno⟩
      · rw [if_neg hfull]
        exact ih hnext (by omega)

theorem retrieveQueries_merged {search : Text → Except Raised (List (RagSearchResult δ))}
    {queries : List Text} {results retrieved : List (RagSearchResult δ)} {seenChunkIds : List Nat}
    (h : Merged results seenChunkIds) (hlen : results.length < 5)
    (hretrieved : retrieveQueries search queries results seenChunkIds = .ok retrieved) :
    retrieved.length ≤ 5 ∧ (retrieved.map RagSearchResult.chunkId).Nodup := by
  induction queries generalizing results seenChunkIds with
  | nil =>
    obtain rfl := Except.ok.inj hretrieved
    exact ⟨hlen.le, h.distinct⟩
  | cons query queries ih =>
    obtain ⟨found, -, hrest⟩ := Fallible.bind_eq_ok.mp hretrieved
    obtain ⟨hmerged, hle, hroom⟩ := keepResults_merged h hlen found
    by_cases hfull : (keepResults results seenChunkIds found).full = true
    · rw [if_pos hfull] at hrest
      obtain rfl := Except.ok.inj hrest
      exact ⟨hle, hmerged.distinct⟩
    · rw [if_neg hfull] at hrest
      exact ih hmerged (hroom (by simpa using hfull)) hrest

/-- The context of a turn holds at most five chunks, each once. -/
theorem retrieveForPlan_distinct {search : Text → Except Raised (List (RagSearchResult δ))}
    {plan : RagTurnPlan} {userContent : Text} {retrieved : List (RagSearchResult δ)}
    (h : retrieveForPlan search plan userContent = .ok retrieved) :
    retrieved.length ≤ 5 ∧ (retrieved.map RagSearchResult.chunkId).Nodup := by
  rw [retrieveForPlan] at h
  split at h
  · obtain rfl := Except.ok.inj h
    exact ⟨Nat.zero_le 5, List.nodup_nil⟩
  · have hnone : Merged ([] : List (RagSearchResult δ)) [] := ⟨by simp, List.nodup_nil⟩
    exact retrieveQueries_merged hnone (Nat.zero_lt_succ 4) h

end Retrieve

section Store

variable {δ : Type}

def citationSnippet (text : Text) : Text := (unwords (words isSpace text)).take 600

def citationOf (messageId rank : Nat) (chunk : RagSearchResult δ) : RagMessageCitation where
  messageId := messageId
  documentId := chunk.documentId
  chunkId := chunk.chunkId
  chunkIndex := chunk.chunkIndex
  source := chunk.source
  title := chunk.title
  snippet := citationSnippet chunk.chunkText
  rank := rank

def chunkById (retrieved : List (RagSearchResult δ)) : Dict Nat (RagSearchResult δ) :=
  Dict.ofList (retrieved.map fun chunk => (chunk.chunkId, chunk))

/-- The ids that the draft cites and the turn has retrieved, or else all that it has retrieved. -/
def selectedIds (draft : CitingDraft) (retrieved : List (RagSearchResult δ)) : List Nat :=
  let selected := draft.citationChunkIds.filter fun chunkId =>
    ((chunkById retrieved).get? chunkId).isSome
  if selected = [] ∧ strip draft.contentMarkdown ≠ [] then retrieved.map RagSearchResult.chunkId
  else selected

/-- `_store_citations`; each selected id is a key of the dictionary. -/
def storeCitations (messageId : Nat) (draft : CitingDraft) (retrieved : List (RagSearchResult δ)) :
    List RagMessageCitation :=
  if retrieved.isEmpty then []
  else (((selectedIds draft retrieved).take 5).zipIdx 1).filterMap fun ranked =>
    ((chunkById retrieved).get? ranked.1).map (citationOf messageId ranked.2)

variable {retrieved : List (RagSearchResult δ)} {draft : CitingDraft}

theorem chunkById_isSome {chunkId : Nat} : ((chunkById retrieved).get? chunkId).isSome = true ↔
    chunkId ∈ retrieved.map RagSearchResult.chunkId := Dict.isSome_get?_index

theorem selectedIds_known : ∀ chunkId ∈ selectedIds draft retrieved,
    ((chunkById retrieved).get? chunkId).isSome = true := by
  intro chunkId hchunk
  simp only [selectedIds] at hchunk
  split at hchunk
  · exact chunkById_isSome.mpr hchunk
  · exact (List.mem_filter.mp hchunk).2

/-- One citation for each ranked id, of a retrieved chunk. -/
theorem citations_ranked (messageId : Nat) {ranked : List (Nat × Nat)}
    (h : ∀ r ∈ ranked, ((chunkById retrieved).get? r.1).isSome = true) :
    let citations := ranked.filterMap fun r =>
      ((chunkById retrieved).get? r.1).map (citationOf messageId r.2)
    citations.map RagMessageCitation.chunkId = ranked.map Prod.fst ∧
      citations.map RagMessageCitation.rank = ranked.map Prod.snd ∧
      ∀ citation ∈ citations, ∃ chunk ∈ retrieved,
        citation = citationOf messageId citation.rank chunk := by
  induction ranked with
  | nil => simp
  | cons r ranked ih =>
    rw [List.forall_mem_cons] at h
    obtain ⟨hids, hranks, hcite⟩ := ih h.2
    obtain ⟨chunk, hchunk⟩ := Option.isSome_iff_exists.mp h.1
    obtain ⟨hmem, hid⟩ := Dict.get?_index hchunk
    simp only [List.filterMap_cons, hchunk, Option.map_some, List.map_cons, List.forall_mem_cons]
    refine ⟨?_, ?_, ⟨chunk, hmem, rfl⟩, hcite⟩
    · rw [hids]
      exact congrArg (· :: _) hid
    · rw [hranks]
      rfl

theorem storeCitations_spec (messageId : Nat) (draft : CitingDraft) (h : retrieved.isEmpty = false) :
    (storeCitations messageId draft retrieved).map RagMessageCitation.chunkId =
        (selectedIds draft retrieved).take 5 ∧
      (storeCitations messageId draft retrieved).map RagMessageCitation.rank =
        List.range' 1 ((selectedIds draft retrieved).take 5).length ∧
      ∀ citation ∈ storeCitations messageId draft retrieved, ∃ chunk ∈ retrieved,
        citation = citationOf messageId citation.rank chunk := by
  have hknown : ∀ r ∈ ((selectedIds draft retrieved).take 5).zipIdx 1,
      ((chunkById retrieved).get? r.1).isSome = true := by
    intro r hr
    have hmem : r.1 ∈ (((selectedIds draft retrieved).take 5).zipIdx 1).map Prod.fst :=
      List.mem_map_of_mem hr
    rw [List.zipIdx_map_fst] at hmem
    exact selectedIds_known _ (List.mem_of_mem_take hmem)
  obtain ⟨hids, hranks, hcite⟩ := citations_ranked messageId hknown
  rw [List.zipIdx_map_fst] at hids
  rw [List.zipIdx_map_snd] at hranks
  rw [storeCitations, h]
  exact ⟨hids, hranks, hcite⟩

section Filter

variable {α : Type} {p : α → Bool} {xs : List α} {n : Nat}

theorem mem_take_filter {x : α} : x ∈ (xs.filter p).take n ↔
    ∃ j : Nat, xs[j]? = some x ∧ p x = true ∧ (xs.take j).countP p < n := by
  induction xs generalizing n with
  | nil => simp
  | cons y ys ih =>
    by_cases hy : p y = true
    · cases n with
      | zero => simp
      | succ n =>
        rw [List.filter_cons_of_pos hy, List.take_succ_cons, List.mem_cons, ih]
        constructor
        · rintro (rfl | ⟨j, hj, hp, hcount⟩)
          · exact ⟨0, rfl, hy, Nat.zero_lt_succ n⟩
          · refine ⟨j + 1, hj, hp, ?_⟩
            rw [List.take_succ_cons, List.countP_cons_of_pos hy]
            omega
        · rintro ⟨j, hj, hp, hcount⟩
          cases j with
          | zero => exact .inl (Option.some.inj hj).symm
          | succ j =>
            rw [List.take_succ_cons, List.countP_cons_of_pos hy] at hcount
            exact .inr ⟨j, hj, hp, by omega⟩
    · rw [List.filter_cons_of_neg hy, ih]
      constructor
      · rintro ⟨j, hj, hp, hcount⟩
        refine ⟨j + 1, hj, hp, ?_⟩
        rwa [List.take_succ_cons, List.countP_cons_of_neg hy]
      · rintro ⟨j, hj, hp, hcount⟩
        cases j with
        | zero => exact absurd (Option.some.inj hj ▸ hp) hy
        | succ j =>
          rw [List.take_succ_cons, List.countP_cons_of_neg hy] at hcount
          exact ⟨j, hj, hp, hcount⟩

/-- The first selected items are distinct exactly when no item that is selected comes again before
as many selected ones. -/
theorem nodup_take_filter_iff : ((xs.filter p).take n).Nodup ↔
    ∀ i j : Nat, i < j → ∀ x, p x = true → xs[i]? = some x → xs[j]? = some x →
      n ≤ (xs.take j).countP p := by
  induction xs generalizing n with
  | nil => simp
  | cons y ys ih =>
    by_cases hy : p y = true
    · cases n with
      | zero => simp
      | succ n =>
        rw [List.filter_cons_of_pos hy, List.take_succ_cons, List.nodup_cons, mem_take_filter, ih]
        constructor
        · rintro ⟨hfirst, hlater⟩ i j hij x hp hi hj
          obtain ⟨k, rfl⟩ : ∃ k, j = k + 1 := ⟨j - 1, by omega⟩
          rw [List.take_succ_cons, List.countP_cons_of_pos hy]
          cases i with
          | zero =>
            obtain rfl := Option.some.inj hi
            by_contra hfew
            exact hfirst ⟨k, hj, hp, by omega⟩
          | succ i =>
            have := hlater i k (by omega) x hp hi hj
            omega
        · intro hall
          refine ⟨?_, ?_⟩
          · rintro ⟨k, hk, hp, hcount⟩
            have := hall 0 (k + 1) (Nat.succ_pos k) y hp rfl hk
            rw [List.take_succ_cons, List.countP_cons_of_pos hy] at this
            omega
          · intro i k hik x hp hi hk
            have := hall (i + 1) (k + 1) (by omega) x hp hi hk
            rw [List.take_succ_cons, List.countP_cons_of_pos hy] at this
            omega
    · rw [List.filter_cons_of_neg hy, ih]
      constructor
      · intro hall i j hij x hp hi hj
        obtain ⟨k, rfl⟩ : ∃ k, j = k + 1 := ⟨j - 1, by omega⟩
        rw [List.take_succ_cons, List.countP_cons_of_neg hy]
        cases i with
        | zero => exact absurd (Option.some.inj hi ▸ hp) hy
        | succ i => exact hall i k (by omega) x hp hi hj
      · intro hall i k hik x hp hi hk
        have := hall (i + 1) (k + 1) (by omega) x hp hi hk
        rwa [List.take_succ_cons, List.countP_cons_of_neg hy] at this

end Filter

/-- No retrieved chunk is cited again before five citations of retrieved chunks. -/
def CitedOnce (known cited : List Nat) : Prop :=
  ∀ i j : Nat, i < j → ∀ chunkId ∈ known, cited[i]? = some chunkId → cited[j]? = some chunkId →
    5 ≤ (cited.take j).countP (· ∈ known)

theorem selectedIds_nodup_iff (hdistinct : (retrieved.map RagSearchResult.chunkId).Nodup) :
    ((selectedIds draft retrieved).take 5).Nodup ↔
      CitedOnce (retrieved.map RagSearchResult.chunkId) draft.citationChunkIds := by
  let known := retrieved.map RagSearchResult.chunkId
  have hfilter : draft.citationChunkIds.filter (fun chunkId =>
      ((chunkById retrieved).get? chunkId).isSome) =
      draft.citationChunkIds.filter (fun chunkId => decide (chunkId ∈ known)) := by
    apply List.filter_congr
    intro chunkId _
    rw [Bool.eq_iff_iff, chunkById_isSome, decide_eq_true_eq]
  have honce : ((draft.citationChunkIds.filter fun chunkId =>
      decide (chunkId ∈ known)).take 5).Nodup ↔ CitedOnce known draft.citationChunkIds := by
    rw [nodup_take_filter_iff]
    simp only [decide_eq_true_eq]
    rfl
  simp only [selectedIds, hfilter]
  split
  · rename_i hnone
    rw [hnone.1] at honce
    exact ⟨fun _ => honce.mp List.nodup_nil, fun _ => hdistinct.sublist (List.take_sublist 5 _)⟩
  · exact honce

/-- The stored citations are of retrieved chunks, each once, ranked from one to at most five. -/
structure CitationsSound (messageId : Nat) (retrieved : List (RagSearchResult δ))
    (citations : List RagMessageCitation) : Prop where
  grounded : ∀ citation ∈ citations, ∃ chunk ∈ retrieved,
    citation = citationOf messageId citation.rank chunk
  distinct : (citations.map RagMessageCitation.chunkId).Nodup
  ranks : citations.map RagMessageCitation.rank = List.range' 1 citations.length
  bounded : citations.length ≤ 5

/-- The context of a turn is sound, and so are the citations exactly when the draft's first five
citations of retrieved chunks do not repeat one. -/
theorem citations_sound_iff {search : Text → Except Raised (List (RagSearchResult δ))}
    {plan : RagTurnPlan} {userContent : Text}
    (h : retrieveForPlan search plan userContent = .ok retrieved) (messageId : Nat)
    (draft : CitingDraft) :
    (retrieved.length ≤ 5 ∧ (retrieved.map RagSearchResult.chunkId).Nodup ∧
      CitationsSound messageId retrieved (storeCitations messageId draft retrieved)) ↔
      CitedOnce (retrieved.map RagSearchResult.chunkId) draft.citationChunkIds := by
  obtain ⟨hle, hdistinct⟩ := retrieveForPlan_distinct h
  cases hempty : retrieved.isEmpty with
  | true =>
    have hnil : retrieved = [] := by simpa using hempty
    subst hnil
    refine ⟨fun _ i j hij chunkId hmem => absurd hmem List.not_mem_nil, fun _ => ⟨hle, hdistinct, ?_⟩⟩
    exact ⟨by simp [storeCitations], List.nodup_nil, rfl, Nat.zero_le 5⟩
  | false =>
    obtain ⟨hids, hranks, hcite⟩ := storeCitations_spec messageId draft hempty
    have hlength : (storeCitations messageId draft retrieved).length =
        ((selectedIds draft retrieved).take 5).length := by
      rw [← hids, List.length_map]
    rw [← selectedIds_nodup_iff hdistinct, ← hids]
    constructor
    · rintro ⟨-, -, hsound⟩
      exact hsound.distinct
    · intro hnodup
      refine ⟨hle, hdistinct, hcite, hnodup, ?_, ?_⟩
      · rw [hlength, hranks]
      · rw [hlength]
        exact List.length_take_le 5 _

end Store

def faq (id : Nat) : RagSearchResult Nat := ⟨id, 1, "faq.txt".toList, none, id, "text".toList, 0⟩

def askFaq : RagTurnPlan := ⟨true, true, ["refunds".toList]⟩

theorem two_chunks_cited_soundly :
    (([faq 7, faq 8]).length ≤ 5 ∧ (([faq 7, faq 8]).map RagSearchResult.chunkId).Nodup ∧
      CitationsSound 1 [faq 7, faq 8] (storeCitations 1 ⟨['a'], [8, 7]⟩ [faq 7, faq 8])) ↔
      CitedOnce (([faq 7, faq 8]).map RagSearchResult.chunkId) [8, 7] :=
  citations_sound_iff (show retrieveForPlan (fun _ => .ok [faq 7, faq 8]) askFaq
    "refunds?".toList = .ok [faq 7, faq 8] from rfl) 1 ⟨['a'], [8, 7]⟩

/-- A chunk that the draft cites twice is stored twice. -/
theorem repeated_chunk_stored_twice :
    retrieveForPlan (fun _ => .ok [faq 7]) askFaq "refunds?".toList = .ok [faq 7] ∧
      ¬ ((storeCitations 1 ⟨['a'], [7, 7]⟩ [faq 7]).map RagMessageCitation.chunkId).Nodup := by
  decide

end DemoService.Rag
