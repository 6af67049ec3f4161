import DemoService.AssistedSteps
import DemoService.JobSearchExtractors
import DemoService.RepositoryAgreement

/-! Where the records of an ingestion come from. Each has source links, and they cite the artifact
that was ingested and its chunks, also where a model has written the record. -/

namespace DemoService.JobSearch

open PyText Context
open Fallible

section Links

/-- The link cites the artifact, and where it cites a chunk, one of these. -/
structure CitesPart (artifact : Artifact) (chunks : List ArtifactChunk) (link : SourceLink) :
    Prop where
  artifactId : link.artifactId = artifact.id
  chunk : ∀ id ∈ link.chunkId, id ∈ chunks.map ArtifactChunk.id

def Sourced (artifact : Artifact) (chunks : List ArtifactChunk) (links : List SourceLink) : Prop :=
  links ≠ [] ∧ ∀ link ∈ links, CitesPart artifact chunks link

/-- `json.dumps` takes the metadata. -/
def Dumpable (metadata : Metadata) : Prop := ∀ item ∈ metadata, item.2.serializable = true

theorem Dumpable.set {metadata : Metadata} (h : Dumpable metadata) {value : MetaValue}
    (hvalue : value.serializable = true) (key : Text) : Dumpable (Dict.set metadata key value) := by
  intro item hitem
  rcases Dict.mem_set hitem with rfl | hmem
  · exact hvalue
  · exact h item hmem

theorem Dumpable.setdefault {metadata : Metadata} (h : Dumpable metadata) {value : MetaValue}
    (hvalue : value.serializable = true) (key : Text) :
    Dumpable (Dict.setdefault metadata key value) := by
  rw [Dict.setdefault]
  split
  · exact h
  · exact h.set hvalue key

theorem Dumpable.merge {metadata added : Metadata} (h : Dumpable metadata) (hadded : Dumpable added) :
    Dumpable (Dict.merge metadata added) := by
  induction added generalizing metadata with
  | nil => exact h
  | cons item added ih =>
    obtain ⟨hitem, hrest⟩ := List.forall_mem_cons.mp hadded
    exact ih (h.set hitem item.1) hrest

/-- The artifact has chunks, and these are its own. -/
structure ChunksOf (artifact : Artifact) (chunks : List ArtifactChunk) : Prop where
  filled : chunks ≠ []
  artifactId : ∀ chunk ∈ chunks, chunk.artifactId = artifact.id
  sourceLink : ∀ chunk ∈ chunks, chunk.sourceLink.artifactId = artifact.id ∧
    chunk.sourceLink.chunkId = some chunk.id
  metadata : ∀ chunk ∈ chunks, Dumpable chunk.metadata

theorem dumpable_nil : Dumpable [] := fun _ hmem => nomatch hmem

theorem chunk_chunksOf (chunker : SimpleTextChunker) (newId : Nat → Text) {artifact : Artifact}
    (h : artifact.text ≠ []) : ChunksOf artifact (chunker.chunk newId artifact) := by
  have hpos : 0 < artifact.text.length := List.length_pos_iff.mpr h
  rw [SimpleTextChunker.chunk, if_neg h]
  refine chunkFrom_induction chunker newId (motive := fun _ _ chunks => ChunksOf artifact chunks)
    ?_ ?_ hpos 0
  · intro start chunkIndex _
    refine ⟨List.cons_ne_nil _ _, ?_, ?_, ?_⟩
    · simp [sliceChunk]
    · simp [sliceChunk]
    · simp [sliceChunk, dumpable_nil]
  · intro start next stop chunkIndex chunks _ _ _ ih
    refine ⟨List.cons_ne_nil _ _, ?_, ?_, ?_⟩
    · exact List.forall_mem_cons.mpr ⟨rfl, ih.artifactId⟩
    · exact List.forall_mem_cons.mpr ⟨⟨rfl, rfl⟩, ih.sourceLink⟩
    · exact List.forall_mem_cons.mpr ⟨dumpable_nil, ih.metadata⟩

variable {artifact : Artifact} {chunks : List ArtifactChunk}

theorem sourceForMatch_cites (h : ChunksOf artifact chunks) {lower : Text → Text} {matchText : Text}
    {label : Option Text} {link : SourceLink}
    (hlink : sourceForMatch lower chunks matchText label = .ok link) :
    CitesPart artifact chunks link := by
  rcases sourceForMatch_cases hlink with ⟨chunk, hchunk, hmatch⟩ | ⟨-, first, hfirst, rfl⟩
  · obtain ⟨offset, -, rfl⟩ := Option.map_eq_some_iff.mp hmatch
    refine ⟨h.artifactId chunk hchunk, fun id hid => ?_⟩
    obtain rfl := Option.some.inj hid
    exact List.mem_map_of_mem hchunk
  · have hmem := List.mem_of_mem_head? hfirst
    obtain ⟨hartifact, hchunk⟩ := h.sourceLink first hmem
    refine ⟨hartifact, fun id hid => ?_⟩
    obtain rfl := Option.some.inj (hchunk.symm.trans hid)
    exact List.mem_map_of_mem hmem

theorem sourceForMatch_yields (h : ChunksOf artifact chunks) (lower : Text → Text)
    (matchText : Text) (label : Option Text) :
    Yields (CitesPart artifact chunks) (sourceForMatch lower chunks matchText label) := by
  obtain ⟨link, hlink⟩ := sourceForMatch_isOk lower h.filled matchText label
  exact ⟨link, hlink, sourceForMatch_cites h hlink⟩

end Links

section Values

variable {artifact : Artifact} {chunks : List ArtifactChunk} {rt : ExtractionRuntime}

def SourcedValues (artifact : Artifact) (chunks : List ArtifactChunk)
    (values : List ExtractedValue) : Prop :=
  ∀ found ∈ values, CitesPart artifact chunks found.sourceLink

theorem SourcedValues.take {values : List ExtractedValue} (h : SourcedValues artifact chunks values)
    (count : Nat) : SourcedValues artifact chunks (values.take count) :=
  fun found hfound => h found (List.mem_of_mem_take hfound)

theorem lines_yields (h : ChunksOf artifact chunks) (rule : LineRule) :
    Yields (SourcedValues artifact chunks) (rule.lines rt chunks) := by
  obtain ⟨lines, hlines, hspec⟩ := collectLines_spec rt.lower h.filled
    (rule.patterns.map fun pattern line => (rt.re.search pattern true line).isSome) rule.label
    (chunks.flatMap fun chunk => splitlines chunk.text) []
  refine ⟨lines, hlines, fun found hfound => ?_⟩
  obtain ⟨line, -, -, -, hsource⟩ := hspec found hfound
  exact sourceForMatch_cites h hsource

theorem values_yields (h : ChunksOf artifact chunks) (rule : LineRule) :
    Yields (fun values => SourcedValues artifact chunks values ∧ values.length ≤ rule.count)
      (rule.values rt chunks) :=
  (lines_yields h rule).bind fun _ hlines => .pure ⟨hlines.take _, List.length_take_le _ _⟩

theorem keywordIn_cites (h : ChunksOf artifact chunks) {label keyword : Text}
    {chunk : ArtifactChunk} (hchunk : chunk ∈ chunks) {found : ExtractedValue}
    (hfound : keywordIn rt label keyword chunk = some found) :
    CitesPart artifact chunks found.sourceLink := by
  obtain ⟨bounds, -, rfl⟩ := Option.map_eq_some_iff.mp hfound
  refine ⟨h.artifactId chunk hchunk, fun id hid => ?_⟩
  obtain rfl := Option.some.inj hid
  exact List.mem_map_of_mem hchunk

theorem collectKeywords_sourced (h : ChunksOf artifact chunks) (label : Text)
    (keywords seen : List Text) :
    SourcedValues artifact chunks (collectKeywords rt chunks label keywords seen) ∧
      (collectKeywords rt chunks label keywords seen).length ≤ keywords.length := by
  induction keywords generalizing seen with
  | nil => exact ⟨by simp [collectKeywords, SourcedValues], le_rfl⟩
  | cons keyword keywords ih =>
    rw [collectKeywords]
    by_cases hseen : rt.lower keyword ∈ seen
    · rw [if_pos hseen]
      exact ⟨(ih seen).1, (ih seen).2.trans (Nat.le_succ _)⟩
    · rw [if_neg hseen]
      cases hfind : chunks.findSome? (keywordIn rt label keyword) with
      | none => exact ⟨(ih seen).1, (ih seen).2.trans (Nat.le_succ _)⟩
      | some found =>
        obtain ⟨chunk, hchunk, hfound⟩ := List.exists_of_findSome?_eq_some hfind
        obtain ⟨hrest, hlength⟩ := ih (rt.lower keyword :: seen)
        refine ⟨List.forall_mem_cons.mpr ⟨keywordIn_cites h hchunk hfound, hrest⟩, ?_⟩
        simp only [List.length_cons]
        omega

theorem technologies_sourced (rt : ExtractionRuntime) (h : ChunksOf artifact chunks) (label : Text) :
    SourcedValues artifact chunks (keywordValues rt chunks techKeywords label) ∧
      (keywordValues rt chunks techKeywords label).length ≤ 20 :=
  collectKeywords_sourced h label techKeywords []

end Values

section Drafts

variable {artifact : Artifact} {chunks : List ArtifactChunk} {ρ : Type} {store : LinkedStore ρ}

/-- The record cites the artifact, and a database can keep its metadata. -/
structure RecordSourced (store : LinkedStore ρ) (artifact : Artifact) (chunks : List ArtifactChunk)
    (record : ρ) : Prop where
  links : Sourced artifact chunks (store.kind.sourceLinks record)
  metadata : Dumpable (store.metadata record)

/-- Whatever id a draft is stamped with, the record is sourced. -/
def DraftsSourced (store : LinkedStore ρ) (artifact : Artifact) (chunks : List ArtifactChunk)
    (drafts : List (Draft ρ)) : Prop :=
  ∀ draft ∈ drafts, ∀ id, RecordSourced store artifact chunks (draft id)

def RecordsSourced (store : LinkedStore ρ) (artifact : Artifact) (chunks : List ArtifactChunk)
    (records : List ρ) : Prop :=
  ∀ record ∈ records, RecordSourced store artifact chunks record

theorem RecordsSourced.append {first second : List ρ} (h : RecordsSourced store artifact chunks first)
    (h' : RecordsSourced store artifact chunks second) :
    RecordsSourced store artifact chunks (first ++ second) :=
  List.forall_mem_append.mpr ⟨h, h'⟩

theorem RecordsSourced.map {records : List ρ} (h : RecordsSourced store artifact chunks records)
    {change : ρ → ρ} (hlinks : ∀ record, store.kind.sourceLinks (change record) = store.kind.sourceLinks record)
    (hmetadata : ∀ record, Dumpable (store.metadata record) →
      Dumpable (store.metadata (change record))) :
    RecordsSourced store artifact chunks (records.map change) := by
  intro record hrecord
  obtain ⟨original, horiginal, rfl⟩ := List.mem_map.mp hrecord
  have hsourced := h original horiginal
  exact ⟨hlinks original ▸ hsourced.links, hmetadata original hsourced.metadata⟩

theorem DraftsSourced.append {first second : List (Draft ρ)}
    (h : DraftsSourced store artifact chunks first) (h' : DraftsSourced store artifact chunks second) :
    DraftsSourced store artifact chunks (first ++ second) :=
  List.forall_mem_append.mpr ⟨h, h'⟩

theorem DraftsSourced.stamped {drafts : List (Draft ρ)} (h : DraftsSourced store artifact chunks drafts)
    (newId : Nat → Text) : RecordsSourced store artifact chunks (stampAll newId drafts) := by
  intro record hrecord
  obtain ⟨numbered, hnumbered, rfl⟩ := List.mem_map.mp hrecord
  exact h _ (List.fst_mem_of_mem_zipIdx hnumbered) _

theorem length_stampAll (newId : Nat → Text) (drafts : List (Draft ρ)) :
    (stampAll newId drafts).length = drafts.length := by
  rw [stampAll, List.length_map, List.length_zipIdx]

/-- Drafts that link to where their values were found. -/
theorem SourcedValues.drafts {values : List ExtractedValue} (h : SourcedValues artifact chunks values)
    {make : ExtractedValue → Draft ρ}
    (hlinks : ∀ found id, store.kind.sourceLinks (make found id) = [found.sourceLink])
    (hmetadata : ∀ found id, Dumpable (store.metadata (make found id))) :
    DraftsSourced store artifact chunks (values.map make) := by
  intro draft hdraft id
  obtain ⟨found, hfound, rfl⟩ := List.mem_map.mp hdraft
  refine ⟨?_, hmetadata found id⟩
  rw [hlinks]
  exact ⟨List.cons_ne_nil _ _, List.forall_mem_singleton.mpr (h found hfound)⟩

theorem recordMetadata_dumpable (explicitOrInferred : String) {metadata : Metadata}
    (h : Dumpable metadata) : Dumpable (recordMetadata explicitOrInferred metadata) := by
  refine Dumpable.merge ?_ h
  simp [Dumpable, MetaValue.serializable]

theorem SourcedValues.entities {values : List ExtractedValue}
    (h : SourcedValues artifact chunks values) (entityType : Text) :
    DraftsSourced entityStore artifact chunks
      (values.map fun found => entity entityType found.value found.sourceLink) :=
  h.drafts (fun _ _ => rfl) fun _ _ => recordMetadata_dumpable _ dumpable_nil

theorem SourcedValues.signals {values : List ExtractedValue}
    (h : SourcedValues artifact chunks values) (signalType label : Text) :
    DraftsSourced signalStore artifact chunks (signalsFromValues signalType label values) :=
  h.drafts (fun _ _ => rfl) fun _ _ => recordMetadata_dumpable _ dumpable_nil

theorem SourcedValues.actions {values : List ExtractedValue}
    (h : SourcedValues artifact chunks values) (itemType title : Text)
    (description : ExtractedValue → Text) :
    DraftsSourced itemStore artifact chunks
      (values.map fun found => action itemType title found.sourceLink (description found)) :=
  h.drafts (fun _ _ => rfl) fun _ _ => recordMetadata_dumpable _ dumpable_nil

theorem length_signalsFromValues (signalType label : Text) (values : List ExtractedValue) :
    (signalsFromValues signalType label values).length = values.length := List.length_map _

end Drafts

section Extraction

variable {artifact : Artifact} {chunks : List ArtifactChunk} {rt : ExtractionRuntime}

/-- The records are sourced, and there are no more than so many. -/
structure Extracts (artifact : Artifact) (chunks : List ArtifactChunk)
    (entityCount signalCount itemCount : Nat) (result : ExtractionResult) : Prop where
  entities : RecordsSourced entityStore artifact chunks result.entities ∧
    result.entities.length ≤ entityCount
  relationships : result.relationships = []
  signals : RecordsSourced signalStore artifact chunks result.signals ∧
    result.signals.length ≤ signalCount
  actionableItems : RecordsSourced itemStore artifact chunks result.actionableItems ∧
    result.actionableItems.length ≤ itemCount

theorem stamped_within {ρ : Type} {store : LinkedStore ρ} {drafts : List (Draft ρ)} {count : Nat}
    (h : DraftsSourced store artifact chunks drafts) (hcount : drafts.length ≤ count)
    (newId : Nat → Text) : RecordsSourced store artifact chunks (stampAll newId drafts) ∧
      (stampAll newId drafts).length ≤ count :=
  ⟨h.stamped newId, (length_stampAll newId drafts).trans_le hcount⟩

theorem none_within {ρ : Type} {store : LinkedStore ρ} {count : Nat} :
    RecordsSourced store artifact chunks [] ∧ ([] : List ρ).length ≤ count :=
  ⟨fun _ hmem => (nomatch hmem), Nat.zero_le count⟩

theorem ruleSignals_yields (h : ChunksOf artifact chunks) (rules : List LineRule) :
    Yields (fun drafts => DraftsSourced signalStore artifact chunks drafts ∧
      drafts.length ≤ (rules.map LineRule.count).sum) (ruleSignals rt chunks rules) := by
  have hrules : Yields (fun drafts => DraftsSourced signalStore artifact chunks drafts.flatten ∧
      drafts.flatten.length ≤ (rules.map LineRule.count).sum) (mapAll (fun rule => do
        let values ← rule.values rt chunks
        pure (rule.signals values)) rules) := by
    induction rules with
    | nil => exact ⟨[], rfl, by simp [DraftsSourced]⟩
    | cons rule rules ih =>
      refine Yields.bind (P := fun drafts => DraftsSourced signalStore artifact chunks drafts ∧
        drafts.length ≤ rule.count) ?_ fun drafts hdrafts => ?_
      · refine (values_yields h rule).bind fun values hvalues => .pure ?_
        rw [LineRule.signals, length_signalsFromValues]
        exact ⟨hvalues.1.signals _ _, hvalues.2⟩
      · refine ih.bind fun rest hrest => .pure ⟨hdrafts.1.append hrest.1, ?_⟩
        have hfirst := hdrafts.2
        have hlater := hrest.2
        rw [List.flatten_cons, List.length_append, List.map_cons, List.sum_cons]
        omega
  exact hrules.bind fun _ hdrafts => .pure hdrafts

theorem companyLink_yields (h : ChunksOf artifact chunks) (companies : List Text) :
    Yields (fun values => SourcedValues artifact chunks values ∧ values.length = companies.length)
      (mapAll (companyLink rt chunks) companies) :=
  Yields.mapAll fun company _ => (sourceForMatch_yields h rt.lower company _).bind
    fun _ hlink => .pure hlink

theorem extractResume_yields (h : ChunksOf artifact chunks) :
    Yields (Extracts artifact chunks 38 74 0) (extractResume rt artifact chunks) := by
  obtain ⟨htechnologies, htechnologyCount⟩ :=
    technologies_sourced rt h "technical skill".toList
  refine (values_yields h resumeRole).bind fun roleLines ⟨hrole, hroleCount⟩ => ?_
  refine (values_yields h resumePlatform).bind fun platform ⟨hplatform, hplatformCount⟩ => ?_
  refine (values_yields h resumeAiAgent).bind fun aiAgent ⟨haiAgent, haiAgentCount⟩ => ?_
  refine (values_yields h resumeOutcome).bind fun outcomes ⟨houtcome, houtcomeCount⟩ => ?_
  refine (values_yields h resumeLeadership).bind fun leadership ⟨hleadership, hleadCount⟩ => ?_
  refine (companyLink_yields h _).bind fun companies ⟨hcompany, hcompanyCount⟩ => .pure ?_
  have htaken := List.length_take_le 8 (companiesFromText rt artifact.text)
  let roleCompanies : List ExtractedValue := roleLines.filterMap fun item =>
    (companyFromRoleLine item.value).map fun company => ⟨company, item.sourceLink⟩
  have hroleCompanies : SourcedValues artifact chunks roleCompanies := by
    intro found hfound
    obtain ⟨item, hitem, hcompanyOf⟩ := List.mem_filterMap.mp hfound
    obtain ⟨name, -, rfl⟩ := Option.map_eq_some_iff.mp hcompanyOf
    exact hrole item hitem
  have hroleCompanyCount : roleCompanies.length ≤ roleLines.length := List.length_filterMap_le _ _
  simp only [resumeRole, resumePlatform, resumeAiAgent, resumeOutcome, resumeLeadership, lineRule]
    at hroleCount hplatformCount haiAgentCount houtcomeCount hleadCount
  constructor
  · refine stamped_within (((hroleCompanies.entities _).append (htechnologies.entities _)).append
      (hcompany.entities _)) ?_ _
    simp only [List.length_append, List.length_map]
    omega
  · rfl
  · refine stamped_within (((((((hrole.signals _ _).append (htechnologies.signals _ _)).append
      (hplatform.signals _ _)).append (haiAgent.signals _ _)).append (houtcome.signals _ _)).append
      (hleadership.signals _ _)).append (hcompany.signals _ _)) ?_ _
    simp only [List.length_append, length_signalsFromValues]
    omega
  · exact none_within

theorem linkFor_yields (h : ChunksOf artifact chunks) (label : String) (matchText : Text → Text)
    (value : Option Text) :
    Yields (fun values => SourcedValues artifact chunks values ∧ values.length ≤ 1)
      (linkFor rt chunks label matchText value) := by
  cases value with
  | none => exact .pure ⟨fun _ hmem => (nomatch hmem), Nat.zero_le 1⟩
  | some value =>
    exact (sourceForMatch_yields h rt.lower _ _).bind fun _ hlink =>
      .pure ⟨List.forall_mem_singleton.mpr hlink, le_rfl⟩

/-- Where there is a risk there is a line that shows it. -/
theorem riskSource_yields {unusualScope leadership responsibilityLines : List ExtractedValue}
    (hscope : SourcedValues artifact chunks unusualScope)
    (hleadership : SourcedValues artifact chunks leadership)
    (hresponsibility : SourcedValues artifact chunks responsibilityLines) :
    Yields (fun values => SourcedValues artifact chunks values ∧ values.length ≤ 1)
      (riskSource unusualScope leadership responsibilityLines) := by
  rw [riskSource]
  by_cases hrisk : unusualScope ≠ [] ∨ responsibilityLines.length ≥ 6
  · rw [if_pos hrisk]
    obtain ⟨source, rest, hcandidates, hsource⟩ : ∃ source rest,
        (if unusualScope ≠ [] then unusualScope else
          if leadership ≠ [] then leadership else responsibilityLines) = source :: rest ∧
        CitesPart artifact chunks source.sourceLink := by
      by_cases hunusual : unusualScope = []
      · have hlines : responsibilityLines ≠ [] := by
          rintro rfl
          simp [hunusual] at hrisk
        rw [if_neg (by simp [hunusual])]
        by_cases hnone : leadership = []
        · rw [if_neg (by simp [hnone])]
          obtain ⟨source, rest, rfl⟩ := List.exists_cons_of_ne_nil hlines
          exact ⟨source, rest, rfl, hresponsibility source List.mem_cons_self⟩
        · rw [if_pos hnone]
          obtain ⟨source, rest, rfl⟩ := List.exists_cons_of_ne_nil hnone
          exact ⟨source, rest, rfl, hleadership source List.mem_cons_self⟩
      · rw [if_pos hunusual]
        obtain ⟨source, rest, rfl⟩ := List.exists_cons_of_ne_nil hunusual
        exact ⟨source, rest, rfl, hscope source List.mem_cons_self⟩
    rw [hcandidates]
    exact .pure ⟨List.forall_mem_singleton.mpr hsource, le_rfl⟩
  · rw [if_neg hrisk]
    exact .pure ⟨fun _ hmem => (nomatch hmem), Nat.zero_le 1⟩

theorem scopeRisk_sourced {risk : List ExtractedValue} (h : SourcedValues artifact chunks risk) :
    DraftsSourced signalStore artifact chunks (risk.map scopeRisk) := by
  refine h.drafts (fun _ _ => rfl) fun found id => recordMetadata_dumpable _ ?_
  simp [Dumpable, MetaValue.serializable]

theorem extractJobDescription_yields (h : ChunksOf artifact chunks) :
    Yields (Extracts artifact chunks 22 52 1) (extractJobDescription rt artifact chunks) := by
  obtain ⟨htechnologies, htechnologyCount⟩ :=
    technologies_sourced rt h "technology".toList
  refine (linkFor_yields h _ _ _).bind fun title ⟨htitle, htitleCount⟩ => ?_
  refine (linkFor_yields h _ _ _).bind fun company ⟨hcompany, hcompanyCount⟩ => ?_
  refine (linkFor_yields h _ _ _).bind fun seniority ⟨hseniority, hseniorityCount⟩ => ?_
  refine (values_yields h postingResponsibility).bind fun responsibilityLines
    ⟨hresponsibility, hresponsibilityCount⟩ => ?_
  refine (lines_yields h postingLeadership).bind fun leadership hleadership => ?_
  refine (lines_yields h postingCompensation).bind fun compensation hcompensation => ?_
  refine (lines_yields h postingLocation).bind fun location hlocation => ?_
  refine (lines_yields h postingScope).bind fun unusualScope hscope => ?_
  refine (riskSource_yields hscope hleadership hresponsibility).bind fun risk
    ⟨hrisk, hriskCount⟩ => .pure ?_
  constructor
  · refine stamped_within (((htitle.entities _).append (hcompany.entities _)).append
      (htechnologies.entities _)) ?_ _
    simp only [List.length_append, List.length_map]
    omega
  · rfl
  · refine stamped_within ((((((((((htitle.signals _ _).append (hcompany.signals _ _)).append
      (hseniority.signals _ _)).append (hresponsibility.signals _ _)).append
      (htechnologies.signals _ _)).append ((hleadership.take _).signals _ _)).append
      ((hcompensation.take _).signals _ _)).append ((hlocation.take _).signals _ _)).append
      ((hscope.take _).signals _ _)).append (scopeRisk_sourced hrisk)) ?_ _
    simp only [postingResponsibility, postingLeadership, postingCompensation, postingLocation,
      postingScope, lineRule] at hresponsibilityCount ⊢
    simp only [List.length_append, length_signalsFromValues, List.length_map, List.length_take]
    omega
  · refine stamped_within (hrisk.actions _ _ _) ?_ _
    rw [List.length_map]
    exact hriskCount

theorem extractInterviewNotes_yields (h : ChunksOf artifact chunks) :
    Yields (Extracts artifact chunks 0 40 6) (extractInterviewNotes rt artifact chunks) := by
  refine (values_yields h interviewConcern).bind fun concerns ⟨hconcern, hconcernCount⟩ => ?_
  refine (values_yields h interviewQuestion).bind fun questions ⟨hquestion, hquestionCount⟩ => ?_
  refine (values_yields h interviewTheme).bind fun themes ⟨htheme, hthemeCount⟩ => ?_
  refine (values_yields h interviewRisk).bind fun risks ⟨hrisk, hriskCount⟩ => ?_
  refine (values_yields h interviewNextAction).bind fun nextActions ⟨hnext, hnextCount⟩ => .pure ?_
  simp only [interviewConcern, interviewQuestion, interviewTheme, interviewRisk,
    interviewNextAction, lineRule] at hconcernCount hquestionCount hthemeCount hriskCount hnextCount
  constructor
  · exact none_within
  · rfl
  · refine stamped_within (((((hconcern.signals _ _).append (hquestion.signals _ _)).append
      (htheme.signals _ _)).append (hrisk.signals _ _)).append (hnext.signals _ _)) ?_ _
    simp only [List.length_append, length_signalsFromValues]
    omega
  · refine stamped_within (((hconcern.take 3).actions _ _ _).append
      ((htheme.take 3).actions _ _ _)) ?_ _
    simp only [List.length_append, List.length_map, List.length_take]
    omega

theorem extractPersonalStory_yields (h : ChunksOf artifact chunks) :
    Yields (Extracts artifact chunks 0 30 0) (extractPersonalStory rt artifact chunks) :=
  (ruleSignals_yields h storyRules).bind fun _ hsignals =>
    .pure ⟨none_within, rfl, stamped_within hsignals.1 hsignals.2 _, none_within⟩

theorem notesRules_count (artifactTypeId : Text) :
    (((notesRules.get? artifactTypeId).getD []).map LineRule.count).sum ≤ 18 := by
  have hall : ∀ item ∈ notesRules, (item.2.map LineRule.count).sum ≤ 18 := by decide
  cases hget : notesRules.get? artifactTypeId with
  | none => exact Nat.zero_le 18
  | some rules => exact hall _ (Dict.mem_of_get?_eq_some hget)

theorem sourceSummary_yields (rt : ExtractionRuntime) (h : ChunksOf artifact chunks) :
    Yields (fun drafts => DraftsSourced signalStore artifact chunks drafts ∧ drafts.length = 1)
      (sourceSummary rt artifact chunks) := by
  obtain ⟨chunk, rest, rfl⟩ := List.exists_cons_of_ne_nil h.filled
  refine (sourceForMatch_yields h rt.lower _ _).bind fun link hlink => .pure ⟨?_, rfl⟩
  exact List.forall_mem_singleton.mpr fun _ =>
    ⟨⟨List.cons_ne_nil _ _, List.forall_mem_singleton.mpr hlink⟩,
      recordMetadata_dumpable _ dumpable_nil⟩

/-- Notes never go without a signal. -/
theorem extractCareerContextNotes_yields (rt : ExtractionRuntime) (h : ChunksOf artifact chunks) :
    Yields (fun result => Extracts artifact chunks 0 18 0 result ∧ result.signals ≠ [])
      (extractCareerContextNotes rt artifact chunks) := by
  refine (ruleSignals_yields h _).bind fun found ⟨hfound, hcount⟩ => ?_
  refine Yields.bind (P := fun signals => DraftsSourced signalStore artifact chunks signals ∧
    signals.length ≤ 18 ∧ signals ≠ []) ?_ fun signals ⟨hsignals, hlength, hne⟩ => .pure ?_
  · by_cases hnone : found = []
    · rw [if_pos hnone]
      obtain ⟨drafts, hdrafts, hsourced, hone⟩ := sourceSummary_yields rt h
      exact ⟨drafts, hdrafts, hsourced, by omega, List.ne_nil_of_length_pos (by omega)⟩
    · rw [if_neg hnone]
      exact .pure ⟨hfound, hcount.trans (notesRules_count _), hnone⟩
  · refine ⟨⟨none_within, rfl, stamped_within hsignals hlength _, none_within⟩, ?_⟩
    refine List.ne_nil_of_length_pos ?_
    rw [length_stampAll]
    exact List.length_pos_iff.mpr hne

end Extraction

section Tasks

variable {artifact : Artifact} {chunks : List ArtifactChunk}

theorem sourceOf_cites : CitesPart artifact chunks (sourceOf artifact) :=
  ⟨rfl, fun _ hid => nomatch hid⟩

theorem taskItem_sourced (itemType title : String) (description : Option String)
    (readinessStatus : ReadinessStatus) (id : Text) : RecordSourced itemStore artifact chunks
      (taskItem (sourceOf artifact) itemType title description readinessStatus id) :=
  ⟨⟨List.cons_ne_nil _ _, List.forall_mem_singleton.mpr sourceOf_cites⟩, dumpable_nil⟩

theorem typeItems_sourced (artifactTypeId : Text) :
    DraftsSourced itemStore artifact chunks (typeItems artifactTypeId (sourceOf artifact)) := by
  have hitems {drafts : List (Draft ActionableItem)} {condition : Prop} [Decidable condition]
      (h : DraftsSourced itemStore artifact chunks drafts) :
      DraftsSourced itemStore artifact chunks (if condition then drafts else []) := by
    split
    · exact h
    · exact fun _ hmem => nomatch hmem
  have hone (itemType title : String) (description : Option String)
      (readinessStatus : ReadinessStatus) : DraftsSourced itemStore artifact chunks
        [taskItem (sourceOf artifact) itemType title description readinessStatus] :=
    List.forall_mem_singleton.mpr (taskItem_sourced itemType title description readinessStatus)
  rw [typeItems]
  refine .append (.append (.append (.append (.append (.append (hitems ?_) (hitems (hone _ _ _ _)))
    (hitems (hone _ _ _ _))) (hitems (hone _ _ _ _))) (hitems (hone _ _ _ _)))
    (hitems (hone _ _ _ _))) (hitems (hone _ _ _ _))
  exact (hone _ _ _ _).append (hone _ _ _ _)

/-- Every artifact gets an item to work on. -/
theorem generateTasks_yields (artifact : Artifact) (chunks : List ArtifactChunk)
    (newContextId : Artifact → Text → Nat → Text) :
    Yields (fun items => RecordsSourced itemStore artifact chunks items ∧ items ≠ [])
      (generateTasks newContextId artifact) := by
  refine .pure ?_
  have hne {drafts : List (Draft ActionableItem)} (h : drafts ≠ []) (newId : Nat → Text) :
      stampAll newId drafts ≠ [] := by
    refine List.ne_nil_of_length_pos ?_
    rw [length_stampAll]
    exact List.length_pos_iff.mpr h
  by_cases hnone : typeItems artifact.artifactTypeId (sourceOf artifact) = []
  · rw [if_pos hnone]
    have hreview : DraftsSourced itemStore artifact chunks [reviewItem (sourceOf artifact)] :=
      List.forall_mem_singleton.mpr (taskItem_sourced "prepare_interview_brief"
        "Review source artifact" none .blocked)
    exact ⟨hreview.stamped _, hne (List.cons_ne_nil _ _) _⟩
  · rw [if_neg hnone]
    exact ⟨(typeItems_sourced _).stamped _, hne hnone _⟩

end Tasks

section Model

variable {artifact : Artifact} {chunks : List ArtifactChunk}

structure ResultSourced (artifact : Artifact) (chunks : List ArtifactChunk)
    (result : ExtractionResult) : Prop where
  entities : RecordsSourced entityStore artifact chunks result.entities
  relationships : RecordsSourced relationshipStore artifact chunks result.relationships
  signals : RecordsSourced signalStore artifact chunks result.signals
  actionableItems : RecordsSourced itemStore artifact chunks result.actionableItems

theorem Extracts.sourced {result : ExtractionResult} {entityCount signalCount itemCount : Nat}
    (h : Extracts artifact chunks entityCount signalCount itemCount result) :
    ResultSourced artifact chunks result where
  entities := h.entities.1
  relationships := by
    rw [h.relationships]
    exact fun _ hmem => nomatch hmem
  signals := h.signals.1
  actionableItems := h.actionableItems.1

theorem sourceLink_artifactId {chunksById : Dict Text ArtifactChunk}
    {reference : LLMSourceReference} {link : SourceLink}
    (h : sourceLink artifact chunksById reference = .ok link) : link.artifactId = artifact.id := by
  rw [sourceLink] at h
  split at h
  · cases h
  · split_ifs at h
    obtain rfl := Except.ok.inj h
    rfl

/-- A model can only cite chunks of the artifact. -/
theorem sourceLink_cites {reference : LLMSourceReference} {link : SourceLink}
    (h : sourceLink artifact (Dict.ofList (chunks.map fun chunk => (chunk.id, chunk))) reference =
      .ok link) : CitesPart artifact chunks link := by
  obtain ⟨chunk, hchunk, hid, -⟩ := sourceLink_ok h
  obtain ⟨stored, hstored, hitem⟩ :=
    List.mem_map.mp (Dict.mem_ofList (Dict.mem_of_get?_eq_some hchunk))
  obtain rfl : stored = chunk := congrArg Prod.snd hitem
  refine ⟨sourceLink_artifactId h, fun id hcited => ?_⟩
  obtain rfl := Option.some.inj (hid.symm.trans hcited)
  exact List.mem_map_of_mem hstored

theorem sourceLinks_sourced {references : List LLMSourceReference} {links : List SourceLink}
    (h : sourceLinks artifact chunks references = .ok links) : Sourced artifact chunks links := by
  obtain ⟨mapped, hmapped, h⟩ := bind_eq_ok.mp h
  by_cases hnone : mapped = []
  · rw [if_pos hnone] at h
    cases h
  · rw [if_neg hnone] at h
    obtain rfl := pure_eq_ok.mp h
    exact ⟨hnone, mapAll_forall (fun _ _ hlink => sourceLink_cites hlink) hmapped⟩

theorem metadataForGeneratedStep_dumpable (generatedAt : Text) (step : ResolvedContextModelStep) :
    Dumpable (metadataForGeneratedStep generatedAt step) := by
  simp [Dumpable, metadataForGeneratedStep, MetaValue.serializable]

variable {metadata : Metadata}

theorem mapEntity_sourced {runtime : Runtime} (hmetadata : Dumpable metadata)
    {item : LLMContextEntity × Nat} {record : ContextEntity}
    (h : mapEntity runtime artifact chunks metadata item = .ok record) :
    RecordSourced entityStore artifact chunks record := by
  obtain ⟨links, hlinks, h⟩ := bind_eq_ok.mp h
  obtain rfl := pure_eq_ok.mp h
  refine ⟨sourceLinks_sourced hlinks, hmetadata.merge ?_⟩
  simp [Dumpable, gradedMetadata, MetaValue.serializable]

theorem mapSignal_sourced {runtime : Runtime} (hmetadata : Dumpable metadata)
    {item : LLMContextSignal × Nat} {record : ContextSignal}
    (h : mapSignal runtime artifact chunks metadata item = .ok record) :
    RecordSourced signalStore artifact chunks record := by
  obtain ⟨links, hlinks, h⟩ := bind_eq_ok.mp h
  obtain rfl := pure_eq_ok.mp h
  refine ⟨sourceLinks_sourced hlinks, hmetadata.merge ?_⟩
  simp [Dumpable, gradedMetadata, MetaValue.serializable]

theorem mapRelationship_sourced {runtime : Runtime} (hmetadata : Dumpable metadata)
    {sourceEntityId targetEntityId : Text} {item : LLMContextRelationship × Nat}
    {record : ContextRelationship} (h : mapRelationship runtime artifact chunks metadata
      sourceEntityId targetEntityId item = .ok record) :
    RecordSourced relationshipStore artifact chunks record := by
  obtain ⟨links, hlinks, h⟩ := bind_eq_ok.mp h
  obtain rfl := pure_eq_ok.mp h
  refine ⟨sourceLinks_sourced hlinks, hmetadata.merge ?_⟩
  simp [Dumpable, gradedMetadata, MetaValue.serializable]

theorem mapActionableItem_sourced {runtime : Runtime} (hmetadata : Dumpable metadata)
    {item : LLMActionableItem × Nat} {record : ActionableItem}
    (h : mapActionableItem runtime artifact chunks metadata item = .ok record) :
    RecordSourced itemStore artifact chunks record := by
  obtain ⟨links, hlinks, h⟩ := bind_eq_ok.mp h
  obtain rfl := pure_eq_ok.mp h
  refine ⟨sourceLinks_sourced hlinks, hmetadata.merge ?_⟩
  simp [Dumpable, MetaValue.serializable]

theorem mapRelationships_sourced {runtime : Runtime} {ids : Dict Text Text}
    (hmetadata : Dumpable metadata) {items : List (LLMContextRelationship × Nat)} {warnings : List Text}
    {mapped : List ContextRelationship × List Text}
    (h : mapRelationships runtime artifact chunks metadata ids items warnings = .ok mapped) :
    RecordsSourced relationshipStore artifact chunks mapped.1 := by
  induction items generalizing warnings mapped with
  | nil =>
    obtain rfl := Except.ok.inj h
    exact fun _ hmem => nomatch hmem
  | cons item items ih =>
    rcases mapRelationships_cons_ok h with
      ⟨-, _, _, record, rest, -, -, hrecord, hrest, rfl⟩ | ⟨-, hrest⟩
    · exact List.forall_mem_cons.mpr ⟨mapRelationship_sourced hmetadata hrecord, ih hrest⟩
    · exact ih hrest

theorem mapActionableItems_sourced {runtime : Runtime} {step : ResolvedContextModelStep}
    {reading : Nat} {items : List LLMActionableItem} {mapped : List ActionableItem}
    (h : mapActionableItems runtime artifact chunks step reading items = .ok mapped) :
    RecordsSourced itemStore artifact chunks mapped :=
  mapAll_forall (fun _ _ hitem =>
    mapActionableItem_sourced (metadataForGeneratedStep_dumpable _ _) hitem) h

theorem mapExtractionOutput_sourced {runtime : Runtime} {step : ResolvedContextModelStep}
    {output : LLMExtractionOutput} {result : ExtractionResult}
    (h : mapExtractionOutput runtime artifact chunks step output = .ok result) :
    ResultSourced artifact chunks result := by
  have hmetadata := metadataForGeneratedStep_dumpable (runtime.now 0) step
  obtain ⟨entities, hentities, h⟩ := bind_eq_ok.mp h
  obtain ⟨signals, hsignals, h⟩ := bind_eq_ok.mp h
  obtain ⟨relationships, hrelationships, h⟩ := bind_eq_ok.mp h
  obtain ⟨items, hitems, h⟩ := bind_eq_ok.mp h
  obtain rfl := pure_eq_ok.mp h
  constructor
  · exact mapAll_forall (fun _ _ hentity => mapEntity_sourced hmetadata hentity) hentities
  · exact mapRelationships_sourced hmetadata hrelationships
  · exact mapAll_forall (fun _ _ hsignal => mapSignal_sourced hmetadata hsignal) hsignals
  · exact mapActionableItems_sourced hitems

theorem markDeterministic_dumpable (h : Dumpable metadata) (explicitOrInferred : Text) :
    Dumpable (markDeterministic explicitOrInferred metadata) :=
  (h.setdefault rfl _).setdefault rfl _

theorem markDeterministicExtraction_sourced {result : ExtractionResult}
    (h : ResultSourced artifact chunks result) :
    ResultSourced artifact chunks (markDeterministicExtraction result) where
  entities := h.entities.map (fun _ => rfl) fun _ hrecord => markDeterministic_dumpable hrecord _
  relationships :=
    h.relationships.map (fun _ => rfl) fun _ hrecord => markDeterministic_dumpable hrecord _
  signals := h.signals.map (fun _ => rfl) fun _ hrecord =>
    (hrecord.setdefault rfl _).setdefault rfl _
  actionableItems :=
    h.actionableItems.map (fun _ => rfl) fun _ hrecord => markDeterministic_dumpable hrecord _

theorem withFallbackWarning_sourced {result : ExtractionResult}
    (h : ResultSourced artifact chunks result) (warning : Text) :
    ResultSourced artifact chunks (withFallbackWarning result warning) where
  entities := h.entities
  relationships := h.relationships
  signals := h.signals.map (fun _ => rfl) fun _ hrecord => hrecord.setdefault rfl _
  actionableItems := h.actionableItems.map (fun _ => rfl) fun _ hrecord => hrecord.setdefault rfl _

theorem attemptStep_mapped_ok {ω ρ : Type} {call : JobSearchCall} {key : StepKey} {prompt : Prompt}
    {answer : ResolvedContextModelStep → Text → Text → Except Raised ω}
    {map : ResolvedContextModelStep → ω → Except Raised ρ} {step : ResolvedContextModelStep}
    {output : ω} {mapped : ρ}
    (h : attemptStep call key prompt answer map = .ok (some (step, output, mapped))) :
    map step output = .ok mapped := by
  obtain ⟨resolved, -, h⟩ := bind_eq_ok.mp h
  by_cases hmode : resolved.mode = .deterministic
  · rw [if_pos hmode] at h
    cases h
  · rw [if_neg hmode] at h
    obtain ⟨instructions, -, h⟩ := bind_eq_ok.mp h
    obtain ⟨rendered, -, h⟩ := bind_eq_ok.mp h
    obtain ⟨answered, -, h⟩ := bind_eq_ok.mp h
    obtain ⟨result, hresult, h⟩ := bind_eq_ok.mp h
    obtain ⟨rfl, rfl, rfl⟩ : resolved = step ∧ answered = output ∧ result = mapped := by
      simpa using pure_eq_ok.mp h
    exact hresult

/-- Whatever the model answers, an assisted extractor returns sourced records where its base does. -/
theorem extractWithExecution_yields {extractor : LLMAssistedExtractor}
    (h : Yields (ResultSourced artifact chunks) (extractor.base.extract artifact chunks))
    (call : Option JobSearchCall) : Yields (ResultSourced artifact chunks)
      (extractor.extractWithExecution artifact chunks call) := by
  refine h.bind fun result hresult => ?_
  have hmarked := markDeterministicExtraction_sourced hresult
  cases call with
  | none => exact .pure (withFallbackWarning_sourced hmarked _)
  | some call =>
    refine .pure ?_
    cases hattempt : extractor.attempt artifact chunks call with
    | error raised => exact withFallbackWarning_sourced hmarked _
    | ok outcome =>
      rcases outcome with _ | ⟨step, output, llmResult⟩
      · exact hmarked
      · have hmodel := mapExtractionOutput_sourced (attemptStep_mapped_ok hattempt)
        rw [settleExtraction]
        split_ifs
        · exact hmodel
        · exact hmarked
        · exact ⟨hmarked.entities.append hmodel.entities,
            hmarked.relationships.append hmodel.relationships,
            hmarked.signals.append hmodel.signals,
            hmarked.actionableItems.append hmodel.actionableItems⟩

/-- An assisted task generator adds items to the current ones, and all of them are sourced. -/
theorem generateWithExecution_yields (generator : LLMAssistedTaskGenerator)
    {currentItems : List ActionableItem} (hitems : RecordsSourced itemStore artifact chunks currentItems)
    (h : Yields (fun items => RecordsSourced itemStore artifact chunks items ∧ items ≠ [])
      (generator.base.generate artifact)) (call : Option JobSearchCall) :
    Yields (fun items => RecordsSourced itemStore artifact chunks items ∧
      ∃ added, added ≠ [] ∧ items = currentItems ++ added)
      (generator.generateWithExecution artifact chunks currentItems call) := by
  refine h.bind fun generated ⟨hgenerated, hne⟩ => ?_
  have hmarked : RecordsSourced itemStore artifact chunks (generated.map markDeterministicItem) :=
    hgenerated.map (fun _ => rfl) fun _ hrecord => markDeterministic_dumpable hrecord _
  have hmarkedNe : generated.map markDeterministicItem ≠ [] := by simpa using hne
  have hwarned (warning : Text) : RecordsSourced itemStore artifact chunks
      (currentItems ++ (generated.map markDeterministicItem).map (setWarning warning)) :=
    hitems.append (hmarked.map (fun _ => rfl) fun _ hrecord => hrecord.set rfl _)
  cases call with
  | none => exact .pure ⟨hwarned _, _, by simpa using hne, rfl⟩
  | some call =>
    refine .pure ?_
    cases hattempt : generator.attempt artifact chunks
        (currentItems ++ generated.map markDeterministicItem) call with
    | error raised => exact ⟨hwarned _, _, by simpa using hne, rfl⟩
    | ok outcome =>
      rcases outcome with _ | ⟨step, output, llmItems⟩
      · exact ⟨hitems.append hmarked, _, hmarkedNe, rfl⟩
      · have hmodel := mapActionableItems_sourced (attemptStep_mapped_ok hattempt)
        rw [settleItems]
        split_ifs with hmode hnone
        · exact ⟨hitems.append hmarked, _, hmarkedNe, rfl⟩
        · exact ⟨hitems.append hmodel, _, hnone, rfl⟩
        · exact ⟨(hitems.append hmarked).append hmodel, generated.map markDeterministicItem ++ llmItems,
            by simpa using fun hnil => absurd hnil hne, List.append_assoc _ _ _⟩

end Model

end DemoService.JobSearch
