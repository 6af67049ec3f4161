import DemoService.RunInput
import Mathlib.Data.List.Forall2

/-! The byte budgets of an ingestion without text tools: what is kept is a prefix of what came in,
fits its budget, and is marked as trimmed exactly when something is missing. -/

namespace DemoService.Runs

open PyText TextTools Fallible

theorem utf8Length_append (s t : Text) : utf8Length (s ++ t) = utf8Length s + utf8Length t := by
  simp [utf8Length]

theorem utf8Length_mono {s t : Text} (h : s <+: t) : utf8Length s ≤ utf8Length t := by
  obtain ⟨rest, rfl⟩ := h
  rw [utf8Length_append]
  omega

theorem decodePrefix_isPrefix (n : Nat) (s : Text) : decodePrefix n s <+: s := by
  induction s generalizing n with
  | nil => exact List.nil_prefix
  | cons c cs ih =>
    rw [decodePrefix]
    split
    · exact (List.prefix_cons_inj c).mpr (ih _)
    · exact List.nil_prefix

theorem utf8Length_decodePrefix (n : Nat) (s : Text) : utf8Length (decodePrefix n s) ≤ n := by
  induction s generalizing n with
  | nil => exact Nat.zero_le n
  | cons c cs ih =>
    rw [decodePrefix]
    split
    · rename_i hfits
      have hrest := ih (n - c.utf8Size)
      simp only [utf8Length, List.map_cons, List.sum_cons] at hrest ⊢
      omega
    · exact Nat.zero_le n

theorem getD_orNone (s : Text) : (orNone s).getD [] = s := by
  by_cases h : s = []
  · rw [h]
    rfl
  · rw [orNone, if_neg h]
    rfl

/-- What is kept of a text under a budget, and whether it is flagged as trimmed. -/
structure Trims (value : Text) (maxBytes : Int) (kept : Text) (trimmed : Bool) : Prop where
  isPrefix : kept <+: value
  fits : (utf8Length kept : Int) ≤ max maxBytes 0
  flagged : trimmed = true ↔ kept ≠ value

theorem trims_all {value : Text} {maxBytes : Int} (h : (utf8Length value : Int) ≤ max maxBytes 0) :
    Trims value maxBytes value false :=
  ⟨List.prefix_refl value, h, by simp⟩

theorem trimTextToBytes_trims (value : Text) (maxBytes : Int) :
    Trims value maxBytes ((trimTextToBytes value maxBytes).1.getD [])
      (trimTextToBytes value maxBytes).2 := by
  rw [trimTextToBytes]
  split
  · refine ⟨List.nil_prefix, ?_, ?_⟩
    · simp [utf8Length]
    · exact decide_eq_true_iff.trans ne_comm
  · rename_i hpos
    split
    · rename_i hfits
      exact trims_all (by omega)
    · rename_i hlong
      have hkept : rstrip (decodePrefix maxBytes.toNat value) <+: value :=
        (List.rdropWhile_prefix _ _).trans (decodePrefix_isPrefix _ value)
      have hbytes : utf8Length (rstrip (decodePrefix maxBytes.toNat value)) ≤ maxBytes.toNat :=
        (utf8Length_mono (List.rdropWhile_prefix _ _)).trans
          (utf8Length_decodePrefix _ value)
      rw [getD_orNone]
      refine ⟨hkept, by omega, ?_⟩
      -- a text over the budget is longer than what is kept of it
      have hne : rstrip (decodePrefix maxBytes.toNat value) ≠ value := by
        intro heq
        rw [heq] at hbytes
        omega
      exact iff_of_true rfl hne

/-- The record of an accepted file. -/
structure AcceptedFrom (readPdf : PdfReader) (upload : Upload) (file : UploadedRunFile) : Prop where
  fileName : file.fileName = orText upload.filename "untitled".toList
  contentType : file.contentType = orText upload.contentType "application/octet-stream".toList
  fileSize : file.fileSizeBytes = upload.bytes.length
  textBytes : file.extractedTextBytes = utf8Length file.extractedText
  nonempty : file.extractedText ≠ []
  extracted : ∃ extractor text, resolveExtractor file.fileName file.contentType = some extractor ∧
    runExtractor readPdf upload.bytes extractor = .ok (some text, none) ∧
    file.extractedText <+: strip text ∧ (file.trimmed = true ↔ file.extractedText ≠ strip text)

section Upload

variable {settings : Settings} {readPdf : PdfReader} {intake intake' : Intake} {index : Nat}
  {upload : Upload}

/-- The intake after an upload: rejected, or kept within the file limit and the text budget. -/
inductive Taken (settings : Settings) (readPdf : PdfReader) (intake : Intake) (index : Nat)
    (upload : Upload) : Intake → Prop
  | rejected (fileName contentType : Text) (reason : String) :
      Taken settings readPdf intake index upload (intake.reject fileName contentType reason)
  | kept (file : UploadedRunFile) (from_upload : AcceptedFrom readPdf upload file)
      (limit : (index : Int) < settings.maxFilesPerRun)
      (budget : (intake.totalExtractedBytes + file.extractedTextBytes : Int) ≤
        settings.maxExtractedTextBytes) :
      Taken settings readPdf intake index upload (intake.keep file)

theorem normalizeText_eq_some {value : Option Text} {text : Text}
    (h : normalizeText value = some text) : ∃ full, value = some full ∧ text = strip full := by
  obtain ⟨full, hvalue, htext⟩ := Option.bind_eq_some_iff.mp h
  refine ⟨full, hvalue, ?_⟩
  rw [orNone] at htext
  split at htext
  · cases htext
  · exact (Option.some.inj htext).symm

theorem takeUpload_taken (h : takeUpload settings readPdf intake index upload = .ok intake') :
    Taken settings readPdf intake index upload intake' := by
  simp only [takeUpload] at h
  split at h
  · obtain rfl := Except.ok.inj h
    exact .rejected _ _ _
  · rename_i hlimit
    split at h
    · obtain rfl := Except.ok.inj h
      exact .rejected _ _ _
    · split at h
      · obtain rfl := Except.ok.inj h
        exact .rejected _ _ _
      · split at h
        · obtain rfl := Except.ok.inj h
          exact .rejected _ _ _
        · rename_i extractor hextractor
          obtain ⟨⟨extractedText, warning⟩, hrun, h⟩ := bind_eq_ok.mp h
          simp only at h
          split at h
          · obtain rfl := Except.ok.inj h
            exact .rejected _ _ _
          · obtain rfl := Except.ok.inj h
            exact .rejected _ _ _
          · rename_i text hnorm
            split at h
            · obtain rfl := Except.ok.inj h
              exact .rejected _ _ _
            · rename_i hremaining
              split at h
              · rename_i c cs trimmed htrim
                obtain rfl := Except.ok.inj h
                obtain ⟨full, rfl, rfl⟩ := normalizeText_eq_some hnorm
                have htrims := trimTextToBytes_trims (strip full)
                  (max (settings.maxExtractedTextBytes - intake.totalExtractedBytes) 0)
                rw [htrim] at htrims
                obtain ⟨hstarts, hfits, hflag⟩ := htrims
                refine .kept _ ⟨rfl, rfl, rfl, rfl, List.cons_ne_nil c cs, extractor, full,
                  hextractor, hrun, hstarts, hflag⟩ (by omega) ?_
                simp only [Option.getD_some] at hfits
                show (intake.totalExtractedBytes + utf8Length (c :: cs) : Int) ≤ _
                omega
              · obtain rfl := Except.ok.inj h
                exact .rejected _ _ _

/-- An upload stops the ingestion only where reading a page of it raises. -/
theorem takeUpload_error {e : IngestError}
    (h : takeUpload settings readPdf intake index upload = .error e) :
    e = .pdfReader ∧ readPdf upload.bytes = .raised := by
  simp only [takeUpload] at h
  split at h
  · cases h
  · split at h
    · cases h
    · split at h
      · cases h
      · split at h
        · cases h
        · rename_i extractor _
          cases hrun : runExtractor readPdf upload.bytes extractor with
          | ok outcome =>
            rw [hrun] at h
            simp only [bind, Except.bind] at h
            split at h
            · cases h
            · cases h
            · split at h
              · cases h
              · split at h <;> cases h
          | error cause =>
            rw [hrun] at h
            cases extractor with
            | textFile => cases hrun
            | pdf =>
              simp only [runExtractor, extractPdfText] at hrun
              split at hrun
              · cases hrun
              · rename_i hraised
                cases hrun
                exact ⟨(Except.error.inj h).symm, hraised⟩
              · split at hrun <;> cases hrun

end Upload

def fileWarning (file : UploadedRunFile) : Text :=
  file.fileName ++ (" was longer than the file-text budget, so I kept the first " ++
    "extractable slice.").toList

/-- What a run of the loop over the uploads has added to the intake. -/
structure Collected (settings : Settings) (readPdf : PdfReader) (index : Nat)
    (uploads : List Upload) (files : List UploadedRunFile) (before after : Intake) : Prop where
  accepted : after.acceptedFiles = before.acceptedFiles ++ files
  counted : after.rejectedFiles.length + files.length =
    before.rejectedFiles.length + uploads.length
  inOrder : ∃ kept, kept.Sublist uploads ∧ List.Forall₂ (AcceptedFrom readPdf) kept files
  limit : (files.length : Int) ≤ max (settings.maxFilesPerRun - index) 0
  warned : after.warnings =
    before.warnings ++ (files.filter UploadedRunFile.trimmed).map fileWarning
  total : after.totalExtractedBytes =
    before.totalExtractedBytes + (files.map UploadedRunFile.extractedTextBytes).sum
  budget : (after.totalExtractedBytes : Int) ≤
    max settings.maxExtractedTextBytes before.totalExtractedBytes

theorem takeUploads_collected {settings : Settings} {readPdf : PdfReader} {uploads : List Upload}
    {before after : Intake} {index : Nat}
    (h : takeUploads settings readPdf before index uploads = .ok after) :
    ∃ files, Collected settings readPdf index uploads files before after := by
  induction uploads generalizing before index with
  | nil =>
    obtain rfl := Except.ok.inj h
    exact ⟨[], by simp, by simp, ⟨[], .slnil, .nil⟩, by simp, by simp, by simp, by omega⟩
  | cons upload uploads ih =>
    obtain ⟨middle, hfirst, hrest⟩ := bind_eq_ok.mp h
    obtain ⟨files, haccepted, hcounted, ⟨kept, hsub, hfrom⟩, hlimit, hwarned, htotal, hbudget⟩ :=
      ih hrest
    cases takeUpload_taken hfirst with
    | rejected fileName contentType reason =>
      refine ⟨files, haccepted, ?_, ⟨kept, hsub.cons upload, hfrom⟩, by omega, hwarned, htotal,
        hbudget⟩
      simp only [Intake.reject, List.length_append, List.length_singleton] at hcounted
      rw [List.length_cons]
      omega
    | kept file hfile hindex hfits =>
      refine ⟨file :: files, ?_, ?_, ⟨upload :: kept, hsub.cons_cons upload, .cons hfile hfrom⟩, ?_,
        ?_, ?_, ?_⟩
      · rw [haccepted, Intake.keep, List.append_assoc, List.singleton_append]
      · simp only [Intake.keep] at hcounted
        simp only [List.length_cons]
        omega
      · rw [List.length_cons]
        omega
      · rw [hwarned, Intake.keep]
        cases htrimmed : file.trimmed with
        | true => simp [htrimmed, fileWarning]
        | false => simp [htrimmed]
      · rw [htotal, List.map_cons, List.sum_cons, ← Nat.add_assoc]
        rfl
      · simp only [Intake.keep, Nat.cast_add] at hbudget
        omega

theorem takeUploads_error {settings : Settings} {readPdf : PdfReader} {uploads : List Upload}
    {intake : Intake} {index : Nat} {e : IngestError}
    (h : takeUploads settings readPdf intake index uploads = .error e) :
    e = .pdfReader ∧ ∃ upload ∈ uploads, readPdf upload.bytes = .raised := by
  induction uploads generalizing intake index with
  | nil => cases h
  | cons upload uploads ih =>
    rw [takeUploads] at h
    cases hfirst : takeUpload settings readPdf intake index upload with
    | error cause =>
      rw [hfirst] at h
      obtain ⟨rfl, hraised⟩ := takeUpload_error hfirst
      exact ⟨(Except.error.inj h).symm, upload, List.mem_cons_self, hraised⟩
    | ok middle =>
      rw [hfirst] at h
      obtain ⟨he, other, hmem, hraised⟩ := ih h
      exact ⟨he, other, List.mem_cons_of_mem upload hmem, hraised⟩

def pastedWarning : Text :=
  ("The pasted notes were longer than this demo brain allows, so I " ++
    "kept the first slice.").toList

def workflowWarning : Text :=
  ("This is a demo, not a memory palace. I kept a representative slice so " ++
    "I could stay coherent.").toList

/-- The warning, where the kept text is a proper part. -/
def warnIf (warning kept value : Text) : List Text := if kept ≠ value then [warning] else []

theorem Trims.warnIf_eq {value kept : Text} {maxBytes : Int} {trimmed : Bool}
    (h : Trims value maxBytes kept trimmed) (warning : Text) :
    warnIf warning kept value = if trimmed = true then [warning] else [] := by
  rw [warnIf]
  exact if_congr h.flagged.symm rfl rfl

theorem storePastedText_trims (settings : Settings) (pastedText : Option Text) :
    (∃ trimmed, Trims ((normalizeText pastedText).getD []) settings.maxPastedTextBytes
      ((storePastedText settings pastedText).1.getD []) trimmed) ∧
    (storePastedText settings pastedText).2 =
      warnIf pastedWarning ((storePastedText settings pastedText).1.getD [])
        ((normalizeText pastedText).getD []) := by
  rw [storePastedText]
  cases hnorm : normalizeText pastedText with
  | none =>
    have htrims : Trims [] settings.maxPastedTextBytes [] false := trims_all (by simp [utf8Length])
    exact ⟨⟨false, htrims⟩, (htrims.warnIf_eq pastedWarning).symm⟩
  | some text =>
    by_cases hlong : settings.maxPastedTextBytes < utf8Length text
    · simp only [if_pos hlong]
      have htrims := trimTextToBytes_trims text settings.maxPastedTextBytes
      exact ⟨⟨_, htrims⟩, (htrims.warnIf_eq pastedWarning).symm⟩
    · simp only [if_neg hlong]
      have htrims : Trims text settings.maxPastedTextBytes text false := trims_all (by omega)
      exact ⟨⟨false, htrims⟩, (htrims.warnIf_eq pastedWarning).symm⟩

theorem buildWorkflowInputText_trims (delivers : Transport) {settings : Settings}
    (hoff : settings.textToolsEnabled = false) (pastedText : Option Text)
    (files : List UploadedRunFile) :
    ∃ kept trimmed, buildWorkflowInputText delivers settings pastedText files =
        .ok (kept, trimmed) ∧
      Trims (combinedText pastedText files) settings.maxTotalWorkflowTextBytes (kept.getD [])
        trimmed := by
  rw [buildWorkflowInputText]
  by_cases hnone : inputSections pastedText files = []
  · rw [if_pos hnone, combinedText, hnone]
    exact ⟨none, false, rfl, trims_all (by simp [utf8Length, join])⟩
  · simp only [if_neg hnone, hoff, Bool.false_eq_true, if_false]
    exact ⟨_, _, rfl, trimTextToBytes_trims _ _⟩

/-- A result within every budget, in which every cut is reported. -/
structure WithinBudgets (readPdf : PdfReader) (settings : Settings) (pastedText : Option Text)
    (uploads : List Upload) (result : IngestionResult) : Prop where
  counted : result.uploadedFiles.length + result.ingestionSummary.rejectedFiles.length =
    uploads.length
  fileLimit : (result.uploadedFiles.length : Int) ≤ max settings.maxFilesPerRun 0
  inOrder : ∃ kept, kept.Sublist uploads ∧
    List.Forall₂ (AcceptedFrom readPdf) kept result.uploadedFiles
  fileBytes : ((result.uploadedFiles.map fun file => utf8Length file.extractedText).sum : Int) ≤
    max settings.maxExtractedTextBytes 0
  pastedPrefix : result.rawPastedText.getD [] <+: (normalizeText pastedText).getD []
  pastedBytes : (utf8Length (result.rawPastedText.getD []) : Int) ≤
    max settings.maxPastedTextBytes 0
  workflowPrefix : result.normalizedInputText.getD [] <+:
    combinedText result.rawPastedText result.uploadedFiles
  workflowBytes : (utf8Length (result.normalizedInputText.getD []) : Int) ≤
    max settings.maxTotalWorkflowTextBytes 0
  trimmedPasted : result.ingestionSummary.counts.trimmedPastedText =
    if result.rawPastedText.getD [] ≠ (normalizeText pastedText).getD [] then 1 else 0
  warned : result.ingestionSummary.warnings =
    warnIf pastedWarning (result.rawPastedText.getD []) ((normalizeText pastedText).getD []) ++
    (result.uploadedFiles.filter UploadedRunFile.trimmed).map fileWarning ++
    warnIf workflowWarning (result.normalizedInputText.getD [])
      (combinedText result.rawPastedText result.uploadedFiles)

theorem getD_ne_iff {stored normalized : Option Text} (hstored : stored ≠ some [])
    (hnormalized : normalized ≠ some []) (hnone : normalized = none → stored = none) :
    (normalized.isSome ∧ stored ≠ normalized) ↔ stored.getD [] ≠ normalized.getD [] := by
  cases normalized with
  | none => simp [hnone rfl]
  | some text =>
    cases stored with
    | none => simpa [eq_comm] using hnormalized
    | some kept => simp

theorem normalizeText_ne_nil (pastedText : Option Text) : normalizeText pastedText ≠ some [] := by
  intro h
  obtain ⟨value, -, hvalue⟩ := Option.bind_eq_some_iff.mp h
  exact orNone_ne_some_nil _ hvalue

theorem acceptedFrom_bytes {readPdf : PdfReader} {kept : List Upload}
    {files : List UploadedRunFile} (h : List.Forall₂ (AcceptedFrom readPdf) kept files) :
    files.map UploadedRunFile.extractedTextBytes =
      files.map fun file => utf8Length file.extractedText := by
  induction h with
  | nil => rfl
  | cons hfile _ ih => rw [List.map_cons, List.map_cons, hfile.textBytes, ih]

end DemoService.Runs
