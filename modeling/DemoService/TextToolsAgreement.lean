import DemoService.RunInput
import DemoService.WorkflowTools

/-! The sections of a workflow with the text-tools sidecar against those without it. The
sidecar collapses line breaks too, except the three information separators, which Rust does
not count as whitespace and Python's `splitlines` does. -/

namespace DemoService.Runs

open PyText TextTools TextLayout Fallible

def withTextTools (enabled : Bool) (settings : Settings) : Settings :=
  { settings with textToolsEnabled := enabled }

/-- The texts of the sections that the workflow makes of an ingested input. -/
def workflowSections (delivers : Transport) (settings : Settings) (pastedText : Option Text)
    (acceptedFiles : List UploadedRunFile) : Except ClientError (List Text) := do
  let built ← buildWorkflowInputText delivers settings pastedText acceptedFiles
  let normalized := Workflow.normalizeInput (sourceText built.1 pastedText)
  pure ((Workflow.splitIntoSections normalized.text).map Workflow.NoteSection.text)

/-- U+001C, U+001D and U+001E, the line boundaries that Rust does not take for whitespace. -/
def isSeparator (c : Char) : Bool := isLineBoundary c && !RustText.isWhitespace c

/-- Every gap between two words with a line break in it has a separator in it. -/
def BreaksKept (text : Text) : Prop :=
  ∀ gap ∈ innerGaps isSpace text, gap.any isLineBoundary = true → gap.any isSeparator = true

instance (text : Text) : Decidable (BreaksKept text) :=
  inferInstanceAs (Decidable (∀ gap ∈ _, _))

/-- The sidecar answers for the combined text with the configured limits. -/
def Answered (delivers : Transport) (settings : Settings) (text : Text) : Prop :=
  delivers text = true ∧ LimitsAccepted settings.maxTotalWorkflowTextBytes settings.ragChunkSize
    settings.ragChunkOverlap

theorem isSpace_of_isWhitespace {c : Char} (h : RustText.isWhitespace c = true) :
    isSpace c = true := by
  simp only [RustText.isWhitespace, isSpace, Bool.or_eq_true, Bool.and_eq_true, decide_eq_true_eq,
    beq_iff_eq] at h ⊢
  omega

def sectionTexts (text : Text) : List Text :=
  (Workflow.splitIntoSections (Workflow.normalizeInput text).text).map Workflow.NoteSection.text

theorem sectionTexts_plain (text : Text) :
    sectionTexts text = (linesOf isLineBoundary (tokens isSpace text).2).map unwords :=
  Workflow.sections_normalizeInput text

theorem sectionTexts_collapsed (text : Text) :
    sectionTexts (unwords (words RustText.isWhitespace text)) =
      (linesOf isSeparator (tokens isSpace text).2).map unwords := by
  rw [sectionTexts_plain,
    linesOf_unwords (fun _ => isSpace_of_isWhitespace) (by decide) (by decide)]
  rfl

theorem sectionTexts_collapsed_iff (text : Text) :
    sectionTexts (unwords (words RustText.isWhitespace text)) = sectionTexts text ↔
      BreaksKept text := by
  rw [sectionTexts_collapsed, sectionTexts_plain]
  refine map_linesOf_eq_iff unwords (fun c hc => ?_) _
  exact (Bool.and_eq_true_iff.mp hc).1

theorem sourceText_of_ne_nil {text : Text} (h : text ≠ []) (inputText : Option Text) :
    sourceText (some text) inputText = text := by
  cases text with
  | nil => exact absurd rfl h
  | cons c cs => rfl

theorem trimTextToBytes_fits {value : Text} {maxBytes : Int} (hpos : 0 < maxBytes)
    (hfits : (utf8Length value : Int) ≤ maxBytes) :
    trimTextToBytes value maxBytes = (some value, false) := by
  rw [trimTextToBytes, if_neg (by omega), if_pos hfits]

theorem workflowSections_plain {delivers : Transport} {settings : Settings}
    {pastedText : Option Text} {files : List UploadedRunFile}
    (hsections : inputSections pastedText files ≠ [])
    (hfits : (utf8Length (combinedText pastedText files) : Int) ≤ settings.maxTotalWorkflowTextBytes) :
    workflowSections delivers (withTextTools false settings) pastedText files =
      .ok (sectionTexts (combinedText pastedText files)) := by
  obtain ⟨c, cs, hcombined, -, -, hsize⟩ := combinedText_head hsections
  have hpos : 0 < utf8Length (combinedText pastedText files) := by
    rw [hcombined, utf8Length, List.map_cons, List.sum_cons]
    omega
  have hbuilt : buildWorkflowInputText delivers (withTextTools false settings) pastedText files =
      .ok (some (combinedText pastedText files), false) := by
    rw [buildWorkflowInputText, if_neg hsections]
    have hbudget : 0 < settings.maxTotalWorkflowTextBytes := by omega
    exact congrArg Except.ok (trimTextToBytes_fits hbudget hfits)
  rw [workflowSections, hbuilt]
  have hne : combinedText pastedText files ≠ [] := by
    rw [hcombined]
    exact List.cons_ne_nil _ _
  change Except.ok (sectionTexts (sourceText _ _)) = _
  rw [sourceText_of_ne_nil hne]

theorem workflowSections_empty {delivers : Transport} {settings : Settings}
    {pastedText : Option Text} {files : List UploadedRunFile}
    (hsections : inputSections pastedText files = []) (enabled : Bool) :
    workflowSections delivers (withTextTools enabled settings) pastedText files =
      .ok (sectionTexts (sourceText none pastedText)) := by
  rw [workflowSections, buildWorkflowInputText, if_pos hsections]
  rfl

theorem workflowSections_sidecar {delivers : Transport} {settings : Settings}
    {pastedText : Option Text} {files : List UploadedRunFile}
    (hsections : inputSections pastedText files ≠ [])
    (hfits : (utf8Length (combinedText pastedText files) : Int) ≤ settings.maxTotalWorkflowTextBytes)
    {texts : List Text} :
    workflowSections delivers (withTextTools true settings) pastedText files = .ok texts ↔
      Answered delivers settings (combinedText pastedText files) ∧
        sectionTexts (unwords (words RustText.isWhitespace (combinedText pastedText files))) =
          texts := by
  obtain ⟨c, cs, hcombined, -, hwhite, hsize⟩ := combinedText_head hsections
  have hbuilt : buildWorkflowInputText delivers (withTextTools true settings) pastedText files =
      clientAnalyzeText delivers (combinedText pastedText files)
        settings.maxTotalWorkflowTextBytes settings.ragChunkSize settings.ragChunkOverlap >>=
      fun analysis => pure (orNone analysis.normalizedText, analysis.trimmed) := by
    rw [buildWorkflowInputText, if_neg hsections]
    rfl
  rw [Answered, ← clientAnalyzeText_succeeds_iff, workflowSections, hbuilt]
  constructor
  · intro h
    obtain ⟨built, h, htexts⟩ := bind_eq_ok.mp h
    obtain ⟨analysis, hanalysis, hresult⟩ := bind_eq_ok.mp h
    refine ⟨⟨analysis, hanalysis⟩, ?_⟩
    have hne := clientAnalyzeText_ne_nil (hcombined ▸ hanalysis) (by simp [hwhite]) hsize
    obtain ⟨hnormalized, -⟩ := clientAnalyzeText_fits hanalysis hfits
    obtain rfl := pure_eq_ok.mp hresult
    rw [← pure_eq_ok.mp htexts, ← hnormalized, orNone, if_neg hne, sourceText_of_ne_nil hne]
    rfl
  · rintro ⟨⟨analysis, hanalysis⟩, rfl⟩
    have hne := clientAnalyzeText_ne_nil (hcombined ▸ hanalysis) (by simp [hwhite]) hsize
    obtain ⟨hnormalized, -⟩ := clientAnalyzeText_fits hanalysis hfits
    refine bind_eq_ok.mpr ⟨_, bind_eq_ok.mpr ⟨analysis, hanalysis, rfl⟩, ?_⟩
    rw [orNone, if_neg hne, sourceText_of_ne_nil hne, hnormalized]
    rfl

/-- The sidecar leaves the sections as they are exactly when there is no input, or it answers
and every line break between two words is kept by a separator. -/
theorem text_tools_keep_sections_iff (delivers : Transport) (settings : Settings)
    (pastedText : Option Text) (files : List UploadedRunFile)
    (hfits : (utf8Length (combinedText pastedText files) : Int) ≤ settings.maxTotalWorkflowTextBytes) :
    workflowSections delivers (withTextTools true settings) pastedText files =
        workflowSections delivers (withTextTools false settings) pastedText files ↔
      inputSections pastedText files = [] ∨
        (Answered delivers settings (combinedText pastedText files) ∧
          BreaksKept (combinedText pastedText files)) := by
  by_cases hsections : inputSections pastedText files = []
  · rw [workflowSections_empty hsections, workflowSections_empty hsections]
    exact ⟨fun _ => .inl hsections, fun _ => rfl⟩
  · rw [workflowSections_plain hsections hfits, workflowSections_sidecar hsections hfits,
      sectionTexts_collapsed_iff, or_iff_right hsections]

/-- A file whose name ends in U+001C keeps its heading apart from its text. -/
theorem separated_heading_keeps_sections :
    workflowSections (fun _ => true) (withTextTools true defaultSettings) none
        [⟨['a', '\x1c'], "text/plain".toList, 7, "ship it".toList, 7, false⟩] =
      workflowSections (fun _ => true) (withTextTools false defaultSettings) none
        [⟨['a', '\x1c'], "text/plain".toList, 7, "ship it".toList, 7, false⟩] :=
  (text_tools_keep_sections_iff (fun _ => true) defaultSettings none
    [⟨['a', '\x1c'], "text/plain".toList, 7, "ship it".toList, 7, false⟩]
    (by decide +kernel)).mpr
    (.inr ⟨⟨rfl, by decide⟩, by decide +kernel⟩)

/-- Two pasted lines are three sections without the sidecar and one with it. -/
theorem pasted_lines_become_one_section :
    workflowSections (fun _ => true) (withTextTools false defaultSettings)
        (some "Decision: ship\nRisk: none".toList) [] =
      .ok ["Pasted notes:".toList, "Decision: ship".toList, "Risk: none".toList] ∧
    workflowSections (fun _ => true) (withTextTools true defaultSettings)
        (some "Decision: ship\nRisk: none".toList) [] =
      .ok ["Pasted notes: Decision: ship Risk: none".toList] := by
  decide +kernel

end DemoService.Runs
