import DemoService.PyDict
import DemoService.VoiceResampling
import Mathlib.Algebra.BigOperators.Ring.List

/-! The audio deltas that the OpenAI voice client receives. Each one is converted for itself, so
the stream they make up depends on where it is cut, except between groups of three samples. -/

namespace DemoService.Voice

open CodePoints Base64 PyNumbers PyText

/-- The fields of a provider event that the client reads. -/
structure RealtimeEvent where
  type : Text
  delta : Option Str
  deriving DecidableEq, Repr

def openaiEventRemap : Dict Text Text :=
  [("response.audio.delta".toList, "response.output_audio.delta".toList),
    ("response.audio_transcript.delta".toList, "response.output_audio_transcript.delta".toList),
    ("response.audio_transcript.done".toList, "response.output_audio_transcript.done".toList)]

def receive (event : RealtimeEvent) : Option RealtimeEvent :=
  let event := { event with type := (openaiEventRemap.get? event.type).getD event.type }
  match event.delta with
  | none => some event
  | some delta =>
    if event.type = "response.output_audio.delta".toList ∧ delta ≠ [] then do
      let mulaw ← pcm16_24khzB64ToMulaw8khzB64 delta
      some { event with delta := some mulaw }
    else some event

/-- The μ-law bytes that the client hands on for one delta of PCM bytes. -/
def receivedAudio (audio : Bytes) : Option Bytes := do
  let event ← receive ⟨"response.output_audio.delta".toList, some (b64encode audio)⟩
  let delta ← event.delta
  b64decode delta

theorem thirds_append {a b : List Int} (ha : 3 ∣ a.length) (hb : b.length ≠ 1 ∨ a = []) :
    thirds (a ++ b) = thirds a ++ thirds b := by
  by_cases hanil : a = []
  · subst hanil
    rfl
  · by_cases hbnil : b = []
    · subst hbnil
      rw [List.append_nil]
      exact (List.append_nil _).symm
    · obtain ⟨k, hk⟩ := ha
      have hapos : 0 < a.length := List.length_pos_iff.mpr hanil
      have hbpos : 0 < b.length := List.length_pos_iff.mpr hbnil
      have hlone : b.length ≠ 1 := hb.resolve_right hanil
      have hcount : max 1 (((a ++ b).length + 1) / 3) = k + (b.length + 1) / 3 := by
        rw [List.length_append, hk]
        omega
      have hcount_a : max 1 ((a.length + 1) / 3) = k := by omega
      have hcount_b : max 1 ((b.length + 1) / 3) = (b.length + 1) / 3 := by omega
      rw [thirds, if_neg (by simp [hanil]), hcount, List.range_add, List.map_append, thirds,
        if_neg hanil, hcount_a, thirds, if_neg hbnil, hcount_b, List.map_map]
      congr 1
      · apply List.map_congr_left
        intro i hi
        have hlt := List.mem_range.mp hi
        exact List.getD_append _ _ _ _ (by omega)
      · apply List.map_congr_left
        intro i hi
        simp only [Function.comp]
        rw [List.getD_append_right _ _ _ _ (by omega)]
        congr 1
        omega

def mulawOf (audio : Bytes) : Bytes := (thirds (unpackShorts audio)).map encodeMulawSample

theorem mulawOf_append {a b : Bytes} (ha : 6 ∣ a.length)
    (hb : (b.length ≠ 2 ∧ b.length ≠ 3) ∨ a = []) : mulawOf (a ++ b) = mulawOf a ++ mulawOf b := by
  have hthree : 3 ∣ (unpackShorts a).length := by
    rw [length_unpackShorts]
    omega
  have hlone : (unpackShorts b).length ≠ 1 ∨ unpackShorts a = [] := by
    rcases hb with hb | hb
    · left
      rw [length_unpackShorts]
      omega
    · right
      rw [hb]
      rfl
  rw [mulawOf, unpackShorts_append (by omega), thirds_append hthree hlone, List.map_append]
  rfl

theorem pcm16ToMulaw_eq (audio : Bytes) :
    pcm16_24khzB64ToMulaw8khzB64 (b64encode audio) = some (b64encode (mulawOf audio)) := by
  let raw := if audio.length % 2 ≠ 0 then audio.dropLast else audio
  have hraw : unpackShorts raw = unpackShorts audio := by
    by_cases hodd : audio.length % 2 ≠ 0
    · rw [show raw = audio.dropLast from if_pos hodd, unpackShorts_dropLast hodd]
    · rw [show raw = audio from if_neg hodd]
  have hencode : ∀ samples : List Int,
      (samples.map clampPcm16).map encodeMulawSample = samples.map encodeMulawSample := by
    intro samples
    rw [List.map_map]
    exact List.map_congr_left fun sample _ => encode_clampPcm16 sample
  simp only [pcm16_24khzB64ToMulaw8khzB64, b64decode_b64encode, Option.bind_eq_bind,
    Option.bind_some]
  change (if raw = [] then some [] else _) = _
  by_cases hnil : raw = []
  · rw [hnil] at hraw
    rw [if_pos hnil, mulawOf, ← hraw]
    rfl
  · rw [if_neg hnil]
    change (resamplePcm16 (unpackShorts raw) 24000 8000).bind _ = _
    rw [resample_down, Option.bind_some, hraw, hencode]
    rfl

theorem receivedAudio_eq (audio : Bytes) : receivedAudio audio = some (mulawOf audio) := by
  have htype : (openaiEventRemap.get? "response.output_audio.delta".toList).getD
      "response.output_audio.delta".toList = "response.output_audio.delta".toList := by
    decide
  by_cases hnil : audio = []
  · subst hnil
    decide
  · have hdelta : b64encode audio ≠ [] := fun h => hnil (b64encode_eq_nil.mp h)
    have hreceive : receive ⟨"response.output_audio.delta".toList, some (b64encode audio)⟩ =
        some ⟨"response.output_audio.delta".toList, some (b64encode (mulawOf audio))⟩ := by
      simp only [receive, htype]
      rw [if_pos ⟨trivial, hdelta⟩, pcm16ToMulaw_eq]
      rfl
    rw [receivedAudio, hreceive]
    exact b64decode_b64encode (mulawOf audio)

theorem dvd_length_flatten {deltas : List Bytes} (h : ∀ delta ∈ deltas, 6 ∣ delta.length) :
    6 ∣ deltas.flatten.length := by
  rw [List.length_flatten]
  exact List.dvd_sum (by simpa using h)

/-- A stream cut between groups of three samples, where the last delta does not hold a single
sample, is received as in one delta. -/
theorem received_of_aligned {deltas : List Bytes} {last : Bytes}
    (haligned : ∀ delta ∈ deltas, 6 ∣ delta.length)
    (hlast : (last.length ≠ 2 ∧ last.length ≠ 3) ∨ ∀ delta ∈ deltas, delta = []) :
    ∃ parts, (deltas ++ [last]).mapM receivedAudio = some parts ∧
      receivedAudio (deltas ++ [last]).flatten = some parts.flatten := by
  have hflatten : mulawOf (deltas ++ [last]).flatten =
      ((deltas ++ [last]).map mulawOf).flatten := by
    induction deltas with
    | nil => simp
    | cons delta deltas ih =>
      rw [List.forall_mem_cons] at haligned
      have hrest := ih haligned.2 (hlast.imp_right fun h d hd => h d (List.mem_cons_of_mem _ hd))
      rw [List.cons_append, List.flatten_cons, List.map_cons, List.flatten_cons, ← hrest]
      apply mulawOf_append haligned.1
      rcases hlast with ⟨htwo, hthree⟩ | hempty
      · left
        obtain ⟨groups, hgroups⟩ := dvd_length_flatten haligned.2
        rw [List.flatten_append, List.length_append, List.flatten_singleton, hgroups]
        omega
      · right
        exact hempty delta List.mem_cons_self
  exact ⟨_, mapM_eq_some_map fun delta _ => receivedAudio_eq delta, by
    rw [receivedAudio_eq, hflatten]⟩

theorem received_of_two_groups :
    ∃ parts, ([[1, 0, 2, 0, 3, 0]] ++ [[4, 0, 5, 0]] : List Bytes).mapM receivedAudio = some parts ∧
      receivedAudio ([[1, 0, 2, 0, 3, 0]] ++ [[4, 0, 5, 0]] : List Bytes).flatten =
        some parts.flatten :=
  received_of_aligned (by simp) (.inl (by decide))

/-- Two samples make one byte together and two when each is a delta of its own. -/
theorem received_samples_apart :
    ¬ ∃ parts, ([[0, 0], [0, 0]] : List Bytes).mapM receivedAudio = some parts ∧
      receivedAudio ([[0, 0], [0, 0]] : List Bytes).flatten = some parts.flatten := by
  rintro ⟨parts, hparts, hwhole⟩
  rw [mapM_eq_some_map fun delta _ => receivedAudio_eq delta, Option.some.injEq] at hparts
  rw [receivedAudio_eq, ← hparts] at hwhole
  revert hwhole
  decide

end DemoService.Voice
