import DemoService.Base64
import DemoService.PyNumbers
import DemoService.PyText
import DemoService.VoiceCodec

/-! The conversions of the OpenAI voice client between the bridge's μ-law at 8 kHz and the
provider's PCM16 at 24 kHz, with positions and interpolation over exact rationals. -/

namespace DemoService.Voice

open CodePoints Base64 PyNumbers PyText

/-- One output sample; reading a position outside the samples raises. -/
def interpolate (samples : List Int) (sourcePos : ℚ) : Option Int := do
  let leftIndex := ⌊sourcePos⌋.toNat
  let rightIndex := min (leftIndex + 1) (samples.length - 1)
  let fraction := sourcePos - leftIndex
  let left ← samples[leftIndex]?
  let right ← samples[rightIndex]?
  some (clampPcm16 (roundHalfEven (left * (1 - fraction) + right * fraction)))

def resamplePcm16 (samples : List Int) (sourceRate targetRate : Nat) : Option (List Int) :=
  if samples = [] then some []
  else if sourceRate = targetRate then some samples
  else
    let outputLength := max 1 (roundHalfEven (samples.length * targetRate / sourceRate))
    let ratio : ℚ := sourceRate / targetRate
    (List.range outputLength.toNat).mapM fun outIndex : Nat =>
      interpolate samples (outIndex * ratio)

def pcm16SamplesToB64 (samples : List Int) : Option Str :=
  if samples = [] then some []
  else do
    let raw ← packShorts samples
    some (b64encode raw)

def mulaw8khzB64ToPcm16_24khzB64 (audioB64 : Str) : Option Str := do
  let mulaw ← b64decode audioB64
  let pcm8 := mulaw.map decodeMulawSample
  let pcm24 ← resamplePcm16 pcm8 8000 24000
  pcm16SamplesToB64 pcm24

def pcm16_24khzB64ToMulaw8khzB64 (audioB64 : Str) : Option Str := do
  let raw ← b64decode audioB64
  let raw := if raw.length % 2 ≠ 0 then raw.dropLast else raw
  if raw = [] then some []
  else do
    let pcm24 := unpackShorts raw
    let pcm8 ← resamplePcm16 pcm24 24000 8000
    some (b64encode (pcm8.map encodeMulawSample))

theorem mapM_eq_some_map {α β : Type} {f : α → Option β} {g : α → β} {l : List α}
    (h : ∀ x ∈ l, f x = some (g x)) : l.mapM f = some (l.map g) := by
  induction l with
  | nil => rfl
  | cons x xs ih =>
    rw [List.mapM_cons, h x List.mem_cons_self, ih fun y hy => h y (List.mem_cons_of_mem _ hy)]
    rfl

/-- At the position of a sample nothing is interpolated. -/
theorem interpolate_natCast {samples : List Int} {i : Nat} (hi : i < samples.length) :
    interpolate samples i = some (clampPcm16 (samples.getD i 0)) := by
  have hright : min (i + 1) (samples.length - 1) < samples.length := by omega
  have hfloor : ⌊(i : ℚ)⌋.toNat = i := by simp
  simp only [interpolate, hfloor, List.getElem?_eq_getElem hi, List.getElem?_eq_getElem hright,
    List.getD_eq_getElem?_getD]
  simp

theorem interpolate_isSome {samples : List Int} {q : ℚ} (hq : ⌊q⌋.toNat < samples.length) :
    ∃ sample, interpolate samples q = some (clampPcm16 sample) := by
  have hright : min (⌊q⌋.toNat + 1) (samples.length - 1) < samples.length := by omega
  simp only [interpolate, List.getElem?_eq_getElem hq, List.getElem?_eq_getElem hright]
  exact ⟨_, rfl⟩

theorem clampPcm16_isShort (value : Int) : IsShort (clampPcm16 value) := by
  simp only [IsShort, clampPcm16]
  omega

/-- Three samples become one, and a rest of two becomes one more. -/
theorem round_third (n : Nat) :
    roundHalfEven ((n * 8000 : ℚ) / 24000) = ((n + 1) / 3 : Nat) := by
  obtain ⟨k, rfl | rfl | rfl⟩ : ∃ k, n = 3 * k ∨ n = 3 * k + 1 ∨ n = 3 * k + 2 :=
    ⟨n / 3, by omega⟩
  · rw [roundHalfEven_of_lt (n := (k : Int)) (by push_cast; linarith) (by push_cast; linarith)]
    omega
  · rw [roundHalfEven_of_lt (n := (k : Int)) (by push_cast; linarith) (by push_cast; linarith)]
    omega
  · rw [roundHalfEven_of_gt (n := (k : Int)) (by push_cast; linarith) (by push_cast; linarith)]
    omega

/-- Every third sample, and the only one of a lone sample. -/
def thirds (samples : List Int) : List Int :=
  if samples = [] then []
  else (List.range (max 1 ((samples.length + 1) / 3))).map fun i => samples.getD (3 * i) 0

theorem resample_down (samples : List Int) :
    resamplePcm16 samples 24000 8000 = some ((thirds samples).map clampPcm16) := by
  by_cases hnil : samples = []
  · subst hnil
    rfl
  · have hpos : 0 < samples.length := List.length_pos_iff.mpr hnil
    have hlength : (max 1 (roundHalfEven (samples.length * (8000 : Nat) / (24000 : Nat)))).toNat =
        max 1 ((samples.length + 1) / 3) := by
      have := round_third samples.length
      push_cast at this ⊢
      rw [this]
      omega
    rw [resamplePcm16, if_neg hnil, if_neg (by decide)]
    simp only [hlength]
    rw [mapM_eq_some_map (g := fun i => clampPcm16 (samples.getD (3 * i) 0))]
    · rw [thirds, if_neg hnil, List.map_map]
      rfl
    · intro i hi
      have hlt := List.mem_range.mp hi
      have hpos : (i : ℚ) * ((24000 : Nat) / (8000 : Nat)) = (3 * i : Nat) := by
        push_cast
        linarith
      rw [hpos]
      exact interpolate_natCast (by omega)

/-- Upsampling puts two samples behind each sample. -/
theorem resample_up (samples : List Int) :
    ∃ out : Nat → Int, resamplePcm16 samples 8000 24000 =
        some ((List.range (3 * samples.length)).map out) ∧
      (∀ i < 3 * samples.length, IsShort (out i)) ∧
      ∀ i < samples.length, out (3 * i) = clampPcm16 (samples.getD i 0) := by
  by_cases hnil : samples = []
  · subst hnil
    exact ⟨fun _ => 0, rfl, by simp, by simp⟩
  · have hpos : 0 < samples.length := List.length_pos_iff.mpr hnil
    have hlength : (max 1 (roundHalfEven (samples.length * (24000 : Nat) / (8000 : Nat)))).toNat =
        3 * samples.length := by
      have hexact : (samples.length * (24000 : Nat) / (8000 : Nat) : ℚ) =
          ((3 * samples.length : Nat) : Int) := by
        push_cast
        linarith
      rw [hexact, roundHalfEven_intCast]
      omega
    have hread : ∀ i < 3 * samples.length,
        ∃ sample, interpolate samples (i * ((8000 : Nat) / (24000 : Nat))) =
          some (clampPcm16 sample) := by
      intro i hi
      apply interpolate_isSome
      have hlt : (i : ℚ) * ((8000 : Nat) / (24000 : Nat)) < (samples.length : Int) := by
        have : (i : ℚ) < 3 * samples.length := by exact_mod_cast hi
        push_cast
        linarith
      have := Int.floor_lt.mpr hlt
      omega
    refine ⟨fun i => (interpolate samples (i * ((8000 : Nat) / (24000 : Nat)))).getD 0,
      ?_, ?_, ?_⟩
    · rw [resamplePcm16, if_neg hnil, if_neg (by decide)]
      simp only [hlength]
      apply mapM_eq_some_map
      intro i hi
      obtain ⟨sample, hsample⟩ := hread i (List.mem_range.mp hi)
      rw [hsample]
      rfl
    · intro i hi
      obtain ⟨sample, hsample⟩ := hread i hi
      simp only [hsample, Option.getD_some]
      exact clampPcm16_isShort sample
    · intro i hi
      have hat : ((3 * i : Nat) : ℚ) * ((8000 : Nat) / (24000 : Nat)) = i := by
        push_cast
        linarith
      simp only [hat, interpolate_natCast hi, Option.getD_some]

theorem thirds_upsampled {out : Nat → Int} {n : Nat} :
    thirds ((List.range (3 * n)).map out) = (List.range n).map fun i => out (3 * i) := by
  cases n with
  | zero => rfl
  | succ n =>
    rw [thirds, if_neg (by simp)]
    have hlength : max 1 ((((List.range (3 * (n + 1))).map out).length + 1) / 3) = n + 1 := by
      rw [List.length_map, List.length_range]
      omega
    rw [hlength]
    apply List.map_congr_left
    intro i hi
    have hlt : 3 * i < 3 * (n + 1) := by
      have := List.mem_range.mp hi
      omega
    simp [List.getD_eq_getElem?_getD, hlt]

/-- The provider's format holds the bridge's audio without loss. -/
theorem mulaw_roundTrip (mulaw : Bytes) :
    (mulaw8khzB64ToPcm16_24khzB64 (b64encode mulaw)).bind pcm16_24khzB64ToMulaw8khzB64 =
      some (b64encode mulaw) := by
  by_cases hnil : mulaw = []
  · subst hnil
    rfl
  · let pcm8 := mulaw.map decodeMulawSample
    have hlen : pcm8.length = mulaw.length := List.length_map _
    obtain ⟨out, hup, hshort, hthird⟩ := resample_up pcm8
    let pcm24 := (List.range (3 * pcm8.length)).map out
    have hpos : 0 < mulaw.length := List.length_pos_iff.mpr hnil
    have hne : pcm24 ≠ [] := by
      simp only [pcm24, ne_eq, List.map_eq_nil_iff, List.range_eq_nil, hlen]
      omega
    have hall : ∀ n ∈ pcm24, IsShort n := by
      intro n hn
      obtain ⟨i, hi, rfl⟩ := List.mem_map.mp hn
      exact hshort i (List.mem_range.mp hi)
    obtain ⟨raw, hpack, hraw, hunpack⟩ := packShorts_spec hall
    have hto : mulaw8khzB64ToPcm16_24khzB64 (b64encode mulaw) = some (b64encode raw) := by
      simp only [mulaw8khzB64ToPcm16_24khzB64, b64decode_b64encode, Option.bind_eq_bind,
        Option.bind_some]
      rw [hup, Option.bind_some, pcm16SamplesToB64, if_neg hne, hpack]
      rfl
    have hthirds : (thirds pcm24).map clampPcm16 = pcm8 := by
      rw [thirds_upsampled, List.map_map]
      apply List.ext_getElem (by simp)
      intro i hi hi'
      have hmulaw : i < mulaw.length := hlen ▸ hi'
      have hbyte := (decoded_byte mulaw[i]).1
      simp [hthird i hi', List.getD_eq_getElem?_getD, pcm8, hmulaw, hbyte]
    have heven : ¬ raw.length % 2 ≠ 0 := by omega
    have hraw_ne : raw ≠ [] := by
      intro h
      rw [h] at hunpack
      exact hne hunpack.symm
    have hback : pcm16_24khzB64ToMulaw8khzB64 (b64encode raw) = some (b64encode mulaw) := by
      simp only [pcm16_24khzB64ToMulaw8khzB64, b64decode_b64encode, Option.bind_eq_bind,
        Option.bind_some, if_neg heven, if_neg hraw_ne]
      rw [hunpack, resample_down, hthirds, Option.bind_some, List.map_map]
      have hcodec : mulaw.map (encodeMulawSample ∘ decodeMulawSample) = mulaw := by
        conv_rhs => rw [← List.map_id mulaw]
        exact List.map_congr_left fun byte _ => (decoded_byte byte).2
      rw [hcodec]
    rw [hto, Option.bind_some, hback]

end DemoService.Voice
