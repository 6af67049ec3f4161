import DemoService.CodePoints
import Mathlib.Data.Nat.Bitwise

/-! The μ-law codec of the OpenAI voice client. The encoder's bias of 33 is smaller than its first
segment, so samples near zero are quantized as if they stood above the first hundred. -/

namespace DemoService.Voice

def clampPcm16 (value : Int) : Int := max (-32768) (min 32767 value)

def decodeMulawSample (byte : UInt8) : Int :=
  let value := ~~~byte
  let sign := value &&& 0x80
  let exponent := (value >>> 4) &&& 0x07
  let mantissa := value &&& 0x0F
  let sample : Int := ((mantissa ||| 0x10).toNat <<< (exponent.toNat + 3) : Nat) - 33
  if sign ≠ 0 then -sample else sample

/-- The loop of the encoder: the exponent of the highest bit that is set. -/
def findExponent (sample mask : Nat) : Nat → Nat
  | 0 => 0
  | exponent + 1 =>
    if sample &&& mask = 0 then findExponent sample (mask >>> 1) exponent else exponent + 1

def encodeMulawSample (sample : Int) : UInt8 :=
  let bias := 33
  let clip := 32635
  let sample := clampPcm16 sample
  let sign := if sample < 0 then 0x80 else 0
  let sample := if sample < 0 then -sample else sample
  let sample := if clip < sample then clip else sample
  let biased := (sample + bias).toNat
  let exponent := findExponent biased 0x4000 7
  let mantissa := (biased >>> (exponent + 3)) &&& 0x0F
  ~~~UInt8.ofNat (sign ||| exponent <<< 4 ||| mantissa)

theorem encode_clampPcm16 (sample : Int) :
    encodeMulawSample (clampPcm16 sample) = encodeMulawSample sample := by
  have hclamp : clampPcm16 (clampPcm16 sample) = clampPcm16 sample := by
    simp only [clampPcm16]
    omega
  simp only [encodeMulawSample, hclamp]

theorem findExponent_le (sample mask exponent : Nat) :
    findExponent sample mask exponent ≤ exponent := by
  induction exponent generalizing mask with
  | zero => exact le_rfl
  | succ exponent ih =>
    rw [findExponent]
    split
    · exact (ih _).trans (Nat.le_succ _)
    · exact le_rfl

theorem and_two_pow_eq_zero {n i : Nat} (h : n < 2 ^ (i + 1)) : n &&& 2 ^ i = 0 ↔ n < 2 ^ i := by
  rw [Nat.and_two_pow]
  constructor
  · intro hbit
    by_contra hle
    have hset : n.testBit i = true := Nat.testBit_of_two_pow_le_and_two_pow_add_one_gt (by omega) h
    simp [hset] at hbit
  · intro hlt
    simp [Nat.testBit_lt_two_pow hlt]

/-- The sample lies in the segment that the loop stops at. -/
theorem findExponent_spec {sample exponent : Nat} (h : sample < 2 ^ (8 + exponent)) :
    sample < 2 ^ (8 + findExponent sample (2 ^ (7 + exponent)) exponent) ∧
      (findExponent sample (2 ^ (7 + exponent)) exponent = 0 ∨
        2 ^ (7 + findExponent sample (2 ^ (7 + exponent)) exponent) ≤ sample) := by
  induction exponent with
  | zero => exact ⟨h, .inl rfl⟩
  | succ exponent ih =>
    have hbit := and_two_pow_eq_zero (i := 7 + (exponent + 1)) (n := sample)
      (by rwa [show 7 + (exponent + 1) + 1 = 8 + (exponent + 1) by omega])
    rw [findExponent]
    by_cases hlt : sample < 2 ^ (7 + (exponent + 1))
    · have hmask : 2 ^ (7 + (exponent + 1)) >>> 1 = 2 ^ (7 + exponent) := by
        rw [Nat.shiftRight_eq_div_pow, ← Nat.add_assoc, Nat.pow_succ]
        omega
      rw [if_pos (hbit.mpr hlt), hmask]
      exact ih (by rwa [show 8 + exponent = 7 + (exponent + 1) by omega])
    · rw [if_neg fun hzero => hlt (hbit.mp hzero)]
      exact ⟨h, .inr (by omega)⟩

/-- The sample's magnitude as the encoder sees it: clipped, with the bias added. -/
def biasedMagnitude (sample : Int) : Nat := min 32635 (clampPcm16 sample).natAbs + 33

/-- The byte of a sign, an exponent and a mantissa. -/
def mulawByte (sign exponent mantissa : Nat) : UInt8 :=
  ~~~UInt8.ofNat (sign ||| exponent <<< 4 ||| mantissa)

theorem decode_mulawByte {exponent mantissa : Nat} (he : exponent < 8) (hm : mantissa < 16) :
    decodeMulawSample (mulawByte 0 exponent mantissa) =
        (mantissa + 16 : Nat) * 2 ^ (exponent + 3) - 33 ∧
      decodeMulawSample (mulawByte 0x80 exponent mantissa) =
        33 - (mantissa + 16 : Nat) * 2 ^ (exponent + 3) := by
  have hall : ∀ e : Fin 8, ∀ m : Fin 16,
      decodeMulawSample (mulawByte 0 e m) = (m + 16 : Nat) * 2 ^ (e.val + 3) - 33 ∧
        decodeMulawSample (mulawByte 0x80 e m) = 33 - (m + 16 : Nat) * 2 ^ (e.val + 3) := by
    decide
  exact hall ⟨exponent, he⟩ ⟨mantissa, hm⟩

/-- A byte decodes to a sample that needs no clamping and is encoded as the same byte. -/
theorem decoded_byte (byte : UInt8) :
    clampPcm16 (decodeMulawSample byte) = decodeMulawSample byte ∧
      encodeMulawSample (decodeMulawSample byte) = byte := by
  have hall : ∀ high low : Fin 16,
      clampPcm16 (decodeMulawSample (UInt8.ofNat (16 * high + low))) =
          decodeMulawSample (UInt8.ofNat (16 * high + low)) ∧
        encodeMulawSample (decodeMulawSample (UInt8.ofNat (16 * high + low))) =
          UInt8.ofNat (16 * high + low) := by
    decide
  have hlt := byte.toNat_lt
  have hbyte := hall ⟨byte.toNat / 16, by omega⟩ ⟨byte.toNat % 16, by omega⟩
  rwa [Nat.div_add_mod, UInt8.ofNat_toNat] at hbyte

/-- What the codec makes of a biased magnitude. -/
def quantized (biased : Nat) : Nat :=
  (biased / 2 ^ (findExponent biased 0x4000 7 + 3) % 16 + 16) *
    2 ^ (findExponent biased 0x4000 7 + 3)

theorem decode_encode (sample : Int) :
    decodeMulawSample (encodeMulawSample sample) =
      if clampPcm16 sample < 0 then 33 - (quantized (biasedMagnitude sample) : Int)
      else quantized (biasedMagnitude sample) - 33 := by
  let biased := biasedMagnitude sample
  let exponent := findExponent biased 0x4000 7
  have he : exponent < 8 := Nat.lt_succ_of_le (findExponent_le biased 0x4000 7)
  have hand : (biased >>> (exponent + 3)) &&& 0x0F = biased / 2 ^ (exponent + 3) % 16 := by
    rw [Nat.shiftRight_eq_div_pow]
    exact Nat.and_two_pow_sub_one_eq_mod _ 4
  have hm : biased / 2 ^ (exponent + 3) % 16 < 16 := Nat.mod_lt _ (by decide)
  have hbiased : ∀ magnitude : Int, magnitude = (clampPcm16 sample).natAbs →
      ((if 32635 < magnitude then 32635 else magnitude) + 33).toNat = biased := by
    intro magnitude hmagnitude
    subst hmagnitude
    simp only [biased, biasedMagnitude]
    split <;> omega
  obtain ⟨hpos, hneg⟩ := decode_mulawByte he hm
  by_cases hs : clampPcm16 sample < 0
  · have hencode : encodeMulawSample sample =
        mulawByte 0x80 exponent (biased / 2 ^ (exponent + 3) % 16) := by
      simp only [encodeMulawSample, if_pos hs]
      rw [hbiased _ (by omega), hand]
      rfl
    rw [if_pos hs, hencode, hneg]
    simp [quantized, biased, exponent]
  · have hencode : encodeMulawSample sample =
        mulawByte 0 exponent (biased / 2 ^ (exponent + 3) % 16) := by
      simp only [encodeMulawSample, if_neg hs]
      rw [hbiased _ (by omega), hand]
      rfl
    rw [if_neg hs, hencode, hpos]
    simp [quantized, biased, exponent]

theorem quantized_of_small {biased : Nat} (h : biased < 128) :
    quantized biased = 128 + biased / 8 * 8 := by
  obtain ⟨-, hlow⟩ := findExponent_spec (show biased < 2 ^ (8 + 7) by omega)
  have hzero : findExponent biased 0x4000 7 = 0 := by
    rcases hlow with hzero | hle
    · exact hzero
    · have := Nat.pow_le_pow_right (n := 2) (by decide)
        (Nat.le_add_right 7 (findExponent biased (2 ^ (7 + 7)) 7))
      omega
  rw [quantized, hzero]
  omega

/-- From the first segment on the codec rounds down to a multiple of the segment's step. -/
theorem quantized_of_large {biased : Nat} (hlow : 128 ≤ biased) (hhigh : biased < 2 ^ 15) :
    ∃ exponent, 2 ^ (7 + exponent) ≤ quantized biased ∧ biased < 2 ^ (8 + exponent) ∧
      quantized biased = biased / 2 ^ (exponent + 3) * 2 ^ (exponent + 3) := by
  obtain ⟨hlt, hle⟩ := findExponent_spec (show biased < 2 ^ (8 + 7) from hhigh)
  let exponent := findExponent biased 0x4000 7
  let step := 2 ^ (exponent + 3)
  have hstep : 0 < step := Nat.two_pow_pos _
  have hfirst : 2 ^ (7 + exponent) = 16 * step := by
    simp only [step, Nat.pow_add]
    omega
  have hnext : 2 ^ (8 + exponent) = 32 * step := by
    simp only [step, Nat.pow_add]
    omega
  have hfrom : 16 * step ≤ biased := by
    rcases hle with hzero | hle
    · have : exponent = 0 := hzero
      simp only [step, this]
      omega
    · rw [← hfirst]
      exact hle
  have hdiv : 16 ≤ biased / step := (Nat.le_div_iff_mul_le hstep).mpr hfrom
  have hdiv' : biased / step < 32 := (Nat.div_lt_iff_lt_mul hstep).mpr (hnext ▸ hlt)
  have heq : quantized biased = biased / step * step := by
    have : biased / step % 16 + 16 = biased / step := by omega
    calc quantized biased = (biased / step % 16 + 16) * step := rfl
      _ = biased / step * step := by rw [this]
  refine ⟨exponent, ?_, hlt, heq⟩
  rw [heq, hfirst]
  exact Nat.mul_le_mul_right step hdiv

theorem quantized_mono_of_large {t u : Nat} (ht : 128 ≤ t) (htu : t ≤ u) (hu : u < 2 ^ 15) :
    quantized t ≤ quantized u := by
  obtain ⟨i, hlow, hhigh, heq⟩ := quantized_of_large ht (by omega)
  obtain ⟨j, hlow', hhigh', heq'⟩ := quantized_of_large (ht.trans htu) hu
  have hle : quantized t ≤ t := heq ▸ Nat.div_mul_le_self _ _
  have hle' : quantized u ≤ u := heq' ▸ Nat.div_mul_le_self _ _
  rcases Nat.lt_trichotomy i j with hlt | rfl | hgt
  · have : 2 ^ (8 + i) ≤ 2 ^ (7 + j) := Nat.pow_le_pow_right (by decide) (by omega)
    omega
  · rw [heq, heq']
    exact Nat.mul_le_mul_right _ (Nat.div_le_div_right htu)
  · have : 2 ^ (8 + j) ≤ 2 ^ (7 + i) := Nat.pow_le_pow_right (by decide) (by omega)
    omega

theorem quantized_ge {t : Nat} (ht : t < 2 ^ 15) : 128 ≤ quantized t := by
  by_cases hsmall : t < 128
  · rw [quantized_of_small hsmall]
    omega
  · have hfirst : quantized 128 = 128 := by decide
    have := quantized_mono_of_large (le_refl 128) (by omega : 128 ≤ t) ht
    omega

theorem quantized_first {t : Nat} (hlow : 128 ≤ t) (hhigh : t < 256) :
    quantized t = t / 8 * 8 := by
  obtain ⟨exponent, hle, hlt, heq⟩ := quantized_of_large hlow (by omega)
  have hexp : exponent = 0 := by
    by_contra hne
    have hpow : 2 ^ 8 ≤ 2 ^ (7 + exponent) := Nat.pow_le_pow_right (by decide) (by omega)
    have := Nat.div_mul_le_self t (2 ^ (exponent + 3))
    omega
  rw [heq, hexp]
  rfl

/-- The order of two magnitudes is lost exactly when the smaller one lies below the first segment
and the larger one in it, below the value that the smaller one is quantized to. -/
theorem quantized_le_iff {t u : Nat} (htu : t ≤ u) (hu : u < 2 ^ 15) :
    quantized t ≤ quantized u ↔ ¬ (t < 128 ∧ 128 ≤ u ∧ u < 128 + t / 8 * 8) := by
  by_cases ht : t < 128
  · rw [quantized_of_small ht]
    by_cases hsmall : u < 128
    · rw [quantized_of_small hsmall]
      omega
    · by_cases hfirst : u < 256
      · rw [quantized_first (by omega) hfirst]
        omega
      · have hnext : quantized 256 = 256 := by decide
        have := quantized_mono_of_large (by omega) (by omega : 256 ≤ u) hu
        omega
  · have := quantized_mono_of_large (by omega) htu hu
    omega

/-- A sample that stands below the first segment, and one in that segment that the codec decodes
to a smaller value. -/
def Folded (a b : Int) : Prop := 0 ≤ a ∧ a ≤ 94 ∧ 95 ≤ b ∧ b < 95 + 8 * ((a + 33) / 8)

/-- The codec keeps the order of two samples unless they, or their negatives, lie in the fold
around zero. -/
theorem mulaw_mono_iff {a b : Int} (hab : a ≤ b) :
    decodeMulawSample (encodeMulawSample a) ≤ decodeMulawSample (encodeMulawSample b) ↔
      ¬ Folded a b ∧ ¬ (b < 0 ∧ Folded (-b) (-a)) := by
  have hbound : ∀ sample, biasedMagnitude sample < 2 ^ 15 := by
    intro sample
    simp only [biasedMagnitude]
    omega
  have ha := quantized_ge (hbound a)
  have hb := quantized_ge (hbound b)
  have hneg : ∀ sample, clampPcm16 sample < 0 ↔ sample < 0 := by
    intro sample
    simp only [clampPcm16]
    omega
  simp only [decode_encode, hneg, Folded]
  by_cases hb0 : b < 0
  · have hle := quantized_le_iff (t := biasedMagnitude b) (u := biasedMagnitude a)
      (by simp only [biasedMagnitude, clampPcm16]; omega) (hbound a)
    rw [if_pos hb0, if_pos (by omega)]
    simp only [biasedMagnitude, clampPcm16] at *
    omega
  · rw [if_neg hb0]
    by_cases ha0 : a < 0
    · rw [if_pos ha0]
      omega
    · have hle := quantized_le_iff (t := biasedMagnitude a) (u := biasedMagnitude b)
        (by simp only [biasedMagnitude, clampPcm16]; omega) (hbound b)
      rw [if_neg ha0]
      simp only [biasedMagnitude, clampPcm16] at *
      omega

theorem mulaw_mono_at_segment :
    (0 : Int) ≤ 200 ∧ (decodeMulawSample (encodeMulawSample 0) ≤
      decodeMulawSample (encodeMulawSample 200) ↔
        ¬ Folded 0 200 ∧ ¬ ((200 : Int) < 0 ∧ Folded (-200) (-0))) :=
  ⟨by decide, mulaw_mono_iff (by decide)⟩

/-- Silence is decoded above the first value of the first segment. -/
theorem mulaw_folds : (0 : Int) ≤ 95 ∧
    ¬ decodeMulawSample (encodeMulawSample 0) ≤ decodeMulawSample (encodeMulawSample 95) := by
  decide

end DemoService.Voice
