import Mathlib.Data.Nat.Log
import Mathlib.Tactic.Linarith
import Mathlib.Tactic.Ring

/-! The double nearest to a quotient of naturals, ties to even, and its integer part. -/

namespace NearestDouble

/-- The natural nearest to `n / d`, ties to even. -/
def roundHalfEven (n d : Nat) : Nat :=
  if 2 * (n % d) < d then n / d
  else if d < 2 * (n % d) then n / d + 1
  else n / d + n / d % 2

/-- The bits after the binary point of the double nearest to `n / d`, a quotient from `2 ^ -64` to
`2 ^ 52`: a double has 53 bits from the first one of the quotient. -/
def fractionBits (n d : Nat) : Nat := 116 - Nat.log2 (n * 2 ^ 64 / d)

/-- The double nearest to `n / d`, times `2 ^ fractionBits n d`. -/
def mantissa (n d : Nat) : Nat := roundHalfEven (n * 2 ^ fractionBits n d) d

/-- `int` of the double nearest to `n / d`. -/
def intPart (n d : Nat) : Nat := mantissa n d / 2 ^ fractionBits n d

theorem roundHalfEven_of_lt {n d : Nat} (h : 2 * (n % d) < d) : roundHalfEven n d = n / d :=
  if_pos h

theorem roundHalfEven_of_gt {n d : Nat} (h : d < 2 * (n % d)) : roundHalfEven n d = n / d + 1 := by
  rw [roundHalfEven, if_neg (by omega), if_pos h]

theorem roundHalfEven_of_eq {n d : Nat} (h : 2 * (n % d) = d) :
    roundHalfEven n d = n / d + n / d % 2 := by
  rw [roundHalfEven, if_neg (by omega), if_neg (by omega)]

theorem roundHalfEven_le (n d : Nat) :
    n / d ≤ roundHalfEven n d ∧ roundHalfEven n d ≤ n / d + 1 := by
  unfold roundHalfEven
  split
  · omega
  · split <;> omega

/-- With bits after the point, a quotient is rounded to the next whole number if it is at most
half a last bit below it, and never past a whole number otherwise. -/
theorem roundHalfEven_div {n d bits : Nat} (hd : 0 < d) (hbits : 0 < bits) :
    roundHalfEven (n * 2 ^ bits) d / 2 ^ bits =
      n / d + if (d - n % d) * 2 ^ (bits + 1) ≤ d then 1 else 0 := by
  obtain ⟨half, hunit, hhalf⟩ : ∃ half, 2 ^ bits = 2 * half ∧ 0 < half := by
    obtain ⟨k, rfl⟩ := Nat.exists_eq_succ_of_ne_zero hbits.ne'
    exact ⟨2 ^ k, Nat.pow_succ', Nat.two_pow_pos k⟩
  rw [Nat.pow_succ, hunit]
  have hr : n % d < d := Nat.mod_lt n hd
  have hn : d * (n / d) + n % d = n := Nat.div_add_mod n d
  have hs : n % d * (2 * half) % d < d := Nat.mod_lt _ hd
  have hgs : d * (n % d * (2 * half) / d) + n % d * (2 * half) % d = n % d * (2 * half) :=
    Nat.div_add_mod _ d
  have hsplit : n * (2 * half) = n % d * (2 * half) + d * (n / d * (2 * half)) := by
    calc n * (2 * half) = (d * (n / d) + n % d) * (2 * half) := by rw [hn]
      _ = n % d * (2 * half) + d * (n / d * (2 * half)) := by ring
  have hdiv : n * (2 * half) / d = n % d * (2 * half) / d + n / d * (2 * half) := by
    rw [hsplit, Nat.add_mul_div_left _ _ hd]
  have hmod : n * (2 * half) % d = n % d * (2 * half) % d := by
    rw [hsplit, Nat.add_mul_mod_self_left]
  have hbounds := roundHalfEven_le (n * (2 * half)) d
  generalize hq : n / d = q at *
  generalize hrem : n % d = r at *
  generalize hg : r * (2 * half) / d = g at *
  generalize hsrem : r * (2 * half) % d = s at *
  have hgt : g < 2 * half := by
    by_contra hge
    have h1 : d * (2 * half) ≤ d * g := Nat.mul_le_mul_left d (by omega)
    have h2 : r * (2 * half) < d * (2 * half) := Nat.mul_lt_mul_of_pos_right hr (by omega)
    omega
  have hkey : (d - r) * (2 * half) + s = d * (2 * half - g) := by
    rw [Nat.sub_mul, Nat.mul_sub]
    have h1 : d * g ≤ d * (2 * half) := Nat.mul_le_mul_left d hgt.le
    have h2 : r * (2 * half) ≤ d * (2 * half) := Nat.mul_le_mul_right _ hr.le
    omega
  have hcond : (d - r) * (2 * half * 2) = 2 * ((d - r) * (2 * half)) := by ring
  rw [hcond]
  by_cases hlast : g + 1 = 2 * half
  · have hone : 2 * half - g = 1 := by omega
    rw [hone, Nat.mul_one] at hkey
    have hup : (q * (2 * half) + 2 * half) / (2 * half) = q + 1 := by
      rw [Nat.add_div_right _ (by omega), Nat.mul_div_cancel _ (by omega)]
    rcases Nat.lt_trichotomy (2 * s) d with hlt | heq | hgt
    · rw [roundHalfEven_of_lt (by omega), hdiv, if_neg (by omega), Nat.add_mul_div_right _ _ (by omega),
        Nat.div_eq_of_lt (by omega), Nat.zero_add, Nat.add_zero]
    · have hodd : n * (2 * half) / d % 2 = 1 := by
        rw [hdiv, ← Nat.mul_assoc, Nat.mul_right_comm, Nat.add_mul_mod_self_right]
        omega
      rw [roundHalfEven_of_eq (by omega), hodd, hdiv, if_pos (by omega),
        show g + q * (2 * half) + 1 = q * (2 * half) + 2 * half by omega, hup]
    · rw [roundHalfEven_of_gt (by omega), hdiv, if_pos (by omega),
        show g + q * (2 * half) + 1 = q * (2 * half) + 2 * half by omega, hup]
  · have htwo : d * 2 ≤ d * (2 * half - g) := Nat.mul_le_mul_left d (by omega)
    rw [if_neg (by omega), Nat.add_zero]
    refine Nat.div_eq_of_lt_le ?_ ?_
    · rw [hdiv] at hbounds
      omega
    · rw [hdiv] at hbounds
      have : (q + 1) * (2 * half) = q * (2 * half) + 2 * half := by ring
      omega

theorem log2_mul_div {n d : Nat} (hd : 0 < d) (h : d ≤ n) :
    Nat.log2 (n * 2 ^ 64 / d) = 64 + Nat.log2 (n / d) := by
  have hq : n / d ≠ 0 := (Nat.div_pos h hd).ne'
  have hlo : 2 ^ Nat.log2 (n / d) * d ≤ n :=
    (Nat.le_div_iff_mul_le hd).mp (Nat.log2_self_le hq)
  have hhi : n < 2 ^ (Nat.log2 (n / d) + 1) * d := (Nat.div_lt_iff_lt_mul hd).mp Nat.lt_log2_self
  have hlarge : 2 ^ (64 + Nat.log2 (n / d)) ≤ n * 2 ^ 64 / d := by
    rw [Nat.le_div_iff_mul_le hd, Nat.pow_add]
    calc 2 ^ 64 * 2 ^ Nat.log2 (n / d) * d = 2 ^ Nat.log2 (n / d) * d * 2 ^ 64 := by ring
      _ ≤ n * 2 ^ 64 := Nat.mul_le_mul_right _ hlo
  have hsmall : n * 2 ^ 64 / d < 2 ^ (64 + Nat.log2 (n / d) + 1) := by
    rw [Nat.div_lt_iff_lt_mul hd, Nat.add_assoc, Nat.pow_add]
    calc n * 2 ^ 64 < 2 ^ (Nat.log2 (n / d) + 1) * d * 2 ^ 64 :=
          Nat.mul_lt_mul_of_pos_right hhi (Nat.two_pow_pos 64)
      _ = 2 ^ 64 * 2 ^ (Nat.log2 (n / d) + 1) * d := by ring
  have hne : n * 2 ^ 64 / d ≠ 0 := (lt_of_lt_of_le (Nat.two_pow_pos _) hlarge).ne'
  exact (Nat.log2_eq_iff hne).mpr ⟨hlarge, hsmall⟩

/-- No quotient below one is so close to it that a double with at least 53 bits is one. -/
theorem not_close_of_lt {n d bits : Nat} (h : n < d) (hsmall : d < 2 ^ 53) (hbits : 53 ≤ bits) :
    ¬ (d - n % d) * 2 ^ bits ≤ d := by
  rw [Nat.mod_eq_of_lt h, Nat.not_le]
  calc d < 2 ^ 53 := hsmall
    _ ≤ 2 ^ bits := Nat.pow_le_pow_right (by omega) hbits
    _ ≤ (d - n) * 2 ^ bits := Nat.le_mul_of_pos_left _ (by omega)

/-- The integer part of the double nearest to a quotient is that of the quotient, or one more
where the quotient lies so closely below a whole number that the double is that number. -/
theorem intPart_eq {n d : Nat} (hd : 0 < d) (hsmall : d < 2 ^ 53) (hlarge : n / d < 2 ^ 52) :
    intPart n d =
      n / d + if (d - n % d) * 2 ^ (53 - Nat.log2 (n / d)) ≤ d then 1 else 0 := by
  unfold intPart mantissa
  by_cases hle : d ≤ n
  · have hlog : Nat.log2 (n / d) < 52 := (Nat.log2_lt (Nat.div_pos hle hd).ne').mpr hlarge
    have hbits : fractionBits n d = 52 - Nat.log2 (n / d) := by
      rw [fractionBits, log2_mul_div hd hle]
      omega
    rw [hbits, roundHalfEven_div hd (by omega),
      show 52 - Nat.log2 (n / d) + 1 = 53 - Nat.log2 (n / d) by omega]
  · have hlt : n < d := by omega
    have hbelow : n * 2 ^ 64 / d < 2 ^ 64 := by
      rw [Nat.div_lt_iff_lt_mul hd, Nat.mul_comm (2 ^ 64) d]
      exact Nat.mul_lt_mul_of_pos_right hlt (Nat.two_pow_pos 64)
    have hbits : 53 ≤ fractionBits n d := by
      have hlog : Nat.log2 (n * 2 ^ 64 / d) < 64 := by
        by_cases hzero : n * 2 ^ 64 / d = 0
        · rw [hzero, Nat.log2_zero]
          omega
        · exact (Nat.log2_lt hzero).mpr hbelow
      rw [fractionBits]
      omega
    rw [roundHalfEven_div hd (by omega), if_neg (not_close_of_lt hlt hsmall (by omega)),
      Nat.div_eq_of_lt hlt, Nat.log2_zero, if_neg (not_close_of_lt hlt hsmall (by omega))]

end NearestDouble
